import BackendAudit.Proofs.Run.Visits

/-!
# Which skipped targets are reported

A run tells of every file that it skips, and of a probe that fails, and its report lists
just these (`skips_of_run`).  What a probe itself tells of the requests that it skips is not
in the report, and neither is what a walk tells of directories that cannot be listed, so that
all skips that are told of are listed only if there are none of these
(`told_skips_not_reported`).
-/

namespace BackendAudit

open Files (Tree Path)

/-- The target that an event tells to be skipped, and why. -/
def Event.skip? : Event → Option Skip
  | targetSkipped target reason => some ⟨target, reason⟩
  | _ => none

/-- The skipped targets that events tell of, in order. -/
def toldSkips (events : List Event) : List Skip := events.filterMap Event.skip?

theorem toldSkips_append (events more : List Event) :
    toldSkips (events ++ more) = toldSkips events ++ toldSkips more :=
  List.filterMap_append

theorem Outcome.skip?_event (o : Outcome) : o.event.skip? = o.skip? := by
  cases o <;> rfl

/-- What a probe gives up as a whole, if it fails. -/
def Probe.failure (p : Probe) : List Skip :=
  match p.result with
  | .ok _ => []
  | .error reason => [⟨Phase.apiTesting.name, reason⟩]

/-- The skipped files among visits, in their order. -/
def skippedFiles (visits : List Visit) : List Skip := skipsOf (visits.map Visit.outcome)

/-- What a walk below a root tells to be skipped. -/
def skippedDirectories (t : Tree) (c : ScanConfig) (root : Path) : List Skip :=
  toldSkips (walkEvents root (t.survey c.excludes root))

/-! ## Skips of a phase -/

namespace PhaseRun

/-- The start and the finish of a phase tell of no target. -/
theorem toldSkips_allEvents (p : PhaseRun) : toldSkips p.allEvents = toldSkips p.events := by
  rw [allEvents, toldSkips_append, toldSkips_append]
  have hfinish : toldSkips [.phaseFinished p.phase p.findings.length] = [] := rfl
  have hstart : toldSkips (if p.started then [.phaseStarted p.phase] else []) = [] := by
    split <;> rfl
  rw [hstart, hfinish, List.nil_append, List.append_nil]

/-- A phase over visits tells of the skipped ones behind what its walks tell. -/
theorem toldSkips_ofOutcomes (phase : Phase) (told : List Event) (visits : List Visit) :
    toldSkips (ofOutcomes phase (Visit.announce phase told visits)).events =
      toldSkips told ++ skippedFiles visits := by
  have hannounced : (ofOutcomes phase (Visit.announce phase told visits)).events =
      told ++ .targetsDiscovered phase visits.length :: visits.map fun v => v.outcome.event := rfl
  have hskip : (Event.skip? ∘ fun v : Visit => v.outcome.event) = Outcome.skip? ∘ Visit.outcome :=
    funext fun v => v.outcome.skip?_event
  rw [hannounced, toldSkips_append, toldSkips, toldSkips, List.filterMap_cons_none rfl,
    skippedFiles, skipsOf, List.filterMap_map, List.filterMap_map, hskip]

/-- The phase of a probe tells of what the probe tells to be skipped, and then of the probe
itself, if it fails; only the latter is reported. -/
theorem toldSkips_ofProbe (probe : Option Probe) :
    toldSkips (ofProbe probe).events =
        probe.toList.flatMap (fun p => toldSkips p.events) ++ (ofProbe probe).skipped ∧
      (ofProbe probe).skipped = probe.toList.flatMap Probe.failure := by
  cases probe with
  | none => exact ⟨rfl, rfl⟩
  | some p =>
    cases hresult : p.result with
    | ok findings => simp [ofProbe, Probe.failure, hresult]
    | error reason => simp [ofProbe, Probe.failure, hresult, toldSkips, Event.skip?]

end PhaseRun

/-! ## Skips of a run -/

/-- The skips that a run tells of, and those in its report. -/
theorem skips_runOfVisits (root : Path) (title : String) (told : List Event)
    (sources settings : List Visit) (probe : Option Probe) :
    toldSkips (runOfVisits root title told sources settings probe).events =
        toldSkips told ++ skippedFiles sources ++
          (toldSkips told ++ toldSkips told ++ skippedFiles settings) ++
            (probe.toList.flatMap (fun p => toldSkips p.events) ++
              probe.toList.flatMap Probe.failure) ∧
      (reportOf root title (phasesOfVisits told sources settings probe)).skipped =
        skippedFiles sources ++ skippedFiles settings ++ probe.toList.flatMap Probe.failure := by
  obtain ⟨htold, hfailure⟩ := PhaseRun.toldSkips_ofProbe probe
  constructor
  · have hevents : (runOfVisits root title told sources settings probe).events =
        (phasesOfVisits told sources settings probe).flatMap PhaseRun.allEvents := rfl
    rw [hevents, phasesOfVisits, filePhasesOfVisits]
    simp only [List.flatMap_append, List.flatMap_cons, List.flatMap_nil, List.append_nil,
      toldSkips_append, PhaseRun.toldSkips_allEvents, PhaseRun.toldSkips_ofOutcomes]
    rw [htold, hfailure]
  · rw [reportOf, phasesOfVisits, filePhasesOfVisits]
    simp only [List.flatMap_append, List.flatMap_cons, List.flatMap_nil, List.append_nil]
    rw [hfailure]
    rfl

/-- The report of a run that succeeds lists the skipped files, and the probe if it fails.
The events tell of the same in the same order, but for the directories that each of the three
walks cannot list and for what the probe tells in between; so the two lists are the same just
when there are no such directories and the probe tells of no skipped request. -/
theorem skips_of_run {w : Wording} {t : Tree} {root : Path} {c : Config} {probe : Option Probe}
    {report : RunReport} (h : (run w t root c probe).result = .ok report) :
    (∃ registry, prepare t root c = .ok registry ∧
      report.skipped =
        skippedFiles (sourceVisits t c.scan registry root) ++
          skippedFiles (settingsVisits w t c.scan root) ++ probe.toList.flatMap Probe.failure ∧
      toldSkips (run w t root c probe).events =
        skippedDirectories t c.scan root ++ skippedFiles (sourceVisits t c.scan registry root) ++
          (skippedDirectories t c.scan root ++ skippedDirectories t c.scan root ++
            skippedFiles (settingsVisits w t c.scan root)) ++
            (probe.toList.flatMap (fun p => toldSkips p.events) ++
              probe.toList.flatMap Probe.failure)) ∧
      (toldSkips (run w t root c probe).events = report.skipped ↔
        skippedDirectories t c.scan root = [] ∧ ∀ p ∈ probe, toldSkips p.events = []) := by
  cases hready : prepare t root c with
  | error e =>
    rw [run_eq_error hready] at h
    cases h
  | ok registry =>
    rw [run_eq_ofVisits hready] at h ⊢
    cases h
    obtain ⟨htold, hreported⟩ := skips_runOfVisits root c.output.title
      (walkEvents root (t.survey c.scan.excludes root))
      (sourceVisits t c.scan registry root) (settingsVisits w t c.scan root) probe
    refine ⟨⟨registry, rfl, hreported, htold⟩, ?_⟩
    have hprobe : probe.toList.flatMap (fun p => toldSkips p.events) = [] ↔
        ∀ p ∈ probe, toldSkips p.events = [] := by cases probe <;> simp
    rw [htold, hreported, ← hprobe]
    constructor
    · intro heq
      -- each list is part of the other, so that nothing else is told
      have hlength := congrArg List.length heq
      simp only [List.length_append] at hlength
      constructor <;> refine List.eq_nil_of_length_eq_zero ?_
      · rw [skippedDirectories]
        omega
      · omega
    · rintro ⟨hnone, hquiet⟩
      rw [skippedDirectories] at hnone
      simp [hnone, hquiet]

/-- A probe that skips one request and finds nothing. -/
def refusedProbe : Probe := ⟨[.targetSkipped "http://localhost/" "refused"], .ok []⟩

/-- Without any files, only the request that the probe skips is told of. -/
theorem skips_of_run_refused :
    ∃ report, (run .silent .empty ⟨[0x2e]⟩ {} (some refusedProbe)).result = .ok report ∧
      (∃ registry, prepare .empty ⟨[0x2e]⟩ {} = .ok registry ∧
        report.skipped =
          skippedFiles (sourceVisits .empty {} registry ⟨[0x2e]⟩) ++
            skippedFiles (settingsVisits .silent .empty {} ⟨[0x2e]⟩) ++
            (some refusedProbe).toList.flatMap Probe.failure ∧
        toldSkips (run .silent .empty ⟨[0x2e]⟩ {} (some refusedProbe)).events =
          skippedDirectories .empty {} ⟨[0x2e]⟩ ++
            skippedFiles (sourceVisits .empty {} registry ⟨[0x2e]⟩) ++
            (skippedDirectories .empty {} ⟨[0x2e]⟩ ++ skippedDirectories .empty {} ⟨[0x2e]⟩ ++
              skippedFiles (settingsVisits .silent .empty {} ⟨[0x2e]⟩)) ++
              ((some refusedProbe).toList.flatMap (fun p => toldSkips p.events) ++
                (some refusedProbe).toList.flatMap Probe.failure)) ∧
      (toldSkips (run .silent .empty ⟨[0x2e]⟩ {} (some refusedProbe)).events = report.skipped ↔
        skippedDirectories .empty {} ⟨[0x2e]⟩ = [] ∧
          ∀ p ∈ some refusedProbe, toldSkips p.events = []) := by
  have hrun : (run .silent .empty ⟨[0x2e]⟩ {} (some refusedProbe)).result =
      .ok (reportOf ⟨[0x2e]⟩ "BACKEND BUG DETECTION REPORT"
        (phases .silent .empty ⟨[0x2e]⟩ {} .builtin (some refusedProbe))) := rfl
  exact ⟨_, hrun, skips_of_run hrun⟩

/-- The request that the probe skips is told of and not reported. -/
theorem told_skips_not_reported :
    ∃ report, (run .silent .empty ⟨[0x2e]⟩ {} (some refusedProbe)).result = .ok report ∧
      toldSkips (run .silent .empty ⟨[0x2e]⟩ {} (some refusedProbe)).events =
        [⟨"http://localhost/", "refused"⟩] ∧
      report.skipped = [] := by
  have hready : prepare .empty ⟨[0x2e]⟩ {} = .ok .builtin := rfl
  have hsources : sourceVisits .empty {} .builtin ⟨[0x2e]⟩ = [] := by
    have hfiles : walked (sourceFiles .empty {} ⟨[0x2e]⟩) = [] := by decide +kernel
    rw [sourceVisits, hfiles, List.map_nil]
  have hsettings : settingsVisits .silent .empty {} ⟨[0x2e]⟩ = [] := by
    have hmanifests : walked (filesMatching .empty {} ⟨[0x2e]⟩ Manifest.isManifest) = [] := by
      decide +kernel
    have henvFiles : walked (filesMatching .empty {} ⟨[0x2e]⟩ Env.isEnvFile) = [] := by
      decide +kernel
    rw [settingsVisits, hmanifests, henvFiles, List.map_nil, List.map_nil, List.append_nil]
  have hwalk : walkEvents ⟨[0x2e]⟩
      (Files.Tree.survey .empty (({} : ScanConfig).excludes) ⟨[0x2e]⟩) = [] := by decide +kernel
  rw [run_eq_ofVisits hready, hsources, hsettings, hwalk]
  exact ⟨_, rfl, rfl, rfl⟩

end BackendAudit
