import BackendAudit.Proofs.Run.Course
import BackendAudit.Proofs.Run.Trace
import BackendAudit.Proofs.Run.Visits

/-!
# What a probe adds to a run

A run calls its probe when its first two phases are over.  What it has told, found and
skipped by then is the same for every probe, and for none; the probe adds its own phase
behind, with its findings as the last group (`run_apart_from_probe`).

* `FilePart.ofOutcomes_complete`: the first two phases end with the finish of the second.
* `phaseSteps_deeds`: all of their events are told before the probe is called.
-/

namespace BackendAudit

open Files (Tree Path)

/-! ## The phases over files -/

/-- What a run has come to when its phases over files are over. -/
structure FilePart where
  told : List Event
  sources : List Finding
  settings : List Finding
  skipped : List Skip

namespace FilePart

/-- The part of a phase over sources and one over settings. -/
def ofOutcomes (sources settings : Traced (List Outcome)) : FilePart where
  told := (PhaseRun.ofOutcomes .staticAnalysis sources).allEvents ++
    (PhaseRun.ofOutcomes .configValidation settings).allEvents
  sources := findingsOf sources.result
  settings := findingsOf settings.result
  skipped := skipsOf sources.result ++ skipsOf settings.result

theorem told_ofOutcomes (sources settings : Traced (List Outcome)) :
    (ofOutcomes sources settings).told =
      [.phaseStarted .staticAnalysis] ++ sources.events ++
        [.phaseFinished .staticAnalysis (findingsOf sources.result).length] ++
        [.phaseStarted .configValidation] ++ settings.events ++
        [.phaseFinished .configValidation (findingsOf settings.result).length] := by
  simp [ofOutcomes, PhaseRun.allEvents, PhaseRun.ofOutcomes]

/-- Both phases are over, and nothing is told behind the finish of the second. -/
structure Complete (files : FilePart) : Prop where
  finished : files.told.filterMap Event.finished? =
    [(.staticAnalysis, files.sources.length), (.configValidation, files.settings.length)]
  last : files.told.getLast? = some (.phaseFinished .configValidation files.settings.length)

theorem ofOutcomes_complete {sources settings : Traced (List Outcome)}
    (hsources : sources.Announced .staticAnalysis)
    (hsettings : settings.Announced .configValidation) :
    (ofOutcomes sources settings).Complete := by
  constructor
  case finished =>
    rw [ofOutcomes, List.filterMap_append,
      (PhaseRun.ofOutcomes_closed hsources).filterMap_finished?,
      (PhaseRun.ofOutcomes_closed hsettings).filterMap_finished?]
    rfl
  case last =>
    rw [told_ofOutcomes, List.getLast?_concat]
    rfl

end FilePart

/-! ## The phase of a probe -/

/-- The findings that a probe returns.  There are none without a probe, or if it fails. -/
def answersOf : Option Probe → List Finding
  | none => []
  | some probe =>
    match probe.result with
    | .ok findings => findings
    | .error _ => []

theorem PhaseRun.findings_ofProbe (probe : Option Probe) :
    (ofProbe probe).findings = answersOf probe := by
  cases probe with
  | none => rfl
  | some probe =>
    rw [ofProbe, answersOf]
    cases probe.result <;> rfl

/-- The report of the first two phases and a probe. -/
theorem reportOf_phases (w : Wording) (t : Tree) (root : Path) (c : Config) (registry : Registry)
    (probe : Option Probe) :
    let files := FilePart.ofOutcomes (scanSources t c.scan registry root)
      (auditSettings w t c.scan root)
    reportOf root c.output.title (phases w t root c registry probe) =
      { root, title := c.output.title
        results := ⟨[⟨"static_analysis", files.sources⟩, ⟨"config_validation", files.settings⟩,
          ⟨"api_testing", answersOf probe⟩]⟩
        skipped := files.skipped ++ (PhaseRun.ofProbe probe).skipped } := by
  simp [reportOf, phases, filePhases, PhaseRun.group, PhaseRun.ofOutcomes, PhaseRun.ofProbe_phase,
    PhaseRun.findings_ofProbe, FilePart.ofOutcomes, Phase.name]

/-! ## Courses -/

section Runs

variable {w : Wording} {t : Tree} {root : Path}

/-- The phases over files are told before anything else is done. -/
theorem phaseSteps_deeds (hroot : checkRoot t root = .ok ()) (c : Config) (registry : Registry)
    (probe : Option Probe) :
    (FilePart.ofOutcomes (scanSources t c.scan registry root)
        (auditSettings w t c.scan root)).told.map .told <+:
      (phaseSteps w t root c registry probe).deeds := by
  have htold : (FilePart.ofOutcomes (scanSources t c.scan registry root)
      (auditSettings w t c.scan root)).told =
        (filePhases w t root c registry).flatMap PhaseRun.allEvents := by
    simp [FilePart.ofOutcomes, filePhases]
  rw [phaseSteps, fileSteps_eq_tellAll hroot, Course.tellAll_bind, htold]
  exact List.prefix_append _ _

/-- A run that gets past its checks goes through its phases. -/
theorem runSteps_of_prepare {c : Config} {registry : Registry}
    (h : prepare t root c = .ok registry) (probe : Option Probe) :
    runSteps w t root c probe = phaseSteps w t root c registry probe := by
  rw [runSteps, checkedSteps_eq, h]

end Runs

/-- Whatever a probe does, and without one, a run fails alike, before it has told anything; or
it has told, found and skipped the same when its phases over files are over.  What is told
and skipped behind that is the phase of the probe, the last of three groups is what the probe
returned, and the probe is not called before. -/
theorem run_apart_from_probe (w : Wording) (t : Tree) (root : Path) (c : Config) :
    (∃ e, ∀ probe, run w t root c probe = ⟨[], .error e⟩) ∨
      ∃ files : FilePart, files.Complete ∧ ∀ probe,
        (run w t root c probe).events = files.told ++ (PhaseRun.ofProbe probe).allEvents ∧
        (run w t root c probe).result = .ok
          { root, title := c.output.title
            results := ⟨[⟨"static_analysis", files.sources⟩,
              ⟨"config_validation", files.settings⟩, ⟨"api_testing", answersOf probe⟩]⟩
            skipped := files.skipped ++ (PhaseRun.ofProbe probe).skipped } ∧
        files.told.map .told <+: (runSteps w t root c probe).deeds ∧
        (runSteps w t root c probe).traced = run w t root c probe := by
  cases hready : prepare t root c with
  | error e => exact .inl ⟨e, run_eq_error hready⟩
  | ok registry =>
    refine .inr ⟨.ofOutcomes (scanSources t c.scan registry root) (auditSettings w t c.scan root),
      FilePart.ofOutcomes_complete (scanSources_announced t c.scan registry root)
        (auditSettings_announced w t c.scan root), fun probe => ?_⟩
    refine ⟨?_, ?_, ?_, runSteps_traced t root c probe⟩
    · simp [run, hready, phases, filePhases, FilePart.ofOutcomes]
    · rw [run, hready, ← reportOf_phases]
    · rw [runSteps_of_prepare hready]
      exact phaseSteps_deeds (checks_of_prepare hready).2 c registry probe

end BackendAudit
