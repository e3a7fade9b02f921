import BackendAudit.Proofs.Report.Buckets
import BackendAudit.Proofs.Run.Workers
import BackendAudit.Run.Basic

/-!
# What the events of a run account for

Between its start and its finish a phase tells of its targets only (`Event.Inside`).  A
phase over outcomes first tells how many there are, and then of each of them
(`Traced.Announced`); so its events can be counted against the outcomes, and these against
the group of the report (`run_accounts`).
-/

namespace BackendAudit

open Files (Tree Path Sight)

namespace Event

/-- The phase that an event marks the progress of; none for what is told of a target. -/
def phase? : Event → Option Phase
  | phaseStarted phase => some phase
  | targetsDiscovered phase _ => some phase
  | phaseFinished phase _ => some phase
  | targetScanned _ _ => none
  | targetSkipped _ _ => none

/-- A target was scanned or skipped. -/
def isTarget : Event → Bool
  | targetScanned _ _ => true
  | targetSkipped _ _ => true
  | _ => false

/-- A target was skipped. -/
def isSkip : Event → Bool
  | targetSkipped _ _ => true
  | _ => false

/-- How many findings are told of in a scanned target. -/
def found : Event → Nat
  | targetScanned _ findings => findings
  | _ => 0

/-- The phase that is over, and its number of findings. -/
def finished? : Event → Option (Phase × Nat)
  | phaseFinished phase findings => some (phase, findings)
  | _ => none

/-- What may be told between the start and the finish of a phase. -/
def Inside (phase : Phase) : Event → Prop
  | targetsDiscovered other _ => other = phase
  | targetScanned _ _ => True
  | targetSkipped _ _ => True
  | phaseStarted _ => False
  | phaseFinished _ _ => False

theorem Inside.phase?_eq {phase : Phase} {e : Event} (h : e.Inside phase) :
    e.phase? = none ∨ e.phase? = some phase := by
  cases e with
  | targetsDiscovered other count => exact .inr (congrArg some h)
  | targetScanned target findings => exact .inl rfl
  | targetSkipped target reason => exact .inl rfl
  | phaseStarted other => exact absurd h id
  | phaseFinished other findings => exact absurd h id

theorem Inside.finished?_eq {phase : Phase} {e : Event} (h : e.Inside phase) :
    e.finished? = none := by
  cases e with
  | phaseFinished other findings => exact absurd h id
  | _ => rfl

/-- A skipped target may be told of in any phase, and nothing was found in it. -/
theorem of_isSkip {e : Event} (h : e.isSkip = true) (phase : Phase) :
    e.Inside phase ∧ e.phase? = none ∧ e.found = 0 := by
  cases e with
  | targetSkipped target reason => exact ⟨trivial, rfl, rfl⟩
  | _ => cases h

end Event

/-! ## Events of outcomes -/

/-- What is told of an outcome is told of a target. -/
theorem Outcome.event_target (o : Outcome) (phase : Phase) :
    o.event.isTarget = true ∧ o.event.Inside phase ∧ o.event.phase? = none := by
  cases o with
  | scanned target findings => exact ⟨rfl, trivial, rfl⟩
  | skipped target reason => exact ⟨rfl, trivial, rfl⟩

/-- Each outcome is told of once. -/
theorem countP_map_event (outcomes : List Outcome) :
    (outcomes.map Outcome.event).countP Event.isTarget = outcomes.length := by
  rw [List.countP_map, List.countP_eq_length.mpr]
  intro o _
  exact (o.event_target .staticAnalysis).1

/-- The findings that are told of are those of the outcomes. -/
theorem sum_found_map_event (outcomes : List Outcome) :
    ((outcomes.map Outcome.event).map Event.found).sum = (findingsOf outcomes).length := by
  induction outcomes with
  | nil => rfl
  | cons o rest ih =>
    have ho : o.event.found = o.findings.length := by cases o <;> rfl
    have hrest : findingsOf (o :: rest) = o.findings ++ findingsOf rest := List.flatMap_cons
    rw [List.map_cons, List.map_cons, List.sum_cons, ih, ho, hrest, List.length_append]

theorem sum_found_of_isSkip {events : List Event} (h : ∀ e ∈ events, e.isSkip = true) :
    (events.map Event.found).sum = 0 := by
  induction events with
  | nil => rfl
  | cons e rest ih =>
    have he : e.found = 0 := (Event.of_isSkip (h e List.mem_cons_self) .staticAnalysis).2.2
    rw [List.map_cons, List.sum_cons, he, ih fun e' he' => h e' (List.mem_cons_of_mem _ he')]

/-- Outcomes are announced with their number, after some targets may have been skipped, and
then told of one by one. -/
def Traced.Announced (phase : Phase) (run : Traced (List Outcome)) : Prop :=
  ∃ early, run.events =
      early ++ .targetsDiscovered phase run.result.length :: run.result.map Outcome.event ∧
    ∀ e ∈ early, e.isSkip = true

theorem isSkip_of_mem_walkEvents {root : Path} {walk : Except Files.Fault (List (Sight Path))}
    {e : Event} (h : e ∈ walkEvents root walk) : e.isSkip = true := by
  cases walk with
  | ok sights =>
    obtain ⟨s, _, hevent⟩ := List.mem_filterMap.mp h
    cases s with
    | file path => cases hevent
    | closed path fault =>
      rw [← Option.some.inj hevent]
      rfl
  | error fault =>
    rw [List.mem_singleton.mp h]
    rfl

theorem scanSources_announced (t : Tree) (c : ScanConfig) (registry : Registry) (root : Path) :
    (scanSources t c registry root).Announced .staticAnalysis :=
  ⟨walkEvents root (sourceFiles t c root), by simp [scanSources_eq_map],
    fun _ he => isSkip_of_mem_walkEvents he⟩

theorem auditSettings_announced (w : Wording) (t : Tree) (c : ScanConfig) (root : Path) :
    (auditSettings w t c root).Announced .configValidation := by
  refine ⟨walkEvents root (filesMatching t c root Manifest.isManifest) ++
    walkEvents root (filesMatching t c root Env.isEnvFile), by simp [auditSettings],
    fun e he => ?_⟩
  rcases List.mem_append.mp he with he | he
  · exact isSkip_of_mem_walkEvents he
  · exact isSkip_of_mem_walkEvents he

/-! ## Events of phases -/

namespace PhaseRun

/-- A phase tells nothing of another one, and does not start or finish in between. -/
def Closed (p : PhaseRun) : Prop :=
  ∀ e ∈ p.events, e.Inside p.phase

theorem ofOutcomes_closed {phase : Phase} {run : Traced (List Outcome)}
    (h : run.Announced phase) : (ofOutcomes phase run).Closed := by
  obtain ⟨early, hevents, hearly⟩ := h
  intro e he
  change e ∈ run.events at he
  rw [hevents] at he
  rcases List.mem_append.mp he with he | he
  · exact (Event.of_isSkip (hearly e he) phase).1
  · rcases List.mem_cons.mp he with rfl | he
    · rfl
    · obtain ⟨o, _, rfl⟩ := List.mem_map.mp he
      exact (o.event_target phase).2.1

theorem ofProbe_closed {probe : Option Probe}
    (h : ∀ p ∈ probe, ∀ e ∈ p.events, e.isSkip = true) : (ofProbe probe).Closed := by
  intro e he
  cases probe with
  | none => cases he
  | some p =>
    rw [ofProbe] at he ⊢
    cases hresult : p.result with
    | ok findings =>
      simp only [hresult] at he ⊢
      exact (Event.of_isSkip (h p rfl e he) .apiTesting).1
    | error reason =>
      simp only [hresult] at he ⊢
      rcases List.mem_append.mp he with he | he
      · exact (Event.of_isSkip (h p rfl e he) .apiTesting).1
      · rw [List.mem_singleton.mp he]
        trivial

theorem ofProbe_phase (probe : Option Probe) : (ofProbe probe).phase = .apiTesting := by
  cases probe with
  | none => rfl
  | some p =>
    rw [ofProbe]
    split <;> rfl

/-- All that is told of a phase marks no other one. -/
theorem Closed.phase?_eq {p : PhaseRun} (h : p.Closed) {e : Event} (he : e ∈ p.allEvents) :
    e.phase? = none ∨ e.phase? = some p.phase := by
  rw [allEvents] at he
  rcases List.mem_append.mp he with he | he
  · rcases List.mem_append.mp he with he | he
    · split at he
      · rw [List.mem_singleton.mp he]
        exact .inr rfl
      · cases he
    · exact (h e he).phase?_eq
  · rw [List.mem_singleton.mp he]
    exact .inr rfl

/-- A phase finishes once, with the number of its findings. -/
theorem Closed.filterMap_finished? {p : PhaseRun} (h : p.Closed) :
    p.allEvents.filterMap Event.finished? = [(p.phase, p.findings.length)] := by
  have hinside : p.events.filterMap Event.finished? = [] :=
    List.filterMap_eq_nil_iff.mpr fun e he => (h e he).finished?_eq
  rw [allEvents, List.filterMap_append, List.filterMap_append, hinside]
  split <;> rfl

/-- Phases finish once each, in their order. -/
theorem filterMap_finished?_flatMap {ps : List PhaseRun} (h : ∀ p ∈ ps, p.Closed) :
    (ps.flatMap allEvents).filterMap Event.finished? =
      ps.map fun p => (p.phase, p.findings.length) := by
  induction ps with
  | nil => rfl
  | cons p ps ih =>
    rw [List.flatMap_cons, List.filterMap_append,
      (h p List.mem_cons_self).filterMap_finished?, List.map_cons,
      ih fun q hq => h q (List.mem_cons_of_mem _ hq)]
    rfl

/-- Of phases that are not the same, the others mark no progress of one. -/
theorem phase?_ne_of_nodup {before after : List PhaseRun} {p q : PhaseRun}
    (hdistinct : ((before ++ p :: after).map (·.phase)).Nodup) (hq : q ∈ before ++ after)
    (hclosed : q.Closed) {e : Event} (he : e ∈ q.allEvents) : e.phase? ≠ some p.phase := by
  intro hphase
  rw [List.map_append, List.map_cons, List.perm_middle.nodup_iff, ← List.map_append]
    at hdistinct
  have habsent := (List.nodup_cons.mp hdistinct).1
  rcases hclosed.phase?_eq he with heq | heq
  · rw [heq] at hphase
    cases hphase
  · rw [heq] at hphase
    exact habsent (List.mem_map.mpr ⟨q, hq, Option.some.inj hphase⟩)

end PhaseRun

/-! ## Accounts -/

/-- The events account for the findings of a phase.  It starts, announces its targets and
finishes once, in this order; the number that it announces is that of the targets told of
behind it, and the number that it finishes with is that of all findings told of since its
start. -/
def AccountsFor (events : List Event) (phase : Phase) (findings : List Finding) : Prop :=
  ∃ before early told after count,
    events = before ++ .phaseStarted phase :: early ++ .targetsDiscovered phase count :: told ++
        .phaseFinished phase findings.length :: after ∧
      (∀ e ∈ before ++ early ++ told ++ after, e.phase? ≠ some phase) ∧
      count = told.countP Event.isTarget ∧
      findings.length = ((early ++ told).map Event.found).sum

/-- A phase over outcomes accounts for its findings among phases that are not the same. -/
theorem accountsFor_ofOutcomes {ps : List PhaseRun} {phase : Phase}
    {run : Traced (List Outcome)} (hclosed : ∀ p ∈ ps, p.Closed)
    (hdistinct : (ps.map (·.phase)).Nodup) (hmem : PhaseRun.ofOutcomes phase run ∈ ps)
    (hrun : run.Announced phase) :
    AccountsFor (ps.flatMap PhaseRun.allEvents) phase (findingsOf run.result) := by
  obtain ⟨early, hevents, hearly⟩ := hrun
  obtain ⟨before, after, rfl⟩ := List.append_of_mem hmem
  have hother : ∀ p ∈ before ++ after, ∀ e ∈ p.allEvents, e.phase? ≠ some phase := by
    intro p hp e he
    have hp' : p.Closed := hclosed p (List.perm_middle.mem_iff.mpr (List.mem_cons_of_mem _ hp))
    exact PhaseRun.phase?_ne_of_nodup hdistinct hp hp' he
  refine ⟨before.flatMap PhaseRun.allEvents, early, run.result.map Outcome.event,
    after.flatMap PhaseRun.allEvents, run.result.length, ?_, fun e he => ?_, ?_, ?_⟩
  · simp [PhaseRun.allEvents, PhaseRun.ofOutcomes, hevents]
  · simp only [List.mem_append] at he
    rcases he with ((he | he) | he) | he
    · obtain ⟨p, hp, he⟩ := List.mem_flatMap.mp he
      exact hother p (List.mem_append_left _ hp) e he
    · simp [(Event.of_isSkip (hearly e he) phase).2.1]
    · obtain ⟨o, _, rfl⟩ := List.mem_map.mp he
      simp [(o.event_target phase).2.2]
    · obtain ⟨p, hp, he⟩ := List.mem_flatMap.mp he
      exact hother p (List.mem_append_right _ hp) e he
  · exact (countP_map_event run.result).symm
  · rw [List.map_append, List.sum_append, sum_found_of_isSkip hearly, sum_found_map_event,
      Nat.zero_add]

/-! ## Runs -/

/-- A run that succeeds is made of its phases. -/
theorem run_eq_ok {w : Wording} {t : Tree} {root : Path} {c : Config} {probe : Option Probe}
    {report : RunReport} (h : (run w t root c probe).result = .ok report) :
    ∃ registry, prepare t root c = .ok registry ∧
      (run w t root c probe).events =
        (phases w t root c registry probe).flatMap PhaseRun.allEvents ∧
      report = reportOf root c.output.title (phases w t root c registry probe) := by
  rw [run] at h ⊢
  cases hprepare : prepare t root c with
  | error e =>
    rw [hprepare] at h
    cases h
  | ok registry =>
    rw [hprepare] at h
    cases h
    exact ⟨registry, rfl, rfl, rfl⟩

section Phases

variable {w : Wording} {t : Tree} {root : Path} {c : Config} {registry : Registry}
  {probe : Option Probe}

theorem phases_closed (hprobe : ∀ p ∈ probe, ∀ e ∈ p.events, e.isSkip = true) :
    ∀ p ∈ phases w t root c registry probe, p.Closed := by
  intro p hp
  simp only [phases, filePhases, List.cons_append, List.nil_append, List.mem_cons,
    List.not_mem_nil, or_false] at hp
  rcases hp with rfl | rfl | rfl
  · exact PhaseRun.ofOutcomes_closed (scanSources_announced t c.scan registry root)
  · exact PhaseRun.ofOutcomes_closed (auditSettings_announced w t c.scan root)
  · exact PhaseRun.ofProbe_closed hprobe

theorem map_phase_phases : (phases w t root c registry probe).map (·.phase) =
    [.staticAnalysis, .configValidation, .apiTesting] := by
  simp [phases, filePhases, PhaseRun.ofOutcomes, PhaseRun.ofProbe_phase]

/-- Every phase finishes once, in order. -/
theorem filterMap_finished?_phases (hprobe : ∀ p ∈ probe, ∀ e ∈ p.events, e.isSkip = true) :
    ((phases w t root c registry probe).flatMap PhaseRun.allEvents).filterMap Event.finished? =
      (phases w t root c registry probe).map fun p => (p.phase, p.findings.length) :=
  PhaseRun.filterMap_finished?_flatMap (phases_closed hprobe)

/-- The counts of a report are those of all phases. -/
theorem total_reportOf (title : String) (ps : List PhaseRun) :
    (Report.ofResults (reportOf root title ps).results).summary.total =
      (ps.map fun p => p.findings.length).sum := by
  rw [Report.ofResults, Summary.total_ofFindings, Results.findings, reportOf, List.flatMap_map,
    List.length_flatMap]
  rfl

end Phases

/-- The events of a run and its report account for each other: the first two groups are
accounted for target by target, the last one by the number that its phase finishes with, and
the total of the report by all three numbers. -/
structure Reconciled (events : List Event) (report : RunReport)
    (sources settings answers : List Finding) : Prop where
  sources_group : report.results.group? Phase.staticAnalysis.name = some sources
  settings_group : report.results.group? Phase.configValidation.name = some settings
  answers_group : report.results.group? Phase.apiTesting.name = some answers
  sources_accounted : AccountsFor events .staticAnalysis sources
  settings_accounted : AccountsFor events .configValidation settings
  finished : events.filterMap Event.finished? =
    [(.staticAnalysis, sources.length), (.configValidation, settings.length),
      (.apiTesting, answers.length)]
  total : (Report.ofResults report.results).summary.total =
    ((events.filterMap Event.finished?).map Prod.snd).sum

/-- A run that succeeds, with a probe that tells of nothing but skipped requests, has events
and a report that account for each other. -/
theorem run_accounts {w : Wording} {t : Tree} {root : Path} {c : Config} {probe : Option Probe}
    {report : RunReport} (hrun : (run w t root c probe).result = .ok report)
    (hprobe : ∀ p ∈ probe, ∀ e ∈ p.events, e.isSkip = true) :
    ∃ sources settings answers,
      Reconciled (run w t root c probe).events report sources settings answers := by
  obtain ⟨registry, _, hevents, rfl⟩ := run_eq_ok hrun
  have hclosed := @phases_closed w t root c registry probe hprobe
  have hdistinct : ((phases w t root c registry probe).map (·.phase)).Nodup := by
    rw [map_phase_phases]
    decide
  have hfinished := @filterMap_finished?_phases w t root c registry probe hprobe
  rw [hevents]
  refine ⟨findingsOf (scanSources t c.scan registry root).result,
    findingsOf (auditSettings w t c.scan root).result, (PhaseRun.ofProbe probe).findings, ?_⟩
  constructor
  case sources_group => rfl
  case settings_group => rfl
  case answers_group =>
    rw [Results.group?, reportOf, phases, filePhases]
    simp [PhaseRun.group, PhaseRun.ofOutcomes, PhaseRun.ofProbe_phase, Phase.name]
  case sources_accounted =>
    exact accountsFor_ofOutcomes hclosed hdistinct (by simp [phases, filePhases])
      (scanSources_announced t c.scan registry root)
  case settings_accounted =>
    exact accountsFor_ofOutcomes hclosed hdistinct (by simp [phases, filePhases])
      (auditSettings_announced w t c.scan root)
  case finished =>
    rw [hfinished]
    simp [phases, filePhases, PhaseRun.ofOutcomes, PhaseRun.ofProbe_phase]
  case total =>
    rw [hfinished, total_reportOf, List.map_map]
    rfl

/-- A directory whose only file is `a.js`, which is no text. -/
def brokenTree : Tree :=
  .directory [([0x61, 0x2e, 0x6a, 0x73], .file [0xff])]

/-- A probe that gives up after one request has failed. -/
def failingProbe : Probe :=
  ⟨[.targetSkipped "http://localhost/" "connection closed"], .error "Probe error: no runtime"⟩

/-- The only file and the probe are both skipped. -/
theorem run_accounts_brokenTree :
    ∃ report, (run .silent brokenTree ⟨[0x2e]⟩ {} (some failingProbe)).result = .ok report ∧
      (∀ p ∈ some failingProbe, ∀ e ∈ p.events, e.isSkip = true) ∧
      ∃ sources settings answers,
        Reconciled (run .silent brokenTree ⟨[0x2e]⟩ {} (some failingProbe)).events report
          sources settings answers := by
  have hprobe : ∀ p ∈ some failingProbe, ∀ e ∈ p.events, e.isSkip = true := by
    simp [failingProbe, Event.isSkip]
  have hrun : (run .silent brokenTree ⟨[0x2e]⟩ {} (some failingProbe)).result =
      .ok (reportOf ⟨[0x2e]⟩ "BACKEND BUG DETECTION REPORT"
        (phases .silent brokenTree ⟨[0x2e]⟩ {} .builtin (some failingProbe))) := rfl
  exact ⟨_, hrun, hprobe, run_accounts hrun hprobe⟩

end BackendAudit
