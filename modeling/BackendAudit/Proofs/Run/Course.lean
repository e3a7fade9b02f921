import BackendAudit.Proofs.Run.Visits
import BackendAudit.Run.Course

/-!
# Runs and their courses

* `runSteps_traced`, `scanSteps_traced`: the events in the course of a run, and what comes of
  it, are those of the run.
* `runSteps_failsFirst`, `scanSteps_failsFirst`: a run that ends in an error has done nothing
  before it.
-/

namespace BackendAudit

open Files (Tree Path)

namespace Course

variable {α β : Type}

/-! ## Steps one after another -/

theorem bind_of_ok {x : Course α} {a : α} (h : x.result = .ok a) (f : α → Course β) :
    x >>= f = ⟨x.deeds ++ (f a).deeds, (f a).result⟩ := by
  show x.bind f = _
  rw [bind, h]

theorem bind_of_error {x : Course α} {e : AuditError} (h : x.result = .error e)
    (f : α → Course β) : x >>= f = ⟨x.deeds, .error e⟩ := by
  show x.bind f = _
  rw [bind, h]

instance : LawfulMonad Course := LawfulMonad.mk' Course
  (by
    intro α x
    show x.bind _ = x
    obtain ⟨deeds, result⟩ := x
    cases result <;> simp [bind])
  (by
    intro α β a f
    rfl)
  (by
    intro α β γ x f g
    cases hx : x.result with
    | error e => rw [bind_of_error hx, bind_of_error rfl, bind_of_error hx]
    | ok a =>
      rw [bind_of_ok hx, bind_of_ok hx]
      cases hf : (f a).result with
      | error e => rw [bind_of_error rfl, bind_of_error hf]
      | ok b => rw [bind_of_ok rfl, bind_of_ok hf, List.append_assoc])

/-- Behind a check that is passed come the other steps. -/
theorem check_ok_bind (a : α) (f : α → Course β) : check (.ok a) >>= f = f a := rfl

/-- Behind a check that is not passed comes nothing. -/
theorem check_error_bind (e : AuditError) (f : α → Course β) :
    check (.error e) >>= f = ⟨[], .error e⟩ := rfl

/-! ## The events of a course -/

theorem filterMap_event?_told (events : List Event) :
    (events.map Deed.told).filterMap Deed.event? = events := by
  rw [List.filterMap_map]
  exact List.filterMap_some

theorem traced_pure (a : α) : (pure a : Course α).traced = ⟨[], .ok a⟩ := rfl

/-- Events that are told come before those of the steps behind. -/
theorem traced_tellAll_bind (x : Traced α) (f : α → Course β) :
    (tellAll x >>= f).traced =
      ⟨x.events ++ (f x.result).traced.events, (f x.result).traced.result⟩ := by
  have htold : (tellAll x).deeds.filterMap Deed.event? = x.events := filterMap_event?_told _
  rw [bind_of_ok rfl, traced, List.filterMap_append, htold]
  rfl

/-- Events that are told come before the deeds of the steps behind. -/
theorem tellAll_bind (x : Traced α) (f : α → Course β) :
    tellAll x >>= f = ⟨x.events.map .told ++ (f x.result).deeds, (f x.result).result⟩ :=
  bind_of_ok rfl f

/-- The call of a probe is no event, but its own events are told. -/
theorem traced_call_bind (probe : Probe) (f : Except String (List Finding) → Course β) :
    (call probe >>= f).traced =
      ⟨probe.events ++ (f probe.result).traced.events, (f probe.result).traced.result⟩ := by
  have htold : (call probe).deeds.filterMap Deed.event? = probe.events :=
    filterMap_event?_told _
  rw [bind_of_ok rfl, traced, List.filterMap_append, htold]
  rfl

end Course

/-! ## Runs -/

section Runs

variable {w : Wording} {t : Tree} {root : Path}

/-- Once the root is checked, the phases over files are told as in a run. -/
theorem fileSteps_eq_tellAll (hroot : checkRoot t root = .ok ()) (c : Config)
    (registry : Registry) :
    fileSteps w t root c registry =
      Course.tellAll ⟨(filePhases w t root c registry).flatMap PhaseRun.allEvents,
        ((filePhases w t root c registry).map PhaseRun.group,
          (filePhases w t root c registry).flatMap PhaseRun.skipped)⟩ := by
  simp only [fileSteps, sourceSteps, hroot, Course.check_ok_bind, Course.tell, finishPhase,
    bind_assoc, pure_bind]
  simp only [Course.tellAll_bind]
  simp [Course.tellAll, filePhases, PhaseRun.allEvents, PhaseRun.ofOutcomes, PhaseRun.group, pure]

/-- Once the root is checked, the phases follow one another as in a run. -/
theorem phaseSteps_traced (hroot : checkRoot t root = .ok ()) (c : Config)
    (registry : Registry) (probe : Option Probe) :
    (phaseSteps w t root c registry probe).traced =
      ⟨(phases w t root c registry probe).flatMap PhaseRun.allEvents,
        .ok (reportOf root c.output.title (phases w t root c registry probe))⟩ := by
  rw [phaseSteps, fileSteps_eq_tellAll hroot, Course.traced_tellAll_bind]
  cases probe with
  | none =>
    simp only [probeSteps, finishPhase, Course.tell, bind_assoc, pure_bind,
      Course.traced_tellAll_bind, Course.traced_pure]
    simp [phases, PhaseRun.allEvents, PhaseRun.ofProbe, reportOf, PhaseRun.group]
  | some probe =>
    simp only [probeSteps, finishPhase, bind_assoc, Course.tell, Course.traced_tellAll_bind,
      Course.traced_call_bind]
    cases hresult : probe.result with
    | error reason =>
      simp only [bind_assoc, pure_bind, Course.traced_tellAll_bind, Course.traced_pure]
      simp [phases, PhaseRun.allEvents, PhaseRun.ofProbe, reportOf, PhaseRun.group, hresult]
    | ok findings =>
      simp only [pure_bind, Course.traced_tellAll_bind, Course.traced_pure]
      simp [phases, PhaseRun.allEvents, PhaseRun.ofProbe, reportOf, PhaseRun.group, hresult]

/-- A probe that panics is called behind the phases over files and the start of its own. -/
theorem panicSteps_traced (hroot : checkRoot t root = .ok ()) (c : Config)
    (registry : Registry) :
    (panicSteps w t root c registry).traced =
      ⟨(filePhases w t root c registry).flatMap PhaseRun.allEvents ++ [.phaseStarted .apiTesting],
        .ok .panicked⟩ := by
  rw [panicSteps, fileSteps_eq_tellAll hroot, Course.traced_tellAll_bind, Course.tell,
    Course.traced_tellAll_bind]
  rfl

/-- A configuration that is accepted is taken as it is. -/
theorem Config.eq_of_check {c c' : Config} (h : c.check = .ok c') : c' = c := by
  rw [Config.check] at h
  split at h
  · cases h
  · exact (Except.ok.inj h).symm

/-- Behind the checks of the settings and of the root, the rules decide. -/
theorem prepare_of_checks {c : Config} (hcheck : c.check = .ok c)
    (hroot : checkRoot t root = .ok ()) :
    prepare t root c = (registryFor c.rules).mapError AuditError.rule := by
  cases hrules : registryFor c.rules with
  | error e =>
    simp only [prepare, hcheck, hroot, hrules, bind, Except.bind]
    rfl
  | ok registry =>
    simp only [prepare, hcheck, hroot, hrules, bind, Except.bind]
    rfl

/-- The phases behind the checks are those of a configuration that passes them, and fail if it
does not. -/
theorem checkedSteps_eq {α : Type} (t : Tree) (root : Path) (c : Config)
    (steps : Config → Registry → Course α) :
    checkedSteps t root c steps =
      match prepare t root c with
      | .error e => Course.check (.error e)
      | .ok registry => steps c registry := by
  rw [checkedSteps]
  cases hcheck : c.check with
  | error e =>
    rw [prepare, hcheck]
    rfl
  | ok c' =>
    obtain rfl := Config.eq_of_check hcheck
    cases hroot : checkRoot t root with
    | error e =>
      rw [prepare, hcheck, hroot]
      rfl
    | ok u =>
      rw [prepare_of_checks hcheck hroot]
      show (Course.check ((registryFor c'.rules).mapError AuditError.rule) >>= steps c') = _
      cases registryFor c'.rules <;> rfl

/-- The steps of a run tell its events and come to its report. -/
theorem runSteps_traced (t : Tree) (root : Path) (c : Config) (probe : Option Probe) :
    (runSteps w t root c probe).traced = run w t root c probe := by
  rw [runSteps, checkedSteps_eq, run]
  cases hready : prepare t root c with
  | error e => rfl
  | ok registry => exact phaseSteps_traced (checks_of_prepare hready).2 c registry probe

/-- The steps of a run as part of a scan tell the same. -/
theorem returned_runSteps_traced (t : Tree) (root : Path) (c : Config) (probe : Option Probe) :
    (Ended.returned <$> runSteps w t root c probe).traced = runReturned w t root c probe := by
  rw [runReturned, ← runSteps_traced]
  cases hresult : (runSteps w t root c probe).result with
  | error e =>
    rw [map_eq_pure_bind, Course.bind_of_error hresult, Course.traced, Course.traced, hresult]
    rfl
  | ok report =>
    rw [map_eq_pure_bind, Course.bind_of_ok hresult, Course.traced, Course.traced, hresult]
    simp [pure, Except.map]

/-- The steps of a run whose probe panics tell what is told before. -/
theorem panicked_steps_traced (t : Tree) (root : Path) (c : Config) :
    (checkedSteps t root c (panicSteps w t root)).traced = runPanicked w t root c := by
  rw [checkedSteps_eq, runPanicked]
  cases hready : prepare t root c with
  | error e => rfl
  | ok registry => exact panicSteps_traced (checks_of_prepare hready).2 c registry

theorem scanStepsWith_traced (network : Network) (t : Tree) (root : Path) (c : Config) :
    (scanStepsWith w network t root c).traced = scanWith w network t root c := by
  rw [scanStepsWith, scanWith]
  cases checkRoot t root with
  | error e => rfl
  | ok u =>
    cases c.probe.probe? network with
    | error e => rfl
    | ok probe =>
      match probe with
      | none => exact returned_runSteps_traced t root c none
      | some (.returned probe) => exact returned_runSteps_traced t root c (some probe)
      | some .panicked => exact panicked_steps_traced t root c

/-- The steps of a scan tell its events and come to its report. -/
theorem scanSteps_traced (network : Network) (t : Tree) (root : Path) (options : Options) :
    (scanSteps w network t root options).traced = scan w network t root options := by
  rw [scanSteps, scan]
  cases checkRoot t root with
  | error e => rfl
  | ok u =>
    cases Config.load t root options with
    | error e => rfl
    | ok c => exact scanStepsWith_traced network t root c

end Runs

/-! ## Courses that fail first -/

/-- A course that fails before anything is done, or not at all. -/
def Course.FailsFirst {α : Type} (x : Course α) : Prop :=
  ∀ e, x.result = .error e → x.deeds = []

namespace Course.FailsFirst

variable {α β : Type}

theorem of_ok {x : Course α} {a : α} (h : x.result = .ok a) : x.FailsFirst := by
  intro e he
  rw [h] at he
  cases he

/-- A check may be put in front of a course that fails first. -/
theorem check_bind {result : Except AuditError α} {f : α → Course β}
    (h : ∀ a, result = .ok a → (f a).FailsFirst) : (check result >>= f).FailsFirst := by
  cases result with
  | error e =>
    rw [check_error_bind]
    intro _ _
    rfl
  | ok a =>
    rw [check_ok_bind]
    exact h a rfl

/-- What is made of the result of a course does not count. -/
theorem map {x : Course α} (h : x.FailsFirst) (f : α → β) : (f <$> x).FailsFirst := by
  intro e he
  rw [map_eq_pure_bind] at he ⊢
  cases hresult : x.result with
  | error e' =>
    rw [bind_of_error hresult]
    exact h e' hresult
  | ok a =>
    rw [bind_of_ok hresult] at he
    cases he

end Course.FailsFirst

section Runs

variable (w : Wording) (t : Tree) (root : Path)

/-- Phases that come to an end behind the checks fail where these do, or not at all. -/
theorem checkedSteps_failsFirst {α : Type} {c : Config} {steps : Config → Registry → Course α}
    (h : ∀ registry, checkRoot t root = .ok () → ∃ a, (steps c registry).result = .ok a) :
    (checkedSteps t root c steps).FailsFirst := by
  rw [checkedSteps_eq]
  cases hready : prepare t root c with
  | error e =>
    intro _ _
    rfl
  | ok registry =>
    obtain ⟨a, ha⟩ := h registry (checks_of_prepare hready).2
    exact .of_ok ha

/-- A run fails before it has told anything or called its probe, or not at all.  The check of
the root that comes behind the first event is passed, since it has been passed before. -/
theorem runSteps_failsFirst (c : Config) (probe : Option Probe) :
    (runSteps w t root c probe).FailsFirst :=
  checkedSteps_failsFirst t root fun registry hroot =>
    ⟨_, congrArg Traced.result (phaseSteps_traced hroot c registry probe)⟩

theorem scanSteps_failsFirst (network : Network) (options : Options) :
    (scanSteps w network t root options).FailsFirst := by
  apply Course.FailsFirst.check_bind
  intro _ _
  apply Course.FailsFirst.check_bind
  intro c _
  apply Course.FailsFirst.check_bind
  intro _ _
  apply Course.FailsFirst.check_bind
  intro probe _
  match probe with
  | none => exact (runSteps_failsFirst w t root c none).map _
  | some (.returned probe) => exact (runSteps_failsFirst w t root c (some probe)).map _
  | some .panicked =>
    exact checkedSteps_failsFirst t root fun registry hroot =>
      ⟨_, congrArg Traced.result (panicSteps_traced hroot c registry)⟩

end Runs

end BackendAudit
