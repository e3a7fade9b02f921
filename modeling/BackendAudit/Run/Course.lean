import BackendAudit.Run.Scan

/-!
# The course of a run

What a run does for others to see, step by step: it tells an event, or it calls its probe.
A step that fails ends the run, but what was done before it stays done.  Every step makes
its own checks, so that the root is looked at up to four times and the settings twice.

The events that are told in the course of a run, and what comes of it, are those of `run`;
a course also has the call of the probe among them.
-/

namespace BackendAudit

open Files (Tree Path)

/-- Something that a run does for others to see. -/
inductive Deed where
  | told (event : Event)
  | calledProbe
  deriving Repr, DecidableEq, Inhabited

/-- The event that a deed tells. -/
def Deed.event? : Deed → Option Event
  | told event => some event
  | calledProbe => none

/-- Steps one after another: what is done in them, and what they come to, or the error that
ends them. -/
structure Course (α : Type) where
  deeds : List Deed
  result : Except AuditError α

namespace Course

variable {α β : Type}

/-- The steps of `x`, and then those that its result leads to.  Behind an error there are
none. -/
def bind (x : Course α) (f : α → Course β) : Course β :=
  match x.result with
  | .error e => ⟨x.deeds, .error e⟩
  | .ok a => ⟨x.deeds ++ (f a).deeds, (f a).result⟩

instance : Monad Course where
  pure a := ⟨[], .ok a⟩
  bind := bind

/-- A check, which nobody sees. -/
def check (result : Except AuditError α) : Course α := ⟨[], result⟩

/-- Steps in which events are told. -/
def tellAll (x : Traced α) : Course α := ⟨x.events.map .told, .ok x.result⟩

/-- The step that tells an event. -/
def tell (event : Event) : Course Unit := tellAll ⟨[event], ()⟩

/-- The call of a probe, which tells its own events. -/
def call (probe : Probe) : Course (Except String (List Finding)) :=
  ⟨.calledProbe :: probe.events.map .told, .ok probe.result⟩

/-- The events that are told in some steps, and what comes of them. -/
def traced (x : Course α) : Traced (Except AuditError α) :=
  ⟨x.deeds.filterMap Deed.event?, x.result⟩

end Course

/-! ## The steps of a run -/

/-- The steps of the scan of all source files, with a check of the root of its own. -/
def sourceSteps (t : Tree) (c : ScanConfig) (registry : Registry) (root : Path) :
    Course (List Outcome) := do
  Course.check (checkRoot t root)
  Course.tellAll (scanSources t c registry root)

/-- The steps of a probe.  One that fails is skipped as a whole. -/
def probeSteps : Option Probe → Course (List Finding × List Skip)
  | none => pure ([], [])
  | some probe => do
    Course.tell (.phaseStarted .apiTesting)
    match ← Course.call probe with
    | .ok findings => pure (findings, [])
    | .error reason =>
      let name := Phase.apiTesting.name
      Course.tell (.targetSkipped name reason)
      pure ([], [⟨name, reason⟩])

/-- The step that ends a phase with its findings. -/
def finishPhase (phase : Phase) (findings : List Finding) : Course FindingGroup := do
  Course.tell (.phaseFinished phase findings.length)
  pure ⟨phase.name, findings⟩

/-- The phases of a run over files: their findings, and what is skipped in them. -/
def fileSteps (w : Wording) (t : Tree) (root : Path) (c : Config) (registry : Registry) :
    Course (List FindingGroup × List Skip) := do
  Course.tell (.phaseStarted .staticAnalysis)
  let sources ← sourceSteps t c.scan registry root
  let static ← finishPhase .staticAnalysis (findingsOf sources)
  Course.tell (.phaseStarted .configValidation)
  let settings ← Course.tellAll (auditSettings w t c.scan root)
  let config ← finishPhase .configValidation (findingsOf settings)
  pure ([static, config], skipsOf sources ++ skipsOf settings)

/-- The phases of a run, one after another. -/
def phaseSteps (w : Wording) (t : Tree) (root : Path) (c : Config) (registry : Registry)
    (probe : Option Probe) : Course RunReport := do
  let (groups, skipped) ← fileSteps w t root c registry
  let (findings, skips) ← probeSteps probe
  let api ← finishPhase .apiTesting findings
  pure {
    root, title := c.output.title
    results := ⟨groups ++ [api]⟩
    skipped := skipped ++ skips }

/-- The phases of a run whose probe panics. -/
def panicSteps (w : Wording) (t : Tree) (root : Path) (c : Config) (registry : Registry) :
    Course (Ended RunReport) := do
  let _ ← fileSteps w t root c registry
  Course.tell (.phaseStarted .apiTesting)
  ⟨[.calledProbe], .ok .panicked⟩

/-- The checks before a run, with its phases behind them. -/
def checkedSteps {α : Type} (t : Tree) (root : Path) (c : Config)
    (phases : Config → Registry → Course α) : Course α := do
  let c ← Course.check c.check
  Course.check (checkRoot t root)
  let registry ← Course.check ((registryFor c.rules).mapError AuditError.rule)
  phases c registry

/-- The steps of a run. -/
def runSteps (w : Wording) (t : Tree) (root : Path) (c : Config) (probe : Option Probe) :
    Course RunReport :=
  checkedSteps t root c fun c registry => phaseSteps w t root c registry probe

/-- The steps of a run with the probe that its configuration asks for. -/
def scanStepsWith (w : Wording) (network : Network) (t : Tree) (root : Path) (c : Config) :
    Course (Ended RunReport) := do
  Course.check (checkRoot t root)
  match ← Course.check (c.probe.probe? network) with
  | none => Ended.returned <$> runSteps w t root c none
  | some (.returned probe) => Ended.returned <$> runSteps w t root c (some probe)
  | some .panicked => checkedSteps t root c (panicSteps w t root)

/-- The steps of a run with the configuration for its root. -/
def scanSteps (w : Wording) (network : Network) (t : Tree) (root : Path) (options : Options) :
    Course (Ended RunReport) := do
  Course.check (checkRoot t root)
  let c ← Course.check (Config.load t root options)
  scanStepsWith w network t root c

end BackendAudit
