import BackendAudit.Config.Load
import BackendAudit.Report.Format
import BackendAudit.Rule.Builtin
import BackendAudit.Run.Settings

/-!
# Runs

A run scans the source files below a root, checks the manifests and environment
files there, and probes endpoints if it is given a probe.  It fails before any of
that, or not at all: what cannot be scanned is listed as skipped.
-/

namespace BackendAudit

open Files (Tree Path)

/-- What a probe does: what it tells, and its findings, or why it has none. -/
abbrev Probe := Traced (Except String (List Finding))

/-- What comes of a run. -/
structure RunReport where
  root : Path
  title : String
  results : Results
  skipped : List Skip
  deriving Inhabited

/-- The rules of a run. -/
def registryFor (rules : List CustomRule) : Except RuleError Registry :=
  if rules.isEmpty then .ok .builtin else Registry.withCustom rules

/-- What has to hold before a run, and the rules that it uses. -/
def prepare (t : Tree) (root : Path) (c : Config) : Except AuditError Registry := do
  let c ← c.check
  checkRoot t root
  match registryFor c.rules with
  | .error e => .error (.rule e)
  | .ok registry => .ok registry

/-! ## Phases -/

/-- A phase that is over: whether it was started, what was told in it, and what it
gives to the report. -/
structure PhaseRun where
  phase : Phase
  started : Bool
  events : List Event
  findings : List Finding
  skipped : List Skip
  deriving Inhabited

namespace PhaseRun

/-- The phase of some outcomes. -/
def ofOutcomes (phase : Phase) (run : Traced (List Outcome)) : PhaseRun :=
  { phase, started := true, events := run.events
    findings := findingsOf run.result, skipped := skipsOf run.result }

/-- The phase of a probe.  One that fails is skipped as a whole. -/
def ofProbe : Option Probe → PhaseRun
  | none => ⟨.apiTesting, false, [], [], []⟩
  | some probe =>
    match probe.result with
    | .ok findings => ⟨.apiTesting, true, probe.events, findings, []⟩
    | .error reason =>
      let name := Phase.apiTesting.name
      ⟨.apiTesting, true, probe.events ++ [.targetSkipped name reason], [], [⟨name, reason⟩]⟩

/-- All that is told about a phase. -/
def allEvents (p : PhaseRun) : List Event :=
  (if p.started then [Event.phaseStarted p.phase] else []) ++ p.events ++
    [.phaseFinished p.phase p.findings.length]

/-- The findings of a phase as a group. -/
def group (p : PhaseRun) : FindingGroup := ⟨p.phase.name, p.findings⟩

end PhaseRun

/-- The phases of a run over files, in order. -/
def filePhases (w : Wording) (t : Tree) (root : Path) (c : Config) (registry : Registry) :
    List PhaseRun :=
  [.ofOutcomes .staticAnalysis (scanSources t c.scan registry root),
    .ofOutcomes .configValidation (auditSettings w t c.scan root)]

/-- The phases of a run, in order. -/
def phases (w : Wording) (t : Tree) (root : Path) (c : Config) (registry : Registry)
    (probe : Option Probe) : List PhaseRun :=
  filePhases w t root c registry ++ [.ofProbe probe]

/-- What comes of the phases of a run. -/
def reportOf (root : Path) (title : String) (phases : List PhaseRun) : RunReport :=
  { root, title
    results := ⟨phases.map PhaseRun.group⟩
    skipped := phases.flatMap PhaseRun.skipped }

/-- Runs all phases. -/
def run (w : Wording) (t : Tree) (root : Path) (c : Config) (probe : Option Probe) :
    Traced (Except AuditError RunReport) :=
  match prepare t root c with
  | .error e => ⟨[], .error e⟩
  | .ok registry =>
    let phases := phases w t root c registry probe
    ⟨phases.flatMap PhaseRun.allEvents, .ok (reportOf root c.output.title phases)⟩

/-- The text of a report of a run. -/
def RunReport.render (r : RunReport) (format : ReportFormat) (made : Timestamp) : String :=
  r.results.render format r.title made

end BackendAudit
