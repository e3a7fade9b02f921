import BackendAudit.Probe.Pool
import BackendAudit.Run.Basic

/-!
# Scans

A scan is a run with the configuration that is found for its root, and with a probe
of endpoints if the configuration asks for one.  The program panics when that probe does,
and what has been told by then stays told.
-/

namespace BackendAudit

open Files (Tree Path)

/-- The probe that a configuration asks for, if it does. -/
def ProbeConfig.probe? (c : ProbeConfig) (network : Network) :
    Except AuditError (Option (Ended Probe)) :=
  if !c.enabled then .ok none
  else
    match c.jobs with
    | .error fault => .error (.address fault)
    | .ok jobs =>
      .ok (some ((runProbe network c jobs).map fun told => ⟨told.events, .ok told.result⟩))

/-- A run as part of a scan. -/
def runReturned (w : Wording) (t : Tree) (root : Path) (c : Config) (probe : Option Probe) :
    Traced (Except AuditError (Ended RunReport)) :=
  ⟨(run w t root c probe).events, (run w t root c probe).result.map .returned⟩

/-- A run whose probe panics: what is told before the probe is called. -/
def runPanicked (w : Wording) (t : Tree) (root : Path) (c : Config) :
    Traced (Except AuditError (Ended RunReport)) :=
  match prepare t root c with
  | .error e => ⟨[], .error e⟩
  | .ok registry =>
    ⟨(filePhases w t root c registry).flatMap PhaseRun.allEvents ++ [.phaseStarted .apiTesting],
      .ok .panicked⟩

/-- Runs a configuration, with the probe that it asks for. -/
def scanWith (w : Wording) (network : Network) (t : Tree) (root : Path) (c : Config) :
    Traced (Except AuditError (Ended RunReport)) :=
  match checkRoot t root with
  | .error e => ⟨[], .error e⟩
  | .ok () =>
    match c.probe.probe? network with
    | .error e => ⟨[], .error e⟩
    | .ok none => runReturned w t root c none
    | .ok (some (.returned probe)) => runReturned w t root c (some probe)
    | .ok (some .panicked) => runPanicked w t root c

/-- Runs the configuration for a root. -/
def scan (w : Wording) (network : Network) (t : Tree) (root : Path) (options : Options) :
    Traced (Except AuditError (Ended RunReport)) :=
  match checkRoot t root with
  | .error e => ⟨[], .error e⟩
  | .ok () =>
    match Config.load t root options with
    | .error e => ⟨[], .error e⟩
    | .ok c => scanWith w network t root c

end BackendAudit
