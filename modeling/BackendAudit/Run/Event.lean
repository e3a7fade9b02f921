import BackendAudit.Scan.Content

/-!
# Events and outcomes

A run goes through phases, each over some targets.  It tells as it goes what it
begins, finds and skips.
-/

namespace BackendAudit

/-- A phase of a run. -/
inductive Phase where
  /-- Rules and structural checks over the source files. -/
  | staticAnalysis
  /-- Checks of manifests and environment files. -/
  | configValidation
  /-- Requests to live endpoints. -/
  | apiTesting
  deriving Repr, DecidableEq, Inhabited

/-- The name of a phase, and of its group of findings. -/
def Phase.name : Phase → String
  | staticAnalysis => "static_analysis"
  | configValidation => "config_validation"
  | apiTesting => "api_testing"

/-- Something that happened in a run. -/
inductive Event where
  | phaseStarted (phase : Phase)
  | targetsDiscovered (phase : Phase) (count : Nat)
  | targetScanned (target : String) (findings : Nat)
  | targetSkipped (target reason : String)
  | phaseFinished (phase : Phase) (findings : Nat)
  deriving Repr, DecidableEq, Inhabited

/-- A result, and what is told on the way to it. -/
structure Traced (α : Type) where
  events : List Event
  result : α
  deriving Inhabited

/-- How a part of the program ends: it returns, or it panics. -/
inductive Ended (α : Type) where
  | returned (value : α)
  | panicked
  deriving Repr, DecidableEq, Inhabited

/-- The same with another value. -/
def Ended.map {α β : Type} (f : α → β) : Ended α → Ended β
  | returned value => returned (f value)
  | panicked => panicked

/-- A target that could not be scanned, and why. -/
structure Skip where
  target : String
  reason : String
  deriving Repr, DecidableEq, Inhabited

/-- What came of one target. -/
inductive Outcome where
  | scanned (target : String) (findings : List Finding)
  | skipped (target reason : String)
  deriving Repr, DecidableEq, Inhabited

namespace Outcome

def target : Outcome → String
  | scanned target _ => target
  | skipped target _ => target

/-- The findings in a target; none if it was skipped. -/
def findings : Outcome → List Finding
  | scanned _ findings => findings
  | skipped _ _ => []

/-- The target as a skipped one, if it was. -/
def skip? : Outcome → Option Skip
  | scanned _ _ => none
  | skipped target reason => some ⟨target, reason⟩

/-- What is told about a target. -/
def event : Outcome → Event
  | scanned target findings => .targetScanned target findings.length
  | skipped target reason => .targetSkipped target reason

end Outcome

/-- The findings of several targets, in order. -/
def findingsOf (outcomes : List Outcome) : List Finding :=
  outcomes.flatMap Outcome.findings

/-- The targets that were skipped, in order. -/
def skipsOf (outcomes : List Outcome) : List Skip :=
  outcomes.filterMap Outcome.skip?

end BackendAudit
