import BackendAudit.Finding

/-!
# Results

The findings of a run come in groups, one for each of its phases.  A report sums
them up: how many there are of each severity, and for each group with findings its
buckets, one for each severity that occurs, the most severe first.  A bucket keeps
the order of the group.
-/

namespace BackendAudit

/-- The findings of one phase. -/
structure FindingGroup where
  name : String
  findings : List Finding
  deriving Repr, DecidableEq, Inhabited

/-- All groups of a run, in the order in which they were made. -/
structure Results where
  groups : List FindingGroup := []
  deriving Repr, DecidableEq, Inhabited

namespace Results

/-- Adds a group behind the others. -/
def push (r : Results) (name : String) (findings : List Finding) : Results :=
  ⟨r.groups ++ [⟨name, findings⟩]⟩

/-- The findings of the first group with a name. -/
def group? (r : Results) (name : String) : Option (List Finding) :=
  (r.groups.find? fun g => g.name == name).map (·.findings)

/-- The findings of all groups. -/
def findings (r : Results) : List Finding :=
  r.groups.flatMap (·.findings)

end Results

/-! ## Summaries -/

/-- How many findings there are, in all and of each severity. -/
structure Summary where
  total : Nat := 0
  critical : Nat := 0
  high : Nat := 0
  medium : Nat := 0
  low : Nat := 0
  deriving Repr, DecidableEq, Inhabited

namespace Summary

/-- Counts one more finding. -/
def add (s : Summary) (f : Finding) : Summary :=
  match f.severity with
  | .critical => { s with total := s.total + 1, critical := s.critical + 1 }
  | .high => { s with total := s.total + 1, high := s.high + 1 }
  | .medium => { s with total := s.total + 1, medium := s.medium + 1 }
  | .low => { s with total := s.total + 1, low := s.low + 1 }

/-- The summary of some findings. -/
def ofFindings (fs : List Finding) : Summary :=
  fs.foldl add {}

end Summary

/-! ## Reports -/

/-- The findings of one severity within a group. -/
structure Bucket where
  severity : Severity
  findings : List Finding
  deriving Repr, DecidableEq, Inhabited

/-- A group with findings, in buckets. -/
structure Section where
  group : String
  buckets : List Bucket
  deriving Repr, DecidableEq, Inhabited

/-- What is reported about a run. -/
structure Report where
  summary : Summary
  sections : List Section
  deriving Repr, DecidableEq, Inhabited

/-- The buckets of some findings, without empty ones. -/
def bucketsOf (fs : List Finding) : List Bucket :=
  (Severity.reportOrder.map fun s => Bucket.mk s (fs.filter fun f => f.severity = s)).filter
    fun b => !b.findings.isEmpty

/-- The report of some results. -/
def Report.ofResults (r : Results) : Report where
  summary := .ofFindings r.findings
  sections := (r.groups.filter fun g => !g.findings.isEmpty).map fun g =>
    ⟨g.name, bucketsOf g.findings⟩

end BackendAudit
