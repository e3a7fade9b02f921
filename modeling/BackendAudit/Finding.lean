import BackendAudit.Text.Blank
import BackendAudit.Text.Case

/-!
# Findings

A finding says what is wrong, how badly, and where.  Its category is one of a
closed set of defect classes; nine of them belong to rules of patterns, and
`security` and `config` to the other checks.
-/

namespace BackendAudit

/-- How bad a finding is. -/
inductive Severity where
  | low
  | medium
  | high
  | critical
  deriving Repr, DecidableEq, Inhabited

namespace Severity

def name : Severity → String
  | low => "low"
  | medium => "medium"
  | high => "high"
  | critical => "critical"

/-- The place of a severity in the order from low to critical. -/
def rank : Severity → Nat
  | low => 0
  | medium => 1
  | high => 2
  | critical => 3

/-- All severities, in ascending order. -/
def all : List Severity := [low, medium, high, critical]

/-- The order of a report: the most severe first. -/
def reportOrder : List Severity := [critical, high, medium, low]

/-- The severity that a name stands for. -/
def ofName? (name : String) : Option Severity :=
  all.find? fun s => s.name == name

end Severity

/-- The class of a defect. -/
inductive Category where
  | sqlInjection
  | xssVulnerability
  | hardcodedSecrets
  | asyncIssues
  | memoryLeaks
  | errorHandling
  | performanceIssues
  | logicErrors
  | configIssues
  | security
  | config
  deriving Repr, DecidableEq, Inhabited

namespace Category

/-- All categories, in their order. -/
def all : List Category :=
  [sqlInjection, xssVulnerability, hardcodedSecrets, asyncIssues, memoryLeaks, errorHandling,
    performanceIssues, logicErrors, configIssues, security, config]

/-- The name that reports and configurations use. -/
def name : Category → String
  | sqlInjection => "sql_injection"
  | xssVulnerability => "xss_vulnerability"
  | hardcodedSecrets => "hardcoded_secrets"
  | asyncIssues => "async_issues"
  | memoryLeaks => "memory_leaks"
  | errorHandling => "error_handling"
  | performanceIssues => "performance_issues"
  | logicErrors => "logic_errors"
  | configIssues => "config_issues"
  | security => "security"
  | config => "config"

/-- The place of a category in their order. -/
def rank (c : Category) : Nat :=
  all.idxOf c

/-- The category that a name stands for, written exactly. -/
def ofName? (name : String) : Option Category :=
  all.find? fun c => c.name == name

/-- The category that a name stands for, in any case, with hyphens or underscores,
and with blanks around it. -/
def ofLenientName? (name : String) : Option Category :=
  let wanted := (Text.lowercase (Text.trim name.toList)).map fun c => if c = '-' then '_' else c
  all.find? fun c => c.name.toList == wanted

end Category

/-- Where a finding was made: a file or an address, and a line in it. -/
structure Location where
  target : String
  /-- Lines count from one; zero stands for the whole target. -/
  line : Nat
  deriving Repr, DecidableEq, Inhabited

namespace Location

/-- The location that is a whole target. -/
def whole (target : String) : Location := ⟨target, 0⟩

/-- The text of a location. -/
def text (l : Location) : String :=
  if l.line = 0 then l.target else l.target ++ ":" ++ toString l.line

end Location

/-- One reported issue. -/
structure Finding where
  severity : Severity
  category : Category
  location : Location
  description : String
  recommendation : String
  /-- What was found; empty when there is nothing to show. -/
  snippet : String
  deriving Repr, DecidableEq, Inhabited

namespace Finding

/-- A finding so many lines further down. -/
def downBy (lines : Nat) (f : Finding) : Finding :=
  { f with location := ⟨f.location.target, f.location.line + lines⟩ }

theorem downBy_add (lines more : Nat) (f : Finding) :
    (f.downBy lines).downBy more = f.downBy (lines + more) := by
  simp only [downBy, Nat.add_assoc]

end Finding

end BackendAudit
