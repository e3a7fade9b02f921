import BackendAudit.Finding
import BackendAudit.Rule.Matcher

/-!
# Rules

A rule is one class of defects: what its findings say, and the matchers that find
them.  A registry is the list of rules in use.  It is made from definitions, which
are plain data; the first definition that is not accepted is reported.
-/

namespace BackendAudit

/-- One class of defects with its matchers. -/
structure Rule where
  category : Category
  severity : Severity
  description : String
  remediation : String
  matchers : List Matcher

/-- What a rule says about itself. -/
structure RuleInfo where
  category : Category
  severity : Severity
  description : String
  remediation : String
  patterns : List String
  deriving Repr, DecidableEq, Inhabited

namespace Rule

/-- A finding of the rule. -/
def finding (r : Rule) (target : String) (line : Nat) (snippet : String) : Finding :=
  ⟨r.severity, r.category, ⟨target, line⟩, r.description, r.remediation, snippet⟩

/-- The rule without its matchers, with the texts of their patterns. -/
def info (r : Rule) : RuleInfo :=
  ⟨r.category, r.severity, r.description, r.remediation,
    r.matchers.map fun m => m.pattern.source⟩

end Rule

/-! ## Definitions -/

/-- A pattern, and the pattern and window of its guard. -/
structure MatcherDef where
  pattern : String
  guard : Option (String × Window)
  deriving Repr, DecidableEq, Inhabited

/-- A rule of a table. -/
structure RuleDef where
  category : Category
  severity : Severity
  description : String
  remediation : String
  matchers : List MatcherDef
  deriving Repr, DecidableEq, Inhabited

/-- A rule that a configuration adds.  Its patterns have no guards. -/
structure CustomRule where
  category : Category
  severity : Severity
  description : String
  remediation : String
  patterns : List String
  deriving Repr, DecidableEq, Inhabited

/-- Why a definition is not accepted. -/
inductive RuleFault where
  | noPatterns
  | matcher (e : MatcherError)
  deriving Repr, DecidableEq, Inhabited

/-- The wording of a fault. -/
def RuleFault.message (w : Wording) : RuleFault → String
  | noPatterns => "custom rule has no patterns"
  | matcher e => e.message w

/-- A definition that is not accepted: its category and the fault. -/
structure RuleError where
  category : Category
  fault : RuleFault
  deriving Repr, DecidableEq, Inhabited

/-- The matcher of a definition; a fault of the pattern comes before one of the guard. -/
def MatcherDef.compile (d : MatcherDef) : Except MatcherError Matcher :=
  match Matcher.compile d.pattern with
  | .error e => .error e
  | .ok m =>
    match d.guard with
    | none => .ok m
    | some (source, window) => m.withGuard source window

/-- The rule of a definition. -/
def RuleDef.compile (d : RuleDef) : Except RuleError Rule :=
  match d.matchers.mapM MatcherDef.compile with
  | .error e => .error ⟨d.category, .matcher e⟩
  | .ok matchers => .ok ⟨d.category, d.severity, d.description, d.remediation, matchers⟩

/-- The rule of a custom definition, which has to have a pattern. -/
def CustomRule.compile (d : CustomRule) : Except RuleError Rule :=
  if d.patterns.isEmpty then .error ⟨d.category, .noPatterns⟩
  else match d.patterns.mapM Matcher.compile with
    | .error e => .error ⟨d.category, .matcher e⟩
    | .ok matchers => .ok ⟨d.category, d.severity, d.description, d.remediation, matchers⟩

/-! ## Registries -/

/-- The rules in use, in order. -/
structure Registry where
  rules : List Rule

namespace Registry

/-- The registry of a table of definitions. -/
def ofTable (table : List RuleDef) : Except RuleError Registry :=
  (table.mapM RuleDef.compile).map Registry.mk

/-- The registry with custom rules behind its own. -/
def extend (r : Registry) (custom : List CustomRule) : Except RuleError Registry :=
  (custom.mapM CustomRule.compile).map fun rules => ⟨r.rules ++ rules⟩

/-- The rules of a category, in order. -/
def rulesFor (r : Registry) (c : Category) : List Rule :=
  r.rules.filter fun rule => rule.category = c

/-- What the rules say about themselves. -/
def infos (r : Registry) : List RuleInfo :=
  r.rules.map Rule.info

end Registry
end BackendAudit
