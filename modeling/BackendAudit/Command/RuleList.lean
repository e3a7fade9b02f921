import BackendAudit.Command.Basic
import BackendAudit.Json.Printer
import BackendAudit.Rule.Builtin

/-!
# The list of the rules

The built-in rules, as a table with a line for each, or in full as a document.
-/

namespace BackendAudit

/-- A rule as a value of object notation. -/
def RuleInfo.json (r : RuleInfo) : Json :=
  .object [("category", .string r.category.name), ("severity", .string r.severity.name),
    ("description", .string r.description), ("remediation", .string r.remediation),
    ("patterns", .array (r.patterns.map .string))]

/-- A text with blanks behind it up to a width. -/
def paddedText (width : Nat) (s : String) : String :=
  s ++ String.ofList (List.replicate (width - s.length) ' ')

/-- A line of the table, from its columns. -/
def tableRow (category severity patterns description : String) : String :=
  paddedText 20 category ++ " " ++ paddedText 10 severity ++ " " ++ paddedText 9 patterns ++
    " " ++ description

/-- The line of a rule, which shows how many patterns it has. -/
def RuleInfo.tableLine (r : RuleInfo) : String :=
  tableRow r.category.name r.severity.name (toString r.patterns.length) r.description

/-- The lines of the table of some rules. -/
def ruleTable (rules : List RuleInfo) : List String :=
  tableRow "CATEGORY" "SEVERITY" "PATTERNS" "DESCRIPTION" ::
    String.ofList (List.replicate 80 '-') :: rules.map RuleInfo.tableLine

namespace RuleListRequest

/-- The rules that are asked for. -/
def rules (r : RuleListRequest) : Except AuditError (List RuleInfo) :=
  match r.category with
  | none => .ok Registry.builtin.infos
  | some name =>
    match Category.ofLenientName? name with
    | none => .error (.unknownCategory name)
    | some category => .ok ((Registry.builtin.rulesFor category).map Rule.info)

/-- The lines that show some rules.  Every name but one stands for the table. -/
def lines (r : RuleListRequest) (rules : List RuleInfo) : List String :=
  if r.format = "json" then [(Json.array (rules.map RuleInfo.json)).prettyText]
  else ruleTable rules

end RuleListRequest
end BackendAudit
