import BackendAudit.Rule.Builtin
import BackendAudit.Scan.Heuristic

/-!
# Scanning a content

All findings of a content: those of the rules, in the order of rule, matcher and
place, and then those of the structural checks.
-/

namespace BackendAudit

/-- The findings of one matcher of a rule: one for each match, on the line on
which the match starts, with the trimmed text of that line. -/
def Rule.findingsOf (r : Rule) (source : Source) (m : Matcher) : List Finding :=
  (m.findAll source.content).map fun span =>
    let line := source.index.lineOf span.1
    let text := (source.index.lineText? source.content line).getD []
    r.finding source.name line (String.ofList (Text.trim text))

/-- The findings of a rule. -/
def Rule.findings (r : Rule) (source : Source) : List Finding :=
  r.matchers.flatMap (r.findingsOf source)

/-- The findings of the structural checks. -/
def structuralFindings (source : Source) : List Finding :=
  heuristics.flatMap fun h => h.check source

/-- The findings of a content under its name. -/
def Registry.scan (registry : Registry) (name : String) (content : String) : List Finding :=
  let source := Source.ofContent name content.toList
  registry.rules.flatMap (fun r => r.findings source) ++ structuralFindings source

end BackendAudit
