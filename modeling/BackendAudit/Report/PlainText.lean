import BackendAudit.Report.Results
import BackendAudit.Report.Timestamp

/-!
# Reports as plain text

A heading, the counts, a section for each group, and the recommended actions.  Each
bucket numbers its findings from one.
-/

namespace BackendAudit.Report

/-- The line above and below the title. -/
def banner : String := String.ofList (List.replicate 80 '=')

/-- The line below a heading. -/
def underline : String := String.ofList (List.replicate 40 '-')

/-- What a report recommends in the end. -/
def recommendedActions : List String := [
  "Fix all CRITICAL and HIGH severity issues immediately",
  "Implement comprehensive input validation",
  "Add proper error handling to all routes",
  "Review and update dependencies regularly",
  "Implement automated testing and CI/CD",
  "Add security headers and HTTPS enforcement",
  "Regular security audits and penetration testing"]

/-- Numbered texts. -/
def numbered (texts : List String) : List String :=
  texts.zipIdx.map fun (text, i) => toString (i + 1) ++ ". " ++ text

/-- The heading of a group: its name in upper case, with blanks for underscores. -/
def heading (group : String) : String :=
  String.ofList ((Text.uppercase group.toList).map fun c => if c = '_' then ' ' else c)

/-- The lines of a finding with its number. -/
def findingLines (number : Nat) (f : Finding) : List String :=
  ["\n" ++ toString number ++ ". " ++ f.description, "   File: " ++ f.location.target] ++
  (if 0 < f.location.line then ["   Line: " ++ toString f.location.line] else []) ++
  ["   Category: " ++ f.category.name, "   Recommendation: " ++ f.recommendation] ++
  (if f.snippet.isEmpty then [] else ["   Code: " ++ f.snippet])

/-- The heading of a severity. -/
def severityHeading : Severity → String
  | .critical => "\nCRITICAL SEVERITY:"
  | .high => "\nHIGH SEVERITY:"
  | .medium => "\nMEDIUM SEVERITY:"
  | .low => "\nLOW SEVERITY:"

/-- The lines of a bucket. -/
def bucketLines (b : Bucket) : List String :=
  severityHeading b.severity ::
    b.findings.zipIdx.flatMap fun (f, i) => findingLines (i + 1) f

/-- The lines of a section. -/
def sectionLines (s : Section) : List String :=
  heading s.group :: underline :: s.buckets.flatMap bucketLines ++ [""]

/-- The lines of the counts. -/
def summaryLines (s : Summary) : List String :=
  ["SUMMARY", underline,
    "Total Issues Found: " ++ toString s.total,
    "Critical: " ++ toString s.critical,
    "High: " ++ toString s.high,
    "Medium: " ++ toString s.medium,
    "Low: " ++ toString s.low, ""]

/-- The lines of a report. -/
def lines (r : Report) (title : String) (made : Timestamp) : List String :=
  [banner, title, banner, "Generated: " ++ made.text " ", ""] ++
  summaryLines r.summary ++
  r.sections.flatMap sectionLines ++
  ["RECOMMENDED ACTIONS", underline] ++ numbered recommendedActions ++ [""]

/-- The plain text of a report. -/
def plainText (r : Report) (title : String) (made : Timestamp) : String :=
  String.intercalate "\n" (r.lines title made)

end BackendAudit.Report
