import BackendAudit.Json.Printer
import BackendAudit.Report.Results
import BackendAudit.Report.Timestamp

/-!
# Reports as documents

The title and the time, the counts, and the sections with all fields of their
findings, in object notation.
-/

namespace BackendAudit

/-- A finding as an object. -/
def Finding.json (f : Finding) : Json :=
  .object [
    ("severity", .string f.severity.name),
    ("category", .string f.category.name),
    ("location", .object [
      ("target", .string f.location.target), ("line", .ofNat f.location.line)]),
    ("description", .string f.description),
    ("recommendation", .string f.recommendation),
    ("snippet", .string f.snippet)]

/-- The counts as an object. -/
def Summary.json (s : Summary) : Json :=
  .object [
    ("total", .ofNat s.total), ("critical", .ofNat s.critical), ("high", .ofNat s.high),
    ("medium", .ofNat s.medium), ("low", .ofNat s.low)]

/-- A bucket as an object. -/
def Bucket.json (b : Bucket) : Json :=
  .object
    [("severity", .string b.severity.name), ("findings", .array (b.findings.map Finding.json))]

/-- A section as an object. -/
def Section.json (s : Section) : Json :=
  .object [("group", .string s.group), ("buckets", .array (s.buckets.map Bucket.json))]

/-- A report as an object. -/
def Report.json (r : Report) (title : String) (made : Timestamp) : Json :=
  .object [
    ("title", .string title),
    ("generated_at", .string (made.text "T")),
    ("summary", r.summary.json),
    ("sections", .array (r.sections.map Section.json))]

end BackendAudit
