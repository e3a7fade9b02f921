import BackendAudit.Report.Document
import BackendAudit.Report.PlainText

/-!
# Formats of reports
-/

namespace BackendAudit

/-- How a report is written. -/
inductive ReportFormat where
  | text
  | json
  deriving Repr, DecidableEq, Inhabited

namespace ReportFormat

def name : ReportFormat → String
  | text => "text"
  | json => "json"

/-- The format that a name stands for, in any case. -/
def ofLenientName? (name : String) : Option ReportFormat :=
  match String.ofList (Text.lowercase name.toList) with
  | "text" => some text
  | "txt" => some text
  | "console" => some text
  | "json" => some json
  | _ => none

end ReportFormat

/-- The report of some results in a format. -/
def Results.render (r : Results) (format : ReportFormat) (title : String) (made : Timestamp) :
    String :=
  match format with
  | .text => (Report.ofResults r).plainText title made
  | .json => ((Report.ofResults r).json title made).prettyText

end BackendAudit
