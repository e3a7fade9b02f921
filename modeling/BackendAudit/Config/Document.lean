import BackendAudit.Config.Basic
import BackendAudit.Config.Shape

/-!
# Configurations as documents

The settings of a configuration under their keys, in three tables and a list of
rules.
-/

namespace BackendAudit.Config

open BackendAudit.Toml (Value Entries)

/-- Reads a list of texts. -/
def readTexts : Value → Except ShapeFault (List String) := readList readText

/-- The fields of the settings of a scan. -/
def scanFields : List (Field ScanConfig) := [
  .of "extensions" readTexts fun c x => { c with extensions := x },
  .of "exclude_dirs" readTexts fun c x => { c with excludeDirs := x },
  .of "workers" (readNat .count) fun c x => { c with workers := some x },
  .of "max_file_bytes" (readNat .measure) fun c x => { c with maxFileBytes := x }]

/-- The fields of the settings of the output. -/
def outputFields : List (Field OutputConfig) := [
  .of "title" readText fun c x => { c with title := x },
  .of "report_file" readText fun c x => { c with reportFile := x },
  .of "log_file" readText fun c x => { c with logFile := x }]

/-- The fields of the settings of a probe. -/
def probeFields : List (Field ProbeConfig) := [
  .of "enabled" readTruth fun c x => { c with enabled := x },
  .of "base_urls" readTexts fun c x => { c with baseUrls := x },
  .of "endpoints" readTexts fun c x => { c with endpoints := x },
  .of "sql_payloads" readTexts fun c x => { c with sqlPayloads := x },
  .of "xss_payloads" readTexts fun c x => { c with xssPayloads := x },
  .of "request_timeout_secs" (readNat .measure) fun c x => { c with requestTimeout := x },
  .of "run_timeout_secs" (readNat .measure) fun c x => { c with runTimeout := x },
  .of "concurrency" (readNat .count) fun c x => { c with concurrency := x }]

/-! ## Rules -/

/-- A rule whose fields are not all there yet. -/
structure RuleDraft where
  category : Option Category := none
  severity : Option Severity := none
  description : Option String := none
  remediation : Option String := none
  patterns : Option (List String) := none

/-- The fields of a rule. -/
def ruleFields : List (Field RuleDraft) := [
  .of "category" (readName (Category.all.map fun c => (c.name, c)))
    fun r x => { r with category := some x },
  .of "severity" (readName (Severity.all.map fun s => (s.name, s)))
    fun r x => { r with severity := some x },
  .of "description" readText fun r x => { r with description := some x },
  .of "remediation" readText fun r x => { r with remediation := some x },
  .of "patterns" readTexts fun r x => { r with patterns := some x }]

/-- The rule of a draft.  A remediation may be missing; `missing` gives the fault for
any other field, with its place and its key. -/
def RuleDraft.finish (d : RuleDraft) (missing : Nat → String → ShapeFault) :
    Except ShapeFault CustomRule :=
  match d.category, d.severity, d.description, d.patterns with
  | none, _, _, _ => .error (missing 0 "category")
  | some _, none, _, _ => .error (missing 1 "severity")
  | some _, some _, none, _ => .error (missing 2 "description")
  | some _, some _, some _, none => .error (missing 4 "patterns")
  | some category, some severity, some description, some patterns =>
    .ok ⟨category, severity, description, d.remediation.getD "", patterns⟩

/-- Reads a rule. -/
def readRule (value : Value) : Except ShapeFault CustomRule := do
  let draft ← readRecord "CustomRule" ruleFields {} value
  draft.finish fun place key =>
    match items? value with
    | some _ => .tooShort place "CustomRule" ruleFields.length
    | none => .missing key

/-! ## All settings -/

/-- The fields of a configuration. -/
def fields : List (Field Config) := [
  .of "scan" (readRecord "ScanConfig" scanFields {}) fun c x => { c with scan := x },
  .of "output" (readRecord "OutputConfig" outputFields {}) fun c x => { c with output := x },
  .of "probe" (readRecord "ProbeConfig" probeFields {}) fun c x => { c with probe := x },
  .of "rules" (readList readRule) fun c x => { c with rules := x }]

/-- The configuration of a document. -/
def ofDocument (document : Entries) : Except ShapeFault Config :=
  readEntries fields {} document

end BackendAudit.Config
