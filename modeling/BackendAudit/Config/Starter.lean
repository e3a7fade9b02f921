import BackendAudit.Config.Basic

/-!
# The first configuration of a project

A document that states the defaults, with comments, for a project to begin with.
-/

namespace BackendAudit.Config

/-- The name of the file that holds the configuration of a root. -/
def fileName : String := ".bugsweep.toml"

/-- The lines of the document. -/
def starterLines : List String := [
  "# bugsweep configuration",
  "",
  "[scan]",
  "# File extensions to scan (without the dot).",
  "extensions = [\"js\"]",
  "# Directory names skipped entirely, at any depth.",
  "exclude_dirs = [\"node_modules\"]",
  "# workers = 8",
  "max_file_bytes = 1048576",
  "",
  "[output]",
  "title = \"BACKEND BUG DETECTION REPORT\"",
  "report_file = \"bug_detection_report.txt\"",
  "log_file = \"bug_detection.log\"",
  "",
  "[probe]",
  "# Live endpoint probing sends requests to the services below.",
  "enabled = false",
  "base_urls = [\"http://localhost:4021\", \"http://localhost:4000\"]",
  "request_timeout_secs = 10",
  "run_timeout_secs = 120",
  "concurrency = 16",
  "",
  "# Extra pattern rules.",
  "# [[rules]]",
  "# category = \"logic_errors\"",
  "# severity = \"medium\"",
  "# description = \"Debugger statement left in code\"",
  "# remediation = \"Remove debugger statements before shipping\"",
  "# patterns = ['\\bdebugger\\b']"]

/-- The document. -/
def starter : String := String.join (starterLines.map fun line => line ++ "\n")

end BackendAudit.Config
