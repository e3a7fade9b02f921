import BackendAudit.Rule.Basic

/-!
# Configurations

What a run is to do: which files it scans, where its report goes, which services it
probes, and the rules that are added to the built-in ones.  Each setting has a
default, and a configuration is accepted when a run can do something with it.
-/

namespace BackendAudit

/-- Which files are scanned. -/
structure ScanConfig where
  /-- The extensions of source files, in any case. -/
  extensions : List String := ["js"]
  /-- The names of directories that are not entered. -/
  excludeDirs : List String := ["node_modules"]
  /-- How many files are scanned at a time; absent for as many as the machine can. -/
  workers : Option Nat := none
  /-- The size in bytes above which a source file is skipped. -/
  maxFileBytes : Nat := 1048576
  deriving Repr, DecidableEq, Inhabited

/-- Where the results go. -/
structure OutputConfig where
  /-- The heading of the report. -/
  title : String := "BACKEND BUG DETECTION REPORT"
  reportFile : String := "bug_detection_report.txt"
  logFile : String := "bug_detection.log"
  deriving Repr, DecidableEq, Inhabited

/-- Which services are probed, and how. -/
structure ProbeConfig where
  enabled : Bool := false
  baseUrls : List String := ["http://localhost:4021", "http://localhost:4000"]
  endpoints : List String := ["/api/auth/login", "/api/users", "/api/disputes", "/health", "/"]
  sqlPayloads : List String := ["'; DROP TABLE users; --", "1' OR '1'='1", "admin'--"]
  xssPayloads : List String :=
    ["<script>alert('xss')</script>", "javascript:alert('xss')", "<img src=x onerror=alert('xss')>"]
  /-- How many seconds a request may take. -/
  requestTimeout : Nat := 10
  /-- How many seconds all requests may take. -/
  runTimeout : Nat := 120
  /-- How many requests may be under way at a time. -/
  concurrency : Nat := 16
  deriving Repr, DecidableEq, Inhabited

/-- The configuration of a run. -/
structure Config where
  scan : ScanConfig := {}
  output : OutputConfig := {}
  probe : ProbeConfig := {}
  /-- Rules in addition to the built-in ones. -/
  rules : List CustomRule := []
  deriving Repr, DecidableEq, Inhabited

/-- Why a configuration is not accepted. -/
inductive ConfigFault where
  | noExtensions
  | noWorkers
  | noConcurrency
  | noTime
  deriving Repr, DecidableEq, Inhabited

/-- The wording of a fault. -/
def ConfigFault.message : ConfigFault → String
  | noExtensions => "scan.extensions must not be empty"
  | noWorkers => "scan.workers must be at least 1"
  | noConcurrency => "probe.concurrency must be at least 1"
  | noTime => "probe timeouts must be at least 1 second"

/-- The first fault of a configuration, if it has any. -/
def Config.fault? (c : Config) : Option ConfigFault :=
  if c.scan.extensions = [] then some .noExtensions
  else if c.scan.workers = some 0 then some .noWorkers
  else if c.probe.concurrency = 0 then some .noConcurrency
  else if c.probe.requestTimeout = 0 ∨ c.probe.runTimeout = 0 then some .noTime
  else none

end BackendAudit
