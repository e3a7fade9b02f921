import BackendAudit.Command.RuleList
import BackendAudit.Files.Write
import BackendAudit.Run.Scan

/-!
# Performing commands

What a command does to the files, what it writes, and the status that it leaves.
-/

namespace BackendAudit

open Files (Tree Path Place)

/-- What a command meets with besides the files. -/
structure Surroundings where
  network : Network
  /-- When it is performed. -/
  made : Timestamp
  wording : Wording
  /-- What it puts into its log. -/
  journal : List UInt8

/-- What a command leaves behind. -/
structure Ending where
  /-- The status that it returns, unless it panics. -/
  status : Ended Nat
  /-- What it writes. -/
  output : String := ""
  /-- The lines of what it has to say besides. -/
  notices : List String := []
  tree : Tree
  deriving Inhabited

/-- The text of lines. -/
def linesText (lines : List String) : String := String.join (lines.map (· ++ "\n"))

/-- The notice of an error. -/
def AuditError.notice (w : Wording) (e : AuditError) : String := "Error: " ++ e.message w

/-- The end of a command with an error. -/
def Ending.ofError (w : Wording) (t : Tree) (notices : List String) (e : AuditError) : Ending :=
  { status := .returned e.exitStatus, notices := notices ++ [e.notice w], tree := t }

/-- The end of a command that panics. -/
def Ending.ofPanic (t : Tree) (notices : List String) : Ending :=
  { status := .panicked, notices, tree := t }

/-! ## The log -/

/-- What comes of opening the log. -/
inductive Log where
  /-- It is the file at a place of a tree. -/
  | opened (t : Tree) (place : Place)
  /-- There is no log, and the command goes on. -/
  | absent
  /-- The log cannot be written, and the command panics. -/
  | broken (t : Tree)
  deriving Inhabited

/-- The path by which a log is opened, if there is to be one. -/
def logPath? (p : Path) : Option Path := p.fileName?.map fun name => p.parent.join ⟨name⟩

/-- Opens the log, and creates it if it is not there.  Only that its directory cannot be created
is a reason to go on without one. -/
def openLog (t : Tree) (p : Path) : Log :=
  match logPath? p with
  | none => .absent
  | some log =>
    match t.createDirectories p.parent with
    | .error _ => .absent
    | .ok t =>
      match t.openToAppend log with
      | .ok (t, place) => .opened t place
      | .error _ => .broken t

/-- The notice that there is no log. -/
def noLogNotice (p : Path) : String := "Warning: cannot log to '" ++ p.text ++ "'"

/-- The end of a command whose log is at a place, with the journal of the command in it. -/
def Ending.logged (e : Ending) (place : Place) (journal : List UInt8) : Ending :=
  { e with tree := e.tree.appendAt place journal }

/-! ## Scans -/

/-- The format that a name stands for, and what there is to say if it stands for none. -/
def reportFormatFor (name : String) : ReportFormat × List String :=
  match ReportFormat.ofLenientName? name with
  | some format => (format, [])
  | none => (.text, ["Warning: unknown format '" ++ name ++ "', using text"])

/-- Delivers a report: into its file first, and then as what the command writes. -/
def deliver (w : Wording) (t : Tree) (notices : List String) (file : Path) (text : String) :
    Ending :=
  match t.write file (Text.Utf8.encode text.toList) with
  | .error fault => .ofError w t notices (.output file fault)
  | .ok t => { status := .returned 0, output := text, notices, tree := t }

/-- Scans with a configuration that is loaded, once the log is opened. -/
def ScanRequest.performWith (s : Surroundings) (r : ScanRequest) (format : ReportFormat)
    (c : Config) (t : Tree) (notices : List String) : Ending :=
  match (scanWith s.wording s.network t r.root c).result with
  | .error e => .ofError s.wording t notices e
  | .ok .panicked => .ofPanic t notices
  | .ok (.returned report) =>
    deliver s.wording t notices (r.report.getD (.ofString c.output.reportFile))
      (report.render format s.made)

/-- Scans and delivers the report. -/
def ScanRequest.perform (s : Surroundings) (t : Tree) (r : ScanRequest) : Ending :=
  let (format, notices) := reportFormatFor r.format
  match Config.load t r.root r.options with
  | .error e => .ofError s.wording t notices e
  | .ok c =>
    let logFile := Path.ofString c.output.logFile
    match openLog t logFile with
    | .broken t => .ofPanic t notices
    | .opened t place => (r.performWith s format c t notices).logged place s.journal
    | .absent => r.performWith s format c t (notices ++ [noLogNotice logFile])

/-! ## Other commands -/

/-- Shows the list of rules. -/
def RuleListRequest.perform (w : Wording) (t : Tree) (r : RuleListRequest) : Ending :=
  match r.rules with
  | .error e => .ofError w t [] e
  | .ok rules => { status := .returned 0, output := linesText (r.lines rules), tree := t }

/-- Creates a configuration. -/
def createConfig (w : Wording) (t : Tree) (force : Bool) : Ending :=
  let file := Path.ofString Config.fileName
  if t.has file && !force then
    { status := .returned 1, tree := t
      notices := [Config.fileName ++ " already exists. Use --force to overwrite."] }
  else
    match t.write file (Text.Utf8.encode Config.starter.toList) with
    | .error fault => .ofError w t [] (.file fault)
    | .ok t =>
      { status := .returned 0, output := linesText ["Created " ++ Config.fileName], tree := t }

namespace Command

/-- The name and the version of the program. -/
def versionText : String := "bugsweep 0.1.0"

/-- How the program is used. -/
def usageLines : List String := [
  "Usage: bugsweep <COMMAND>",
  "",
  "Commands:",
  "  scan [PATH] [-c FILE] [-f FORMAT] [-o FILE] [--probe] [-v]",
  "  list-rules [-f FORMAT] [--category NAME]",
  "  init [--force]"]

/-- The status of a command that is misused. -/
def misuseStatus : Nat := 2

/-- Performs a command. -/
def perform (s : Surroundings) (t : Tree) : Command → Ending
  | .scan request => request.perform s t
  | .listRules request => request.perform s.wording t
  | .createConfig force => BackendAudit.createConfig s.wording t force
  | .showVersion => { status := .returned 0, output := linesText [versionText], tree := t }
  | .showHelp => { status := .returned 0, output := linesText usageLines, tree := t }

/-- Performs the command that arguments ask for. -/
def performArguments (s : Surroundings) (t : Tree) (args : List String) : Ending :=
  match ofArguments? args with
  | none => { status := .returned misuseStatus, notices := usageLines, tree := t }
  | some command => command.perform s t

end Command
end BackendAudit
