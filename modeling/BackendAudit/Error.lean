import BackendAudit.Config.Shape
import BackendAudit.Config.Basic
import BackendAudit.Files.Path
import BackendAudit.Files.Fault
import BackendAudit.Url.Fault

/-!
# Errors of a run

A problem with one file or request is reported and the run goes on.  An error is
what a run cannot begin with, or what keeps its results from being delivered.
-/

namespace BackendAudit

/-- Why nothing below a root can be scanned. -/
inductive RootFault where
  | inaccessible (fault : Files.Fault)
  | notDirectory
  deriving Repr, DecidableEq, Inhabited

/-- The wording of a fault. -/
def RootFault.message : RootFault → String
  | inaccessible fault => fault.message
  | notDirectory => "not a directory"

/-- Why a document is no configuration. -/
inductive DocumentFault where
  /-- It breaks the rules of the notation. -/
  | malformed
  /-- A value is not what its setting wants. -/
  | misshapen (fault : Config.ShapeFault)
  deriving Inhabited

/-- Why requests cannot be made for some addresses. -/
inductive AddressFault where
  | base (text : String) (fault : Url.Fault)
  /-- An endpoint cannot be taken relative to a base. -/
  | endpoint (text onto : String) (fault : Url.Fault)
  deriving Repr, DecidableEq, Inhabited

/-- The wording of a fault. -/
def AddressFault.message : AddressFault → String
  | base text fault => "invalid probe base URL '" ++ text ++ "': " ++ fault.message
  | endpoint text onto fault =>
    "cannot join '" ++ text ++ "' onto '" ++ onto ++ "': " ++ fault.message

/-- What an error is about. -/
inductive ErrorKind where
  | config
  | root
  | rule
  | probe
  | output
  | file
  | document
  deriving Repr, DecidableEq, Inhabited

/-- An error. -/
inductive AuditError where
  | config (fault : ConfigFault)
  | address (fault : AddressFault)
  | unknownCategory (name : String)
  | root (path : Files.Path) (fault : RootFault)
  | rule (error : RuleError)
  | output (path : Files.Path) (fault : Files.Fault)
  | file (fault : Files.Fault)
  | document (fault : DocumentFault)
  deriving Inhabited

/-- The text of an error of a kind other than a rule, from what it says. -/
def ErrorKind.message (kind : ErrorKind) (text : String) : String :=
  match kind with
  | config => "Configuration error: " ++ text
  | root => "Scan root is not accessible: " ++ text
  | rule => "Rule error " ++ text
  | probe => "Probe error: " ++ text
  | output => "Output error: " ++ text
  | file => "IO error: " ++ text
  | document => "TOML parse error" ++ text

namespace AuditError

/-- What an error is about. -/
def kind : AuditError → ErrorKind
  | config _ | address _ | unknownCategory _ => .config
  | root _ _ => .root
  | rule _ => .rule
  | output _ _ => .output
  | file _ => .file
  | document _ => .document

/-- What an error says besides its kind. -/
def detail (w : Wording) : AuditError → String
  | config fault => fault.message
  | address fault => fault.message
  | unknownCategory name => "unknown rule category '" ++ name ++ "'"
  | root path fault => path.text ++ ": " ++ fault.message
  | rule e => "(" ++ e.category.name ++ "): " ++ e.fault.message w
  | output path fault => "cannot write '" ++ path.text ++ "': " ++ fault.message
  | file fault => fault.message
  | document _ => ""

/-- The wording of an error. -/
def message (w : Wording) (e : AuditError) : String := e.kind.message (e.detail w)

/-- The status with which a command that ends in an error is left. -/
def exitStatus (_ : AuditError) : Nat := 2

end AuditError
end BackendAudit
