import BackendAudit.Config.Document
import BackendAudit.Config.Starter
import BackendAudit.Error
import BackendAudit.Files.Tree
import BackendAudit.Toml.Parser

/-!
# Loading a configuration

A configuration is in a file of its own, or else in the file of that purpose in the
root.  Without the file all settings have their defaults.
-/

namespace BackendAudit

/-- What may be asked of a run besides its configuration. -/
structure Options where
  /-- The file of the configuration, if it is not the one in the root. -/
  configPath : Option Files.Path := none
  /-- Whether endpoints are probed even if the configuration does not say so. -/
  probe : Bool := false
  deriving Repr, DecidableEq, Inhabited

namespace Config

/-- The configuration that a text states. -/
def ofText (cs : List Char) : Except AuditError Config :=
  match Toml.parse? cs with
  | none => .error (.document .malformed)
  | some document =>
    match ofDocument document with
    | .error fault => .error (.document (.misshapen fault))
    | .ok c => .ok c

/-- The configuration itself, if it is accepted. -/
def check (c : Config) : Except AuditError Config :=
  match c.fault? with
  | some fault => .error (.config fault)
  | none => .ok c

/-- The configuration in a file. -/
def read (t : Files.Tree) (path : Files.Path) : Except AuditError Config :=
  if !t.has path then .ok {}
  else match t.readText path with
    | .error fault => .error (.file fault)
    | .ok cs =>
      match ofText cs with
      | .error e => .error e
      | .ok c => c.check

/-- The file that holds the configuration of a run. -/
def pathFor (root : Files.Path) (options : Options) : Files.Path :=
  options.configPath.getD (root.join (.ofString fileName))

/-- The configuration of a run. -/
def load (t : Files.Tree) (root : Files.Path) (options : Options) : Except AuditError Config :=
  (read t (pathFor root options)).map fun c =>
    if options.probe then { c with probe := { c.probe with enabled := true } } else c

end Config
end BackendAudit
