import BackendAudit.Audit.Env
import BackendAudit.Audit.Manifest
import BackendAudit.Run.Source

/-!
# Manifests and environment files

Which files below a root are manifests or environment files, and what comes of
checking each.  All manifests come before the environment files.
-/

namespace BackendAudit

open Files (Tree Path Name)

/-- The name of a manifest. -/
def Manifest.fileName : Name := Name.ofString "package.json"

/-- Whether a path is that of a manifest. -/
def Manifest.isManifest (path : Path) : Bool :=
  path.fileName? == some Manifest.fileName

/-- What the name of an environment file begins with. -/
def Env.namePart : List Char := ".env".toList

/-- Whether a path is that of an environment file. -/
def Env.isEnvFile (path : Path) : Bool :=
  match path.fileName? with
  | some name => Env.namePart.isPrefixOf (Text.Utf8.lossy name)
  | none => false

/-- Checks a manifest. -/
def auditManifest (w : Wording) (t : Tree) (path : Path) : Outcome :=
  match t.readText path with
  | .error fault => .skipped path.text fault.message
  | .ok cs =>
    match Manifest.check path.text (String.ofList cs) with
    | .error fault => .skipped path.text (fault.message w (String.ofList cs))
    | .ok findings => .scanned path.text findings

/-- Checks an environment file. -/
def auditEnvFile (t : Tree) (path : Path) : Outcome :=
  match t.readText path with
  | .error fault => .skipped path.text fault.message
  | .ok cs => .scanned path.text (Env.check path.text (String.ofList cs))

/-- Checks all manifests and environment files below a root. -/
def auditSettings (w : Wording) (t : Tree) (c : ScanConfig) (root : Path) : Traced (List Outcome) :=
  let manifests := filesMatching t c root Manifest.isManifest
  let envFiles := filesMatching t c root Env.isEnvFile
  let outcomes :=
    (walked manifests).map (auditManifest w t) ++ (walked envFiles).map (auditEnvFile t)
  { events := walkEvents root manifests ++ walkEvents root envFiles ++
      .targetsDiscovered .configValidation ((walked manifests).length + (walked envFiles).length) ::
        outcomes.map Outcome.event
    result := outcomes }

end BackendAudit
