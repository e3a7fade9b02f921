import BackendAudit.Config.Basic
import BackendAudit.Error
import BackendAudit.Files.Walk
import BackendAudit.Run.Workers

/-!
# Source files

Which files below a root are source files, and what comes of scanning each.  A file
that is too large, that cannot be read or that is not a text is skipped; the size
is looked at first.  The files are scanned by several workers (`scanAll`).
-/

namespace BackendAudit

open Files (Tree Path Name Sight)

/-- Whether a run can begin at a root: it leads to a directory, and this can be listed. -/
def checkRoot (t : Tree) (root : Path) : Except AuditError Unit :=
  match t.find true root with
  | .error fault => .error (.root root (.inaccessible fault))
  | .ok n =>
    if !n.isDirectory then .error (.root root .notDirectory)
    else
      match t.listFault? root with
      | some fault => .error (.root root (.inaccessible fault))
      | none => .ok ()

namespace ScanConfig

/-- Whether directories with a name are not entered. -/
def excludes (c : ScanConfig) (name : Name) : Bool :=
  c.excludeDirs.any fun excluded => Name.ofString excluded == name

/-- Whether a path has an extension that is scanned. -/
def isSource (c : ScanConfig) (path : Path) : Bool :=
  match path.extension? with
  | none => false
  | some extension =>
    let extension := Text.lowercase (Text.Utf8.lossy extension)
    c.extensions.any fun e => Text.lowercase e.toList == extension

end ScanConfig

/-- What a walk comes upon below a root, but for the files that are not picked. -/
def filesMatching (t : Tree) (c : ScanConfig) (root : Path) (pick : Path → Bool) :
    Except Files.Fault (List (Sight Path)) :=
  (t.survey c.excludes root).map fun sights => sights.filter (Sight.keptBy pick)

/-- The text of a fault that keeps a walk from a directory. -/
def walkFaultText (path : Path) (fault : Files.Fault) : String :=
  "IO error for operation on " ++ path.text ++ ": " ++ fault.message

/-- What is told about something that a walk comes upon: a directory as skipped. -/
def sightEvent? : Sight Path → Option Event
  | .file _ => none
  | .closed path fault => some (.targetSkipped path.text (walkFaultText path fault))

/-- The files of a walk; none if it cannot begin. -/
def walked (walk : Except Files.Fault (List (Sight Path))) : List Path :=
  match walk with
  | .ok sights => sights.filterMap Sight.file?
  | .error _ => []

/-- What is told about a walk: the directories that it cannot list as skipped, or its root
if it cannot begin. -/
def walkEvents (root : Path) (walk : Except Files.Fault (List (Sight Path))) : List Event :=
  match walk with
  | .ok sights => sights.filterMap sightEvent?
  | .error fault => [.targetSkipped root.text (walkFaultText root fault)]

/-- Why a file is skipped by a scan. -/
inductive ScanFault where
  | unreadable (fault : Files.Fault)
  | tooLarge (size limit : Nat)
  | notText (fault : Text.Utf8.Fault)
  deriving Repr, DecidableEq, Inhabited

/-- The wording of a fault. -/
def ScanFault.message : ScanFault → String
  | unreadable fault => fault.message
  | tooLarge size limit => "file is " ++ toString size ++ " bytes, limit is " ++ toString limit
  | notText fault => "not valid UTF-8: " ++ fault.message

/-- The content of a source file, if it is to be scanned. -/
def sourceContent (t : Tree) (maxFileBytes : Nat) (path : Path) :
    Except ScanFault (List Char) :=
  match t.size path with
  | .error fault => .error (.unreadable fault)
  | .ok size =>
    if maxFileBytes < size then .error (.tooLarge size maxFileBytes)
    else
      match t.read path with
      | .error fault => .error (.unreadable fault)
      | .ok bytes =>
        match Text.Utf8.decode bytes with
        | .error fault => .error (.notText fault)
        | .ok cs => .ok cs

/-- Scans a source file. -/
def scanFile (t : Tree) (registry : Registry) (maxFileBytes : Nat) (path : Path) : Outcome :=
  match sourceContent t maxFileBytes path with
  | .error fault => .skipped path.text fault.message
  | .ok cs => .scanned path.text (registry.scan path.text (String.ofList cs))

/-- The source files below a root. -/
def sourceFiles (t : Tree) (c : ScanConfig) (root : Path) :
    Except Files.Fault (List (Sight Path)) :=
  filesMatching t c root c.isSource

/-- How many workers scan the source files.  A configuration that does not say it leaves it to the
machine; what comes of the files is the same for any number of them. -/
def ScanConfig.workerCount (c : ScanConfig) : Nat := max 1 (c.workers.getD 1)

/-- Scans all source files below a root. -/
def scanSources (t : Tree) (c : ScanConfig) (registry : Registry) (root : Path) :
    Traced (List Outcome) :=
  let walk := sourceFiles t c root
  let outcomes := scanAll c.workerCount (scanFile t registry c.maxFileBytes) (walked walk)
  { events := walkEvents root walk ++
      .targetsDiscovered .staticAnalysis (walked walk).length :: outcomes.map Outcome.event
    result := outcomes }

end BackendAudit
