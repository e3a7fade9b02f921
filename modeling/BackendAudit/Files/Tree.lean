import BackendAudit.Files.Fault
import BackendAudit.Files.Path

/-!
# File trees

A tree of directories, files and symbolic links, and the way a path leads through it.  A
path starts from the top of the tree or from the current directory.  What a link points to
takes the place of the link, up to a limit on the links of one path; a directory above the
top is the top itself.

Files and directories say what may be done with them: a directory is listed if it is
readable, and a path leads on from it if it is searchable.
-/

namespace BackendAudit.Files

/-- What may be done with a file or a directory, and what the system says is the size of a
directory. -/
structure Attributes where
  readable : Bool := true
  writable : Bool := true
  searchable : Bool := true
  directorySize : Nat := 4096
  deriving Repr, DecidableEq, Inhabited

/-- A directory, a regular file, a symbolic link or a special file, such as a device.  A
special file gives some bytes when it is read, and nothing stays of what is written to it. -/
inductive Node where
  | file (content : List UInt8) (attributes : Attributes := {})
  | directory (entries : List (Name × Node)) (attributes : Attributes := {})
  | link (target : Path)
  | special (content : List UInt8) (attributes : Attributes := {})
  deriving Inhabited

/-- A place in a tree: the names that lead to it from the top, without links. -/
abbrev Place := List Name

namespace Node

/-- A directory without entries. -/
def empty : Node := .directory []

/-- What may be done with a node; a link says nothing of that. -/
def attributes : Node → Attributes
  | .file _ attributes => attributes
  | .directory _ attributes => attributes
  | .link _ => {}
  | .special _ attributes => attributes

/-- Whether a node is a directory. -/
def isDirectory : Node → Bool
  | .directory _ _ => true
  | _ => false

/-- How many bytes the system says that a node has. -/
def size : Node → Nat
  | .file content _ => content.length
  | .directory _ attributes => attributes.directorySize
  | .link target => target.bytes.length
  | .special _ _ => 0

/-- What is read from a node. -/
def read (n : Node) : Except Fault (List UInt8) :=
  if !n.attributes.readable then .error .denied
  else
    match n with
    | .file content _ => .ok content
    | .special content _ => .ok content
    | _ => .error .isDirectory

/-- Why a node cannot be listed, if it is so. -/
def listFault? : Node → Option Fault
  | .directory _ attributes => if attributes.readable then none else some .denied
  | _ => some .notDirectory

/-- The entry of a directory under a name. -/
def child? (name : Name) : Node → Option Node
  | .directory entries _ => entries.lookup name
  | _ => none

/-- The node at a place. -/
def at? (n : Node) : Place → Option Node
  | [] => some n
  | name :: rest =>
    match n.child? name with
    | none => none
    | some child => child.at? rest

/-- Entries with one of them replaced, or with one more behind them. -/
def setEntry (name : Name) (node : Node) : List (Name × Node) → List (Name × Node)
  | [] => [(name, node)]
  | (other, old) :: rest =>
    if other = name then (name, node) :: rest else (other, old) :: setEntry name node rest

/-- The tree with a node put at a place; what is missing above it is created. -/
def put : Node → Place → Node → Node
  | _, [], new => new
  | .directory entries attributes, name :: rest, new =>
    .directory (setEntry name (put ((entries.lookup name).getD .empty) rest new) entries)
      attributes
  | n, _ :: _, _ => n

/-- Whether names tell the entries of every directory apart, and each is one piece of
a path that says something. -/
def WellFormed : Node → Prop
  | .file _ _ => True
  | .link _ => True
  | .special _ _ => True
  | .directory entries _ =>
    (entries.map Prod.fst).Nodup ∧
      ∀ e ∈ entries, e.1 ≠ [] ∧ e.1 ≠ Name.here ∧ e.1 ≠ Name.up ∧ Name.slash ∉ e.1 ∧
        e.2.WellFormed
decreasing_by
  obtain ⟨name, node⟩ := e
  have := List.sizeOf_lt_of_mem ‹_›
  simp at this ⊢
  omega

end Node

/-- A tree by its top, and the place of the current directory in it. -/
structure Tree where
  top : Node
  work : Place := []
  deriving Inhabited

/-- How many bytes a name may have. -/
def maxNameLength : Nat := 255

/-- How many bytes a path may have. -/
def maxPathLength : Nat := 4095

/-- How many links one path may go through. -/
def maxLinks : Nat := 40

namespace Path

/-- Why a path leads nowhere in any tree, if it is so. -/
def fault? (p : Path) : Option Fault :=
  if p.bytes.contains 0 then some .nulInPath
  else if maxPathLength < p.bytes.length then some .nameTooLong
  else if p.bytes.isEmpty then some .notFound
  else none

/-- The steps of a path.  A slash at the end stands for an empty step, so that only a
directory can be before it. -/
def steps (p : Path) : List Name :=
  (pieces p.bytes).filter (fun piece => !piece.isEmpty) ++ if p.endsWithSlash then [[]] else []

/-- The place where a path starts that is met at a place. -/
def start (p : Path) (place : Place) : Place := if p.isAbsolute then [] else place

end Path

/-- Where a path leads: a place, and the node at it.  The node is absent when only
the last step fails. -/
structure Spot where
  place : Place
  node : Option Node
  deriving Inhabited

namespace Tree

/-- The tree with these entries in its top, which is the current directory. -/
abbrev directory (entries : List (Name × Node)) : Tree := { top := .directory entries }

/-- A tree without any files. -/
abbrev empty : Tree := .directory []

/-- The tree with a node put at a place. -/
def put (t : Tree) (place : Place) (new : Node) : Tree := { t with top := t.top.put place new }

/-- Whether the top is well formed, and the current directory is one. -/
structure WellFormed (t : Tree) : Prop where
  top : t.top.WellFormed
  work : ∃ entries attributes, t.top.at? t.work = some (.directory entries attributes)

/-- Takes the steps of a path from a place.  At a link that is not the end, and at
any link when `follow` is set, `onLink` goes on from the place of the link with its
target and the steps behind it. -/
def walk (t : Tree) (follow : Bool) (onLink : Place → Path → List Name → Except Fault Spot) :
    Place → List Name → Except Fault Spot
  | place, [] => .ok ⟨place, t.top.at? place⟩
  | place, step :: rest =>
    match t.top.at? place with
    | some (.directory entries attributes) =>
      if step = [] then walk t follow onLink place rest
      else if !attributes.searchable then .error .denied
      else if step = Name.here then walk t follow onLink place rest
      else if step = Name.up then walk t follow onLink place.dropLast rest
      else if maxNameLength < step.length then .error .nameTooLong
      else
        match entries.lookup step with
        | none => if rest.isEmpty then .ok ⟨place ++ [step], none⟩ else .error .notFound
        | some (.link target) =>
          if rest.isEmpty && !follow then .ok ⟨place ++ [step], some (.link target)⟩
          else onLink place target rest
        | some _ => walk t follow onLink (place ++ [step]) rest
    | _ => .error .notDirectory

/-- Takes the steps of a path, through so many links at most. -/
def walkThrough (t : Tree) (follow : Bool) : Nat → Place → List Name → Except Fault Spot
  | 0 => walk t follow fun _ _ _ => .error .tooManyLinks
  | links + 1 => walk t follow fun place target rest =>
    walkThrough t follow links (target.start place) (target.steps ++ rest)

/-- Where a path leads. -/
def spot (t : Tree) (follow : Bool) (p : Path) : Except Fault Spot :=
  match p.fault? with
  | some fault => .error fault
  | none => walkThrough t follow maxLinks (p.start t.work) p.steps

/-- The node that a path leads to; its last link is followed if `follow` is set. -/
def find (t : Tree) (follow : Bool) (p : Path) : Except Fault Node :=
  match t.spot follow p with
  | .error e => .error e
  | .ok s =>
    match s.node with
    | none => .error .notFound
    | some n => .ok n

/-- Why the directory that a path leads to cannot be listed, if it is so. -/
def listFault? (t : Tree) (p : Path) : Option Fault :=
  match t.find true p with
  | .error e => some e
  | .ok n => n.listFault?

/-- How many bytes the system says that there are in what a path leads to. -/
def size (t : Tree) (p : Path) : Except Fault Nat := (t.find true p).map Node.size

/-- What is read from the file that a path leads to. -/
def read (t : Tree) (p : Path) : Except Fault (List UInt8) :=
  match t.find true p with
  | .error e => .error e
  | .ok n => n.read

/-- The text of the file that a path leads to. -/
def readText (t : Tree) (p : Path) : Except Fault (List Char) :=
  match t.read p with
  | .error e => .error e
  | .ok bytes =>
    match Text.Utf8.decode bytes with
    | .error _ => .error .notText
    | .ok cs => .ok cs

/-- Whether a path leads to something. -/
def has (t : Tree) (p : Path) : Bool := (t.find true p).isOk

end Tree
end BackendAudit.Files
