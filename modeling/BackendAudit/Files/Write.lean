import BackendAudit.Files.Tree

/-!
# Changing a tree

Writing a file creates or replaces it, at the end of any links.  What is there already has
to be writable, and so has the directory in which something is created.  Creating a directory
creates those above it that are missing.
-/

namespace BackendAudit.Files

/-- The paths from the top of a tree to what is no directory in it, in no special order. -/
def Node.listing : Node → List Place
  | .directory entries _ => entriesListing entries
  | _ => [[]]
where
  /-- The same for the entries of a directory. -/
  entriesListing : List (Name × Node) → List Place
    | [] => []
    | (name, node) :: rest => node.listing.map (name :: ·) ++ entriesListing rest

namespace Tree

/-- Whether something may be created at a place: the directory above it is writable. -/
def mayCreate (t : Tree) (place : Place) : Bool :=
  match t.top.at? place.dropLast with
  | some n => n.attributes.writable
  | none => false

/-- Whether steps lead to a directory. -/
def leadsDown (t : Tree) (place : Place) (steps : List Name) : Bool :=
  match t.walkThrough true maxLinks place steps with
  | .ok ⟨_, some (.directory _ _)⟩ => true
  | _ => false

/-- Why nothing can be written at a spot, if it is so. -/
def writeFault? (t : Tree) (s : Spot) : Option Fault :=
  match s.node with
  | none => if t.mayCreate s.place then none else some .denied
  | some n =>
    if n.isDirectory then some .isDirectory
    else if n.attributes.writable then none
    else some .denied

/-- Where a file is written, and what is there before.  A path that ends with a
slash is for a directory only. -/
def spotToWrite (t : Tree) (p : Path) : Except Fault Spot :=
  match t.spot true p with
  | .ok s =>
    match t.writeFault? s with
    | some fault => .error fault
    | none => .ok s
  | .error e =>
    if p.endsWithSlash && (e = .notFound || e = .notDirectory) &&
        t.leadsDown (p.start t.work) p.steps.dropLast.dropLast then .error .isDirectory
    else .error e

/-- The tree in which a file that was written has this content.  It keeps its attributes, and
a special file stays what it is. -/
def putContent (t : Tree) (s : Spot) (content : List UInt8) : Tree :=
  match s.node with
  | none => t.put s.place (.file content)
  | some (.file _ attributes) => t.put s.place (.file content attributes)
  | some _ => t

/-- Writes a file; what it had before is lost. -/
def write (t : Tree) (p : Path) (content : List UInt8) : Except Fault Tree :=
  (t.spotToWrite p).map fun s => t.putContent s content

/-- Opens a file to write behind what it has, and creates it if it is not there.  What is opened
stays at its place. -/
def openToAppend (t : Tree) (p : Path) : Except Fault (Tree × Place) :=
  (t.spotToWrite p).map fun s =>
    match s.node with
    | none => (t.put s.place (.file []), s.place)
    | some _ => (t, s.place)

/-- Writes behind what the file at a place has. -/
def appendAt (t : Tree) (place : Place) (content : List UInt8) : Tree :=
  match t.top.at? place with
  | some (.file old attributes) => t.put place (.file (old ++ content) attributes)
  | _ => t

/-- Creates a link. -/
def link (t : Tree) (p target : Path) : Except Fault Tree :=
  (t.spot false p).map fun s => t.put s.place (.link target)

/-- Creates the directory at the end of some steps, unless it is there. -/
def createDirectory (t : Tree) (place : Place) (steps : List Name) : Except Fault Tree :=
  if t.leadsDown place steps then .ok t
  else
    match t.walkThrough false maxLinks place steps with
    | .ok ⟨place, none⟩ => if t.mayCreate place then .ok (t.put place .empty) else .error .denied
    | .ok _ => .error .notDirectory
    | .error e => .error e

/-- Creates the directories along a path that are missing. -/
def createDirectories (t : Tree) (p : Path) : Except Fault Tree :=
  match p.fault? with
  | some fault => .error fault
  | none =>
    (List.range p.steps.length).foldlM
      (fun t i => t.createDirectory (p.start t.work) (p.steps.take (i + 1))) t

/-- The paths of all files and links in a tree, in the order of their bytes. -/
def listing (t : Tree) : List Path :=
  ((t.top.listing.map (Path.descend ⟨[]⟩)).mergeSort fun a b => Name.le a.bytes b.bytes)

end Tree
end BackendAudit.Files
