import BackendAudit.Files.Tree

/-!
# Walking a tree

What is below a root, with the entries of a directory in the order of their names.  A
directory with an excluded name is passed over, unless it is the root.  Any other one is
listed by its path, which may be too long for it, and is entered if it can be.  A link is
neither a file nor a directory, unless it is the root and leads to a directory, and a
special file is never a file.
-/

namespace BackendAudit.Files

/-- Results for the entries of a directory, in the order of the names. -/
def inNameOrder {α : Type} (results : List (Name × α)) : List (Name × α) :=
  results.mergeSort fun a b => a.1.le b.1

/-- What a walk comes upon: a regular file, or a directory that cannot be listed. -/
inductive Sight (α : Type) where
  | file (position : α)
  | closed (position : α) (fault : Fault)
  deriving Repr, DecidableEq

namespace Sight

variable {α β : Type}

/-- The same as seen from elsewhere. -/
def map (f : α → β) : Sight α → Sight β
  | file position => file (f position)
  | closed position fault => closed (f position) fault

/-- Where it is. -/
def position : Sight α → α
  | file position => position
  | closed position _ => position

/-- Where the file is, if it is one. -/
def file? : Sight α → Option α
  | file position => some position
  | closed _ _ => none

/-- Whether it stays when files are picked. -/
def keptBy (pick : α → Bool) : Sight α → Bool
  | file position => pick position
  | closed _ _ => true

/-- What a walk comes upon in an entry of a directory, if it would come upon so much below
the entry: if that is a directory that cannot be listed, only that. -/
def inEntry (name : Name) (fault? : Option Fault) (below : List (Sight Place)) :
    List (Sight Place) :=
  match fault? with
  | some fault => [.closed [name] fault]
  | none => below.map (map (name :: ·))

end Sight

mutual

/-- What a walk comes upon below a node, with the places seen from it. -/
def Node.sights (excluded : Name → Bool) (listFault? : Place → Option Fault) :
    Node → List (Sight Place)
  | .file _ _ => [.file []]
  | .link _ => []
  | .special _ _ => []
  | .directory entries _ =>
    (inNameOrder (entrySights excluded listFault? entries)).flatMap Prod.snd

/-- For each entry of a directory, what a walk comes upon there and below, with the
places seen from the directory. -/
def entrySights (excluded : Name → Bool) (listFault? : Place → Option Fault) :
    List (Name × Node) → List (Name × List (Sight Place))
  | [] => []
  | (name, node) :: rest =>
    (name,
      if node.isDirectory && excluded name then []
      else
        Sight.inEntry name (if node.isDirectory then listFault? [name] else none)
          (node.sights excluded fun place => listFault? (name :: place))) ::
      entrySights excluded listFault? rest

end

namespace Tree

/-- The node that a walk starts from.  If it is a directory it can be listed. -/
def walkRoot (t : Tree) (root : Path) : Except Fault Node :=
  match t.find false root with
  | .error e => .error e
  | .ok (.link target) =>
    match t.find true root with
    | .error e => .error e
    | .ok n => if n.isDirectory then opened n else .ok (.link target)
  | .ok n => opened n
where
  /-- The node itself, unless it is a directory that cannot be listed. -/
  opened (n : Node) : Except Fault Node :=
    if n.isDirectory then
      match n.listFault? with
      | some fault => .error fault
      | none => .ok n
    else .ok n

/-- What a walk comes upon below a root, by paths. -/
def survey (t : Tree) (excluded : Name → Bool) (root : Path) :
    Except Fault (List (Sight Path)) :=
  (t.walkRoot root).map fun n =>
    (n.sights excluded fun place => t.listFault? (root.descend place)).map
      (Sight.map root.descend)

end Tree
end BackendAudit.Files
