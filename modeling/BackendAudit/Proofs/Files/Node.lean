import BackendAudit.Files.Tree
import BackendAudit.Proofs.Lookup

/-!
# Nodes and places

Induction over trees, and what a place leads to in a well-formed one.  The entries of a
directory have different names, so looking a name up gives the entry that has it, and a
place leads to one node at most.
-/

namespace BackendAudit.Files

/-- Induction over a tree: what holds of all entries of a directory is carried over to the
directory. -/
theorem Node.inductionOn {motive : Node → Prop} (n : Node)
    (file : ∀ content attributes, motive (.file content attributes))
    (directory : ∀ entries attributes, (∀ e ∈ entries, motive e.2) →
      motive (.directory entries attributes))
    (link : ∀ target, motive (.link target))
    (special : ∀ content attributes, motive (.special content attributes)) : motive n := by
  refine @Node.rec motive (fun entries => ∀ e ∈ entries, motive e.2) (fun e => motive e.2)
    file (fun entries attributes h => directory entries attributes h) link special ?_ ?_ ?_ n
  · intro e he
    cases he
  · intro head tail hhead htail e he
    rcases List.mem_cons.mp he with rfl | he
    · exact hhead
    · exact htail e he
  · intro _ _ h
    exact h

/-! ## What is read -/

theorem Node.read_file (content : List UInt8) (a : Attributes) :
    (Node.file content a).read = if a.readable then .ok content else .error .denied := by
  rw [Node.read, Node.attributes]
  cases a.readable <;> rfl

theorem Node.read_directory (entries : List (Name × Node)) (a : Attributes) :
    (Node.directory entries a).read = .error (if a.readable then .isDirectory else .denied) := by
  unfold Node.read
  rw [Node.attributes]
  cases a.readable <;> rfl

/-! ## Kinds of nodes -/

theorem Node.isDirectory_iff {n : Node} :
    n.isDirectory = true ↔ ∃ entries a, n = .directory entries a := by
  cases n <;> simp [Node.isDirectory]

/-! ## Names that entries can have -/

/-- A name is one piece of a path that says something. -/
def Name.Valid (name : Name) : Prop :=
  name ≠ [] ∧ name ≠ Name.here ∧ name ≠ Name.up ∧ Name.slash ∉ name

instance (name : Name) : Decidable name.Valid :=
  inferInstanceAs (Decidable (_ ∧ _ ∧ _ ∧ _))

theorem Node.wellFormed_directory {entries : List (Name × Node)} {a : Attributes} :
    (Node.directory entries a).WellFormed ↔
      (entries.map Prod.fst).Nodup ∧ ∀ e ∈ entries, e.1.Valid ∧ e.2.WellFormed := by
  rw [Node.WellFormed]
  simp only [Name.Valid, and_assoc]

/-- A directory with one entry. -/
theorem Node.wellFormed_single {name : Name} {n : Node} (hname : name.Valid) (hn : n.WellFormed)
    (a : Attributes := {}) : (Node.directory [(name, n)] a).WellFormed := by
  refine Node.wellFormed_directory.mpr ⟨by simp, fun e he => ?_⟩
  rw [List.mem_singleton.mp he]
  exact ⟨hname, hn⟩

/-! ## Places -/

@[simp]
theorem Node.at?_nil (n : Node) : n.at? [] = some n := rfl

theorem Node.at?_cons (n : Node) (name : Name) (rest : Place) :
    n.at? (name :: rest) = (n.child? name).bind fun child => child.at? rest := by
  rw [Node.at?]
  cases n.child? name <;> rfl

theorem Node.at?_append (n : Node) (place more : Place) :
    n.at? (place ++ more) = (n.at? place).bind fun m => m.at? more := by
  induction place generalizing n with
  | nil => rfl
  | cons name rest ih =>
    rw [List.cons_append, Node.at?_cons, Node.at?_cons]
    cases n.child? name with
    | none => rfl
    | some child => exact ih child

/-- What is below a node by a place is below what is on the way. -/
theorem Node.at?_below {n m : Node} {place : Place} (h : n.at? place = some m) (below : Place) :
    m.at? below = n.at? (place ++ below) := by
  rw [Node.at?_append, h, Option.bind_some]

/-- One name further down from a directory is its entry of that name. -/
theorem Node.at?_concat {n : Node} {place : Place} {entries : List (Name × Node)} {a : Attributes}
    (h : n.at? place = some (.directory entries a)) (name : Name) :
    n.at? (place ++ [name]) = entries.lookup name := by
  rw [← Node.at?_below h, Node.at?_cons, Node.child?]
  cases entries.lookup name <;> rfl

theorem Node.at?_cons_of_lookup {entries : List (Name × Node)} {a : Attributes} {name : Name}
    {child : Node} (hchild : entries.lookup name = some child) (below : Place) :
    (Node.directory entries a).at? (name :: below) = child.at? below := by
  rw [Node.at?_cons, Node.child?, hchild, Option.bind_some]

/-- What a non-empty place leads to lies in a directory. -/
theorem Node.at?_cons_eq_some {n m : Node} {name : Name} {rest : Place} :
    n.at? (name :: rest) = some m ↔
      ∃ entries a child, n = .directory entries a ∧ entries.lookup name = some child ∧
        child.at? rest = some m := by
  rw [Node.at?_cons, Option.bind_eq_some_iff]
  constructor
  · rintro ⟨child, hchild, hrest⟩
    cases n with
    | directory entries a => exact ⟨entries, a, child, rfl, hchild, hrest⟩
    | file content a => cases hchild
    | link target => cases hchild
    | special content a => cases hchild
  · rintro ⟨entries, a, child, rfl, hchild, hrest⟩
    exact ⟨child, hchild, hrest⟩

/-- Only directories have anything at places other than their own. -/
theorem Node.isDirectory_of_at? {n m : Node} {name : Name} {rest : Place}
    (h : n.at? (name :: rest) = some m) : n.isDirectory = true := by
  obtain ⟨entries, _, _, rfl, _⟩ := Node.at?_cons_eq_some.mp h
  rfl

theorem Node.at?_of_not_directory {n m : Node} {place : Place} (h : n.isDirectory = false) :
    n.at? place = some m ↔ place = [] ∧ n = m := by
  cases place with
  | nil => simp
  | cons name rest =>
    refine iff_of_false (fun hat => ?_) (by simp)
    rw [Node.isDirectory_of_at? hat] at h
    cases h

/-- Above what is at a place there are directories. -/
theorem Node.exists_directory_above {n m : Node} {place : Place} (h : n.at? place = some m)
    (hne : place ≠ []) : ∃ entries a, n.at? place.dropLast = some (.directory entries a) := by
  rw [← List.dropLast_append_getLast hne, Node.at?_append] at h
  obtain ⟨above, habove, hlast⟩ := Option.bind_eq_some_iff.mp h
  obtain ⟨entries, a, -, rfl, -⟩ := Node.at?_cons_eq_some.mp hlast
  exact ⟨entries, a, habove⟩

/-- On the way to a directory there are directories. -/
theorem Node.exists_directory_of_leading {n : Node} {names place : Place}
    {entries : List (Name × Node)} {a : Attributes}
    (h : n.at? names = some (.directory entries a)) (hleading : place <+: names) :
    ∃ above b, n.at? place = some (.directory above b) := by
  obtain ⟨rest, rfl⟩ := hleading
  rw [Node.at?_append] at h
  obtain ⟨m, hm, hrest⟩ := Option.bind_eq_some_iff.mp h
  cases rest with
  | nil =>
    cases hrest
    exact ⟨entries, a, hm⟩
  | cons name rest =>
    obtain ⟨above, b, -, rfl, -⟩ := Node.at?_cons_eq_some.mp hrest
    exact ⟨above, b, hm⟩

theorem Node.WellFormed.lookup {entries : List (Name × Node)} {a : Attributes}
    (h : (Node.directory entries a).WellFormed) {name : Name} {child : Node}
    (hchild : entries.lookup name = some child) : name.Valid ∧ child.WellFormed := by
  obtain ⟨hnames, hentries⟩ := Node.wellFormed_directory.mp h
  exact hentries (name, child) ((lookup_eq_some_iff_mem hnames).mp hchild)

/-- A well-formed tree is well formed at every place, and places have valid names. -/
theorem Node.WellFormed.at? {n m : Node} (h : n.WellFormed) {place : Place}
    (hm : n.at? place = some m) : m.WellFormed ∧ ∀ name ∈ place, name.Valid := by
  induction place generalizing n with
  | nil =>
    cases hm
    exact ⟨h, by simp⟩
  | cons name rest ih =>
    obtain ⟨entries, a, child, rfl, hchild, hrest⟩ := Node.at?_cons_eq_some.mp hm
    obtain ⟨hname, hwell⟩ := h.lookup hchild
    obtain ⟨hm, hnames⟩ := ih hwell hrest
    refine ⟨hm, fun other hother => ?_⟩
    rcases List.mem_cons.mp hother with rfl | hother
    · exact hname
    · exact hnames other hother

/-- The last name on the way to a node is valid. -/
theorem Node.WellFormed.getLast?_valid {n m : Node} (h : n.WellFormed) {place : Place}
    (hm : n.at? place = some m) {name : Name} (hname : place.getLast? = some name) :
    name.Valid :=
  (h.at? hm).2 name (List.mem_of_getLast? hname)

/-- A tree whose top is the current directory. -/
theorem Tree.wellFormed_directory {entries : List (Name × Node)}
    (h : (Node.directory entries).WellFormed) : (Tree.directory entries).WellFormed where
  top := h
  work := ⟨entries, {}, rfl⟩

/-! ## What is put at a place -/

theorem lookup_setEntry (name other : Name) (node : Node) (entries : List (Name × Node)) :
    (Node.setEntry name node entries).lookup other =
      if other = name then some node else entries.lookup other := by
  induction entries with
  | nil => rw [Node.setEntry, lookup_cons]
  | cons e rest ih =>
    obtain ⟨first, old⟩ := e
    rw [Node.setEntry]
    by_cases hfirst : first = name
    · subst hfirst
      rw [if_pos rfl, lookup_cons, lookup_cons]
      by_cases hother : other = first <;> simp [hother]
    · rw [if_neg hfirst, lookup_cons, lookup_cons, ih]
      by_cases hother : other = name
      · subst hother
        simp [Ne.symm hfirst]
      · simp [hother]

/-- Below a directory in which something is put, only what is under its name has changed. -/
theorem Node.at?_put_cons (entries : List (Name × Node)) (a : Attributes) (name : Name)
    (rest : Place) (new : Node) (next : Name) (other : Place) :
    ((Node.directory entries a).put (name :: rest) new).at? (next :: other) =
      if next = name then (((entries.lookup name).getD .empty).put rest new).at? other
      else (Node.directory entries a).at? (next :: other) := by
  rw [Node.put, Node.at?_cons, Node.child?, lookup_setEntry, Node.at?_cons, Node.child?]
  split <;> rfl

theorem Node.at?_put_cons_of_lookup {entries : List (Name × Node)} {a : Attributes} {name : Name}
    {child : Node} (hchild : entries.lookup name = some child) (rest : Place) (new : Node)
    (next : Name) (other : Place) :
    ((Node.directory entries a).put (name :: rest) new).at? (next :: other) =
      if next = name then (child.put rest new).at? other
      else (Node.directory entries a).at? (next :: other) := by
  rw [Node.at?_put_cons, hchild, Option.getD_some]

end BackendAudit.Files
