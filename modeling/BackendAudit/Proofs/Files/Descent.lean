import BackendAudit.Proofs.Files.Path
import BackendAudit.Proofs.Files.Root
import Mathlib.Data.List.Basic

/-!
# Files below a root

A walk comes upon a file or a directory at a place below its root, which is then read or listed
by the root joined with that place.  The path goes on where the root has led to, so that what is
found is what is at that place (`Tree.find_join`): nothing else in the tree counts, and neither
do the links that the root has gone through.

There are two groups of facts.

* The steps of a joined path are those of the root, with those of the place behind them
  (`Path.steps_join`).  Its last name is the last one of the place
  (`Path.fileName?_join`).
* The walk of a root that leads to a directory goes on from there down to the place.  It fails
  only for what the joined path itself is like, or for a directory on the way that cannot be
  searched (`Path.faultAt?`, `Path.faultAt?_eq_none_iff`).
-/

namespace BackendAudit.Files

namespace Path

/-! ## Steps of a joined path -/

/-- A slash divides the pieces before it from those behind it. -/
theorem pieces_append_cons_slash (before after : List UInt8) :
    pieces (before ++ Name.slash :: after) = pieces before ++ pieces after := by
  induction before with
  | nil => exact pieces_append_slash (by simp) after
  | cons b before ih =>
    rw [List.cons_append, pieces_cons, ih, pieces_cons]
    cases hpieces : pieces before with
    | nil => exact absurd hpieces (pieces_ne_nil before)
    | cons piece rest =>
      rw [List.cons_append, pieces.step, pieces.step]
      split <;> rfl

/-- The pieces of a path that are not empty. -/
def solidPieces (p : Path) : List Name :=
  (pieces p.bytes).filter fun piece => !piece.isEmpty

theorem filter_isEmpty_place {place : Place} (h : ∀ name ∈ place, name.Valid) :
    place.filter (fun piece => !piece.isEmpty) = place := by
  refine List.filter_eq_self.mpr fun name hname => ?_
  have hne : name ≠ [] := (h name hname).1
  simp [hne]

theorem solidPieces_join (root : Path) {place : Place} (hne : place ≠ [])
    (h : ∀ name ∈ place, name.Valid) :
    (root.join (relative place)).solidPieces = root.solidPieces ++ place := by
  have hplace : pieces (relative place).bytes = place := pieces_relative hne h
  rw [solidPieces, solidPieces, join_of_not_isAbsolute root (not_isAbsolute_relative h)]
  by_cases hempty : root.bytes = []
  · have hnil : pieces [] = [[]] := rfl
    simp [hempty, hnil, hplace, filter_isEmpty_place h]
  by_cases hslash : root.endsWithSlash = true
  · -- the slash of the root divides the two paths
    obtain ⟨before, hbefore⟩ : ∃ before, root.bytes = before ++ [Name.slash] := by
      have hlast : root.bytes.getLast? = some Name.slash := by simpa [endsWithSlash] using hslash
      exact ⟨root.bytes.dropLast, (List.dropLast_append_getLast? _ hlast).symm⟩
    have hjoined : pieces (root.bytes ++ (relative place).bytes) = pieces before ++ place := by
      rw [hbefore, List.append_assoc, List.singleton_append, pieces_append_cons_slash, hplace]
    have hroot : pieces root.bytes = pieces before ++ [[]] := by
      rw [hbefore, pieces_append_cons_slash]
      rfl
    simp [hslash, hjoined, hroot, filter_isEmpty_place h]
  · have hjoined : pieces (root.bytes ++ Name.slash :: (relative place).bytes) =
        pieces root.bytes ++ place := by
      rw [pieces_append_cons_slash, hplace]
    simp [hempty, hslash, hjoined, filter_isEmpty_place h]

theorem endsWithSlash_join (root : Path) {place : Place} (hne : place ≠ [])
    (h : ∀ name ∈ place, name.Valid) : (root.join (relative place)).endsWithSlash = false := by
  have hlast : (place.getLast hne).Valid := h _ (List.getLast_mem hne)
  rw [← descend_eq_join root hne h, descend, ← List.dropLast_append_getLast hne,
    List.foldl_append, List.foldl_cons, List.foldl_nil]
  exact (Bool.or_eq_false_iff.mp (join_name_open _ hlast)).2

/-- A joined path takes the steps of its root, but for the one of a slash at its end, and
then those of the place. -/
theorem steps_join (root : Path) {place : Place} (hne : place ≠ [])
    (h : ∀ name ∈ place, name.Valid) :
    (root.join (relative place)).steps = root.solidPieces ++ place := by
  have hsolid := solidPieces_join root hne h
  rw [solidPieces] at hsolid
  rw [steps, hsolid, endsWithSlash_join root hne h]
  simp

/-- The file name of a joined path is the last name of the place. -/
theorem fileName?_join (root : Path) {place : Place} (hne : place ≠ [])
    (h : ∀ name ∈ place, name.Valid) :
    (root.join (relative place)).fileName? = place.getLast? := by
  have hnames : (root.join (relative place)).names =
      (root.solidPieces.filter (· != Name.here)) ++ place := by
    have hplace : place.filter (· != Name.here) = place :=
      List.filter_eq_self.mpr fun name hname => by simpa using (h name hname).2.1
    have hsolid := solidPieces_join root hne h
    rw [solidPieces] at hsolid
    rw [names, ← List.filter_filter, List.filter_comm, hsolid, List.filter_append, hplace]
  have hlast : place.getLast? = some (place.getLast hne) := List.getLast?_eq_some_getLast hne
  have hvalid : (place.getLast hne).Valid := h _ (List.getLast_mem hne)
  rw [fileName?, hnames, List.getLast?_append, hlast]
  simp [hvalid.2.2.1]

/-! ## Slashes at the end of a path -/

theorem pieces_replicate_slash (n : Nat) :
    pieces (List.replicate n Name.slash) = List.replicate (n + 1) [] := by
  induction n with
  | zero => rfl
  | succ n ih =>
    rw [List.replicate_succ, pieces_cons, ih, List.replicate_succ, pieces.step, if_pos rfl,
      ← List.replicate_succ, ← List.replicate_succ]

theorem endsWithSlash_append_slashes (bytes : List UInt8) (n : Nat) :
    (⟨bytes ++ List.replicate (n + 1) Name.slash⟩ : Path).endsWithSlash = true := by
  simp [endsWithSlash, List.replicate_succ']

/-- Slashes behind a name stand for one empty step. -/
theorem steps_append_slashes {name : Name} (h : name.Valid) (n : Nat) :
    (⟨name ++ List.replicate (n + 1) Name.slash⟩ : Path).steps = [name, []] := by
  have hplace : ∀ other ∈ ([name] : Place), other.Valid := by simpa using h
  have hsolid : [name].filter (fun piece => !piece.isEmpty) = [name] := filter_isEmpty_place hplace
  rw [steps, endsWithSlash_append_slashes, List.replicate_succ, pieces_append_cons_slash,
    pieces_of_not_mem h.2.2.2, pieces_replicate_slash, List.filter_append, hsolid,
    List.filter_replicate]
  rfl

/-! ## Paths that cannot be followed -/

theorem fault?_eq_none_iff {p : Path} :
    p.fault? = none ↔ 0 ∉ p.bytes ∧ p.bytes.length ≤ maxPathLength ∧ p.bytes ≠ [] := by
  rw [fault?]
  by_cases hnul : 0 ∈ p.bytes
  · simp [hnul]
  by_cases hlength : maxPathLength < p.bytes.length
  · simp [hnul, hlength, Nat.not_le.mpr hlength]
  · simp [hnul, hlength, Nat.not_lt.mp hlength]

/-- A path that leads somewhere has no fault of its own. -/
theorem fault?_eq_none_of_find {t : Tree} {follow : Bool} {p : Path} {n : Node}
    (h : Tree.find t follow p = .ok n) : p.fault? = none := by
  obtain ⟨dest, hspot, -⟩ := Tree.spot_of_find h
  rw [Tree.spot] at hspot
  cases hfault : p.fault? with
  | none => rfl
  | some fault =>
    rw [hfault] at hspot
    cases hspot

/-- Why what is at a place below a root, a directory, cannot be reached by its path, if it is
so. -/
def faultAt? (root : Path) (dir : Node) (place : Place) : Option Fault :=
  match (root.join (relative place)).fault? with
  | some fault => some fault
  | none => dir.descentFault? place

/-- Why a root that is a directory cannot be listed, or what is at a place below it cannot by its
path, if it is so. -/
def listFaultAt? (root : Path) (dir : Node) : Place → Option Fault
  | [] => dir.listFault?
  | name :: rest =>
    match root.faultAt? dir (name :: rest) with
    | some fault => some fault
    | none =>
      match dir.at? (name :: rest) with
      | none => some .notFound
      | some n => n.listFault?

/-- The path of a place below a root can be followed, as far as its text goes: there is no NUL in
it, it is not too long, and neither is a name of the place. -/
def Admits (root : Path) (place : Place) : Prop :=
  0 ∉ (root.join (relative place)).bytes ∧
    (root.join (relative place)).bytes.length ≤ maxPathLength ∧
      ∀ name ∈ place, name.length ≤ maxNameLength

instance (root : Path) (place : Place) : Decidable (root.Admits place) :=
  inferInstanceAs (Decidable (_ ∧ _ ∧ _))

/-- A path that is joined to one that leads somewhere starts where that starts. -/
theorem start_of_join {t : Tree} {follow : Bool} {root : Path} {n : Node}
    (hroot : Tree.find t follow root = .ok n) {place : Place} (h : ∀ name ∈ place, name.Valid) :
    (root.join (relative place)).bytes ≠ [] ∧
      ∀ work, (root.join (relative place)).start work = root.start work := by
  obtain ⟨-, -, hne⟩ := fault?_eq_none_iff.mp (fault?_eq_none_of_find hroot)
  obtain ⟨b, rest, hbytes⟩ := List.exists_cons_of_ne_nil hne
  rw [join_of_not_isAbsolute _ (not_isAbsolute_relative h)]
  simp [start, isAbsolute, hbytes]

end Path

/-- All directories on the way from a directory to a place below it can be searched. -/
def Node.Permits (dir : Node) (place : Place) : Prop :=
  ∀ above n, above <+: place → above ≠ place → dir.at? above = some n →
    n.attributes.searchable = true

theorem Node.permits_nil (dir : Node) : dir.Permits [] := by
  intro above n habove hne _
  exact absurd (List.prefix_nil.mp habove) hne

theorem Node.permits_cons_iff {entries : List (Name × Node)} {a : Attributes} {name : Name}
    {rest : Place} {child : Node} (hchild : entries.lookup name = some child) :
    (Node.directory entries a).Permits (name :: rest) ↔
      a.searchable = true ∧ child.Permits rest := by
  have hbelow (above : Place) :
      (Node.directory entries a).at? (name :: above) = child.at? above :=
    Node.at?_cons_of_lookup hchild above
  constructor
  · intro h
    refine ⟨h [] _ (by simp) (by simp) rfl, fun above n habove hne hat => ?_⟩
    exact h (name :: above) n (by simpa using habove) (by simpa using hne)
      ((hbelow above).trans hat)
  · rintro ⟨hsearchable, h⟩ above n habove hne hat
    obtain rfl | ⟨above, rfl, hleading⟩ := List.prefix_cons_iff.mp habove
    · cases hat
      exact hsearchable
    · exact h above n hleading (fun heq => hne (heq ▸ rfl)) ((hbelow above).symm.trans hat)

/-- What is at a place below a directory may be read, if anything is there. -/
def Node.Readable (dir : Node) (place : Place) : Prop :=
  ∀ n, dir.at? place = some n → n.attributes.readable = true

theorem Node.readable_iff {dir n : Node} {place : Place} (h : dir.at? place = some n) :
    dir.Readable place ↔ n.attributes.readable = true := by
  constructor
  · exact fun hreadable => hreadable n h
  · intro hreadable m hm
    cases h.symm.trans hm
    exact hreadable

/-- A path goes down to what is there just if the directories on the way can be searched and no
name is too long. -/
theorem Node.descentFault?_eq_none_iff {dir n : Node} {place : Place}
    (h : dir.at? place = some n) :
    dir.descentFault? place = none ↔
      dir.Permits place ∧ ∀ name ∈ place, name.length ≤ maxNameLength := by
  induction place generalizing dir with
  | nil => simp [Node.descentFault?, Node.permits_nil]
  | cons name rest ih =>
    obtain ⟨entries, a, child, rfl, hchild, hnode⟩ := Node.at?_cons_eq_some.mp h
    rw [Node.descentFault?, Node.permits_cons_iff hchild]
    simp only [Node.attributes, Node.child?, hchild]
    by_cases hsearchable : a.searchable = true
    · by_cases hlong : maxNameLength < name.length
      · simp [hsearchable, hlong, Nat.not_le.mpr hlong]
      · simp [hsearchable, hlong, Nat.not_lt.mp hlong, ih hnode]
    · simp [hsearchable]

namespace Path

/-- Below a root that leads somewhere, a path fails only for a NUL in it, for being too long or
having a name that is, or for a directory on its way that cannot be searched. -/
theorem faultAt?_eq_none_iff {t : Tree} {follow : Bool} {root : Path} {dir n : Node}
    (hroot : Tree.find t follow root = .ok dir) {place : Place} (h : ∀ name ∈ place, name.Valid)
    (hat : dir.at? place = some n) :
    root.faultAt? dir place = none ↔ root.Admits place ∧ dir.Permits place := by
  have hne := (start_of_join hroot h).1
  rw [faultAt?, Admits]
  cases hfault : (root.join (relative place)).fault? with
  | some fault =>
    have hsome : ¬ (root.join (relative place)).fault? = none := by simp [hfault]
    rw [fault?_eq_none_iff] at hsome
    simp only [reduceCtorEq, false_iff]
    rintro ⟨⟨hnul, hlength, -⟩, -⟩
    exact hsome ⟨hnul, hlength, hne⟩
  | none =>
    obtain ⟨hnul, hlength, -⟩ := fault?_eq_none_iff.mp hfault
    dsimp only
    rw [Node.descentFault?_eq_none_iff hat]
    simp [hnul, hlength, and_comm]

/-- A root that leads to a directory, or a directory below it, is listed just if its path can be
followed and it can be read itself. -/
theorem listFaultAt?_eq_none_iff {t : Tree} {follow : Bool} {root : Path} {dir : Node}
    {entries : List (Name × Node)} {a : Attributes} (hroot : Tree.find t follow root = .ok dir)
    {place : Place} (h : ∀ name ∈ place, name.Valid)
    (hat : dir.at? place = some (.directory entries a)) :
    root.listFaultAt? dir place = none ↔
      (place ≠ [] → root.Admits place) ∧ dir.Permits place ∧ a.readable = true := by
  cases place with
  | nil =>
    cases hat
    simp [listFaultAt?, Node.listFault?, Node.permits_nil]
  | cons name rest =>
    rw [listFaultAt?, imp_iff_right (List.cons_ne_nil name rest), ← and_assoc,
      ← faultAt?_eq_none_iff hroot h hat, hat]
    cases root.faultAt? dir (name :: rest) with
    | some fault => simp
    | none => simp [Node.listFault?]

end Path

namespace Tree

variable {t : Tree}

/-! ## What is below a root -/

/-- The walk of a path that leads to a directory, and the place of the directory. -/
theorem walkThrough_of_find {root : Path} {entries : List (Name × Node)} {a : Attributes}
    (h : t.find true root = .ok (.directory entries a)) :
    ∃ dest, t.walkThrough true maxLinks (root.start t.work) root.steps =
        .ok ⟨dest, some (.directory entries a)⟩ ∧
      t.top.at? dest = some (.directory entries a) := by
  obtain ⟨dest, hspot, hdest⟩ := spot_of_find h
  rw [spot] at hspot
  cases hfault : root.fault? with
  | some fault =>
    rw [hfault] at hspot
    cases hspot
  | none =>
    rw [hfault] at hspot
    exact ⟨dest, hspot, hdest⟩

/-- From a root that leads to a directory, a joined path goes on with the names of its place. -/
theorem walkThrough_join {root : Path} {start dest : Place} {entries : List (Name × Node)}
    {a : Attributes} {place : Place}
    (hwalk : t.walkThrough true maxLinks start root.steps = .ok ⟨dest, some (.directory entries a)⟩)
    (hne : place ≠ []) (hnames : ∀ name ∈ place, name.Valid) :
    ∃ left, t.walkThrough true maxLinks start (root.join (.relative place)).steps =
      t.walkThrough true left dest place := by
  rw [Path.steps_join root hne hnames]
  have htail : ∀ step ∈ (if root.endsWithSlash then [[]] else [] : List Name), step = [] := by
    intro step hstep
    split at hstep
    · exact List.mem_singleton.mp hstep
    · cases hstep
  exact walkThrough_append htail hwalk place

/-- What is below a root that leads to a directory, and is no link, is found by its joined path,
unless this cannot be followed. -/
theorem find_join {root : Path} {entries : List (Name × Node)} {a : Attributes} {place : Place}
    {n : Node} (ht : t.WellFormed) (hroot : t.find true root = .ok (.directory entries a))
    (hne : place ≠ []) (hat : (Node.directory entries a).at? place = some n)
    (hlink : ∀ target, n ≠ .link target) :
    t.find true (root.join (.relative place)) =
      match root.faultAt? (.directory entries a) place with
      | some fault => .error fault
      | none => .ok n := by
  obtain ⟨dest, hwalk, hdest⟩ := walkThrough_of_find hroot
  have hnames : ∀ name ∈ place, name.Valid := ((wellFormed_of_find ht hroot).at? hat).2
  obtain ⟨left, hon⟩ := walkThrough_join hwalk hne hnames
  rw [find, spot, (Path.start_of_join hroot hnames).2, hon,
    walkThrough_of_at? left hdest hat hlink hnames, Path.faultAt?]
  cases (root.join (.relative place)).fault? with
  | some fault => rfl
  | none => cases (Node.directory entries a).descentFault? place <;> rfl

/-- What is below a root that leads to a directory, and is no link, is read by its joined path,
unless this cannot be followed. -/
theorem read_join {root : Path} {entries : List (Name × Node)} {a : Attributes} {place : Place}
    {n : Node} (ht : t.WellFormed) (hroot : t.find true root = .ok (.directory entries a))
    (hne : place ≠ []) (hat : (Node.directory entries a).at? place = some n)
    (hlink : ∀ target, n ≠ .link target) :
    t.read (root.join (.relative place)) =
      match root.faultAt? (.directory entries a) place with
      | some fault => .error fault
      | none => n.read := by
  rw [read, find_join ht hroot hne hat hlink]
  cases root.faultAt? (.directory entries a) place <;> rfl

/-- How much the system says that there is in what is below a root that leads to a directory, and is
no link, by its joined path. -/
theorem size_join {root : Path} {entries : List (Name × Node)} {a : Attributes} {place : Place}
    {n : Node} (ht : t.WellFormed) (hroot : t.find true root = .ok (.directory entries a))
    (hne : place ≠ []) (hat : (Node.directory entries a).at? place = some n)
    (hlink : ∀ target, n ≠ .link target) :
    t.size (root.join (.relative place)) =
      match root.faultAt? (.directory entries a) place with
      | some fault => .error fault
      | none => .ok n.size := by
  rw [size, find_join ht hroot hne hat hlink]
  cases root.faultAt? (.directory entries a) place <;> rfl

/-- A directory below a root that leads to a directory is listed by its joined path, unless this
cannot be followed or the directory cannot be read. -/
theorem listFault?_join {root : Path} {entries inner : List (Name × Node)} {a b : Attributes}
    {place : Place} (ht : t.WellFormed) (hroot : t.find true root = .ok (.directory entries a))
    (hne : place ≠ []) (hat : (Node.directory entries a).at? place = some (.directory inner b)) :
    t.listFault? (root.join (.relative place)) =
      root.listFaultAt? (.directory entries a) place := by
  obtain ⟨name, rest, rfl⟩ := List.exists_cons_of_ne_nil hne
  rw [listFault?, find_join ht hroot hne hat (by simp), Path.listFaultAt?, hat]
  cases root.faultAt? (.directory entries a) (name :: rest) <;> rfl

end Tree
end BackendAudit.Files
