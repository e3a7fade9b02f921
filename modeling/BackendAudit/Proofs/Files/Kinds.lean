import BackendAudit.Proofs.Files.Descent
import BackendAudit.Proofs.Files.Walk
import Mathlib.Data.List.Sort

/-!
# Trees that differ in the bytes of a file

Where a path leads, and what a walk comes upon, does not depend on the bytes of files: two
trees with nodes of the same kinds at all places agree on both (`SameKinds.placeOf_eq`,
`SameKinds.sights_eq`).  If they differ in the bytes of one file only, then only a path
that leads to that file can be read to another content (`DifferAt.read_eq`).
-/

namespace BackendAudit.Files

/-- What a node is, but for the bytes of a regular file and the entries of a directory. -/
inductive Kind where
  | file (a : Attributes)
  | directory (a : Attributes)
  | link (target : Path)
  | special (content : List UInt8) (a : Attributes)

/-- The kind of a node. -/
def Node.kind : Node → Kind
  | .file _ a => .file a
  | .directory _ a => .directory a
  | .link target => .link target
  | .special content a => .special content a

theorem Node.exists_file_iff {n : Node} {place : Place} :
    (∃ content a, n.at? place = some (.file content a)) ↔
      ∃ a, (n.at? place).map Node.kind = some (.file a) := by
  cases n.at? place with
  | none => simp
  | some m => cases m <;> simp [Node.kind]

theorem Node.exists_directory_iff {n : Node} {place : Place} {a : Attributes} :
    (∃ entries, n.at? place = some (.directory entries a)) ↔
      (n.at? place).map Node.kind = some (.directory a) := by
  cases n.at? place with
  | none => simp
  | some m => cases m <;> simp [Node.kind]

/-- Nodes of the same kind have the same attributes, and can be listed alike. -/
theorem Node.attributes_of_kind {n n' : Node} (h : n.kind = n'.kind) :
    n.attributes = n'.attributes ∧ n.listFault? = n'.listFault? := by
  cases n <;> cases n' <;> cases h <;> exact ⟨rfl, rfl⟩

/-! ## Going down past nodes of the same kinds -/

/-- Two nodes have nodes of the same kinds on the way to a place below them, and at the place. -/
def SameWay (n n' : Node) (place : Place) : Prop :=
  ∀ above, above <+: place → (n.at? above).map Node.kind = (n'.at? above).map Node.kind

namespace SameWay

variable {n n' : Node} {place : Place}

/-- The way to a place on the way is the same. -/
theorem front {above : Place} (h : SameWay n n' place) (habove : above <+: place) :
    SameWay n n' above := fun other hother => h other (hother.trans habove)

theorem kind_eq (h : SameWay n n' place) : n.kind = n'.kind := Option.some.inj (h [] (by simp))

/-- What is at the place in one of them is at the place in the other one, but for its bytes or its
entries. -/
theorem exists_at? (h : SameWay n n' place) {m : Node} (hat : n.at? place = some m) :
    ∃ m', n'.at? place = some m' ∧ m'.kind = m.kind := by
  have hkinds := h place (List.prefix_refl place)
  rw [hat] at hkinds
  exact Option.map_eq_some_iff.mp hkinds.symm

theorem symm (h : SameWay n n' place) : SameWay n' n place := fun above habove =>
  (h above habove).symm

theorem below {name : Name} {rest : Place} {child child' : Node}
    (h : SameWay n n' (name :: rest)) (hchild : n.child? name = some child)
    (hchild' : n'.child? name = some child') : SameWay child child' rest := by
  intro above habove
  have hkinds := h (name :: above) (by simpa using habove)
  rwa [Node.at?_cons, Node.at?_cons, hchild, hchild'] at hkinds

/-- Paths go down alike. -/
theorem descentFault?_eq (h : SameWay n n' place) :
    n.descentFault? place = n'.descentFault? place := by
  induction place generalizing n n' with
  | nil => rfl
  | cons name rest ih =>
    have hat (n : Node) : n.at? [name] = n.child? name := by
      rw [Node.at?_cons]
      cases n.child? name <;> rfl
    have hchild : (n.child? name).map Node.kind = (n'.child? name).map Node.kind := by
      rw [← hat, ← hat]
      exact h [name] (by simp)
    rw [Node.descentFault?, Node.descentFault?, (Node.attributes_of_kind h.kind_eq).1]
    cases hc : n.child? name with
    | none =>
      rw [hc] at hchild
      rw [Option.map_eq_none_iff.mp hchild.symm]
    | some child =>
      rw [hc] at hchild
      obtain ⟨child', hc', -⟩ := Option.map_eq_some_iff.mp hchild.symm
      rw [hc']
      dsimp only
      rw [ih (h.below hc hc')]

/-- What is at the place is reached alike. -/
theorem faultAt?_eq (h : SameWay n n' place) (root : Path) :
    root.faultAt? n place = root.faultAt? n' place := by
  rw [Path.faultAt?, Path.faultAt?, h.descentFault?_eq]

/-- What is at the place is listed alike. -/
theorem listFaultAt?_eq (h : SameWay n n' place) (root : Path) :
    root.listFaultAt? n place = root.listFaultAt? n' place := by
  cases place with
  | nil => exact (Node.attributes_of_kind h.kind_eq).2
  | cons name rest =>
    rw [Path.listFaultAt?, Path.listFaultAt?, h.faultAt?_eq]
    cases hat : n.at? (name :: rest) with
    | none =>
      have hkinds := h (name :: rest) (List.prefix_refl _)
      rw [hat] at hkinds
      rw [Option.map_eq_none_iff.mp hkinds.symm]
    | some m =>
      obtain ⟨m', hat', hkind⟩ := h.exists_at? hat
      rw [hat']
      simp only [(Node.attributes_of_kind hkind).2]

/-- The directories on the way can be searched alike. -/
theorem permits (h : SameWay n n' place) (hpermits : n.Permits place) : n'.Permits place := by
  intro above m habove hne hat
  obtain ⟨m', hat', hkind⟩ := (h.symm.front habove).exists_at? hat
  rw [← (Node.attributes_of_kind hkind).1]
  exact hpermits above m' habove hne hat'

end SameWay

/-! ## Trees with nodes of the same kinds -/

/-- Two trees have nodes of the same kinds at all places. -/
def SameKinds (t t' : Node) : Prop :=
  ∀ place, (t.at? place).map Node.kind = (t'.at? place).map Node.kind

/-- Two trees have the same nodes at all places, but for the bytes of the regular file at
one of them. -/
structure DifferAt (place : Place) (t t' : Node) : Prop where
  isFile : ∃ content a, t.at? place = some (.file content a)
  sameKinds : SameKinds t t'
  sameFiles : ∀ other, other ≠ place → ∀ content a,
    t.at? other = some (.file content a) ↔ t'.at? other = some (.file content a)

namespace Tree

/-- The place to which a path leads, all its links followed. -/
def placeOf (t : Tree) (p : Path) : Except Fault Place := (t.spot true p).map Spot.place

/-- Whether a path leads to a place. -/
def leadsTo (t : Tree) (place : Place) (p : Path) : Bool :=
  match t.placeOf p with
  | .ok other => other == place
  | .error _ => false

/-- A path is found if there is something at its place. -/
theorem find_eq_placeOf (t : Tree) (p : Path) :
    t.find true p =
      match t.placeOf p with
      | .error fault => .error fault
      | .ok place =>
        match t.top.at? place with
        | none => .error .notFound
        | some n => .ok n := by
  rw [find, placeOf]
  cases hspot : t.spot true p with
  | error fault => rfl
  | ok s =>
    have hnode : s.node = t.top.at? s.place := spot_spotOf true p s hspot
    cases hat : t.top.at? s.place <;> simp [Except.map, hnode, hat]

theorem find_eq_ok_iff {t : Tree} {p : Path} {n : Node} :
    t.find true p = .ok n ↔ ∃ place, t.placeOf p = .ok place ∧ t.top.at? place = some n := by
  rw [find_eq_placeOf]
  cases t.placeOf p with
  | error fault => simp
  | ok place => cases hat : t.top.at? place <;> simp [hat]

/-- A path is read as what is at its place. -/
theorem read_eq_placeOf (t : Tree) (p : Path) :
    t.read p =
      match t.placeOf p with
      | .error fault => .error fault
      | .ok place =>
        match t.top.at? place with
        | none => .error .notFound
        | some n => n.read := by
  rw [read, find_eq_placeOf]
  cases t.placeOf p with
  | error fault => rfl
  | ok place =>
    dsimp only
    cases t.top.at? place <;> rfl

end Tree

/-! ## Paths -/

namespace Tree

/-- One step from a place, by the kinds of the nodes at that place and at the next one. -/
def strideOf (node next : Option Kind) (place : Place) (step : Name) : Stride :=
  match node with
  | some (.directory a) =>
    if step = [] then .moved place
    else if !a.searchable then .failed .denied
    else if step = Name.here then .moved place
    else if step = Name.up then .moved place.dropLast
    else if maxNameLength < step.length then .failed .nameTooLong
    else
      match next with
      | none => .missing (place ++ [step])
      | some (.link target) => .linked (place ++ [step]) target
      | some _ => .moved (place ++ [step])
  | _ => .failed .notDirectory

theorem stride_eq_strideOf (t : Tree) (place : Place) (step : Name) :
    t.stride place step =
      strideOf ((t.top.at? place).map Node.kind) ((t.top.at? (place ++ [step])).map Node.kind)
        place step := by
  rw [stride]
  cases hat : t.top.at? place with
  | none => rfl
  | some n =>
    cases n with
    | file content a => rfl
    | link target => rfl
    | special content a => rfl
    | directory entries a =>
      rw [Node.at?_concat hat step]
      simp only [Option.map_some, Node.kind, strideOf]
      cases entries.lookup step with
      | none => rfl
      | some child => cases child <;> rfl

end Tree

namespace SameKinds

variable {n n' : Node} {t t' : Tree}

theorem sameWay (h : SameKinds n n') (place : Place) : SameWay n n' place := fun above _ => h above

/-- Trees with the same kinds of nodes take the same steps. -/
theorem stride_eq (h : SameKinds t.top t'.top) (place : Place) (step : Name) :
    t.stride place step = t'.stride place step := by
  rw [Tree.stride_eq_strideOf, Tree.stride_eq_strideOf, h, h]

theorem walk_eq (h : SameKinds t.top t'.top)
    {onLink onLink' : Place → Path → List Name → Except Fault Spot}
    (hlink : ∀ place target rest,
      (onLink place target rest).map Spot.place = (onLink' place target rest).map Spot.place)
    (follow : Bool) (place : Place) (steps : List Name) :
    (t.walk follow onLink place steps).map Spot.place =
      (t'.walk follow onLink' place steps).map Spot.place := by
  induction steps generalizing place with
  | nil => rfl
  | cons step rest ih =>
    rw [Tree.walk_cons, Tree.walk_cons, h.stride_eq]
    cases t'.stride place step with
    | moved next => exact ih next
    | missing next => rfl
    | failed fault => rfl
    | linked next target =>
      dsimp only
      split
      · rfl
      · exact hlink place target rest

theorem walkThrough_eq (h : SameKinds t.top t'.top) (follow : Bool) (links : Nat) (place : Place)
    (steps : List Name) :
    (t.walkThrough follow links place steps).map Spot.place =
      (t'.walkThrough follow links place steps).map Spot.place := by
  induction links generalizing place steps with
  | zero => exact h.walk_eq (fun _ _ _ => rfl) follow place steps
  | succ links ih => exact h.walk_eq (fun _ _ _ => ih _ _) follow place steps

/-- A path leads to the same place. -/
theorem placeOf_eq (h : SameKinds t.top t'.top) (hwork : t.work = t'.work) (p : Path) :
    t.placeOf p = t'.placeOf p := by
  rw [Tree.placeOf, Tree.placeOf, Tree.spot, Tree.spot, hwork]
  cases p.fault? with
  | some fault => rfl
  | none => exact h.walkThrough_eq true maxLinks _ p.steps

/-- Where one tree has nothing the other has nothing either. -/
theorem at?_eq_none (h : SameKinds n n') {place : Place} (hat : n.at? place = none) :
    n'.at? place = none := by
  have hkinds := h place
  rw [hat] at hkinds
  exact Option.map_eq_none_iff.mp hkinds.symm

/-- Where one tree has a node the other has one of its kind. -/
theorem exists_at? (h : SameKinds n n') {place : Place} {m : Node} (hat : n.at? place = some m) :
    ∃ m', n'.at? place = some m' ∧ m'.kind = m.kind := by
  have hkinds := h place
  rw [hat] at hkinds
  exact Option.map_eq_some_iff.mp hkinds.symm

/-- The nodes at a place have the same kinds of nodes below them. -/
theorem below (h : SameKinds n n') {place : Place} {m m' : Node} (hm : n.at? place = some m)
    (hm' : n'.at? place = some m') : SameKinds m m' := by
  intro rest
  have hrest := h (place ++ rest)
  rwa [Node.at?_append, Node.at?_append, hm, hm'] at hrest

/-- A path that leads to a directory leads to one, with the same kinds of nodes. -/
theorem exists_directory (h : SameKinds t.top t'.top) (hwork : t.work = t'.work) {p : Path}
    {entries : List (Name × Node)} {a : Attributes}
    (hp : t.find true p = .ok (.directory entries a)) :
    ∃ entries', t'.find true p = .ok (.directory entries' a) ∧
      SameKinds (.directory entries a) (.directory entries' a) := by
  obtain ⟨place, hplace, hat⟩ := Tree.find_eq_ok_iff.mp hp
  obtain ⟨n', hat', hkind⟩ := h.exists_at? hat
  cases n' with
  | file content b => cases hkind
  | link target => cases hkind
  | special content b => cases hkind
  | directory entries' b =>
    obtain rfl : b = a := Kind.directory.inj hkind
    rw [h.placeOf_eq hwork] at hplace
    exact ⟨entries', Tree.find_eq_ok_iff.mpr ⟨place, hplace, hat'⟩, h.below hat hat'⟩

/-! ## Walks -/

/-- A walk comes upon the same. -/
theorem sights_eq (h : SameKinds n n') (hn : n.WellFormed) (hn' : n'.WellFormed)
    (excluded : Name → Bool) (listFault? : Place → Option Fault) :
    n.sights excluded listFault? = n'.sights excluded listFault? := by
  refine (Node.sights_pairwise hn).eq_of_mem_iff (Node.sights_pairwise hn') fun s => ?_
  cases s with
  | file place =>
    rw [Node.mem_sights_file hn, Node.mem_sights_file hn', Node.exists_file_iff,
      Node.exists_file_iff, h place]
  | closed place fault =>
    rw [Node.mem_sights_closed hn, Node.mem_sights_closed hn', exists_comm,
      exists_congr fun a => Node.exists_directory_iff, h place,
      ← exists_congr fun a => Node.exists_directory_iff, exists_comm]

/-- The same can be listed below a root. -/
theorem listFaultAt?_eq (h : SameKinds n n') (root : Path) (place : Place) :
    root.listFaultAt? n place = root.listFaultAt? n' place :=
  (h.sameWay place).listFaultAt?_eq root

end SameKinds

/-! ## One file -/

namespace DifferAt

variable {t t' : Tree} {place : Place}

/-- What is found by a path that does not lead to the file is of the same kind, and the same if it
is a regular file. -/
theorem find_map_eq (h : DifferAt place t.top t'.top) (hwork : t.work = t'.work) {p : Path}
    (hp : t.leadsTo place p = false) {α : Type} {g : Node → α}
    (hg : ∀ {n n' : Node}, n'.kind = n.kind → (∀ content a, n = .file content a → n' = n) →
      g n = g n') :
    (t.find true p).map g = (t'.find true p).map g := by
  rw [Tree.find_eq_placeOf, Tree.find_eq_placeOf, ← h.sameKinds.placeOf_eq hwork]
  rw [Tree.leadsTo] at hp
  cases hplace : t.placeOf p with
  | error fault => rfl
  | ok other =>
    have hother : other ≠ place := by
      rw [hplace] at hp
      simpa using hp
    dsimp only
    cases hat : t.top.at? other with
    | none => rw [h.sameKinds.at?_eq_none hat]
    | some n =>
      obtain ⟨n', hat', hkind⟩ := h.sameKinds.exists_at? hat
      rw [hat']
      refine congrArg Except.ok (hg hkind fun content a hfile => ?_)
      subst hfile
      exact Option.some.inj (hat'.symm.trans ((h.sameFiles other hother content a).mp hat))

/-- Only what is read by a path to the file may differ. -/
theorem read_eq (h : DifferAt place t.top t'.top) (hwork : t.work = t'.work) {p : Path}
    (hp : t.leadsTo place p = false) : t.read p = t'.read p := by
  have hread := h.find_map_eq hwork hp (g := Node.read) fun {n n'} hkind hsame => by
    cases n with
    | file content a => rw [hsame content a rfl]
    | directory entries a => cases n' <;> cases hkind; rfl
    | link target => cases n' <;> cases hkind; rfl
    | special content a => cases n' <;> cases hkind; rfl
  rw [Tree.read, Tree.read]
  cases hfound : t.find true p <;> cases hfound' : t'.find true p <;> simp_all [Except.map]

/-- Only the size of what a path to the file leads to may differ. -/
theorem size_eq (h : DifferAt place t.top t'.top) (hwork : t.work = t'.work) {p : Path}
    (hp : t.leadsTo place p = false) : t.size p = t'.size p := by
  refine h.find_map_eq hwork hp fun {n n'} hkind hsame => ?_
  cases n with
  | file content a => rw [hsame content a rfl]
  | directory entries a => cases n' <;> cases hkind; rfl
  | link target => cases n' <;> cases hkind; rfl
  | special content a => cases n' <;> cases hkind; rfl

end DifferAt

/-! ## Putting a file in the place of a file -/

/-- A tree in which a file is put in the place of a file differs in its bytes at most. -/
theorem differAt_put {t : Node} {place : Place} {content : List UInt8} {a : Attributes}
    (h : t.at? place = some (.file content a)) (content' : List UInt8) :
    DifferAt place t (t.put place (.file content' a)) := by
  induction place generalizing t with
  | nil =>
    obtain rfl : t = .file content a := Option.some.inj h
    refine ⟨⟨content, a, rfl⟩, fun other => ?_, fun other hother bytes b => ?_⟩
    · cases other <;> rfl
    · cases other with
      | nil => exact absurd rfl hother
      | cons name rest => rfl
  | cons name rest ih =>
    obtain ⟨entries, b, child, rfl, hchild, hfile⟩ := Node.at?_cons_eq_some.mp h
    have ih := ih hfile
    refine ⟨⟨content, a, h⟩, fun other => ?_, fun other hother bytes c => ?_⟩
    · cases other with
      | nil => rfl
      | cons next other =>
        rw [Node.at?_put_cons_of_lookup hchild]
        by_cases hnext : next = name
        · rw [if_pos hnext, hnext, Node.at?_cons_of_lookup hchild]
          exact ih.sameKinds other
        · rw [if_neg hnext]
    · cases other with
      | nil => simp [Node.put]
      | cons next other =>
        rw [Node.at?_put_cons_of_lookup hchild]
        by_cases hnext : next = name
        · subst hnext
          rw [if_pos rfl, Node.at?_cons_of_lookup hchild]
          exact ih.sameFiles other (fun heq => hother (heq ▸ rfl)) bytes c
        · rw [if_neg hnext]

end BackendAudit.Files
