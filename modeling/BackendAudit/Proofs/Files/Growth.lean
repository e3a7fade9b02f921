import BackendAudit.Files.Write
import BackendAudit.Proofs.Files.Descent
import BackendAudit.Proofs.Files.Kinds

/-!
# Trees with one file more

A file that is put where nothing is lets a tree grow at that place (`growsAt_put`).  All paths
lead where they led before, but for those that would go on through that place: they fail in both
trees, each in its own way (`GrowsAt.placeOf_cases`).

* `Tree.spot_arrives`: a path leads to a file, to a directory, or to a name that is free in
  one.
* `FreeAt.wellFormed_put`: the tree stays well formed.
* `GrowsAt.exists_directory`, `GrowsAt.read_eq_ok`: what was there is there.
-/

namespace BackendAudit.Files

/-- A place for one entry more: there is nothing there, but a directory to put it in. -/
inductive FreeAt (t : Node) : Place → Prop
  | intro {above : Place} {entries : List (Name × Node)} {a : Attributes} {name : Name}
    (hdir : t.at? above = some (.directory entries a)) (hfree : entries.lookup name = none)
    (hname : name.Valid) : FreeAt t (above ++ [name])

theorem FreeAt.at?_eq_none {t : Node} {place : Place} (h : FreeAt t place) :
    t.at? place = none := by
  cases h with
  | intro hdir hfree _ => rw [Node.at?_concat hdir, hfree]

/-! ## Where paths that are followed to the end lead -/

namespace Path

theorem slash_not_mem_piece {bytes : List UInt8} : ∀ piece ∈ pieces bytes, Name.slash ∉ piece := by
  induction bytes with
  | nil =>
    intro piece hpiece
    obtain rfl : piece = [] := by simpa [pieces] using hpiece
    simp
  | cons b bytes ih =>
    intro piece hpiece
    rw [pieces_cons] at hpiece
    cases hpieces : pieces bytes with
    | nil => exact absurd hpieces (pieces_ne_nil bytes)
    | cons first rest =>
      rw [hpieces] at hpiece ih
      rw [pieces.step] at hpiece
      split at hpiece
      · rcases List.mem_cons.mp hpiece with rfl | hpiece
        · simp
        · exact ih piece hpiece
      · rename_i hb
        rcases List.mem_cons.mp hpiece with rfl | hpiece
        · intro hmem
          rcases List.mem_cons.mp hmem with heq | hmem
          · exact hb heq.symm
          · exact ih first List.mem_cons_self hmem
        · exact ih piece (List.mem_cons_of_mem _ hpiece)

theorem slash_not_mem_step {p : Path} : ∀ step ∈ p.steps, Name.slash ∉ step := by
  intro step hstep
  rcases List.mem_append.mp hstep with hstep | hstep
  · exact slash_not_mem_piece step (List.mem_filter.mp hstep).1
  · split at hstep
    · rw [List.mem_singleton.mp hstep]
      simp
    · cases hstep

theorem steps_ne_nil {p : Path} (h : p.fault? = none) : p.steps ≠ [] := by
  have hne : p.bytes ≠ [] := (fault?_eq_none_iff.mp h).2.2
  rw [steps]
  by_cases hslash : p.endsWithSlash = true
  · simp [hslash]
  -- the last byte is that of a name
  have hlast : p.bytes.getLast hne ≠ Name.slash := by
    intro heq
    exact hslash (by rw [endsWithSlash, List.getLast?_eq_some_getLast hne, heq]; rfl)
  have hpieces : ∀ bytes : List UInt8, bytes.getLast? = some (p.bytes.getLast hne) →
      ∃ piece ∈ pieces bytes, piece ≠ [] := by
    intro bytes hbytes
    induction bytes with
    | nil => cases hbytes
    | cons b bytes ih =>
      rw [pieces_cons]
      cases hrest : pieces bytes with
      | nil => exact absurd hrest (pieces_ne_nil bytes)
      | cons first rest =>
        rw [pieces.step]
        by_cases hnil : bytes = []
        · obtain rfl : b = p.bytes.getLast hne := by simpa [hnil] using hbytes
          rw [if_neg hlast]
          exact ⟨_, List.mem_cons_self, List.cons_ne_nil _ _⟩
        · obtain ⟨c, more, rfl⟩ := List.exists_cons_of_ne_nil hnil
          rw [List.getLast?_cons_cons] at hbytes
          obtain ⟨piece, hpiece, hsolid⟩ := ih hbytes
          rw [hrest] at hpiece
          split
          · exact ⟨piece, List.mem_cons_of_mem _ hpiece, hsolid⟩
          · rcases List.mem_cons.mp hpiece with rfl | hpiece
            · exact ⟨_, List.mem_cons_self, List.cons_ne_nil _ _⟩
            · exact ⟨piece, List.mem_cons_of_mem _ hpiece, hsolid⟩
  obtain ⟨piece, hpiece, hsolid⟩ := hpieces p.bytes (List.getLast?_eq_some_getLast hne)
  have hmem : piece ∈ (pieces p.bytes).filter fun piece => !piece.isEmpty :=
    List.mem_filter.mpr ⟨hpiece, by simp [hsolid]⟩
  exact List.append_ne_nil_of_left_ne_nil (List.ne_nil_of_mem hmem) _

end Path

namespace Tree

variable {t : Tree}

/-- A path is read as what it leads to. -/
theorem read_eq_ok_iff {p : Path} {bytes : List UInt8} :
    t.read p = .ok bytes ↔
      ∃ dest n, t.placeOf p = .ok dest ∧ t.top.at? dest = some n ∧ n.read = .ok bytes := by
  rw [read_eq_placeOf]
  cases t.placeOf p with
  | error fault => simp
  | ok dest => cases hat : t.top.at? dest <;> simp [hat]

/-- There is something at a place, and it is no link. -/
def Settled (t : Tree) (place : Place) : Prop :=
  ∃ n, t.top.at? place = some n ∧ ∀ target, n ≠ .link target

/-- What a walk that follows all links comes to: something that is no link, or a free name. -/
def Arrives (t : Tree) (result : Except Fault Spot) : Prop :=
  ∀ s, result = .ok s → (s.node = none ∧ FreeAt t.top s.place) ∨
    (s.node = t.top.at? s.place ∧ t.Settled s.place)

theorem arrives_error (fault : Fault) : t.Arrives (.error fault) := by
  intro s hs
  cases hs

theorem settled_directory {place : Place} {entries : List (Name × Node)} {a : Attributes}
    (h : t.top.at? place = some (.directory entries a)) : t.Settled place :=
  ⟨_, h, by simp⟩

theorem WellFormed.exists_top (ht : t.WellFormed) : ∃ entries a, t.top = .directory entries a := by
  obtain ⟨entries, a, hwork⟩ := ht.work
  cases hplace : t.work with
  | nil =>
    rw [hplace] at hwork
    exact ⟨entries, a, Option.some.inj hwork⟩
  | cons name rest =>
    rw [hplace] at hwork
    obtain ⟨entries, a, _, htop, -⟩ := Node.at?_cons_eq_some.mp hwork
    exact ⟨entries, a, htop⟩

theorem WellFormed.settled_top (ht : t.WellFormed) : t.Settled [] := by
  obtain ⟨entries, a, htop⟩ := ht.exists_top
  have hat : t.top.at? [] = some (.directory entries a) := by rw [Node.at?_nil, htop]
  exact settled_directory hat

/-- Above something there is a directory. -/
theorem settled_dropLast {place : Place} (h : t.Settled place) : t.Settled place.dropLast := by
  cases hlast : place.getLast? with
  | none =>
    rw [List.getLast?_eq_none_iff.mp hlast] at h ⊢
    exact h
  | some name =>
    obtain ⟨n, hn, _⟩ := h
    rw [← List.dropLast_append_getLast? name hlast, Node.at?_append] at hn
    obtain ⟨above, habove, hn⟩ := Option.bind_eq_some_iff.mp hn
    obtain ⟨entries, _, _, rfl, _⟩ := Node.at?_cons_eq_some.mp hn
    exact settled_directory habove

/-- A step that moves moves to something that is no link. -/
theorem settled_of_moved {place next : Place} {step : Name}
    (h : t.stride place step = .moved next) : t.Settled next := by
  rw [stride] at h
  split at h
  · rename_i entries a hentries
    split at h
    · cases h
      exact settled_directory hentries
    split at h
    · cases h
    split at h
    · cases h
      exact settled_directory hentries
    split at h
    · cases h
      exact settled_dropLast (settled_directory hentries)
    split at h
    · cases h
    split at h
    · cases h
    · cases h
    · rename_i n hlink hn
      cases h
      exact ⟨n, (Node.at?_concat hentries step).trans hn, fun target heq => hlink target heq⟩
  · cases h

/-- What a step misses is a free name, and what it meets a link in is a directory. -/
theorem free_of_missing {place next : Place} {step : Name}
    (hstep : Name.slash ∉ step)
    (h : t.stride place step = .missing next) : FreeAt t.top next := by
  rw [stride] at h
  split at h
  · rename_i entries a hentries
    split at h
    · cases h
    rename_i hempty
    split at h
    · cases h
    split at h
    · cases h
    rename_i hhere
    split at h
    · cases h
    rename_i hup
    split at h
    · cases h
    split at h
    · rename_i hfree
      cases h
      exact .intro hentries hfree ⟨hempty, hhere, hup, hstep⟩
    · cases h
    · cases h
  · cases h

theorem settled_of_linked {place next : Place} {step : Name} {target : Path}
    (h : t.stride place step = .linked next target) : t.Settled place := by
  rw [stride] at h
  split at h
  · rename_i entries a hentries
    exact settled_directory hentries
  · cases h

theorem walk_arrives {onLink : Place → Path → List Name → Except Fault Spot}
    (hlink : ∀ place target rest, t.Settled place → (∀ step ∈ rest, Name.slash ∉ step) →
      t.Arrives (onLink place target rest))
    {place : Place} {steps : List Name} (hsteps : ∀ step ∈ steps, Name.slash ∉ step)
    (hplace : steps = [] → t.Settled place) : t.Arrives (t.walk true onLink place steps) := by
  induction steps generalizing place with
  | nil =>
    intro s hs
    cases hs
    exact .inr ⟨rfl, hplace rfl⟩
  | cons step rest ih =>
    obtain ⟨hstep, hrest⟩ := List.forall_mem_cons.mp hsteps
    rw [walk_cons]
    cases hstride : t.stride place step with
    | moved next => exact ih hrest fun _ => settled_of_moved hstride
    | failed fault => exact arrives_error fault
    | missing next =>
      dsimp only
      split
      · intro s hs
        cases hs
        exact .inl ⟨rfl, free_of_missing hstep hstride⟩
      · exact arrives_error _
    | linked next target =>
      simp only [Bool.not_true, Bool.and_false, Bool.false_eq_true, if_false]
      exact hlink place target rest (settled_of_linked hstride) hrest

theorem walkThrough_arrives (ht : t.WellFormed) (links : Nat) {place : Place} {steps : List Name}
    (hsteps : ∀ step ∈ steps, Name.slash ∉ step) (hplace : steps = [] → t.Settled place) :
    t.Arrives (t.walkThrough true links place steps) := by
  induction links generalizing place steps with
  | zero => exact walk_arrives (fun _ _ _ _ _ => arrives_error _) hsteps hplace
  | succ links ih =>
    refine walk_arrives (fun place target rest hsettled hrest => ?_) hsteps hplace
    refine ih (fun step hstep => ?_) fun _ => ?_
    · rcases List.mem_append.mp hstep with hstep | hstep
      · exact Path.slash_not_mem_step step hstep
      · exact hrest step hstep
    · rw [Path.start]
      split
      · exact ht.settled_top
      · exact hsettled

/-- A path leads to something that is no link, or to a free name. -/
theorem spot_arrives (ht : t.WellFormed) (p : Path) : t.Arrives (t.spot true p) := by
  rw [spot]
  cases hfault : p.fault? with
  | some fault => exact arrives_error fault
  | none =>
    exact walkThrough_arrives ht maxLinks Path.slash_not_mem_step fun hnil =>
      absurd hnil (Path.steps_ne_nil hfault)

/-- Where all links are followed there is no link at the end. -/
theorem find_ne_link (ht : t.WellFormed) (p target : Path) :
    t.find true p ≠ .ok (.link target) := by
  intro hfind
  obtain ⟨place, hspot, hat⟩ := spot_of_find hfind
  rcases spot_arrives ht p _ hspot with ⟨hnone, _⟩ | ⟨_, n, hat', hne⟩
  · cases hnone
  · exact hne target (Option.some.inj (hat'.symm.trans hat))

theorem walkThrough_name {place next : Place} {name : Name} (links : Nat)
    (h : t.stride place name = .missing next ∨ t.stride place name = .moved next) :
    (t.walkThrough true links place [name]).map Spot.place = .ok next := by
  have hwalk (onLink) : (t.walk true onLink place [name]).map Spot.place = .ok next := by
    rw [walk_cons]
    rcases h with h | h <;> rw [h] <;> rfl
  cases links <;> exact hwalk _

/-- A root joined with a name leads to that name, if it is not too long and no link, and the
directory can be searched. -/
theorem placeOf_join_name {root : Path} {entries : List (Name × Node)} {a : Attributes}
    {name : Name} {dest : Place} (hroot : t.placeOf root = .ok dest)
    (hdir : t.top.at? dest = some (.directory entries a)) (hname : name.Valid)
    (hlength : name.length ≤ maxNameLength)
    (hlink : ∀ target, entries.lookup name ≠ some (.link target)) :
    t.placeOf (root.join (.relative [name])) =
      match (root.join (.relative [name])).fault? with
      | some fault => .error fault
      | none => if a.searchable then .ok (dest ++ [name]) else .error .denied := by
  have hfound : t.find true root = .ok (.directory entries a) :=
    find_eq_ok_iff.mpr ⟨dest, hroot, hdir⟩
  obtain ⟨dest', hspot, -⟩ := spot_of_find hfound
  obtain rfl : dest' = dest := by
    rw [placeOf, hspot] at hroot
    exact Except.ok.inj hroot
  have hwalk : t.walkThrough true maxLinks (root.start t.work) root.steps =
      .ok ⟨dest', some (.directory entries a)⟩ := by
    rw [spot, Path.fault?_eq_none_of_find hfound] at hspot
    exact hspot
  have hnames : ∀ other ∈ [name], other.Valid := by simpa using hname
  obtain ⟨left, hon⟩ := walkThrough_join hwalk (List.cons_ne_nil name []) hnames
  rw [placeOf, spot, (Path.start_of_join hfound hnames).2, hon]
  cases (root.join (.relative [name])).fault? with
  | some fault => rfl
  | none =>
    by_cases hsearchable : a.searchable = true
    · simp only [if_pos hsearchable]
      refine walkThrough_name left ?_
      rw [stride, hdir]
      simp only [if_neg hname.1, if_neg hname.2.1, if_neg hname.2.2.1,
        if_neg (Nat.not_lt.mpr hlength), hsearchable, Bool.not_true, Bool.false_eq_true, if_false]
      cases hchild : entries.lookup name with
      | none => exact .inl rfl
      | some child =>
        cases child with
        | link target => exact absurd hchild (hlink target)
        | file content b => exact .inr rfl
        | directory entries b => exact .inr rfl
        | special content b => exact .inr rfl
    · have hstride : t.stride dest' name = .failed .denied := by
        rw [stride, hdir]
        simp only [if_neg hname.1, hsearchable, Bool.not_false, if_true]
      simp only [if_neg hsearchable]
      cases left <;> rw [walkThrough, walk_cons, hstride] <;> rfl

end Tree

/-! ## Putting a file where nothing is -/

/-- The second tree is the first with one file more, at a place that was free. -/
structure GrowsAt (place : Place) (content : List UInt8) (t t' : Node) : Prop where
  free : FreeAt t place
  file : t'.at? place = some (.file content)
  kinds : ∀ other, other ≠ place → (t'.at? other).map Node.kind = (t.at? other).map Node.kind
  files : ∀ other, other ≠ place → ∀ bytes a,
    t'.at? other = some (.file bytes a) ↔ t.at? other = some (.file bytes a)

/-- A name that is free gets the file. -/
theorem growsAt_put_name {entries : List (Name × Node)} {a : Attributes} {name : Name}
    (hfree : entries.lookup name = none) (hname : name.Valid) (content : List UInt8) :
    GrowsAt [name] content (.directory entries a)
      ((Node.directory entries a).put [name] (.file content)) := by
  have hnone (other : Place) : (Node.directory entries a).at? (name :: other) = none := by
    rw [Node.at?_cons, Node.child?, hfree, Option.bind_none]
  -- there is nothing below the file, as there was nothing below the free name
  have hbelow (next : Name) (other : Place) (hother : next :: other ≠ [name]) :
      ((Node.directory entries a).put [name] (.file content)).at? (next :: other) =
        (Node.directory entries a).at? (next :: other) := by
    rw [Node.at?_put_cons]
    split
    · rename_i hnext
      subst hnext
      rw [hnone, Node.put]
      cases other with
      | nil => exact absurd rfl hother
      | cons => rfl
    · rfl
  refine ⟨@FreeAt.intro _ [] entries a name rfl hfree hname, ?_, fun other hother => ?_,
    fun other hother bytes b => ?_⟩
  · rw [Node.at?_put_cons, if_pos rfl, Node.put, Node.at?_nil]
  · cases other with
    | nil => rfl
    | cons next other => rw [hbelow next other hother]
  · cases other with
    | nil => simp [Node.put]
    | cons next other => rw [hbelow next other hother]

theorem growsAt_put {t : Node} {place : Place} (h : FreeAt t place) (content : List UInt8) :
    GrowsAt place content t (t.put place (.file content)) := by
  obtain ⟨hdir, hfree, hname⟩ := h
  rename_i above entries a name
  induction above generalizing t with
  | nil =>
    obtain rfl : t = .directory entries a := Option.some.inj hdir
    exact growsAt_put_name hfree hname content
  | cons first rest ih =>
    obtain ⟨outer, b, child, rfl, hchild, hbelow⟩ := Node.at?_cons_eq_some.mp hdir
    have ih := ih hbelow
    have hput (next : Name) (other : Place) :
        ((Node.directory outer b).put (first :: rest ++ [name]) (.file content)).at?
            (next :: other) =
          if next = first then (child.put (rest ++ [name]) (.file content)).at? other
          else (Node.directory outer b).at? (next :: other) :=
      Node.at?_put_cons_of_lookup hchild (rest ++ [name]) (.file content) next other
    refine ⟨.intro hdir hfree hname, ?_, fun other hother => ?_, fun other hother bytes c => ?_⟩
    · exact (hput first (rest ++ [name])).trans ((if_pos rfl).trans ih.file)
    · cases other with
      | nil => rfl
      | cons next other =>
        rw [hput]
        split
        · rename_i hnext
          subst hnext
          rw [Node.at?_cons_of_lookup hchild]
          exact ih.kinds other fun heq => hother (heq ▸ rfl)
        · rfl
    · cases other with
      | nil => simp [Node.put]
      | cons next other =>
        rw [hput]
        split
        · rename_i hnext
          subst hnext
          rw [Node.at?_cons_of_lookup hchild]
          exact ih.files other (fun heq => hother (heq ▸ rfl)) bytes c
        · rfl

/-- Something can be created in a directory that is writable. -/
theorem Tree.mayCreate_concat {t : Tree} {above : Place} {entries : List (Name × Node)}
    {a : Attributes} (hdir : t.top.at? above = some (.directory entries a)) (name : Name) :
    t.mayCreate (above ++ [name]) = a.writable := by
  rw [Tree.mayCreate, List.dropLast_concat, hdir]
  rfl

/-- Where a path leads to a free name, writing it puts a file there, if something can be created
there. -/
theorem FreeAt.write_eq {t : Tree} {place : Place} (h : FreeAt t.top place) {p : Path}
    (hp : t.placeOf p = .ok place) (content : List UInt8) :
    t.write p content =
      if t.mayCreate place then .ok (t.put place (.file content)) else .error .denied := by
  rw [Tree.placeOf] at hp
  rw [Tree.write, Tree.spotToWrite]
  cases hspot : t.spot true p with
  | error fault =>
    rw [hspot] at hp
    cases hp
  | ok s =>
    rw [hspot] at hp
    cases hp
    have hnode : s.node = none :=
      (Tree.spot_spotOf true p s hspot).trans h.at?_eq_none
    obtain ⟨place, node⟩ := s
    subst hnode
    simp only [Tree.writeFault?]
    cases t.mayCreate place <;> rfl

/-! ## Well-formed trees -/

theorem mem_setEntry {name : Name} {node : Node} {entries : List (Name × Node)}
    {e : Name × Node} (h : e ∈ Node.setEntry name node entries) :
    e = (name, node) ∨ e ∈ entries := by
  induction entries with
  | nil => exact .inl (List.mem_singleton.mp h)
  | cons first rest ih =>
    rw [Node.setEntry] at h
    split at h
    · rcases List.mem_cons.mp h with h | h
      · exact .inl h
      · exact .inr (List.mem_cons_of_mem _ h)
    · rcases List.mem_cons.mp h with rfl | h
      · exact .inr List.mem_cons_self
      · exact (ih h).imp_right (List.mem_cons_of_mem _)

theorem nodup_setEntry {name : Name} {node : Node} {entries : List (Name × Node)}
    (h : (entries.map Prod.fst).Nodup) :
    ((Node.setEntry name node entries).map Prod.fst).Nodup := by
  induction entries with
  | nil => simp [Node.setEntry]
  | cons first rest ih =>
    obtain ⟨hfirst, hrest⟩ := List.nodup_cons.mp h
    rw [Node.setEntry]
    split
    · rename_i heq
      rw [heq] at hfirst
      exact List.nodup_cons.mpr ⟨hfirst, hrest⟩
    · rename_i hne
      refine List.nodup_cons.mpr ⟨fun hmem => ?_, ih hrest⟩
      obtain ⟨e, he, hkey⟩ := List.mem_map.mp hmem
      rcases mem_setEntry he with rfl | he
      · exact hne hkey.symm
      · exact hfirst (hkey ▸ List.mem_map_of_mem he)

theorem wellFormed_setEntry {entries : List (Name × Node)} {a : Attributes} {name : Name}
    {node : Node} (h : (Node.directory entries a).WellFormed) (hname : name.Valid)
    (hnode : node.WellFormed) :
    (Node.directory (Node.setEntry name node entries) a).WellFormed := by
  obtain ⟨hkeys, hentries⟩ := Node.wellFormed_directory.mp h
  refine Node.wellFormed_directory.mpr ⟨nodup_setEntry hkeys, fun e he => ?_⟩
  rcases mem_setEntry he with rfl | he
  · exact ⟨hname, hnode⟩
  · exact hentries e he

/-- A tree stays well formed when a file is put where nothing is. -/
theorem FreeAt.wellFormed_put {t : Node} {place : Place} (h : FreeAt t place)
    (ht : t.WellFormed) (content : List UInt8) : (t.put place (.file content)).WellFormed := by
  have hfile : (Node.file content).WellFormed := by simp [Node.WellFormed]
  obtain ⟨hdir, hfree, hname⟩ := h
  rename_i above entries a name
  induction above generalizing t with
  | nil =>
    obtain rfl : t = .directory entries a := Option.some.inj hdir
    exact wellFormed_setEntry ht hname hfile
  | cons first rest ih =>
    obtain ⟨outer, b, child, rfl, hchild, hbelow⟩ := Node.at?_cons_eq_some.mp hdir
    obtain ⟨hfirst, hwell⟩ := ht.lookup hchild
    rw [List.cons_append, Node.put, hchild]
    exact wellFormed_setEntry ht hfirst (ih hwell hbelow)

/-! ## Paths in the tree that has grown -/

/-- Two walks lead to one place, or the first misses something in the middle and the second
comes to something that is no directory. -/
def Diverts (r r' : Except Fault Spot) : Prop :=
  r'.map Spot.place = r.map Spot.place ∨ (r = .error .notFound ∧ r' = .error .notDirectory)

namespace GrowsAt

variable {place : Place} {content : List UInt8} {t t' : Tree}

/-- A step is taken as before, or it comes to the file. -/
theorem stride_cases (h : GrowsAt place content t.top t'.top) (current : Place) (step : Name) :
    t'.stride current step = t.stride current step ∨
      (t.stride current step = .missing place ∧ t'.stride current step = .moved place) := by
  rw [Tree.stride_eq_strideOf, Tree.stride_eq_strideOf]
  by_cases hcurrent : current = place
  · subst hcurrent
    rw [h.free.at?_eq_none, h.file]
    exact .inl rfl
  rw [h.kinds current hcurrent]
  by_cases hnext : current ++ [step] = place
  · rw [hnext, h.free.at?_eq_none, h.file]
    unfold Tree.strideOf
    split
    · split
      · exact .inl rfl
      split
      · exact .inl rfl
      split
      · exact .inl rfl
      split
      · exact .inl rfl
      split
      · exact .inl rfl
      · exact .inr ⟨by rw [← hnext]; rfl, by rw [← hnext]; rfl⟩
    · exact .inl rfl
  · rw [h.kinds _ hnext]
    exact .inl rfl

theorem walk_diverts (h : GrowsAt place content t.top t'.top) {follow : Bool}
    {onLink onLink' : Place → Path → List Name → Except Fault Spot}
    (hlink : ∀ current target rest,
      Diverts (onLink current target rest) (onLink' current target rest))
    (current : Place) (steps : List Name) :
    Diverts (t.walk follow onLink current steps) (t'.walk follow onLink' current steps) := by
  induction steps generalizing current with
  | nil => exact .inl rfl
  | cons step rest ih =>
    rw [Tree.walk_cons, Tree.walk_cons]
    rcases h.stride_cases current step with heq | ⟨hmissing, hmoved⟩
    · rw [heq]
      cases t.stride current step with
      | moved next => exact ih next
      | missing next => exact .inl rfl
      | failed fault => exact .inl rfl
      | linked next target =>
        dsimp only
        split
        · exact .inl rfl
        · exact hlink current target rest
    · rw [hmissing, hmoved]
      cases rest with
      | nil => exact .inl rfl
      | cons next rest =>
        -- there is nothing to go on from in the first tree, and a file in the second
        refine .inr ⟨rfl, ?_⟩
        dsimp only
        rw [Tree.walk_cons, Tree.stride, h.file]

theorem walkThrough_diverts (h : GrowsAt place content t.top t'.top) (follow : Bool) (links : Nat)
    (current : Place) (steps : List Name) :
    Diverts (t.walkThrough follow links current steps)
      (t'.walkThrough follow links current steps) := by
  induction links generalizing current steps with
  | zero => exact h.walk_diverts (fun _ _ _ => .inl rfl) current steps
  | succ links ih => exact h.walk_diverts (fun _ _ _ => ih _ _) current steps

/-- A path leads where it led, or it goes on through the file. -/
theorem placeOf_cases (h : GrowsAt place content t.top t'.top) (hwork : t'.work = t.work)
    (p : Path) :
    t'.placeOf p = t.placeOf p ∨
      (t.placeOf p = .error .notFound ∧ t'.placeOf p = .error .notDirectory) := by
  rw [Tree.placeOf, Tree.placeOf, Tree.spot, Tree.spot, hwork]
  cases p.fault? with
  | some fault => exact .inl rfl
  | none =>
    refine (h.walkThrough_diverts true maxLinks _ p.steps).imp id ?_
    rintro ⟨hr, hr'⟩
    exact ⟨by rw [hr]; rfl, by rw [hr']; rfl⟩

theorem placeOf_eq_ok (h : GrowsAt place content t.top t'.top) (hwork : t'.work = t.work)
    {p : Path} {dest : Place} (hp : t.placeOf p = .ok dest) : t'.placeOf p = .ok dest := by
  rcases h.placeOf_cases hwork p with heq | ⟨hmissing, _⟩
  · rw [heq, hp]
  · rw [hp] at hmissing
    cases hmissing

theorem ne_place (h : GrowsAt place content t.top t'.top) {dest : Place} {n : Node}
    (hat : t.top.at? dest = some n) : dest ≠ place := by
  rintro rfl
  rw [h.free.at?_eq_none] at hat
  cases hat

theorem directory_iff (h : GrowsAt place content t.top t'.top) {dest : Place}
    (hdest : dest ≠ place) {a : Attributes} :
    (∃ entries, t'.top.at? dest = some (.directory entries a)) ↔
      ∃ entries, t.top.at? dest = some (.directory entries a) := by
  rw [Node.exists_directory_iff, Node.exists_directory_iff, h.kinds dest hdest]

/-- A directory is one as before, with an entry more if the file is put there. -/
theorem exists_directory (h : GrowsAt place content t.top t'.top) {dest : Place}
    {entries : List (Name × Node)} {a : Attributes}
    (hdir : t.top.at? dest = some (.directory entries a)) :
    ∃ entries', t'.top.at? dest = some (.directory entries' a) :=
  (h.directory_iff (h.ne_place hdir)).mpr ⟨entries, hdir⟩

/-- What is there and is no directory is there as before. -/
theorem at?_eq_some (h : GrowsAt place content t.top t'.top) {dest : Place} {n : Node}
    (hat : t.top.at? dest = some n) (hn : n.isDirectory = false) : t'.top.at? dest = some n := by
  have hdest := h.ne_place hat
  have hkind := h.kinds dest hdest
  rw [hat] at hkind
  obtain ⟨n', hat', hkind⟩ := Option.map_eq_some_iff.mp hkind
  cases n with
  | file bytes a => exact (h.files dest hdest bytes a).mpr hat
  | directory entries a => cases hn
  | link target => cases n' <;> cases hkind; exact hat'
  | special bytes a => cases n' <;> cases hkind; exact hat'

/-- A file that could be read is read as before. -/
theorem read_eq_ok (h : GrowsAt place content t.top t'.top) (hwork : t'.work = t.work) {p : Path}
    {bytes : List UInt8} (hp : t.read p = .ok bytes) : t'.read p = .ok bytes := by
  obtain ⟨dest, n, hdest, hat, hread⟩ := Tree.read_eq_ok_iff.mp hp
  have hn : n.isDirectory = false := by
    cases n with
    | directory entries a =>
      rw [Node.read_directory] at hread
      cases hread
    | file bytes a => rfl
    | link target => rfl
    | special bytes a => rfl
  exact Tree.read_eq_ok_iff.mpr
    ⟨dest, n, h.placeOf_eq_ok hwork hdest, h.at?_eq_some hat hn, hread⟩

end GrowsAt

/-- A tree in which a file is put where nothing was stays well formed. -/
theorem FreeAt.tree_wellFormed_put {t : Tree} {place : Place} (h : FreeAt t.top place)
    (ht : t.WellFormed) (content : List UInt8) : (t.put place (.file content)).WellFormed where
  top := h.wellFormed_put ht.top content
  work := by
    obtain ⟨entries, a, hwork⟩ := ht.work
    have hgrows : GrowsAt place content t.top (t.put place (.file content)).top :=
      growsAt_put h content
    obtain ⟨entries', hwork'⟩ := hgrows.exists_directory hwork
    exact ⟨entries', a, hwork'⟩

end BackendAudit.Files
