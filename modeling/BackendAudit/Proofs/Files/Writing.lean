import BackendAudit.Proofs.Files.Growth

/-!
# Writing into a tree

A file can be written where a path leads to a file that is writable, or to a free name in a
directory that is (`Tree.canWrite_iff`), and is then there with what was written
(`Tree.holds_of_write`), unless it is a special file.  All other files are as they were
(`Tree.at?_write_of_ne`).  Whether a file can be written does not depend on one that is added
elsewhere (`GrowsAt.canWrite_iff`), nor what it holds on what is written behind the content of
another (`Tree.Holds.appendAt`).

* `Tree.exists_lead`: the way to a directory goes through directories.
* `Tree.createDirectories_eq`: so nothing is created where they are there.
-/

namespace BackendAudit.Files

namespace Tree

variable {t : Tree}

/-! ## The way to a directory -/

/-- A file can be written by a path. -/
def CanWrite (t : Tree) (p : Path) : Prop := ∃ s, t.spotToWrite p = .ok s

theorem spotToWrite_eq_ok_iff {p : Path} {s : Spot} :
    t.spotToWrite p = .ok s ↔ t.spot true p = .ok s ∧ t.writeFault? s = none := by
  rw [spotToWrite]
  cases hspot : t.spot true p with
  | error fault =>
    dsimp only
    split <;> simp
  | ok found =>
    dsimp only
    cases hfault : t.writeFault? found with
    | some fault =>
      simp only [reduceCtorEq, Except.ok.injEq, false_iff]
      rintro ⟨rfl, hnone⟩
      rw [hfault] at hnone
      cases hnone
    | none =>
      simp only [Except.ok.injEq, iff_self_and]
      rintro rfl
      exact hfault

/-- A path can be written if it leads to a file that is writable, or to a name that can be
created. -/
theorem canWrite_iff {p : Path} :
    t.CanWrite p ↔
      ∃ dest, t.placeOf p = .ok dest ∧ t.writeFault? ⟨dest, t.top.at? dest⟩ = none := by
  rw [placeOf, CanWrite]
  simp only [spotToWrite_eq_ok_iff]
  cases hspot : t.spot true p with
  | error fault => simp [Except.map]
  | ok s =>
    have hnode : s.node = t.top.at? s.place := spot_spotOf true p s hspot
    constructor
    · rintro ⟨_, hs, hfault⟩
      cases hs
      exact ⟨_, rfl, by rw [← hnode]; exact hfault⟩
    · rintro ⟨dest, hdest, hfault⟩
      cases hdest
      rw [← hnode] at hfault
      exact ⟨_, rfl, hfault⟩

theorem write_eq_ok_iff {p : Path} {content : List UInt8} {t' : Tree} :
    t.write p content = .ok t' ↔
      ∃ place node, t.spot true p = .ok ⟨place, node⟩ ∧ t.writeFault? ⟨place, node⟩ = none ∧
        t' = t.putContent ⟨place, node⟩ content := by
  rw [write]
  constructor
  · intro h
    cases hspot : t.spotToWrite p with
    | error fault =>
      rw [hspot] at h
      cases h
    | ok s =>
      rw [hspot] at h
      cases h
      obtain ⟨hfound, hfault⟩ := spotToWrite_eq_ok_iff.mp hspot
      exact ⟨_, _, hfound, hfault, rfl⟩
  · rintro ⟨place, node, hfound, hfault, rfl⟩
    rw [spotToWrite_eq_ok_iff.mpr ⟨hfound, hfault⟩]
    rfl

/-- Writing succeeds where it can be done. -/
theorem exists_write_iff {p : Path} (content : List UInt8) :
    (∃ t', t.write p content = .ok t') ↔ t.CanWrite p := by
  rw [write, CanWrite]
  cases t.spotToWrite p <;> simp [Except.map]

end Tree

/-! ## What a tree holds after writing -/

theorem at?_put_of_file {t : Node} {place : Place} {old : List UInt8} {a : Attributes}
    (h : t.at? place = some (.file old a)) (content : List UInt8) :
    (t.put place (.file content a)).at? place = some (.file content a) := by
  induction place generalizing t with
  | nil => rw [Node.put, Node.at?_nil]
  | cons name rest ih =>
    obtain ⟨entries, b, child, rfl, hchild, hfile⟩ := Node.at?_cons_eq_some.mp h
    rw [Node.at?_put_cons_of_lookup hchild, if_pos rfl]
    exact ih hfile

namespace Tree

variable {t t' : Tree}

/-- Paths lead where they led when a file has other bytes. -/
theorem placeOf_put_of_file {place : Place} {old : List UInt8} {a : Attributes}
    (h : t.top.at? place = some (.file old a)) (content : List UInt8) (p : Path) :
    (t.put place (.file content a)).placeOf p = t.placeOf p := by
  have hsame : SameKinds t.top (t.put place (.file content a)).top :=
    (differAt_put h content).sameKinds
  exact (hsame.placeOf_eq rfl p).symm

/-- A path leads to a regular file with these bytes. -/
def Holds (t : Tree) (p : Path) (bytes : List UInt8) : Prop :=
  ∃ place a, t.placeOf p = .ok place ∧ t.top.at? place = some (.file bytes a)

/-- What is there after writing: the file has what was written, unless it is a special one, and
then nothing has changed. -/
theorem holds_of_write (ht : t.WellFormed) {p : Path} {content : List UInt8}
    (h : t.write p content = .ok t') :
    ∃ place, t.placeOf p = .ok place ∧
      ((∃ a, t'.placeOf p = .ok place ∧ t'.top.at? place = some (.file content a)) ∨
        ∃ bytes a, t.top.at? place = some (.special bytes a) ∧ t' = t) := by
  obtain ⟨place, node, hfound, hfault, rfl⟩ := write_eq_ok_iff.mp h
  have hplace : t.placeOf p = .ok place := by rw [placeOf, hfound]; rfl
  refine ⟨place, hplace, ?_⟩
  rcases spot_arrives ht p _ hfound with ⟨hnode, hfree⟩ | ⟨hnode, n, hn, hlink⟩
  · obtain rfl : node = none := hnode
    have hgrows : GrowsAt place content t.top (t.put place (.file content)).top :=
      growsAt_put hfree content
    exact .inl ⟨_, hgrows.placeOf_eq_ok rfl hplace, hgrows.file⟩
  · obtain rfl : node = some n := hnode.trans hn
    cases n with
    | directory entries a => simp [writeFault?, Node.isDirectory] at hfault
    | link target => exact absurd rfl (hlink target)
    | special bytes a => exact .inr ⟨bytes, a, hn, rfl⟩
    | file old a =>
      refine .inl ⟨a, ?_, at?_put_of_file hn content⟩
      exact (placeOf_put_of_file hn content p).trans hplace

/-- Writing changes no file at another place. -/
theorem at?_write_of_ne (ht : t.WellFormed) {p : Path} {content bytes : List UInt8}
    {place other : Place} {a : Attributes} (h : t.write p content = .ok t')
    (hp : t.placeOf p = .ok place) (hother : other ≠ place)
    (hat : t.top.at? other = some (.file bytes a)) : t'.top.at? other = some (.file bytes a) := by
  obtain ⟨place', node, hfound, -, rfl⟩ := write_eq_ok_iff.mp h
  obtain rfl : place' = place := by
    rw [placeOf, hfound] at hp
    exact Except.ok.inj hp
  rcases spot_arrives ht p _ hfound with ⟨hnode, hfree⟩ | ⟨hnode, n, hn, -⟩
  · obtain rfl : node = none := hnode
    exact ((growsAt_put hfree content).files other hother bytes a).mpr hat
  · obtain rfl : node = some n := hnode.trans hn
    cases n with
    | directory entries b => exact hat
    | link target => exact hat
    | special old b => exact hat
    | file old b => exact ((differAt_put hn content).sameFiles other hother bytes a).mp hat

end Tree

/-! ## Writing behind the content of a file -/

namespace Tree

variable {t : Tree} {place : Place} {content : List UInt8}

/-- Only the file at the place changes. -/
theorem at?_appendAt_of_ne {other : Place} {bytes : List UInt8} {a : Attributes}
    (hother : other ≠ place) (hat : t.top.at? other = some (.file bytes a)) :
    (t.appendAt place content).top.at? other = some (.file bytes a) := by
  rw [appendAt]
  split
  · rename_i old b hold
    exact ((differAt_put hold (old ++ content)).sameFiles other hother bytes a).mp hat
  · exact hat

theorem placeOf_appendAt (p : Path) : (t.appendAt place content).placeOf p = t.placeOf p := by
  rw [appendAt]
  split
  · rename_i old b hold
    exact placeOf_put_of_file hold _ p
  · rfl

/-- A path that leads elsewhere holds what it held. -/
theorem Holds.appendAt {p : Path} {bytes : List UInt8} (h : t.Holds p bytes)
    (hp : t.placeOf p ≠ .ok place) (content : List UInt8) :
    (t.appendAt place content).Holds p bytes := by
  obtain ⟨dest, a, hdest, hat⟩ := h
  refine ⟨dest, a, (placeOf_appendAt p).trans hdest, at?_appendAt_of_ne ?_ hat⟩
  exact fun heq => hp (heq ▸ hdest)

end Tree

/-! ## Writing next to a file that was added -/

namespace GrowsAt

variable {place : Place} {content : List UInt8} {t t' : Tree}

/-- At another place the same can be written. -/
theorem writeFault?_eq (h : GrowsAt place content t.top t'.top) (ht : t.WellFormed) {p : Path}
    {dest : Place} (hp : t.placeOf p = .ok dest) (hdest : dest ≠ place) :
    t'.writeFault? ⟨dest, t'.top.at? dest⟩ = t.writeFault? ⟨dest, t.top.at? dest⟩ := by
  rw [Tree.placeOf] at hp
  cases hspot : t.spot true p with
  | error fault =>
    rw [hspot] at hp
    cases hp
  | ok s =>
    rw [hspot] at hp
    obtain ⟨place', node⟩ := s
    obtain rfl : place' = dest := Except.ok.inj hp
    have hkind := h.kinds place' hdest
    rcases Tree.spot_arrives ht p _ hspot with ⟨-, hfree⟩ | ⟨-, n, hn, -⟩
    · -- a free name is in a directory, which is there in both trees
      change FreeAt t.top place' at hfree
      rw [hfree.at?_eq_none] at hkind ⊢
      rw [Option.map_eq_none_iff.mp hkind]
      cases hfree with
      | intro hdir _ _ =>
        obtain ⟨entries', hdir'⟩ := h.exists_directory hdir
        simp only [Tree.writeFault?, Tree.mayCreate_concat hdir, Tree.mayCreate_concat hdir']
    · change t.top.at? place' = some n at hn
      rw [hn] at hkind ⊢
      obtain ⟨n', hn', hkind⟩ := Option.map_eq_some_iff.mp hkind
      rw [hn']
      cases n <;> cases n' <;> cases hkind <;> rfl

/-- A path that does not lead to the file can be written as before. -/
theorem canWrite_iff (h : GrowsAt place content t.top t'.top) (hwork : t'.work = t.work)
    (ht : t.WellFormed) {p : Path} (hp : t.placeOf p ≠ .ok place) :
    t'.CanWrite p ↔ t.CanWrite p := by
  rw [Tree.canWrite_iff, Tree.canWrite_iff]
  rcases h.placeOf_cases hwork p with heq | ⟨hmissing, hstopped⟩
  · rw [heq]
    refine exists_congr fun dest => and_congr_right fun hdest => ?_
    rw [h.writeFault?_eq ht hdest fun heq => hp (heq ▸ hdest)]
  · simp [hmissing, hstopped]

end GrowsAt
end BackendAudit.Files
