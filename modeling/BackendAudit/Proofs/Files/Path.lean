import BackendAudit.Proofs.Files.Node

/-!
# Paths of places

A walk makes the path of a file name by name.  The result is its root joined with the
relative path of the place (`Path.descend_eq_join`), and different places give different
paths (`Path.join_relative_injective`), since the names can be read off a relative path
again (`Path.pieces_relative`).
-/

namespace BackendAudit.Files

namespace Path

/-- The path of a place, seen from where the place starts: its names, with a slash between
one and the next. -/
def relative : Place → Path
  | [] => ⟨[]⟩
  | name :: rest => ⟨name ++ rest.flatMap (Name.slash :: ·)⟩

/-! ## Joining names -/

theorem not_isAbsolute_of_valid {name : Name} (h : name.Valid) (more : List UInt8) :
    isAbsolute ⟨name ++ more⟩ = false := by
  obtain ⟨hne, _, _, hslash⟩ := h
  cases name with
  | nil => exact absurd rfl hne
  | cons b bs =>
    have hb : b ≠ Name.slash := fun hb => hslash (by simp [hb])
    simp [isAbsolute, hb]

theorem not_isAbsolute_name {name : Name} (h : name.Valid) : isAbsolute ⟨name⟩ = false := by
  simpa using not_isAbsolute_of_valid h []

theorem not_isAbsolute_relative {place : Place} (h : ∀ name ∈ place, name.Valid) :
    (relative place).isAbsolute = false := by
  cases place with
  | nil => rfl
  | cons name rest => exact not_isAbsolute_of_valid (h name (by simp)) _

theorem join_of_not_isAbsolute (p : Path) {q : Path} (hq : q.isAbsolute = false) :
    p.join q =
      ⟨p.bytes ++ (if p.bytes.isEmpty || p.endsWithSlash then [] else [Name.slash]) ++
        q.bytes⟩ := by
  rw [join, hq, if_neg Bool.false_ne_true]
  by_cases hclosed : (p.bytes.isEmpty || p.endsWithSlash) = true
  · rw [if_pos hclosed, if_pos hclosed, List.append_nil]
  · rw [if_neg hclosed, if_neg hclosed, List.append_assoc]
    rfl

/-- A path to which a name has been joined is neither empty nor does it end with a slash. -/
theorem join_name_open (p : Path) {name : Name} (h : name.Valid) :
    ((p.join ⟨name⟩).bytes.isEmpty || (p.join ⟨name⟩).endsWithSlash) = false := by
  have hname : name.getLast? ≠ some Name.slash := fun hlast =>
    h.2.2.2 (List.mem_of_getLast? hlast)
  rw [join_of_not_isAbsolute p (not_isAbsolute_name h)]
  cases hlast : name.getLast? with
  | none => exact absurd (List.getLast?_eq_none_iff.mp hlast) h.1
  | some b =>
    rw [hlast] at hname
    simp_all [endsWithSlash, List.getLast?_append, h.1]

theorem descend_cons (p : Path) (name : Name) (rest : Place) :
    p.descend (name :: rest) = (p.join ⟨name⟩).descend rest := rfl

/-- From a path that does not end with a slash each name is put behind one. -/
theorem descend_eq_append {p : Path} {place : Place}
    (hp : (p.bytes.isEmpty || p.endsWithSlash) = false) (h : ∀ name ∈ place, name.Valid) :
    p.descend place = ⟨p.bytes ++ place.flatMap (Name.slash :: ·)⟩ := by
  induction place generalizing p with
  | nil => simp [descend]
  | cons name rest ih =>
    have hname : name.Valid := h name List.mem_cons_self
    have hrest : (p.join ⟨name⟩).descend rest =
        ⟨(p.join ⟨name⟩).bytes ++ rest.flatMap (Name.slash :: ·)⟩ :=
      ih (join_name_open p hname) fun other hother => h other (List.mem_cons_of_mem _ hother)
    rw [descend_cons, hrest, join_of_not_isAbsolute p (not_isAbsolute_name hname), hp]
    simp

/-- Going down name by name is joining with the relative path. -/
theorem descend_eq_join (root : Path) {place : Place} (hne : place ≠ [])
    (h : ∀ name ∈ place, name.Valid) : root.descend place = root.join (relative place) := by
  cases place with
  | nil => exact absurd rfl hne
  | cons name rest =>
    have hname : name.Valid := h name List.mem_cons_self
    have hrest : (root.join ⟨name⟩).descend rest =
        ⟨(root.join ⟨name⟩).bytes ++ rest.flatMap (Name.slash :: ·)⟩ :=
      descend_eq_append (join_name_open root hname) fun other hother =>
        h other (List.mem_cons_of_mem _ hother)
    rw [descend_cons, hrest, join_of_not_isAbsolute root (not_isAbsolute_name hname),
      join_of_not_isAbsolute root (not_isAbsolute_relative h), relative]
    simp

/-! ## Names of a relative path -/

theorem pieces_ne_nil (bytes : List UInt8) : pieces bytes ≠ [] := by
  cases bytes with
  | nil => simp [pieces]
  | cons b bytes =>
    rw [pieces, List.foldr_cons]
    cases List.foldr pieces.step [[]] bytes with
    | nil => simp [pieces.step]
    | cons piece rest =>
      rw [pieces.step]
      split <;> simp

theorem pieces_cons (b : UInt8) (bytes : List UInt8) :
    pieces (b :: bytes) = pieces.step b (pieces bytes) := rfl

/-- A name in front of a slash is a piece of its own. -/
theorem pieces_append_slash {name : Name} (h : Name.slash ∉ name) (bytes : List UInt8) :
    pieces (name ++ Name.slash :: bytes) = name :: pieces bytes := by
  induction name with
  | nil =>
    rw [List.nil_append, pieces_cons]
    cases hpieces : pieces bytes with
    | nil => exact absurd hpieces (pieces_ne_nil bytes)
    | cons piece rest => rw [pieces.step, if_pos rfl]
  | cons b name ih =>
    have hb : b ≠ Name.slash := fun hb => h (by simp [hb])
    have hname : Name.slash ∉ name := fun hname => h (List.mem_cons_of_mem _ hname)
    rw [List.cons_append, pieces_cons, ih hname, pieces.step, if_neg hb]

theorem pieces_of_not_mem {name : Name} (h : Name.slash ∉ name) : pieces name = [name] := by
  induction name with
  | nil => rfl
  | cons b name ih =>
    have hb : b ≠ Name.slash := fun hb => h (by simp [hb])
    have hname : Name.slash ∉ name := fun hname => h (List.mem_cons_of_mem _ hname)
    rw [pieces_cons, ih hname, pieces.step, if_neg hb]

/-- The pieces of a relative path are the names of the place. -/
theorem pieces_relative {place : Place} (hne : place ≠ []) (h : ∀ name ∈ place, name.Valid) :
    pieces (relative place).bytes = place := by
  cases place with
  | nil => exact absurd rfl hne
  | cons name rest =>
    rw [relative]
    induction rest generalizing name with
    | nil =>
      rw [List.flatMap_nil, List.append_nil]
      exact pieces_of_not_mem (h name (by simp)).2.2.2
    | cons next rest ih =>
      have hnext := ih next (by simp) fun other hother =>
        h other (List.mem_cons_of_mem _ hother)
      rw [List.flatMap_cons, List.cons_append, pieces_append_slash (h name (by simp)).2.2.2,
        hnext]

/-- Different places have different paths below a root. -/
theorem join_relative_injective {root : Path} {place place' : Place} (hne : place ≠ [])
    (hne' : place' ≠ []) (h : ∀ name ∈ place, name.Valid) (h' : ∀ name ∈ place', name.Valid)
    (heq : root.join (relative place) = root.join (relative place')) : place = place' := by
  rw [join_of_not_isAbsolute root (not_isAbsolute_relative h),
    join_of_not_isAbsolute root (not_isAbsolute_relative h'), Path.mk.injEq] at heq
  have hbytes : (relative place).bytes = (relative place').bytes := List.append_cancel_left heq
  rw [← pieces_relative hne h, hbytes, pieces_relative hne' h']

end Path
end BackendAudit.Files
