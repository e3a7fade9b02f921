import BackendAudit.Text.Pieces

/-!
# Places in a text

A place is the length in UTF-8 of what is before it, so only some numbers are places
of a text: those at which a character begins, and the end.  `Text.IsPlace` and
`Text.IsSpan` say so of a number and of a pair, and both stay true when more text
follows.
-/

namespace BackendAudit.Text

@[simp]
theorem byteLength_nil : byteLength [] = 0 := rfl

private theorem foldl_utf8Size (n : Nat) (cs : List Char) :
    cs.foldl (fun n c => n + c.utf8Size) n = n + byteLength cs := by
  induction cs generalizing n with
  | nil => rfl
  | cons c cs ih =>
    rw [byteLength, List.foldl_cons, List.foldl_cons, ih, ih (0 + c.utf8Size)]
    omega

@[simp]
theorem byteLength_cons (c : Char) (cs : List Char) :
    byteLength (c :: cs) = c.utf8Size + byteLength cs := by
  rw [byteLength, List.foldl_cons, foldl_utf8Size]
  omega

@[simp]
theorem byteLength_append (cs ds : List Char) :
    byteLength (cs ++ ds) = byteLength cs + byteLength ds := by
  induction cs with
  | nil => simp
  | cons c cs ih =>
    rw [List.cons_append, byteLength_cons, byteLength_cons, ih]
    omega

/-! ## Places and spans -/

/-- A number is a place of a text: it does not lie within a character. -/
def IsPlace (cs : List Char) (place : Nat) : Prop :=
  ∃ before after, cs = before ++ after ∧ byteLength before = place

/-- A pair of places is where some part of a text begins and ends. -/
def IsSpan (cs : List Char) (span : Nat × Nat) : Prop :=
  ∃ before part after, cs = before ++ part ++ after ∧ byteLength before = span.1 ∧
    byteLength (before ++ part) = span.2

theorem isPlace_end (cs : List Char) : IsPlace cs (byteLength cs) :=
  ⟨cs, [], (List.append_nil cs).symm, rfl⟩

theorem IsPlace.append {cs : List Char} {place : Nat} (h : IsPlace cs place)
    (more : List Char) : IsPlace (cs ++ more) place := by
  obtain ⟨before, after, rfl, hplace⟩ := h
  exact ⟨before, after ++ more, List.append_assoc _ _ _, hplace⟩

theorem eq_nil_of_byteLength {cs : List Char} (h : byteLength cs = 0) : cs = [] := by
  cases cs with
  | nil => rfl
  | cons c cs =>
    have hc : 0 < c.utf8Size := c.utf8Size_pos
    rw [byteLength_cons] at h
    omega

/-- The place tells where a text is divided. -/
theorem eq_of_byteLength_eq {before rest before' rest' : List Char}
    (htext : before ++ rest = before' ++ rest') (hplace : byteLength before = byteLength before') :
    before = before' ∧ rest = rest' := by
  suffices before = before' from ⟨this, List.append_cancel_left (this ▸ htext)⟩
  rcases List.append_eq_append_iff.mp htext with ⟨part, rfl, _⟩ | ⟨part, rfl, _⟩
  all_goals
    rw [byteLength_append] at hplace
    obtain rfl : part = [] := eq_nil_of_byteLength (by omega)
    rw [List.append_nil]

/-- Of two ways of dividing a text, the earlier one divides the front part of the other. -/
theorem exists_append_of_byteLength_le {before rest front back : List Char}
    (htext : before ++ rest = front ++ back) (hle : byteLength front ≤ byteLength before) :
    ∃ inside, before = front ++ inside ∧ back = inside ++ rest := by
  rcases List.append_eq_append_iff.mp htext with ⟨inside, rfl, hrest⟩ | ⟨inside, rfl, hback⟩
  · rw [byteLength_append] at hle
    obtain rfl : inside = [] := eq_nil_of_byteLength (by omega)
    exact ⟨[], by simp, hrest.symm⟩
  · exact ⟨inside, rfl, hback⟩

theorem IsPlace.le {cs : List Char} {place : Nat} (h : IsPlace cs place) :
    place ≤ byteLength cs := by
  obtain ⟨before, after, rfl, rfl⟩ := h
  rw [byteLength_append]
  omega

/-- The next place behind that of a character is where the character ends. -/
theorem IsPlace.eq_or_le {seen rest : List Char} {c : Char} {place : Nat}
    (h : IsPlace (seen ++ c :: rest) place) (hle : byteLength seen ≤ place) :
    place = byteLength seen ∨ byteLength (seen ++ [c]) ≤ place := by
  obtain ⟨before, after, htext, rfl⟩ := h
  rcases List.append_eq_append_iff.mp htext with ⟨part, rfl, hpart⟩ | ⟨part, rfl, _⟩
  · cases part with
    | nil => exact .inl (by rw [List.append_nil])
    | cons d part =>
      obtain rfl := (List.cons.inj hpart).1
      refine .inr ?_
      simp only [byteLength_append, byteLength_cons, byteLength_nil]
      omega
  · rw [byteLength_append] at hle ⊢
    exact .inl (by omega)

/-- What is behind a place of a text is a part of it. -/
theorem IsPlace.span_end {cs : List Char} {place : Nat} (h : IsPlace cs place) :
    IsSpan cs (place, byteLength cs) := by
  obtain ⟨before, after, rfl, hplace⟩ := h
  exact ⟨before, after, [], (List.append_nil _).symm, hplace, rfl⟩

theorem IsSpan.append {cs : List Char} {span : Nat × Nat} (h : IsSpan cs span)
    (more : List Char) : IsSpan (cs ++ more) span := by
  obtain ⟨before, part, after, rfl, hfirst, hlast⟩ := h
  exact ⟨before, part, after ++ more, List.append_assoc _ _ _, hfirst, hlast⟩

theorem IsSpan.le {cs : List Char} {span : Nat × Nat} (h : IsSpan cs span) :
    span.1 ≤ span.2 := by
  obtain ⟨before, part, after, _, hfirst, hlast⟩ := h
  rw [byteLength_append] at hlast
  omega

/-- A part of a text ends at a place of it. -/
theorem IsSpan.isPlace_end {cs : List Char} {span : Nat × Nat} (h : IsSpan cs span) :
    IsPlace cs span.2 := by
  obtain ⟨before, part, after, htext, _, hlast⟩ := h
  exact ⟨before ++ part, after, htext, hlast⟩

end BackendAudit.Text
