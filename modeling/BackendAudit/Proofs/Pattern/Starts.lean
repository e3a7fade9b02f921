import BackendAudit.Proofs.Pattern.Recognition

/-!
# Where matches begin

A part that an expression reads need not be a match, but it begins within one
(`Automaton.exists_match_around`).  So the matches are known where the parts that are read do not
lie one within the other.

* `Automaton.mem_starts_iff`: a match begins where a part is read, if the parts have their first
  character only once.
* `Automaton.exists_match_behind_iff`: a match begins behind a place just when a part is read
  there, if none reads over the character at that place.
* `Automaton.findAll_eq_nil`, `Automaton.findAll_eq_singleton`: nothing is read, or one part only.
-/

namespace BackendAudit.Pattern

open Text

variable {e : Expr CharSet} {before part after : List Char}

/-- An expression reads at least one character. -/
def Expr.Solid (e : Expr CharSet) : Prop := ∀ before after, ¬ e.Fits before [] after

/-- What an expression reads has its first character only once, as far as `P` tells. -/
def Expr.HeadedBy (e : Expr CharSet) (P : Char → Prop) : Prop :=
  ∀ {before part after : List Char}, e.Fits before part after →
    ∃ c tail, part = c :: tail ∧ P c ∧ ∀ d ∈ tail, ¬ P d

theorem Expr.HeadedBy.solid {P : Char → Prop} (h : e.HeadedBy P) : e.Solid := by
  intro before after hfits
  obtain ⟨c, tail, hnil, _⟩ := h hfits
  cases hnil

namespace Automaton

theorem fits_of_mem {text : List Char} {span : Nat × Nat} (h : span ∈ (ofExpr e).findAll text) :
    ∃ before part after, text = before ++ part ++ after ∧ byteLength before = span.1 ∧
      byteLength (before ++ part) = span.2 ∧ e.Fits before part after :=
  fits_of_matchesAt (mem_findAll_iff_counts.mp h).1

/-- A part that an expression reads begins within a match. -/
theorem exists_match_around (hsolid : e.Solid) (h : e.Fits before part after) :
    ∃ front inside more back, before = front ++ inside ∧ part ++ after = more ++ back ∧
      more ≠ [] ∧ e.Fits front (inside ++ more) back ∧
      (byteLength front, byteLength (front ++ (inside ++ more))) ∈
        (ofExpr e).findAll (before ++ part ++ after) := by
  obtain ⟨stop, hmatch⟩ := exists_matchesAt_of_fits h
  have hlt : byteLength before < stop := by
    refine Nat.lt_of_le_of_ne hmatch.le ?_
    rintro rfl
    obtain ⟨front, empty, back, _, hstart, hstop, hempty⟩ := fits_of_matchesAt hmatch
    rw [byteLength_append] at hstop
    obtain rfl : empty = [] := eq_nil_of_byteLength (by omega)
    exact hsolid _ _ hempty
  obtain ⟨⟨start, stop'⟩, hmem, hle, hwithin⟩ := exists_span_of_matchesAt hmatch hlt
  obtain ⟨front, whole, back, htext, rfl, rfl, hfits⟩ := fits_of_mem hmem
  rw [List.append_assoc, List.append_assoc] at htext
  obtain ⟨inside, rfl, hrest⟩ := exists_append_of_byteLength_le htext hle
  dsimp only at hwithin
  rw [byteLength_append, byteLength_append, Nat.add_lt_add_iff_left] at hwithin
  obtain ⟨more, rfl, hmore⟩ := exists_append_of_byteLength_le hrest (Nat.le_of_lt hwithin)
  refine ⟨front, inside, more, back, rfl, hmore, ?_, hfits, hmem⟩
  rintro rfl
  simp at hwithin

/-- Where a part is read, a match begins, if the parts have their first character only once. -/
theorem mem_starts_iff {P : Char → Prop} (hheaded : e.HeadedBy P) {text : List Char}
    {start : Nat} :
    start ∈ ((ofExpr e).findAll text).map Prod.fst ↔
      ∃ before part after, text = before ++ part ++ after ∧ byteLength before = start ∧
        e.Fits before part after := by
  rw [List.mem_map]
  constructor
  · rintro ⟨span, hspan, rfl⟩
    obtain ⟨before, part, after, htext, hstart, _, hfits⟩ := fits_of_mem hspan
    exact ⟨before, part, after, htext, hstart, hfits⟩
  · rintro ⟨before, part, after, rfl, rfl, hfits⟩
    obtain ⟨front, inside, more, back, rfl, hrest, hmore, hwhole, hmem⟩ :=
      exists_match_around hheaded.solid hfits
    cases inside with
    | nil => exact ⟨_, hmem, by rw [List.append_nil]⟩
    | cons d inside =>
      -- the part begins with a character that stands behind the first of the match
      obtain ⟨c, tail, rfl, hc, _⟩ := hheaded hfits
      obtain ⟨_, _, hpart, _, hnone⟩ := hheaded hwhole
      obtain ⟨more, rfl⟩ : ∃ more', more = c :: more' := by
        cases more with
        | nil => exact absurd rfl hmore
        | cons c' more => exact ⟨more, by rw [(List.cons_eq_cons.mp hrest).1]⟩
      obtain ⟨_, rfl⟩ := List.cons_eq_cons.mp hpart
      exact absurd hc (hnone c (by simp))

/-- A match begins behind a place just when a part is read there, if none reads over the character
at that place. -/
theorem exists_match_behind_iff (hsolid : e.Solid) {c : Char} {before rest : List Char}
    (hover : ∀ {front part back}, e.Fits front part back → c ∉ part) :
    (∃ span ∈ (ofExpr e).findAll (before ++ c :: rest), byteLength before ≤ span.1) ↔
      ∃ front part back, c :: rest = front ++ part ++ back ∧
        e.Fits (before ++ front) part back := by
  constructor
  · rintro ⟨span, hspan, hle⟩
    obtain ⟨seen, part, back, htext, hstart, _, hfits⟩ := fits_of_mem hspan
    rw [List.append_assoc] at htext
    obtain ⟨front, rfl, hrest⟩ := exists_append_of_byteLength_le htext.symm (hstart ▸ hle)
    exact ⟨front, part, back, by rw [hrest, List.append_assoc], hfits⟩
  · rintro ⟨front, part, back, hrest, hfits⟩
    obtain ⟨seen, inside, more, back', hseen, hmore, hne, hwhole, hmem⟩ :=
      exists_match_around hsolid hfits
    have htext : before ++ front ++ part ++ back = before ++ c :: rest := by
      rw [hrest]
      simp
    rw [htext] at hmem
    refine ⟨_, hmem, ?_⟩
    by_contra hlt
    -- a match from further in front would read over the place
    obtain ⟨gap, hbefore, hinside⟩ := exists_append_of_byteLength_le hseen
      (Nat.le_of_not_le hlt)
    refine hover hwhole ?_
    have hread : c :: rest = front ++ more ++ back' := by
      rw [hrest, List.append_assoc, hmore, List.append_assoc]
    have hc : c ∈ front ++ more := by
      cases hcs : front ++ more with
      | nil => exact absurd (List.append_eq_nil_iff.mp hcs).2 hne
      | cons d cs =>
        rw [hcs] at hread
        rw [(List.cons_eq_cons.mp hread).1]
        exact List.mem_cons_self
    rw [hinside, List.append_assoc]
    exact List.mem_append_right _ hc

theorem findAll_eq_nil {text : List Char} (h : ∀ before part after,
    text = before ++ part ++ after → ¬ e.Fits before part after) :
    (ofExpr e).findAll text = [] := by
  refine List.eq_nil_iff_forall_not_mem.mpr fun span hspan => ?_
  obtain ⟨before, part, after, htext, _, _, hfits⟩ := fits_of_mem hspan
  exact h before part after htext hfits

/-- There is one match where an expression reads one part only. -/
theorem findAll_eq_singleton (hsolid : e.Solid) (hfits : e.Fits before part after)
    (hunique : ∀ front whole back, before ++ part ++ after = front ++ whole ++ back →
      e.Fits front whole back → front = before ∧ whole = part) :
    (ofExpr e).findAll (before ++ part ++ after) =
      [(byteLength before, byteLength (before ++ part))] := by
  have hall : ∀ span ∈ (ofExpr e).findAll (before ++ part ++ after),
      span = (byteLength before, byteLength (before ++ part)) := by
    intro span hspan
    obtain ⟨front, whole, back, htext, hstart, hstop, hwhole⟩ := fits_of_mem hspan
    obtain ⟨rfl, rfl⟩ := hunique front whole back htext hwhole
    exact Prod.ext hstart.symm hstop.symm
  obtain ⟨_, _, _, _, _, _, _, _, hmem⟩ := exists_match_around hsolid hfits
  have hascending := @findAll_ascending (ofExpr e) (before ++ part ++ after)
  generalize (ofExpr e).findAll (before ++ part ++ after) = spans at hall hmem hascending ⊢
  cases spans with
  | nil => cases hmem
  | cons span spans =>
    obtain rfl := hall span List.mem_cons_self
    cases spans with
    | nil => rfl
    | cons span' spans =>
      obtain rfl := hall span' (by simp)
      exact absurd (List.rel_of_pairwise_cons hascending List.mem_cons_self) (Nat.lt_irrefl _)

end Automaton

/-- The matches of a pattern are those of its expression. -/
theorem findAll_eq_ofExpr (p : Pattern) (text : List Char) :
    p.findAll text = (Automaton.ofExpr p.expr).findAll text := by
  rw [findAll, p.automaton_eq]

end BackendAudit.Pattern
