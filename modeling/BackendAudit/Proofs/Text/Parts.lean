import BackendAudit.Text.Blank
import BackendAudit.Text.Pieces
import Mathlib.Data.List.DropRight
import Mathlib.Data.List.Forall2

/-!
# Trimmed texts and split texts

What is left of a text without the blanks at its ends, whether a part occurs in a text, and
what stands on both sides of its first occurrence.  A character that is no blank holds the
trimming up (`trim_append_cons`); one that a part has not separates its occurrences
(`contains_append_cons`); a part whose last character does not occur before is found where it
stands (`splitOnce_append`).

Two texts that agree character by character, as far as trimming and splitting look, have
parts that agree in the same way (`trim_congr`, `splitOnce_congr`).
-/

namespace BackendAudit.Text

/-- A statement on all characters of a text is decided by going through the text, and not through
all characters that there are. -/
instance decidableForallMem (text : List Char) (p : Char → Prop) [DecidablePred p] :
    Decidable (∀ c ∈ text, p c) :=
  List.decidableBAll p text

/-! ## Trimmed texts -/

/-- A text of blanks only. -/
def Blank (cs : List Char) : Prop := ∀ c ∈ cs, isBlank c = true

instance (cs : List Char) : Decidable (Blank cs) :=
  inferInstanceAs (Decidable (∀ c ∈ cs, _))

theorem Blank.not_mem {cs : List Char} (h : Blank cs) {c : Char} (hc : isBlank c = false) :
    c ∉ cs := by
  intro hmem
  rw [h c hmem] at hc
  cases hc

section Trim

variable {c : Char}

theorem trimStart_append_cons (hc : isBlank c = false) (cs ds : List Char) :
    trimStart (cs ++ c :: ds) = trimStart cs ++ c :: ds := by
  rw [trimStart, trimStart, List.dropWhile_append, List.dropWhile_cons, hc]
  split
  · rename_i hempty
    rw [List.isEmpty_iff.mp hempty]
    rfl
  · rfl

theorem trimEnd_append_cons (hc : isBlank c = false) (cs ds : List Char) :
    trimEnd (cs ++ c :: ds) = cs ++ c :: trimEnd ds := by
  have hreverse : (cs ++ c :: ds).reverse = ds.reverse ++ c :: cs.reverse := by simp
  have hdrop := trimStart_append_cons hc ds.reverse cs.reverse
  rw [trimStart, trimStart] at hdrop
  rw [trimEnd, trimEnd, hreverse, hdrop]
  simp

/-- A character that is no blank stays, with all between it and other such characters. -/
theorem trim_append_cons (hc : isBlank c = false) (cs ds : List Char) :
    trim (cs ++ c :: ds) = trimStart cs ++ c :: trimEnd ds := by
  rw [trim, trimStart_append_cons hc, trimEnd_append_cons hc]

end Trim

theorem trimStart_append_of_blank {blanks : List Char} (h : Blank blanks) (cs : List Char) :
    trimStart (blanks ++ cs) = trimStart cs :=
  List.dropWhile_append_of_pos h

theorem trimEnd_append_of_blank {blanks : List Char} (h : Blank blanks) (cs : List Char) :
    trimEnd (cs ++ blanks) = trimEnd cs := by
  rw [trimEnd, trimEnd, List.reverse_append, List.dropWhile_append_of_pos]
  intro c hc
  exact h c (List.mem_reverse.mp hc)

theorem trimStart_of_blank {cs : List Char} (h : Blank cs) : trimStart cs = [] :=
  List.dropWhile_eq_nil_iff.mpr h

/-- A text has blanks only, or a first character that is none. -/
theorem blank_or_exists (cs : List Char) :
    Blank cs ∨ ∃ blanks c rest, cs = blanks ++ c :: rest ∧ Blank blanks ∧ isBlank c = false := by
  induction cs with
  | nil => exact .inl (List.forall_mem_nil _)
  | cons c cs ih =>
    cases hc : isBlank c with
    | false => exact .inr ⟨[], c, cs, rfl, List.forall_mem_nil _, hc⟩
    | true =>
      rcases ih with h | ⟨blanks, d, rest, rfl, h, hd⟩
      · exact .inl (List.forall_mem_cons.mpr ⟨hc, h⟩)
      · exact .inr ⟨c :: blanks, d, rest, rfl, List.forall_mem_cons.mpr ⟨hc, h⟩, hd⟩

theorem trim_eq_nil_iff {cs : List Char} : trim cs = [] ↔ Blank cs := by
  constructor
  · intro h
    rcases blank_or_exists cs with hblank | ⟨blanks, c, rest, rfl, _, hc⟩
    · exact hblank
    · rw [trim_append_cons hc] at h
      simp at h
  · intro h
    rw [trim, trimStart_of_blank h]
    rfl

theorem isBlank_of_trim_eq_cons {cs rest : List Char} {c : Char} (h : trim cs = c :: rest) :
    isBlank c = false := by
  rcases blank_or_exists cs with hblank | ⟨blanks, d, later, rfl, hblanks, hd⟩
  · rw [trim_eq_nil_iff.mpr hblank] at h
    contradiction
  · rw [trim_append_cons hd, trimStart_of_blank hblanks] at h
    exact (List.cons.inj h).1 ▸ hd

/-- Blanks at the end do not matter to the trimmed text. -/
theorem trim_append_of_blank {blanks : List Char} (h : Blank blanks) (cs : List Char) :
    trim (cs ++ blanks) = trim cs := by
  rcases blank_or_exists cs with hcs | ⟨front, c, rest, rfl, _, hc⟩
  · have hall : Blank (cs ++ blanks) := List.forall_mem_append.mpr ⟨hcs, h⟩
    rw [trim_eq_nil_iff.mpr hall, trim_eq_nil_iff.mpr hcs]
  · rw [List.append_assoc, List.cons_append, trim_append_cons hc, trim_append_cons hc,
      trimEnd_append_of_blank h]

theorem trimEnd_trimEnd (cs : List Char) : trimEnd (trimEnd cs) = trimEnd cs :=
  List.rdropWhile_idempotent isBlank cs

theorem trim_trimEnd (cs : List Char) : trim (trimEnd cs) = trim cs := by
  rcases blank_or_exists cs with h | ⟨blanks, c, rest, rfl, _, hc⟩
  · have hnil : trimEnd cs = [] := trimEnd_append_of_blank h []
    rw [hnil, trim_eq_nil_iff.mpr h]
    rfl
  · rw [trimEnd_append_cons hc, trim_append_cons hc, trim_append_cons hc, trimEnd_trimEnd]

theorem trim_trimStart (cs : List Char) : trim (trimStart cs) = trim cs := by
  rw [trim, trim, trimStart, trimStart, List.dropWhile_idempotent]

/-- A text is its trimmed text with blanks around it. -/
theorem exists_eq_trim (cs : List Char) :
    ∃ before after, Blank before ∧ Blank after ∧ cs = before ++ trim cs ++ after := by
  refine ⟨cs.takeWhile isBlank, (trimStart cs).rtakeWhile isBlank,
    fun _ => List.mem_takeWhile_imp, fun _ => List.mem_rtakeWhile_imp, ?_⟩
  have hend : trim cs ++ (trimStart cs).rtakeWhile isBlank = trimStart cs :=
    List.rdropWhile_append_rtakeWhile
  rw [List.append_assoc, hend]
  exact List.takeWhile_append_dropWhile.symm

theorem trim_sublist (cs : List Char) : (trim cs).Sublist cs :=
  (List.rdropWhile_prefix isBlank _).sublist.trans (List.dropWhile_sublist _)

/-! ## Texts that occur in others -/

section Contains

variable {part : List Char}

theorem contains_iff {cs : List Char} : contains part cs = true ↔ part <:+: cs := by
  induction cs with
  | nil => rw [contains, List.isEmpty_iff, List.infix_nil]
  | cons c cs ih =>
    rw [contains, Bool.or_eq_true, List.isPrefixOf_iff_prefix, ih, List.infix_cons_iff]

theorem contains_eq_false {cs : List Char} {p : Char} (hp : p ∈ part) (h : p ∉ cs) :
    contains part cs = false := by
  rw [← Bool.not_eq_true, contains_iff]
  exact fun hpart => h (hpart.subset hp)

/-- A text does not reach over a character that it has not. -/
theorem prefix_append_cons_iff {c : Char} (hc : c ∉ part) {cs ds : List Char} :
    part <+: cs ++ c :: ds ↔ part <+: cs := by
  refine ⟨fun hprefix => ?_, fun hprefix => hprefix.trans (List.prefix_append _ _)⟩
  have hwhole : cs ++ [c] <+: cs ++ c :: ds := ⟨ds, by simp⟩
  rcases List.prefix_or_prefix_of_prefix hprefix hwhole with hpart | hpart
  · rcases List.prefix_concat_iff.mp hpart with rfl | hpart
    · exact absurd (by simp) hc
    · exact hpart
  · exact absurd (hpart.subset (by simp)) hc

theorem contains_append_cons {c : Char} (hc : c ∉ part) (cs ds : List Char) :
    contains part (cs ++ c :: ds) = (contains part cs || contains part ds) := by
  rw [Bool.eq_iff_iff, Bool.or_eq_true, contains_iff, contains_iff, contains_iff]
  induction cs with
  | nil =>
    have hprefix := @prefix_append_cons_iff _ _ hc [] ds
    rw [List.nil_append] at hprefix
    rw [List.nil_append, List.infix_cons_iff, hprefix, List.prefix_nil, List.infix_nil]
  | cons d cs ih =>
    have hprefix := @prefix_append_cons_iff _ _ hc (d :: cs) ds
    rw [List.cons_append] at hprefix
    rw [List.cons_append, List.infix_cons_iff, hprefix, ih, List.infix_cons_iff, or_assoc]

variable {p : Char} (hp : p ∈ part)
include hp

/-- What has no character in common with a text does not matter in front of where it is
looked for. -/
theorem contains_append_left {cs : List Char} (hcs : ∀ c ∈ cs, c ∉ part) (ds : List Char) :
    contains part (cs ++ ds) = contains part ds := by
  induction cs with
  | nil => rfl
  | cons c cs ih =>
    obtain ⟨hc, hcs⟩ := List.forall_mem_cons.mp hcs
    have hcons := contains_append_cons hc [] (cs ++ ds)
    rw [contains_eq_false hp List.not_mem_nil, Bool.false_or, ih hcs] at hcons
    exact hcons

/-- Nor does it matter behind it. -/
theorem contains_append_right (cs : List Char) {ds : List Char} (hds : ∀ d ∈ ds, d ∉ part) :
    contains part (cs ++ ds) = contains part cs := by
  cases ds with
  | nil => rw [List.append_nil]
  | cons d ds =>
    have hrest : contains part ds = false :=
      contains_eq_false hp fun hmem => hds p (List.mem_cons_of_mem _ hmem) hp
    rw [contains_append_cons (hds d List.mem_cons_self), hrest, Bool.or_false]

end Contains

/-! ## Split texts -/

theorem splitOnce_go_eq (part before cs : List Char) :
    splitOnce.go part before cs =
      (splitOnce part cs).map fun sides => (before.reverse ++ sides.1, sides.2) := by
  induction cs generalizing before with
  | nil =>
    rw [splitOnce, splitOnce.go, splitOnce.go]
    split <;> simp
  | cons c cs ih =>
    rw [splitOnce, splitOnce.go, splitOnce.go]
    split
    · simp
    · rw [ih, ih]
      cases splitOnce part cs <;> simp

/-- A part is found at the beginning, or behind the first character. -/
theorem splitOnce_cons (part : List Char) (c : Char) (cs : List Char) :
    splitOnce part (c :: cs) =
      if part.isPrefixOf (c :: cs) then some ([], (c :: cs).drop part.length)
      else (splitOnce part cs).map fun sides => (c :: sides.1, sides.2) := by
  rw [splitOnce, splitOnce.go]
  split
  · rfl
  · rw [splitOnce_go_eq]
    rfl

/-- A part is found where it occurs, if it is not empty. -/
theorem splitOnce_eq_none_iff {part : List Char} (hpart : part ≠ []) {cs : List Char} :
    splitOnce part cs = none ↔ contains part cs = false := by
  induction cs with
  | nil =>
    rw [splitOnce, splitOnce.go, contains, List.isEmpty_eq_false_iff.mpr hpart]
    simp
  | cons c cs ih =>
    rw [splitOnce_cons, contains, Bool.or_eq_false_iff, ← ih]
    split
    · rename_i hfront
      simp [hfront]
    · rename_i hfront
      simp [hfront]

/-- A part is not found where one of its characters is missing. -/
theorem splitOnce_eq_none {part cs : List Char} {c : Char} (hpart : c ∈ part) (h : c ∉ cs) :
    splitOnce part cs = none :=
  (splitOnce_eq_none_iff (List.ne_nil_of_mem hpart)).mpr (contains_eq_false hpart h)

/-- A part is found where it stands, if its last character does not occur before. -/
theorem splitOnce_append {front : List Char} {last : Char} (hfront : last ∉ front)
    {before : List Char} (h : last ∉ before) (after : List Char) :
    splitOnce (front ++ [last]) (before ++ (front ++ [last]) ++ after) =
      some (before, after) := by
  induction before with
  | nil =>
    cases hpart : front ++ [last] with
    | nil => simp at hpart
    | cons c part =>
      have hprefix : (c :: part).isPrefixOf (c :: (part ++ after)) = true :=
        List.isPrefixOf_iff_prefix.mpr (List.prefix_append (c :: part) after)
      rw [List.nil_append, List.cons_append, splitOnce_cons, if_pos hprefix, ← List.cons_append,
        List.drop_left]
  | cons c before ih =>
    -- at an earlier place, the last character would stand in front of its own one
    have hprefix : ¬ (front ++ [last]).isPrefixOf
        (c :: (before ++ (front ++ [last]) ++ after)) = true := by
      intro hprefix
      have hwhole : c :: (before ++ front) <+: c :: (before ++ (front ++ [last]) ++ after) :=
        ⟨[last] ++ after, by simp⟩
      have hearlier := List.prefix_of_prefix_length_le (List.isPrefixOf_iff_prefix.mp hprefix)
        hwhole (by simp)
      have hmem : last ∈ c :: (before ++ front) := hearlier.subset (by simp)
      rcases List.mem_cons.mp hmem with rfl | hmem
      · exact h List.mem_cons_self
      · rcases List.mem_append.mp hmem with hmem | hmem
        · exact h (List.mem_cons_of_mem _ hmem)
        · exact hfront hmem
    rw [List.cons_append, List.cons_append, splitOnce_cons, if_neg hprefix,
      ih fun hmem => h (List.mem_cons_of_mem _ hmem)]
    rfl

/-- A text is taken apart at the first of a character in one way. -/
theorem append_cons_inj {c : Char} {cs cs' ds ds' : List Char} (h : c ∉ cs) (h' : c ∉ cs') :
    cs ++ c :: ds = cs' ++ c :: ds' ↔ cs = cs' ∧ ds = ds' := by
  refine ⟨fun heq => ?_, fun ⟨hcs, hds⟩ => by rw [hcs, hds]⟩
  have hsplit := @splitOnce_append [] c List.not_mem_nil cs h ds
  have hsplit' := @splitOnce_append [] c List.not_mem_nil cs' h' ds'
  simp only [List.nil_append, List.append_assoc, List.singleton_append] at hsplit hsplit'
  rw [heq, hsplit'] at hsplit
  simpa [eq_comm] using hsplit

/-- A character of two texts, one behind the other, that the first has not stands in the
second. -/
theorem exists_behind_of_not_mem {c : Char} {cs ds us vs : List Char}
    (h : cs ++ ds = us ++ c :: vs) (hc : c ∉ cs) : ∃ ws, us = cs ++ ws ∧ ds = ws ++ c :: vs := by
  rcases List.append_eq_append_iff.mp h with ⟨ws, hus, hds⟩ | ⟨ws, rfl, hvs⟩
  · exact ⟨ws, hus, hds⟩
  · cases ws with
    | nil => exact ⟨[], by simp, hvs.symm⟩
    | cons d ws =>
      obtain ⟨rfl, _⟩ := List.cons_eq_cons.mp hvs
      exact absurd (by simp) hc

/-- One that the second has not stands in the first. -/
theorem exists_before_of_not_mem {c : Char} {cs ds us vs : List Char}
    (h : cs ++ ds = us ++ c :: vs) (hc : c ∉ ds) : ∃ ws, cs = us ++ c :: ws ∧ vs = ws ++ ds := by
  rcases List.append_eq_append_iff.mp h with ⟨ws, rfl, rfl⟩ | ⟨ws, rfl, hvs⟩
  · exact absurd (by simp) hc
  · cases ws with
    | nil =>
      rw [List.nil_append] at hvs
      exact absurd (hvs ▸ List.mem_cons_self) hc
    | cons d ws =>
      obtain ⟨rfl, rfl⟩ := List.cons_eq_cons.mp hvs
      exact ⟨ws, rfl, rfl⟩

/-- Behind a character that is none there are no blanks. -/
theorem Blank.eq_nil_of_append {cs ds gap : List Char} {c : Char} (hgap : Blank gap)
    (h : cs ++ gap = ds ++ [c]) (hc : isBlank c = false) : gap = [] := by
  rcases List.eq_nil_or_concat gap with hnil | ⟨gap', d, rfl⟩
  · exact hnil
  · rw [List.concat_eq_append, ← List.append_assoc] at h
    obtain ⟨_, hd⟩ := List.append_inj' h rfl
    obtain rfl := List.singleton_inj.mp hd
    rw [hgap d (by simp)] at hc
    cases hc

/-! ## Texts that agree character by character -/

section Congr

variable {R : Char → Char → Prop} {part cs ds : List Char}

theorem isPrefixOf_congr (hpart : ∀ p ∈ part, ∀ c d, R c d → (p = c ↔ p = d))
    (h : List.Forall₂ R cs ds) : part.isPrefixOf cs = part.isPrefixOf ds := by
  induction part generalizing cs ds with
  | nil => rw [List.isPrefixOf_nil_left, List.isPrefixOf_nil_left]
  | cons p part ih =>
    cases h with
    | nil => rfl
    | @cons c d _ _ hcd hrest =>
      have hfirst : (p == c) = (p == d) := by
        rw [Bool.eq_iff_iff, beq_iff_eq, beq_iff_eq]
        exact hpart p List.mem_cons_self c d hcd
      have hlater := ih (fun q hq => hpart q (List.mem_cons_of_mem _ hq)) hrest
      rw [List.isPrefixOf_cons_cons, List.isPrefixOf_cons_cons, hfirst, hlater]

/-- A text occurs in both of two texts, or in neither, if none of its characters tells them
apart. -/
theorem contains_congr (hpart : ∀ p ∈ part, ∀ c d, R c d → (p = c ↔ p = d))
    (h : List.Forall₂ R cs ds) : contains part cs = contains part ds := by
  induction h with
  | nil => rfl
  | cons hcd hrest ih =>
    rw [contains, contains, ih, isPrefixOf_congr hpart (.cons hcd hrest)]

theorem dropWhile_congr {p : Char → Bool} (hp : ∀ c d, R c d → p c = p d)
    (h : List.Forall₂ R cs ds) : List.Forall₂ R (cs.dropWhile p) (ds.dropWhile p) := by
  induction h with
  | nil => exact .nil
  | cons hcd hrest ih =>
    rw [List.dropWhile_cons, List.dropWhile_cons, hp _ _ hcd]
    split
    · exact ih
    · exact .cons hcd hrest

theorem takeWhile_congr {p : Char → Bool} (hp : ∀ c d, R c d → p c = p d)
    (h : List.Forall₂ R cs ds) : List.Forall₂ R (cs.takeWhile p) (ds.takeWhile p) := by
  induction h with
  | nil => exact .nil
  | cons hcd _ ih =>
    rw [List.takeWhile_cons, List.takeWhile_cons, hp _ _ hcd]
    split
    · exact .cons hcd ih
    · exact .nil

theorem trimEnd_congr (hR : ∀ c d, R c d → isBlank c = isBlank d) (h : List.Forall₂ R cs ds) :
    List.Forall₂ R (trimEnd cs) (trimEnd ds) :=
  List.rel_reverse (dropWhile_congr hR (List.rel_reverse h))

/-- Texts with blanks at the same places are trimmed at the same places. -/
theorem trim_congr (hR : ∀ c d, R c d → isBlank c = isBlank d) (h : List.Forall₂ R cs ds) :
    List.Forall₂ R (trim cs) (trim ds) :=
  trimEnd_congr hR (dropWhile_congr hR h)

/-- What stands on both sides of a part, if it occurs, agrees for two texts. -/
def SidesAgree (R : Char → Char → Prop) (s t : List Char × List Char) : Prop :=
  List.Forall₂ R s.1 t.1 ∧ List.Forall₂ R s.2 t.2

/-- Texts with the characters of a part at the same places are split at the same place. -/
theorem splitOnce_congr (hpart : ∀ p ∈ part, ∀ c d, R c d → (p = c ↔ p = d))
    (h : List.Forall₂ R cs ds) :
    Option.Rel (SidesAgree R) (splitOnce part cs) (splitOnce part ds) := by
  induction h with
  | nil =>
    rw [splitOnce, splitOnce.go]
    split
    · exact .some ⟨.nil, .nil⟩
    · exact .none
  | @cons c d cs ds hcd hrest ih =>
    rw [splitOnce_cons, splitOnce_cons, isPrefixOf_congr hpart (.cons hcd hrest)]
    split
    · exact .some ⟨.nil, List.forall₂_drop _ (.cons hcd hrest)⟩
    · generalize splitOnce part cs = sides, splitOnce part ds = sides' at ih
      cases ih with
      | none => exact .none
      | some hsides => exact .some ⟨.cons hcd hsides.1, hsides.2⟩

end Congr

end BackendAudit.Text
