import BackendAudit.Proofs.Text.Parts
import BackendAudit.Text.Case

/-!
# Texts in upper case

Characters that are mapped to upper case one by one: a text is mapped part by part
(`uppercase_append`), letters of ASCII that differ in their case alone have the same form
(`uppercase_congr`), and white space has no case (`uppercase_of_blank`).

The last is a fact about the tables.  White space lies in a few gaps of them, so it is enough
to compare the ends of their runs with the ends of the gaps.
-/

namespace BackendAudit

namespace Unicode

/-! ## White space in the tables -/

/-- Spans of code points beyond ASCII that hold all white space there and nothing that has a
case. -/
def caselessGaps : List Span := [⟨0x80, 0xa0⟩, ⟨0x1680, 0x1680⟩, ⟨0x2000, 0x205f⟩, ⟨0x3000, 0x3000⟩]

theorem exists_gap_of_isWhiteSpace {c : Nat} (h : isWhiteSpace c = true) (hascii : ¬ c < 128) :
    ∃ gap ∈ caselessGaps, gap.first ≤ c ∧ c ≤ gap.last := by
  simp only [isWhiteSpace, Bool.or_eq_true, Bool.and_eq_true, decide_eq_true_eq, beq_iff_eq] at h
  simp only [caselessGaps, List.mem_cons, List.not_mem_nil, or_false, exists_eq_or_imp,
    exists_eq_left]
  omega

/-- Whether a span lies outside all gaps. -/
def Span.avoidsGaps (s : Span) : Bool :=
  caselessGaps.all fun gap => s.last < gap.first || gap.last < s.first

/-- Whether the spans that the words of a text are read as lie outside all gaps.  The text is
given by its characters, which can be gone through one by one. -/
def wordsAvoidGaps (spanOf : List Char → Span) (chars : List Char) : Bool :=
  (words.go chars [] []).all fun word => (spanOf word).avoidsGaps

theorem ne_of_wordsAvoidGaps {spanOf : List Char → Span} {chars : List Char}
    (havoids : wordsAvoidGaps spanOf chars = true) {c : Nat} (h : isWhiteSpace c = true)
    (hascii : ¬ c < 128) :
    ∀ word ∈ words (String.ofList chars), ∀ source,
      (spanOf word).first ≤ source → source ≤ (spanOf word).last → source ≠ c := by
  rintro word hword source hfirst hlast rfl
  rw [words, String.toList_ofList] at hword
  obtain ⟨gap, hgap, hlo, hhi⟩ := exists_gap_of_isWhiteSpace h hascii
  have hspan := List.all_eq_true.mp (List.all_eq_true.mp havoids word hword) gap hgap
  simp only [Bool.or_eq_true, decide_eq_true_eq] at hspan
  omega

/-- The span that holds the points of a run, whether or not the ends of the run are in order. -/
def CaseRun.hull (r : CaseRun) : Span := ⟨r.first, max r.first r.last⟩

theorem CaseRun.mem_points {r : CaseRun} {c : Nat} (h : c ∈ r.points) :
    r.hull.first ≤ c ∧ c ≤ r.hull.last := by
  simp only [points, List.mem_map, List.mem_range] at h
  obtain ⟨i, hi, rfl⟩ := h
  have hstep : i * r.step ≤ r.last - r.first :=
    (Nat.mul_le_mul_right _ (Nat.le_of_lt_succ hi)).trans (Nat.div_mul_le_self _ _)
  simp only [hull]
  omega

theorem caseMapping_ne {chars : List Char}
    (havoids : wordsAvoidGaps (fun word => (CaseRun.read word).hull) chars = true) {c : Nat}
    (h : isWhiteSpace c = true) (hascii : ¬ c < 128) :
    ∀ p ∈ caseMapping (String.ofList chars), p.1 ≠ c := by
  intro p hp
  simp only [caseMapping, List.mem_toArray, List.mem_mergeSort, List.mem_flatMap,
    List.mem_map] at hp
  obtain ⟨_, ⟨word, hword, rfl⟩, source, hsource, rfl⟩ := hp
  obtain ⟨hfirst, hlast⟩ := CaseRun.mem_points hsource
  exact ne_of_wordsAvoidGaps havoids h hascii word hword source hfirst hlast

set_option maxRecDepth 20000 in
theorem upperMapping_ne {c : Nat} (h : isWhiteSpace c = true) (hascii : ¬ c < 128) :
    ∀ p ∈ upperMapping, p.1 ≠ c :=
  caseMapping_ne (by decide) h hascii

/-- The span of the character that a word of `upperExpansions` is about. -/
def expansionSpan (word : List Char) : Span := ⟨(readHex word 0).1, (readHex word 0).1⟩

set_option maxRecDepth 20000 in
theorem upperExpansions_ne {c : Nat} (h : isWhiteSpace c = true) (hascii : ¬ c < 128) :
    ∀ p ∈ upperExpansions, p.1 ≠ c := by
  intro p hp
  rw [upperExpansions, List.mem_toArray] at hp
  obtain ⟨word, hword, rfl⟩ := List.mem_map.mp hp
  exact @ne_of_wordsAvoidGaps expansionSpan _ (by decide) _ h hascii word hword _
    (Nat.le_refl _) (Nat.le_refl _)

theorem applyMapping_of_not_mem {m : Array (Nat × Nat)} {c : Nat} (h : ∀ p ∈ m, p.1 ≠ c) :
    applyMapping m c = c := by
  rw [applyMapping]
  split
  · rename_i hentry
    rw [if_neg (h _ (Array.mem_of_getElem? hentry))]
  · rfl

/-- What holds for the code points of ASCII holds for its characters. -/
theorem of_ascii {P : Char → Prop} (h : ∀ n < 128, P (Char.ofNat n)) {c : Char}
    (hc : c.toNat < 128) : P c := by
  have hchar := h c.toNat hc
  rwa [Char.ofNat_toNat] at hchar

/-- White space has no case. -/
theorem upperForm_of_isWhiteSpace {c : Char} (h : isWhiteSpace c.toNat = true) :
    upperForm c = [c] := by
  rw [upperForm]
  split
  · rename_i hascii
    have hupper := of_ascii
      (P := fun c => isWhiteSpace c.toNat = true → c.toUpper = c) (by decide) hascii
    rw [hupper h]
  · rename_i hascii
    have hmapping : [Char.ofNat (applyMapping upperMapping c.toNat)] = [c] := by
      rw [applyMapping_of_not_mem (upperMapping_ne h hascii), Char.ofNat_toNat]
    split
    · rename_i hentry
      rw [if_neg (upperExpansions_ne h hascii _ (Array.mem_of_getElem? hentry)), hmapping]
    · exact hmapping

/-! ## Letters of ASCII -/

theorem toUpper_of_not_ascii {c : Char} (h : ¬ c.toNat < 128) : c.toUpper = c := by
  have hlower : ¬ (c.val ≥ 'a'.val ∧ c.val ≤ 'z'.val) := fun hlower =>
    h (Nat.lt_of_le_of_lt hlower.2 (by decide))
  exact dif_neg hlower

theorem isAlpha_of_not_ascii {c : Char} (h : ¬ c.toNat < 128) : c.isAlpha = false := by
  refine Bool.eq_false_iff.mpr fun halpha => ?_
  rcases Bool.or_eq_true_iff.mp (show (c.isUpper || c.isLower) = true from halpha) with
    hupper | hlower
  · have hZ := (of_decide_eq_true hupper).2
    exact h (Nat.lt_of_le_of_lt hZ (by decide))
  · have hz := of_decide_eq_true (Bool.and_eq_true_iff.mp hlower).2
    exact h (Nat.lt_of_le_of_lt hz (by decide))

theorem toUpper_eq_or_isAlpha (c : Char) : c.toUpper = c ∨ c.toUpper.isAlpha = true := by
  by_cases hc : c.toNat < 128
  · exact of_ascii (P := fun c => c.toUpper = c ∨ c.toUpper.isAlpha = true) (by decide) hc
  · exact .inl (toUpper_of_not_ascii hc)

theorem toUpper_of_not_isAlpha {c : Char} (h : c.isAlpha = false) : c.toUpper = c := by
  by_cases hc : c.toNat < 128
  · exact of_ascii (P := fun c => c.isAlpha = false → c.toUpper = c) (by decide) hc h
  · exact toUpper_of_not_ascii hc

theorem isAlpha_of_isWhiteSpace {c : Char} (h : isWhiteSpace c.toNat = true) :
    c.isAlpha = false := by
  by_cases hc : c.toNat < 128
  · exact of_ascii (P := fun c => isWhiteSpace c.toNat = true → c.isAlpha = false) (by decide) hc h
  · exact isAlpha_of_not_ascii hc

theorem toNat_toUpper_lt {c : Char} (h : c.toNat < 128) : c.toUpper.toNat < 128 :=
  of_ascii (P := fun c => c.toUpper.toNat < 128) (by decide) h

/-- Characters that are the same but for the case of a letter of ASCII have the same form. -/
theorem upperForm_congr {c d : Char} (h : c.toUpper = d.toUpper) : upperForm c = upperForm d := by
  by_cases hc : c.toNat < 128
  · by_cases hd : d.toNat < 128
    · rw [upperForm, upperForm, if_pos hc, if_pos hd, h]
    · have := toNat_toUpper_lt hc
      rw [h, toUpper_of_not_ascii hd] at this
      exact absurd this hd
  · by_cases hd : d.toNat < 128
    · have := toNat_toUpper_lt hd
      rw [← h, toUpper_of_not_ascii hc] at this
      exact absurd this hc
    · rw [toUpper_of_not_ascii hc, toUpper_of_not_ascii hd] at h
      rw [h]

end Unicode

namespace Text

/-! ## Texts -/

theorem uppercase_append (cs ds : List Char) :
    uppercase (cs ++ ds) = uppercase cs ++ uppercase ds :=
  List.flatMap_append

theorem uppercase_of_blank {cs : List Char} (h : Blank cs) : uppercase cs = cs := by
  induction cs with
  | nil => rfl
  | cons c cs ih =>
    obtain ⟨hc, hcs⟩ := List.forall_mem_cons.mp h
    rw [uppercase, List.flatMap_cons, Unicode.upperForm_of_isWhiteSpace hc, ← uppercase, ih hcs]
    rfl

/-- Characters that are the same but for the case of a letter of ASCII. -/
def SameLetter (c d : Char) : Prop := c.toUpper = d.toUpper

instance (c d : Char) : Decidable (SameLetter c d) :=
  inferInstanceAs (Decidable (_ = _))

/-- A character that is no letter is the same in any case. -/
theorem SameLetter.eq_of_not_isAlpha {c d : Char} (h : SameLetter c d)
    (hc : c.isAlpha = false) : c = d := by
  rw [SameLetter, Unicode.toUpper_of_not_isAlpha hc] at h
  rcases Unicode.toUpper_eq_or_isAlpha d with hd | hd
  · exact h.trans hd
  · rw [← h, hc] at hd
    contradiction

theorem SameLetter.eq_iff {m c d : Char} (h : SameLetter c d) (hm : m.isAlpha = false) :
    m = c ↔ m = d := by
  constructor
  · rintro rfl
    exact h.eq_of_not_isAlpha hm
  · rintro rfl
    exact SameLetter.eq_of_not_isAlpha h.symm hm

theorem SameLetter.isBlank_eq {c d : Char} (h : SameLetter c d) : isBlank c = isBlank d := by
  rw [Bool.eq_iff_iff]
  constructor
  · intro hc
    rwa [← h.eq_of_not_isAlpha (Unicode.isAlpha_of_isWhiteSpace hc)]
  · intro hd
    rwa [← SameLetter.eq_of_not_isAlpha h.symm (Unicode.isAlpha_of_isWhiteSpace hd)]

/-- A character that is no letter is in both of two texts that differ in the case of letters,
or in neither. -/
theorem mem_iff_of_sameLetter {m : Char} (hm : m.isAlpha = false) {cs ds : List Char}
    (h : List.Forall₂ SameLetter cs ds) : m ∈ cs ↔ m ∈ ds := by
  induction h with
  | nil => exact Iff.rfl
  | cons hcd _ ih => rw [List.mem_cons, List.mem_cons, hcd.eq_iff hm, ih]

theorem uppercase_congr {cs ds : List Char} (h : List.Forall₂ SameLetter cs ds) :
    uppercase cs = uppercase ds := by
  induction h with
  | nil => rfl
  | cons hcd _ ih =>
    rw [uppercase, List.flatMap_cons, Unicode.upperForm_congr hcd, ← uppercase, ih]
    rfl

end Text
end BackendAudit
