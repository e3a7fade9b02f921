import BackendAudit.Proofs.Pattern.Language
import BackendAudit.Proofs.Text.CaseFold

/-!
# Reading words in any case

Patterns of rules read letters in any case.  What they read for a word is what spells the word
(`Text.Spells`).

* `CharSet.accepts_folded_ofChar`: what is read for a single letter.
* `Expr.fits_spelled`, `Expr.fits_spelledThen`: what is read for a word.
* `Expr.fits_spelledThen_marks`: what is read for marks, which have no cases.
-/

namespace BackendAudit.Pattern

open Text

/-- The characters of ASCII but the capital K and S, to which the table of variants has two from
elsewhere. -/
def Foldable (c : Char) : Prop := c.toNat < 128 ∧ c ≠ 'K' ∧ c ≠ 'S'

instance : DecidablePred Foldable := fun _ => inferInstanceAs (Decidable (_ ∧ _))

theorem foldable_of_mark {mark : Char} (hmark : mark.toNat < 128)
    (halpha : mark.isAlpha = false) : Foldable mark := by
  refine ⟨hmark, ?_, ?_⟩ <;>
  · rintro rfl
    cases halpha

theorem CharSet.accepts_folded (s : CharSet) (c : Char) :
    (folded s).accepts c = true ↔ ∃ d ∈ Unicode.caseVariants c.toNat, s.contains d = true := by
  rw [accepts, contains_folded, List.any_eq_true]

theorem CharSet.accepts_folded_ofChar {letter c : Char} (hletter : Foldable letter) :
    (folded (ofChar letter)).accepts c = true ↔ SameFold c letter := by
  obtain ⟨hascii, hK, hS⟩ := hletter
  have hvariants := @Unicode.mem_caseVariants_iff letter.toNat c.toNat hascii
    (fun h => hK (Char.toNat_inj.mp h)) (fun h => hS (Char.toNat_inj.mp h))
  rw [SameFold, ← hvariants, accepts_folded]
  constructor
  · rintro ⟨d, hd, hletter⟩
    rw [contains_ofChar, beq_iff_eq] at hletter
    exact hletter ▸ hd
  · exact fun h => ⟨_, h, by rw [contains_ofChar, beq_self_eq_true]⟩

/-- A mark is read for itself only. -/
theorem CharSet.accepts_folded_mark {mark c : Char} (hmark : mark.toNat < 128)
    (halpha : mark.isAlpha = false) : (folded (ofChar mark)).accepts c = true ↔ c = mark := by
  rw [accepts_folded_ofChar (foldable_of_mark hmark halpha)]
  constructor
  · exact fun h => h.eq_of_not_isAlpha hmark halpha
  · rintro rfl
    rfl

theorem CharSet.accepts_folded_union (a b : CharSet) (c : Char) :
    (folded (union a b)).accepts c = true ↔
      (folded a).accepts c = true ∨ (folded b).accepts c = true := by
  simp only [accepts_folded, contains_union, Bool.or_eq_true, and_or_left, exists_or]

namespace Expr

variable {before part after : List Char}

/-- Reads a word in any case. -/
def spelled : List Char → Expr CharSet
  | [] => empty
  | [c] => one (.folded (.ofChar c))
  | c :: cs => cat (one (.folded (.ofChar c))) (spelled cs)

/-- Reads a word in any case, and then on as `e`. -/
def spelledThen (e : Expr CharSet) : List Char → Expr CharSet
  | [] => e
  | c :: cs => cat (one (.folded (.ofChar c))) (spelledThen e cs)

theorem fits_letter {letter : Char} (hletter : Foldable letter) :
    (one (.folded (.ofChar letter))).Fits before part after ↔
      ∃ c, part = [c] ∧ SameFold c letter := by
  simp only [fits_one, CharSet.accepts_folded_ofChar hletter]

theorem fits_spelledThen {e : Expr CharSet} {word : List Char}
    (hword : ∀ c ∈ word, Foldable c) :
    (spelledThen e word).Fits before part after ↔
      ∃ p q, part = p ++ q ∧ Spells word p ∧ e.Fits (before ++ p) q after := by
  induction word generalizing before part with
  | nil => simp [spelledThen, Spells]
  | cons letter word ih =>
    obtain ⟨hletter, hword⟩ := List.forall_mem_cons.mp hword
    rw [spelledThen, fits_cat]
    constructor
    · rintro ⟨_, rest, rfl, hfirst, hrest⟩
      obtain ⟨c, rfl, hc⟩ := (fits_letter hletter).mp hfirst
      obtain ⟨p, q, rfl, hp, hq⟩ := (ih hword).mp hrest
      rw [← List.append_cons] at hq
      exact ⟨c :: p, q, rfl, .cons hc hp, hq⟩
    · rintro ⟨_, q, rfl, hp, hq⟩
      cases hp with
      | @cons c _ p _ hc hp =>
        rw [List.append_cons] at hq
        exact ⟨[c], p ++ q, rfl, (fits_letter hletter).mpr ⟨c, rfl, hc⟩,
          (ih hword).mpr ⟨p, q, rfl, hp, hq⟩⟩

/-- Marks are read for themselves only. -/
theorem fits_spelledThen_marks {e : Expr CharSet} {word : List Char}
    (hmarks : ∀ c ∈ word, c.toNat < 128 ∧ c.isAlpha = false) :
    (spelledThen e word).Fits before part after ↔
      ∃ q, part = word ++ q ∧ e.Fits (before ++ word) q after := by
  have hfoldable : ∀ c ∈ word, Foldable c := fun c hc =>
    foldable_of_mark (hmarks c hc).1 (hmarks c hc).2
  rw [fits_spelledThen hfoldable]
  constructor
  · rintro ⟨p, q, rfl, hp, hq⟩
    obtain rfl := (spells_iff_eq hmarks).mp hp
    exact ⟨q, rfl, hq⟩
  · rintro ⟨q, rfl, hq⟩
    exact ⟨word, q, rfl, spells_self word, hq⟩

theorem fits_spelled {word : List Char} (hword : ∀ c ∈ word, Foldable c) :
    (spelled word).Fits before part after ↔ Spells word part := by
  induction word using spelled.induct generalizing before part with
  | case1 => rw [spelled, fits_empty, Spells, List.forall₂_nil_right_iff]
  | case2 letter =>
    rw [spelled, fits_letter (hword letter List.mem_cons_self), Spells,
      List.forall₂_cons_right_iff]
    simp only [List.forall₂_nil_right_iff]
    constructor
    · rintro ⟨c, rfl, hc⟩
      exact ⟨c, [], hc, rfl, rfl⟩
    · rintro ⟨c, _, hc, rfl, rfl⟩
      exact ⟨c, rfl, hc⟩
  | case3 letter word hne ih =>
    obtain ⟨hletter, hword⟩ := List.forall_mem_cons.mp hword
    rw [spelled.eq_3 letter word hne, fits_cat]
    constructor
    · rintro ⟨_, p, rfl, hfirst, hp⟩
      obtain ⟨c, rfl, hc⟩ := (fits_letter hletter).mp hfirst
      exact .cons hc ((ih hword).mp hp)
    · intro hpart
      cases hpart with
      | @cons c _ p _ hc hp =>
        exact ⟨[c], p, rfl, (fits_letter hletter).mpr ⟨c, rfl, hc⟩, (ih hword).mpr hp⟩

end Expr

end BackendAudit.Pattern
