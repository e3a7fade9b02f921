import BackendAudit.Proofs.Halving
import BackendAudit.Proofs.Text.UpperCase

/-!
# Letters in any case

Two characters are the same in some case when simple case folding takes them to one and the
same (`Text.SameFold`), and a text spells a word when it does so character by character
(`Text.Spells`).

* `Unicode.foldMapping_ascii`: what the table of the folding says about ASCII.
* `Unicode.mem_caseVariants_iff`: a character of ASCII is among the case variants that patterns
  look at just when the folding takes both to the same.
* `Text.SameFold.eq_of_not_isAlpha`, `Text.SameFold.isBlank_eq_false`: no letter is a case of
  a mark, or of a blank.
-/

namespace BackendAudit

namespace Unicode

/-! ## The table of the folding -/

theorem mem_caseMapping {text : String} {p : Nat × Nat} :
    p ∈ caseMapping text ↔ ∃ word ∈ words text, ∃ c ∈ (CaseRun.read word).points,
      (c, ((c : Int) + (CaseRun.read word).shift).toNat) = p := by
  simp only [caseMapping, List.mem_toArray, List.mem_mergeSort, List.mem_flatMap, List.mem_map,
    exists_exists_and_eq_and]

/-- A mapping is sorted by what it moves. -/
theorem caseMapping_sorted (text : String) :
    (caseMapping text).toList.Pairwise fun a b => a.1 ≤ b.1 := by
  rw [caseMapping, List.toList_toArray]
  refine (List.pairwise_mergeSort (fun a b c hab hbc => ?_) (fun a b => ?_) _).imp
    of_decide_eq_true
  · exact decide_eq_true (Nat.le_trans (of_decide_eq_true hab) (of_decide_eq_true hbc))
  · simp [Nat.le_total]

/-- A sorted mapping moves what it lists with one target. -/
theorem applyMapping_of_mem {m : Array (Nat × Nat)} {c target : Nat}
    (hsorted : m.toList.Pairwise fun a b => a.1 ≤ b.1) (hmem : (c, target) ∈ m)
    (hunique : ∀ p ∈ m, p.1 = c → p.2 = target) : applyMapping m c = target := by
  have hleading : LeadingFirst (fun p : Nat × Nat => p.1 < c) m.toList :=
    hsorted.imp fun hab hb => by
      simp only [decide_eq_true_eq] at hb ⊢
      omega
  have hfound := getElem?_countLeading hleading
  rw [Array.toArray_toList] at hfound
  have hfirst : (m.toList.find? fun p => !decide (p.1 < c)).isSome = true :=
    List.find?_isSome.mpr ⟨_, Array.mem_toList_iff.mpr hmem, by simp⟩
  obtain ⟨p, hp⟩ := Option.isSome_iff_exists.mp hfirst
  rw [applyMapping, hfound, hp]
  obtain ⟨hge, before, after, hlist, hbefore⟩ := List.find?_eq_some_iff_append.mp hp
  -- what stands in front of `p` is less than `c`, and what stands behind it is not less than `p`
  have hp_mem : p ∈ m := Array.mem_toList_iff.mp (hlist ▸ by simp)
  have hle : p.1 ≤ c := by
    have hmem' : (c, target) ∈ before ++ p :: after := hlist ▸ Array.mem_toList_iff.mpr hmem
    rcases List.mem_append.mp hmem' with hfront | hback
    · have := hbefore _ hfront
      simp at this
    · rcases List.mem_cons.mp hback with rfl | hback
      · exact Nat.le_refl _
      · rw [hlist, List.pairwise_append, List.pairwise_cons] at hsorted
        exact hsorted.2.1.1 _ hback
  have heq : p.1 = c := by
    simp only [Bool.not_eq_true', decide_eq_false_iff_not] at hge
    omega
  dsimp only
  rw [if_pos heq]
  exact hunique p hp_mem heq

/-- Whether a run moves nothing of ASCII, and nothing to ASCII. -/
def CaseRun.avoidsAscii (r : CaseRun) : Bool :=
  128 ≤ r.first && (128 : Int) ≤ r.first + r.shift

/-- The runs of the folding that have to do with ASCII: the capital letters, the long s and the
Kelvin sign. -/
def asciiRuns : List (List Char) := ["41-5a+20".toList, "17f~10c".toList, "212a~20bf".toList]

theorem CaseRun.le_of_avoidsAscii {r : CaseRun} (h : r.avoidsAscii = true) {c : Nat}
    (hc : c ∈ r.points) : 128 ≤ c ∧ 128 ≤ ((c : Int) + r.shift).toNat := by
  rw [avoidsAscii, Bool.and_eq_true, decide_eq_true_eq, decide_eq_true_eq] at h
  have hfirst : r.first ≤ c := (mem_points hc).1
  omega

theorem caseMapping_ascii {chars : List Char}
    (havoids : ((words.go chars [] []).all fun word =>
      asciiRuns.contains word || (CaseRun.read word).avoidsAscii) = true) {p : Nat × Nat}
    (hp : p ∈ caseMapping (String.ofList chars)) :
    (0x41 ≤ p.1 ∧ p.1 ≤ 0x5a ∧ p.2 = p.1 + 0x20) ∨ p = (0x17f, 0x73) ∨ p = (0x212a, 0x6b) ∨
      128 ≤ p.1 ∧ 128 ≤ p.2 := by
  obtain ⟨word, hword, c, hc, rfl⟩ := mem_caseMapping.mp hp
  rw [words, String.toList_ofList] at hword
  have hrun := List.all_eq_true.mp havoids word hword
  rw [Bool.or_eq_true, List.contains_iff_mem] at hrun
  rcases hrun with hascii | havoids
  · simp only [asciiRuns, List.mem_cons, List.not_mem_nil, or_false] at hascii
    rcases hascii with rfl | rfl | rfl
    · have hread : CaseRun.read "41-5a+20".toList = ⟨0x41, 0x5a, 1, 0x20⟩ := by rfl
      rw [hread] at hc ⊢
      have hhull := CaseRun.mem_points hc
      simp only [CaseRun.hull] at hhull
      left
      dsimp only
      omega
    · have hread : CaseRun.read "17f~10c".toList = ⟨0x17f, 0x17f, 1, -0x10c⟩ := by rfl
      rw [hread] at hc ⊢
      have hhull := CaseRun.mem_points hc
      simp only [CaseRun.hull] at hhull
      obtain rfl : c = 0x17f := by omega
      exact .inr (.inl rfl)
    · have hread : CaseRun.read "212a~20bf".toList = ⟨0x212a, 0x212a, 1, -0x20bf⟩ := by rfl
      rw [hread] at hc ⊢
      have hhull := CaseRun.mem_points hc
      simp only [CaseRun.hull] at hhull
      obtain rfl : c = 0x212a := by omega
      exact .inr (.inr (.inl rfl))
  · exact .inr (.inr (.inr (CaseRun.le_of_avoidsAscii havoids hc)))

set_option maxRecDepth 20000 in
/-- Of ASCII the folding moves the capital letters only, and from elsewhere it moves the long s and
the Kelvin sign there. -/
theorem foldMapping_ascii {p : Nat × Nat} (hp : p ∈ foldMapping) :
    (0x41 ≤ p.1 ∧ p.1 ≤ 0x5a ∧ p.2 = p.1 + 0x20) ∨ p = (0x17f, 0x73) ∨ p = (0x212a, 0x6b) ∨
      128 ≤ p.1 ∧ 128 ≤ p.2 :=
  caseMapping_ascii (by decide) hp

theorem mem_caseMapping_of_capital {chars : List Char}
    (hrun : "41-5a+20".toList ∈ words.go chars [] []) {c : Nat} (hA : 0x41 ≤ c) (hZ : c ≤ 0x5a) :
    (c, c + 0x20) ∈ caseMapping (String.ofList chars) := by
  refine mem_caseMapping.mpr ⟨"41-5a+20".toList, ?_, c, ?_, ?_⟩
  · rwa [words, String.toList_ofList]
  · have hread : CaseRun.read "41-5a+20".toList = ⟨0x41, 0x5a, 1, 0x20⟩ := by rfl
    rw [hread, CaseRun.points, List.mem_map]
    dsimp only
    exact ⟨c - 0x41, by rw [List.mem_range]; omega, by omega⟩
  · rfl

set_option maxRecDepth 20000 in
theorem mem_foldMapping_of_capital {c : Nat} (hA : 0x41 ≤ c) (hZ : c ≤ 0x5a) :
    (c, c + 0x20) ∈ foldMapping :=
  mem_caseMapping_of_capital (by decide) hA hZ

/-! ## Folded characters -/

/-- The folding takes a capital letter of ASCII to the small one, and leaves the rest of ASCII. -/
theorem fold_of_ascii {c : Nat} (hc : c < 128) :
    fold c = if 0x41 ≤ c ∧ c ≤ 0x5a then c + 0x20 else c := by
  rw [fold]
  split
  · rw [if_neg (by omega)]
  · split
    · rename_i hcapital
      refine applyMapping_of_mem (caseMapping_sorted _)
        (mem_foldMapping_of_capital hcapital.1 hcapital.2) ?_
      rintro p hp rfl
      rcases foldMapping_ascii hp with ⟨_, _, htarget⟩ | rfl | rfl | ⟨hge, _⟩
      · exact htarget
      · exact absurd hc (by decide)
      · exact absurd hc (by decide)
      · omega
    · refine applyMapping_of_not_mem ?_
      rintro p hp rfl
      rcases foldMapping_ascii hp with ⟨hA, hZ, _⟩ | rfl | rfl | ⟨hge, _⟩
      · omega
      · exact absurd hc (by decide)
      · exact absurd hc (by decide)
      · omega

theorem applyMapping_eq_or_mem (m : Array (Nat × Nat)) (c : Nat) :
    applyMapping m c = c ∨ (c, applyMapping m c) ∈ m := by
  rw [applyMapping]
  split
  · rename_i source target hentry
    split
    · rename_i hsource
      exact .inr (hsource ▸ Array.mem_of_getElem? hentry)
    · exact .inl rfl
  · exact .inl rfl

/-- From beyond ASCII, the folding takes two characters there. -/
theorem fold_of_not_ascii {c : Nat} (hc : ¬ c < 128) :
    c = 0x17f ∧ fold c = 0x73 ∨ c = 0x212a ∧ fold c = 0x6b ∨ 128 ≤ fold c := by
  rw [fold, if_neg (by omega)]
  rcases applyMapping_eq_or_mem foldMapping c with heq | hmem
  · rw [heq]
    omega
  · rcases foldMapping_ascii hmem with ⟨_, _, _⟩ | heq | heq | ⟨_, hge⟩
    · omega
    · exact .inl (Prod.mk.inj heq)
    · exact .inr (.inl (Prod.mk.inj heq))
    · exact .inr (.inr hge)

/-! ## Case variants -/

theorem mem_of_mem_go {table : Array (Nat × Nat)} {c d fuel i : Nat}
    (h : d ∈ foldPreimages.go c table fuel i) : (c, d) ∈ table := by
  induction fuel generalizing i with
  | zero =>
    rw [foldPreimages.go] at h
    exact absurd h List.not_mem_nil
  | succ fuel ih =>
    rw [foldPreimages.go] at h
    split at h
    · rename_i target source hentry
      split at h
      · rename_i htarget
        rcases List.mem_cons.mp h with rfl | h
        · exact htarget ▸ Array.mem_of_getElem? hentry
        · exact ih h
      · exact absurd h List.not_mem_nil
    · exact absurd h List.not_mem_nil

theorem mem_foldMapping_of_mem_foldPreimages {c d : Nat} (h : d ∈ foldPreimages c) :
    (d, c) ∈ foldMapping := by
  have hturned := mem_of_mem_go h
  rw [foldedPreimages, List.mem_toArray, List.mem_mergeSort, List.mem_map] at hturned
  obtain ⟨⟨source, target⟩, hp, heq⟩ := hturned
  obtain ⟨rfl, rfl⟩ := Prod.mk.inj heq
  exact Array.mem_toList_iff.mp hp

/-- A character of ASCII is among the case variants of another just when the folding takes both
to the same.  The capital K and S have a variant beyond ASCII and are left out: it is looked up
in the table of the folding turned around. -/
theorem mem_caseVariants_iff {letter c : Nat} (hletter : letter < 128) (hK : letter ≠ 0x4b)
    (hS : letter ≠ 0x53) : letter ∈ caseVariants c ↔ fold c = fold letter := by
  rw [fold_of_ascii hletter, caseVariants]
  by_cases hc : c < 128
  · rw [if_pos hc, fold_of_ascii hc]
    simp only [caseVariants.asciiVariants]
    split_ifs <;> simp only [List.mem_cons, List.not_mem_nil, or_false] <;> omega
  · rw [if_neg hc, List.mem_cons]
    have hfold := fold_of_not_ascii hc
    constructor
    · rintro (heq | hmem)
      · split_ifs <;> omega
      · rcases foldMapping_ascii (mem_foldMapping_of_mem_foldPreimages hmem) with
          ⟨_, _, htarget⟩ | heq | heq | ⟨hge, _⟩
        · split_ifs <;> omega
        · have := (Prod.mk.inj heq).1
          omega
        · have := (Prod.mk.inj heq).1
          omega
        · omega
    · intro heq
      left
      split_ifs at heq <;> omega

end Unicode

namespace Text

/-! ## Characters in any case -/

/-- Characters that are the same in some case: simple case folding takes them to the same. -/
def SameFold (c d : Char) : Prop := Unicode.fold c.toNat = Unicode.fold d.toNat

instance (c d : Char) : Decidable (SameFold c d) :=
  inferInstanceAs (Decidable (_ = _))

theorem toNat_of_not_isAlpha {c : Char} (hc : c.toNat < 128) (h : c.isAlpha = false) :
    ¬ (0x41 ≤ c.toNat ∧ c.toNat ≤ 0x5a) ∧ ¬ (0x61 ≤ c.toNat ∧ c.toNat ≤ 0x7a) :=
  Unicode.of_ascii (P := fun c => c.isAlpha = false → ¬ (0x41 ≤ c.toNat ∧ c.toNat ≤ 0x5a) ∧
    ¬ (0x61 ≤ c.toNat ∧ c.toNat ≤ 0x7a)) (by decide) hc h

/-- A mark of ASCII is the same in any case. -/
theorem SameFold.eq_of_not_isAlpha {c mark : Char} (h : SameFold c mark)
    (hmark : mark.toNat < 128) (halpha : mark.isAlpha = false) : c = mark := by
  obtain ⟨hcapital, hsmall⟩ := toNat_of_not_isAlpha hmark halpha
  rw [SameFold, Unicode.fold_of_ascii hmark, if_neg hcapital] at h
  apply Char.toNat_inj.mp
  by_cases hc : c.toNat < 128
  · rw [Unicode.fold_of_ascii hc] at h
    split_ifs at h <;> omega
  · have hfold := Unicode.fold_of_not_ascii hc
    omega

/-- No blank is a case of a character of ASCII other than itself. -/
theorem SameFold.isBlank_eq_false {c letter : Char} (h : SameFold c letter)
    (hletter : letter.toNat < 128) (hblank : isBlank letter = false) : isBlank c = false := by
  refine Bool.eq_false_iff.mpr fun hc => ?_
  have halpha : c.isAlpha = false := Unicode.isAlpha_of_isWhiteSpace hc
  by_cases hascii : c.toNat < 128
  · rw [SameFold.eq_of_not_isAlpha h.symm hascii halpha, hc] at hblank
    cases hblank
  · rw [SameFold, Unicode.fold_of_ascii hletter] at h
    rcases Unicode.fold_of_not_ascii hascii with ⟨hlong, _⟩ | ⟨hkelvin, _⟩ | hge
    · rw [isBlank, hlong] at hc
      exact absurd hc (by decide)
    · rw [isBlank, hkelvin] at hc
      exact absurd hc (by decide)
    · split_ifs at h <;> omega

/-- Characters of ASCII are the same in some case if they are in lower case. -/
theorem SameFold.toLower_eq {c d : Char} (h : SameFold c d) (hc : c.toNat < 128)
    (hd : d.toNat < 128) : c.toLower = d.toLower := by
  have hlower : ∀ {c : Char}, c.toNat < 128 → Unicode.fold c.toNat = c.toLower.toNat := by
    intro c hc
    rw [Unicode.fold_of_ascii hc]
    exact Unicode.of_ascii (P := fun c => (if 0x41 ≤ c.toNat ∧ c.toNat ≤ 0x5a then c.toNat + 0x20
      else c.toNat) = c.toLower.toNat) (by decide) hc
  rw [SameFold, hlower hc, hlower hd] at h
  exact Char.toNat_inj.mp h

/-! ## Words in any case -/

/-- A text spells a word, in any case. -/
def Spells (word text : List Char) : Prop := List.Forall₂ SameFold text word

/-- A word stands somewhere in a text, in any case. -/
def Mentions (word text : List Char) : Prop :=
  ∃ before part after, text = before ++ part ++ after ∧ Spells word part

instance (word text : List Char) : Decidable (Spells word text) :=
  decidable_of_iff ((text.map fun c => Unicode.fold c.toNat) = word.map fun c =>
      Unicode.fold c.toNat) <| by
    rw [← List.forall₂_eq_eq_eq, List.forall₂_map_left_iff, List.forall₂_map_right_iff]
    rfl

/-- A word is to be looked for at the places of the text. -/
theorem mentions_iff_exists_le {word text : List Char} : Mentions word text ↔
    ∃ n ≤ text.length, Spells word ((text.drop n).take word.length) := by
  constructor
  · rintro ⟨before, part, after, rfl, hpart⟩
    refine ⟨before.length, by simp, ?_⟩
    rwa [List.append_assoc, List.drop_left, ← List.Forall₂.length_eq hpart, List.take_left]
  · rintro ⟨n, _, hpart⟩
    refine ⟨text.take n, _, (text.drop n).drop word.length, ?_, hpart⟩
    rw [List.append_assoc, List.take_append_drop, List.take_append_drop]

instance (word text : List Char) : Decidable (Mentions word text) :=
  decidable_of_iff _ mentions_iff_exists_le.symm

theorem not_mentions_nil {word : List Char} (h : word ≠ []) : ¬ Mentions word [] := by
  rintro ⟨before, part, after, htext, hpart⟩
  obtain rfl : part = [] := by
    rw [List.append_assoc] at htext
    exact (List.append_eq_nil_iff.mp (List.append_eq_nil_iff.mp htext.symm).2).1
  exact h (List.forall₂_nil_left_iff.mp hpart)

/-- A text ends with a word, in any case. -/
def EndsWith (word text : List Char) : Prop :=
  ∃ front part, text = front ++ part ∧ Spells word part

instance (word text : List Char) : Decidable (EndsWith word text) :=
  decidable_of_iff (Spells word (text.drop (text.length - word.length))) <| by
    constructor
    · exact fun h => ⟨_, _, (List.take_append_drop _ _).symm, h⟩
    · rintro ⟨front, part, rfl, h⟩
      rwa [List.length_append, List.Forall₂.length_eq h, Nat.add_sub_cancel, List.drop_left]

theorem Spells.exists_of_mem {word text : List Char} (h : Spells word text) {c : Char}
    (hc : c ∈ text) : ∃ letter ∈ word, SameFold c letter := by
  induction h with
  | nil => cases hc
  | cons hcd _ ih =>
    rcases List.mem_cons.mp hc with rfl | hc
    · exact ⟨_, List.mem_cons_self, hcd⟩
    · obtain ⟨letter, hletter, hsame⟩ := ih hc
      exact ⟨letter, List.mem_cons_of_mem _ hletter, hsame⟩

theorem spells_self (word : List Char) : Spells word word :=
  List.forall₂_same.mpr fun _ _ => rfl

/-- A text that spells two words, one behind the other. -/
theorem Spells.exists_append {word word' text : List Char} (h : Spells (word ++ word') text) :
    ∃ part part', text = part ++ part' ∧ Spells word part ∧ Spells word' part' :=
  ⟨_, _, (List.take_append_drop _ _).symm, List.forall₂_take_append _ _ _ h,
    List.forall₂_drop_append _ _ _ h⟩

/-- Marks are spelled in one way. -/
theorem spells_iff_eq {word text : List Char}
    (hmarks : ∀ c ∈ word, c.toNat < 128 ∧ c.isAlpha = false) : Spells word text ↔ text = word := by
  constructor
  · intro h
    induction h with
    | nil => rfl
    | cons hcd _ ih =>
      obtain ⟨⟨hmark, halpha⟩, hmarks⟩ := List.forall_mem_cons.mp hmarks
      rw [hcd.eq_of_not_isAlpha hmark halpha, ih hmarks]
  · rintro rfl
    exact spells_self text

/-- A mark behind both word and text changes nothing. -/
theorem endsWith_append_mark {word text : List Char} {mark : Char} (hmark : mark.toNat < 128)
    (halpha : mark.isAlpha = false) :
    EndsWith (word ++ [mark]) (text ++ [mark]) ↔ EndsWith word text := by
  constructor
  · rintro ⟨front, _, htext, hspells⟩
    obtain ⟨part, last, rfl, hpart, hlast⟩ := hspells.exists_append
    obtain rfl := (spells_iff_eq (by simp [hmark, halpha])).mp hlast
    rw [← List.append_assoc] at htext
    exact ⟨front, part, List.append_cancel_right htext, hpart⟩
  · rintro ⟨front, part, rfl, hpart⟩
    exact ⟨front, part ++ [mark], by simp, List.rel_append hpart (spells_self _)⟩

/-- A mark stands in what spells a word only if it stands in the word. -/
theorem Spells.not_mem {word text : List Char} (h : Spells word text) {mark : Char}
    (hmark : mark.toNat < 128) (halpha : mark.isAlpha = false) (hword : mark ∉ word) :
    mark ∉ text := by
  intro hmem
  obtain ⟨letter, hletter, hsame⟩ := h.exists_of_mem hmem
  rw [SameFold.eq_of_not_isAlpha hsame.symm hmark halpha] at hletter
  exact hword hletter

end Text
end BackendAudit
