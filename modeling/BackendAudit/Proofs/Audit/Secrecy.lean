import BackendAudit.Proofs.Audit.LineByLine

/-!
# Environment files keep their secrets

Of a value, the findings tell no more than how long it is.  Two values that have blanks,
quotes and number signs at the same places are cut at the same places (`valueOf_congr`), so
what is left of them has the same length, and the length is all that is compared
(`weakSecret?_congr`).  Contents whose lines differ in such values only have the same findings
(`Env.check_eq_of_sameButValues`).
-/

namespace BackendAudit

namespace Env

open Text

/-! ## Values -/

/-- A character at which a value may be cut. -/
def IsMark (c : Char) : Prop := isBlank c = true ∨ c = '"' ∨ c = '\'' ∨ c = '#'

/-- Two characters are the same if one of them is a mark. -/
def SameMark (c d : Char) : Prop := IsMark c ∨ IsMark d → c = d

instance (c : Char) : Decidable (IsMark c) :=
  inferInstanceAs (Decidable (_ ∨ _ ∨ _ ∨ _))

instance (c d : Char) : Decidable (SameMark c d) :=
  inferInstanceAs (Decidable (_ → _))

theorem SameMark.eq_iff {m c d : Char} (h : SameMark c d) (hm : IsMark m) : m = c ↔ m = d := by
  constructor
  · rintro rfl
    exact h (.inl hm)
  · rintro rfl
    exact (h (.inr hm)).symm

theorem SameMark.isBlank_eq {c d : Char} (h : SameMark c d) : isBlank c = isBlank d := by
  rw [Bool.eq_iff_iff]
  constructor
  · intro hc
    rw [← h (.inl (.inl hc))]
    exact hc
  · intro hd
    rw [h (.inr (.inl hd))]
    exact hd

/-- Values with their marks at the same places are cut at the same places. -/
theorem valueOf_congr {v w : List Char} (h : List.Forall₂ SameMark v w) :
    List.Forall₂ SameMark (valueOf v) (valueOf w) := by
  have htrim := trim_congr (fun _ _ => SameMark.isBlank_eq) h
  rw [valueOf, valueOf]
  generalize trim v = v, trim w = w at htrim
  cases htrim with
  | nil => exact .nil
  | @cons c d v w hcd hrest =>
    dsimp only
    by_cases hquote : c = '"' ∨ c = '\''
    · have hmark : IsMark c := .inr (hquote.imp_right .inl)
      obtain rfl : c = d := hcd (.inl hmark)
      rw [if_pos hquote, if_pos hquote]
      refine takeWhile_congr (fun x y hxy => ?_) hrest
      rw [decide_eq_decide, ne_comm, @ne_comm _ y]
      exact not_congr (hxy.eq_iff hmark)
    · have hquote' : ¬(d = '"' ∨ d = '\'') := fun hd =>
        hquote ((hcd (.inr (.inr (hd.imp_right .inl)))).symm ▸ hd)
      have hpart : ∀ p ∈ " #".toList, ∀ x y, SameMark x y → (p = x ↔ p = y) := by
        intro p hp x y hxy
        have hmark : IsMark p := by
          rcases List.mem_pair.mp hp with rfl | rfl
          · exact .inl (by decide)
          · exact .inr (.inr (.inr rfl))
        exact hxy.eq_iff hmark
      have hsides := splitOnce_congr hpart (.cons hcd hrest)
      rw [if_neg hquote, if_neg hquote']
      generalize splitOnce " #".toList (c :: v) = sides, splitOnce " #".toList (d :: w) = sides'
        at hsides
      cases hsides with
      | none => exact .cons hcd hrest
      | some hsides => exact trimEnd_congr (fun _ _ => SameMark.isBlank_eq) hsides.1

/-! ## Lines -/

/-- Two lines are the same, or they assign to the same key two values that have their marks at
the same places. -/
inductive SameButValue : List Char → List Char → Prop
  | same (line : List Char) : SameButValue line line
  | value {front v w : List Char} (hfront : '=' ∉ front) (hvalues : List.Forall₂ SameMark v w) :
    SameButValue (front ++ '=' :: v) (front ++ '=' :: w)

theorem weakSecret?_congr {line line' : List Char} (h : SameButValue line line') :
    weakSecret? line = weakSecret? line' := by
  cases h with
  | same => rfl
  | value hfront hvalues =>
    rw [weakSecret?_append hfront, weakSecret?_append hfront, (valueOf_congr hvalues).length_eq]

/-! ## Contents -/

/-- If the lines of two contents differ only in their values, and these have the same number
of characters and the same blanks, quotes and number signs at the same places, then the findings
are the same. -/
theorem check_eq_of_sameButValues (target : String) {content content' : String}
    (h : List.Forall₂ SameButValue (lines content.toList) (lines content'.toList)) :
    check target content = check target content' := by
  rw [check_eq_lines, check_eq_lines]
  exact linesFindings_congr (h.imp fun _ _ => weakSecret?_congr) 1

/-- Two quoted passwords of the same length are told by the same finding, also if one of them
has characters that take up more bytes. -/
theorem check_eq_of_sameButValues_quoted :
    let content := "PORT=80\nDB_PASSWORD='hunter 2' # old\r\n"
    let content' := "PORT=80\nDB_PASSWORD='höhlen ß' # new\n"
    List.Forall₂ SameButValue (lines content.toList) (lines content'.toList) ∧
      check ".env" content = check ".env" content' ∧
      check ".env" content = [finding ".env" 2 ⟨"PASSWORD", "password", 21⟩] := by
  intro content content'
  have hlines : lines content.toList =
      ["PORT=80".toList, "DB_PASSWORD".toList ++ '=' :: "'hunter 2' # old".toList] := by decide
  have hlines' : lines content'.toList =
      ["PORT=80".toList, "DB_PASSWORD".toList ++ '=' :: "'höhlen ß' # new".toList] := by decide
  have hsame : List.Forall₂ SameButValue (lines content.toList) (lines content'.toList) := by
    rw [hlines, hlines']
    exact .cons (.same _) (.cons (.value (by decide) (by decide)) .nil)
  exact ⟨hsame, check_eq_of_sameButValues ".env" hsame, by decide⟩

end Env
end BackendAudit
