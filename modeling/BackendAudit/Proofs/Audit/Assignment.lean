import BackendAudit.Audit.Env
import BackendAudit.Proofs.Text.Parts

/-!
# Assignments in environment files

A line is an assignment if there is a key in front of its first equals sign.  The key comes
from what stands there, and the value from what stands behind, each without regard to the
other (`assignment?_append`).  Whether the value is weak is a matter of its length alone
(`weakSecret?_append`).
-/

namespace BackendAudit

namespace Env

open Text

/-! ## Keys -/

/-- A text in front of another one goes if it does not reach into it. -/
theorem dropLeading_append {part : List Char} {c : Char} (hc : c ∉ part) (cs ds : List Char) :
    dropLeading part (cs ++ c :: ds) = dropLeading part cs ++ c :: ds := by
  have hiff : part.isPrefixOf (cs ++ c :: ds) = part.isPrefixOf cs := by
    rw [Bool.eq_iff_iff, List.isPrefixOf_iff_prefix, List.isPrefixOf_iff_prefix,
      prefix_append_cons_iff hc]
  rw [dropLeading, dropLeading, hiff]
  split
  · rename_i hprefix
    have hlength := (List.isPrefixOf_iff_prefix.mp hprefix).length_le
    rw [List.drop_append_of_le_length hlength]
  · rfl

theorem dropLeading_sublist (part cs : List Char) : (dropLeading part cs).Sublist cs := by
  rw [dropLeading]
  split
  · exact List.drop_sublist _ _
  · exact List.Sublist.refl _

/-! ## Lines -/

/-- A key without the blanks around it, if there is one. -/
def trimmedKey? (key : List Char) : Option (List Char) :=
  if (trim key).isEmpty then none else some (trim key)

/-- A line that is neither blank nor a comment is split at its first equals sign. -/
theorem assignment?_of_trim {line rest : List Char} {c : Char} (hline : trim line = c :: rest)
    (hc : c ≠ '#') :
    assignment? line = (splitOnce ['='] (dropLeading "export ".toList (c :: rest))).bind
      fun sides => (trimmedKey? sides.1).map fun key => (key, valueOf sides.2) := by
  rw [assignment?, hline]
  split
  · contradiction
  · rename_i hcomment
    exact absurd (List.cons.inj hcomment).1 hc
  · cases splitOnce ['='] (dropLeading "export ".toList (c :: rest)) with
    | none => rfl
    | some sides =>
      simp only [trimmedKey?, Option.bind_some]
      split <;> rfl

/-- A comment assigns nothing. -/
theorem assignment?_of_comment {line rest : List Char} (hline : trim line = '#' :: rest) :
    assignment? line = none := by
  rw [assignment?, hline]
  rfl

/-- A line without an equals sign assigns nothing. -/
theorem assignment?_of_not_mem {line : List Char} (h : '=' ∉ line) :
    assignment? line = none := by
  cases hline : trim line with
  | nil => rw [assignment?, hline]
  | cons c rest =>
    by_cases hc : c = '#'
    · exact assignment?_of_comment (hc ▸ hline)
    · have hnone : '=' ∉ dropLeading "export ".toList (c :: rest) := fun hmem =>
        h ((trim_sublist line).subset (hline ▸ (dropLeading_sublist _ _).subset hmem))
      rw [assignment?_of_trim hline hc, splitOnce_eq_none List.mem_cons_self hnone]
      rfl

/-- The key that a text in front of an equals sign gives, if it does. -/
def keyOf? (front : List Char) : Option (List Char) :=
  if (trimStart front).head? = some '#' then none
  else trimmedKey? (dropLeading "export ".toList (trimStart front))

/-- The key stands in front of the first equals sign, and the value behind it. -/
theorem assignment?_append {front : List Char} (h : '=' ∉ front) (raw : List Char) :
    assignment? (front ++ '=' :: raw) = (keyOf? front).map fun key => (key, valueOf raw) := by
  have hline : trim (front ++ '=' :: raw) = trimStart front ++ '=' :: trimEnd raw :=
    trim_append_cons (by decide) front raw
  have hsplit : splitOnce ['='] (dropLeading "export ".toList
      (trimStart front ++ '=' :: trimEnd raw)) =
        some (dropLeading "export ".toList (trimStart front), trimEnd raw) := by
    have hnone : '=' ∉ dropLeading "export ".toList (trimStart front) := fun hmem =>
      h ((List.dropWhile_sublist _).subset ((dropLeading_sublist _ _).subset hmem))
    have hfound := @splitOnce_append [] '=' List.not_mem_nil _ hnone (trimEnd raw)
    rw [dropLeading_append (by decide)]
    simpa using hfound
  have hvalue : valueOf (trimEnd raw) = valueOf raw := by rw [valueOf, valueOf, trim_trimEnd]
  rw [keyOf?]
  generalize trimStart front = start at hline hsplit ⊢
  split
  · rename_i hcomment
    obtain ⟨rest, rfl⟩ := List.head?_eq_some_iff.mp hcomment
    exact assignment?_of_comment hline
  · rename_i hcomment
    have hfirst : ∃ c rest, start ++ '=' :: trimEnd raw = c :: rest ∧ c ≠ '#' := by
      cases start with
      | nil => exact ⟨'=', trimEnd raw, rfl, by decide⟩
      | cons c rest => exact ⟨c, rest ++ '=' :: trimEnd raw, rfl, by simpa using hcomment⟩
    obtain ⟨c, rest, hstart, hc⟩ := hfirst
    rw [assignment?_of_trim (hline.trans hstart) hc, ← hstart, hsplit, Option.bind_some, hvalue]

/-- Blanks at the end of a line do not matter. -/
theorem assignment?_append_of_blank {blanks : List Char} (h : Blank blanks) (line : List Char) :
    assignment? (line ++ blanks) = assignment? line := by
  rw [assignment?, assignment?, trim_append_of_blank h]

/-! ## Weak secrets -/

/-- The kind of the secret that a key holds, if a value of this length is weak. -/
def weakKind? (length : Nat) (key : List Char) : Option SecretKind :=
  (secretKind? key).filter fun kind => 0 < length ∧ length < kind.minLength

theorem weakKind?_eq_none_iff {length : Nat} {key : List Char} :
    weakKind? length key = none ↔
      ∀ kind, secretKind? key = some kind → length = 0 ∨ kind.minLength ≤ length := by
  rw [weakKind?, Option.filter_eq_none_iff]
  refine forall₂_congr fun kind _ => ?_
  simp only [decide_eq_true_eq]
  omega

/-- A weak secret is told by its key and by the length of its value. -/
theorem weakSecret?_eq (line : List Char) :
    weakSecret? line = (assignment? line).bind fun a => weakKind? a.2.length a.1 := by
  rw [weakSecret?]
  cases assignment? line with
  | none => rfl
  | some a =>
    rw [Option.bind_some, weakKind?]
    cases hkind : secretKind? a.1 with
    | none => simp only [hkind, Option.filter_none]
    | some kind => simp only [hkind, Option.filter_some, decide_eq_true_eq]

theorem weakSecret?_append {front : List Char} (h : '=' ∉ front) (raw : List Char) :
    weakSecret? (front ++ '=' :: raw) = (keyOf? front).bind (weakKind? (valueOf raw).length) := by
  rw [weakSecret?_eq, assignment?_append h, Option.bind_map]
  rfl

theorem weakSecret?_of_not_mem {line : List Char} (h : '=' ∉ line) : weakSecret? line = none := by
  rw [weakSecret?_eq, assignment?_of_not_mem h, Option.bind_none]

theorem weakSecret?_append_of_blank {blanks : List Char} (h : Blank blanks) (line : List Char) :
    weakSecret? (line ++ blanks) = weakSecret? line := by
  rw [weakSecret?_eq, weakSecret?_eq, assignment?_append_of_blank h]

end Env
end BackendAudit
