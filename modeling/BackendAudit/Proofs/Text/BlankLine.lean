import BackendAudit.Proofs.Text.LineText
import BackendAudit.Proofs.Text.Parts
import BackendAudit.Text.Case

/-!
# A blank line in front of a text

With one line feed more in front of it, every place of a text is one byte further on, and
every line has the number behind its own.  What is looked for in a text is found as before,
unless it could begin with a line feed itself.

* `lineOf_lineFeed`, `lineText?_lineFeed`: lines and their texts.
* `slice_lineFeed`: parts of the text.
* `contains_lineFeed`, `contains_lowercase_lineFeed`: occurrences of a text, in it and in
  its lower case.
-/

namespace BackendAudit

namespace Text

/-! ## Places and lines -/

@[simp]
theorem byteLength_lineFeed (cs : List Char) : byteLength ('\n' :: cs) = byteLength cs + 1 := by
  have hsize : ('\n' : Char).utf8Size = 1 := rfl
  rw [byteLength_cons, hsize, Nat.add_comm]

/-- From a place further on, all line feeds are so much further on. -/
theorem lineFeedsFrom_add (start more : Nat) (cs : List Char) :
    lineFeedsFrom (start + more) cs = (lineFeedsFrom start cs).map fun feed => feed + more := by
  induction cs generalizing start with
  | nil => rfl
  | cons c cs ih =>
    have hstart : start + more + c.utf8Size = start + c.utf8Size + more := by omega
    rw [lineFeedsFrom, lineFeedsFrom, hstart, ih]
    split <;> rfl

theorem lineFeedsFrom_lineFeed (cs : List Char) :
    lineFeedsFrom 0 ('\n' :: cs) = 0 :: (lineFeedsFrom 0 cs).map fun feed => feed + 1 := by
  rw [lineFeedsFrom, if_pos rfl]
  exact congrArg (0 :: ·) (lineFeedsFrom_add 0 1 cs)

theorem lineFeedsBefore_lineFeed (cs : List Char) (place : Nat) :
    lineFeedsBefore ('\n' :: cs) (place + 1) = lineFeedsBefore cs place + 1 := by
  rw [lineFeedsBefore, lineFeedsFrom_lineFeed, List.countP_cons_of_pos (by simp),
    List.countP_map, lineFeedsBefore]
  simp only [Function.comp_def, Nat.add_lt_add_iff_right]

/-- No more line feeds lie before a place than there are. -/
theorem lineFeedsBefore_le_count (cs : List Char) (place : Nat) :
    lineFeedsBefore cs place ≤ cs.count '\n' := by
  rw [lineFeedsBefore, ← length_lineFeedsFrom 0 cs]
  exact List.countP_le_length

/-- The first lines are the blank one and one line less of the others. -/
theorem lengthOfLines_lineFeed (line : Nat) (cs : List Char) :
    lengthOfLines (line + 1) ('\n' :: cs) = lengthOfLines line cs + 1 := by
  have hsize : ('\n' : Char).utf8Size = 1 := rfl
  rw [lengthOfLines, if_pos rfl, hsize, Nat.add_comm]

/-! ## Parts of a text -/

/-- A part of the text is the same part one byte further on. -/
theorem slice_lineFeed {cs : List Char} {first last : Nat} (h : IsSpan cs (first, last)) :
    slice (first + 1) (last + 1) ('\n' :: cs) = slice first last cs := by
  obtain ⟨before, part, after, rfl, rfl, rfl⟩ := h
  have hfront := slice_eq ('\n' :: before) part after
  simp only [List.cons_append, byteLength_lineFeed] at hfront
  rw [hfront, slice_eq]

/-- A text that begins with another character than a line feed does not occur at one. -/
theorem contains_lineFeed {part : List Char} (hpart : part.head?.any fun c => c != '\n')
    (cs : List Char) : contains part ('\n' :: cs) = contains part cs := by
  cases part with
  | nil => cases hpart
  | cons c rest =>
    have hc : (c == '\n') = false := by simpa using hpart
    rw [contains, List.isPrefixOf_cons_cons, hc, Bool.false_and, Bool.false_or]

/-! ## Lower case -/

/-- Two characters are the same, or they are the two forms of the small sigma. -/
def SameButSigma (c d : Char) : Prop :=
  c = d ∨ (c = 'σ' ∨ c = 'ς') ∧ (d = 'σ' ∨ d = 'ς')

theorem SameButSigma.refl (c : Char) : SameButSigma c c := .inl rfl

/-- Any other character is the same as both, or as neither. -/
theorem SameButSigma.eq_iff {p c d : Char} (h : SameButSigma c d) (hp : p ≠ 'σ' ∧ p ≠ 'ς') :
    p = c ↔ p = d := by
  rcases h with rfl | ⟨rfl | rfl, rfl | rfl⟩
  · exact Iff.rfl
  all_goals simp [hp.1, hp.2]

theorem lowercase_go_eq_append (before done cs : List Char) :
    lowercase.go before done cs = done.reverse ++ lowercase.go before [] cs := by
  induction cs generalizing before done with
  | nil => simp [lowercase.go]
  | cons c cs ih =>
    rw [lowercase.go, lowercase.go, ih, ih _ (_ ++ [])]
    simp

/-- What stands in front of a text only decides which form its sigmas have. -/
theorem lowercase_go_sameButSigma (before before' cs : List Char) :
    List.Forall₂ SameButSigma (lowercase.go before [] cs) (lowercase.go before' [] cs) := by
  induction cs generalizing before before' with
  | nil => exact .nil
  | cons c cs ih =>
    rw [lowercase.go, lowercase.go, lowercase_go_eq_append, lowercase_go_eq_append (c :: before')]
    apply List.rel_append _ (ih _ _)
    simp only [List.append_nil, List.reverse_reverse]
    split
    · have hsigma : ∀ b b' : Bool, List.Forall₂ SameButSigma
          (if b then ['ς'] else ['σ']) (if b' then ['ς'] else ['σ']) := by
        intro b b'
        cases b <;> cases b' <;> exact .cons (by simp [SameButSigma]) .nil
      exact hsigma _ _
    · exact List.forall₂_same.mpr fun d _ => SameButSigma.refl d

theorem lowercase_lineFeed (cs : List Char) :
    lowercase ('\n' :: cs) = '\n' :: lowercase.go ['\n'] [] cs := by
  have hform : Unicode.lowerForm '\n' = ['\n'] := by decide
  rw [lowercase, lowercase.go, if_neg (by decide), hform, lowercase_go_eq_append]
  rfl

/-- A text that begins with another character, and has no sigma, occurs in the lower case of
a text as it does without the blank line. -/
theorem contains_lowercase_lineFeed {part : List Char}
    (hpart : part.head?.any fun c => c != '\n') (hsigma : part.all fun c => c != 'σ' && c != 'ς')
    (cs : List Char) : contains part (lowercase ('\n' :: cs)) = contains part (lowercase cs) := by
  have hother : ∀ p ∈ part, p ≠ 'σ' ∧ p ≠ 'ς' := by
    simpa [List.all_eq_true] using hsigma
  rw [lowercase_lineFeed, contains_lineFeed hpart]
  exact contains_congr (fun p hp c d hcd => hcd.eq_iff (hother p hp))
    (lowercase_go_sameButSigma _ _ cs)

end Text

/-! ## Lines in an index -/

open Text

/-- The line of a place has the number behind its own. -/
theorem LineIndex.lineOf_lineFeed (content : List Char) (place : Nat) :
    (LineIndex.ofContent ('\n' :: content)).lineOf (place + 1) =
      (LineIndex.ofContent content).lineOf place + 1 := by
  rw [lineOf_ofContent, lineOf_ofContent, lineFeedsBefore_lineFeed]

/-- The line of the number behind has the same text. -/
theorem LineIndex.lineText?_lineFeed (content : List Char) (line : Nat) :
    (LineIndex.ofContent ('\n' :: content)).lineText? ('\n' :: content) (line + 2) =
      (LineIndex.ofContent content).lineText? content (line + 1) := by
  rw [lineText?_succ, lineText?_succ, List.splitOn_cons_eq_if_modifyHead,
    if_pos (beq_self_eq_true _), List.getElem?_cons_succ]

end BackendAudit
