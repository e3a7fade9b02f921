import BackendAudit.Proofs.Pattern.Passing
import BackendAudit.Proofs.Rule.Guard

/-!
# Empty matches

A pattern is tried on the empty text before it becomes that of a matcher, so that none is
accepted which can be passed with nothing around it.  What is left are the patterns that
read nothing only at an end of a word: an empty text has no such place, another content can
have many.

* `Matcher.compile_eq_matchesEmpty_iff`: which patterns are refused.
* `Matcher.empty_matches_at_wordEnds`: where matchers have empty matches.
* `Matcher.accepts_wordBoundary` is a pattern that is accepted and has one.
-/

namespace BackendAudit

open Text
open Pattern (AtWordEnd)

/-- A pattern matches the empty text if its expression is passed with nothing around it. -/
theorem Pattern.isMatch_nil (p : Pattern) : p.isMatch [] = p.expr.passes none none := by
  rw [Pattern.isMatch, p.automaton_eq, Pattern.Automaton.isMatch_ofExpr_nil]

/-- The expression of a matcher is not passed with nothing around it. -/
theorem Matcher.not_passes_alone (m : Matcher) : m.pattern.expr.passes none none = false := by
  rw [← Pattern.isMatch_nil]
  exact m.isMatch_nil

/-- A text is refused as one that matches the empty text just when it is a pattern whose
expression is passed with nothing around it. -/
theorem Matcher.compile_eq_matchesEmpty_iff (source : String) :
    Matcher.compile source = .error (.matchesEmpty source) ↔
      ∃ p, Pattern.compile source = .ok p ∧ p.expr.passes none none = true := by
  rw [Matcher.compile]
  cases hcompile : Pattern.compile source with
  | error e => simp
  | ok p =>
    dsimp only
    split
    · rename_i hnil
      rw [Pattern.isMatch_nil] at hnil
      simp [hnil]
    · rename_i hnil
      rw [Pattern.isMatch_nil, Bool.not_eq_false] at hnil
      simp [hnil]

/-- Where an attempt of a matcher ends at the place at which it began, there is an end of a
word, and the pattern asks for one. -/
theorem Matcher.atWordEnd_of_matchesAt {m : Matcher} {content : List Char} {place : Nat}
    (h : m.pattern.automaton.MatchesAt content place place) :
    (∃ l ∈ m.pattern.expr.looks, l.marksWord = true) ∧
      ∃ before after, content = before ++ after ∧ byteLength before = place ∧
        AtWordEnd before.getLast? after.head? := by
  rw [m.pattern.automaton_eq] at h
  obtain ⟨before, after, rfl, hplace, hpasses⟩ := Pattern.Automaton.passes_of_matchesAt h
  obtain ⟨hlook, hend⟩ := Pattern.Expr.marksWord_of_passes hpasses m.not_passes_alone
  exact ⟨hlook, before, after, rfl, hplace, hend⟩

/-- An empty match lies at an end of a word, and the pattern asks for one. -/
theorem Matcher.atWordEnd_of_mem {m : Matcher} {content : List Char} {place : Nat}
    (h : (place, place) ∈ m.findAll content) :
    (∃ l ∈ m.pattern.expr.looks, l.marksWord = true) ∧
      ∃ before after, content = before ++ after ∧ byteLength before = place ∧
        AtWordEnd before.getLast? after.head? := by
  have hfound : (place, place) ∈ m.pattern.automaton.findAll content :=
    (m.findAll_sublist content).subset h
  exact m.atWordEnd_of_matchesAt (Pattern.Automaton.mem_findAll_iff_counts.mp hfound).1

/-- A text is refused as one that matches the empty text just when it is a pattern that can
be passed with nothing around it.  Every match of a matcher has a character in it, unless it
lies at an end of a word and the pattern asks for one. -/
theorem Matcher.empty_matches_at_wordEnds (source : String) (m : Matcher)
    (content : List Char) :
    (Matcher.compile source = .error (.matchesEmpty source) ↔
      ∃ p, Pattern.compile source = .ok p ∧ p.expr.passes none none = true) ∧
    ∀ span ∈ m.findAll content,
      span.1 < span.2 ∨
        span.1 = span.2 ∧ (∃ l ∈ m.pattern.expr.looks, l.marksWord = true) ∧
          ∃ before after, content = before ++ after ∧ byteLength before = span.1 ∧
            AtWordEnd before.getLast? after.head? := by
  refine ⟨Matcher.compile_eq_matchesEmpty_iff source, ?_⟩
  intro span hspan
  have hle : span.1 ≤ span.2 := by
    have hfound := (m.findAll_sublist content).subset hspan
    exact ((Pattern.Automaton.findAll_ordered content).1 span hfound).le
  rcases Nat.lt_or_eq_of_le hle with hlt | heq
  · exact .inl hlt
  · obtain ⟨first, last⟩ := span
    obtain rfl : first = last := heq
    exact .inr ⟨rfl, Matcher.atWordEnd_of_mem hspan⟩

/-- A matcher of the ends of words. -/
def wordEndMatcher : Matcher :=
  ⟨.ofExpr "\\b" (.look .wordBoundary), none, by rfl⟩

/-- The word in front of the blank ends behind its last character. -/
theorem Matcher.empty_matches_of_wordEndMatcher :
    (2, 2) ∈ wordEndMatcher.findAll ['i', 'f', ' '] ∧
      (2 < 2 ∨ 2 = 2 ∧ (∃ l ∈ wordEndMatcher.pattern.expr.looks, l.marksWord = true) ∧
        ∃ before after, ['i', 'f', ' '] = before ++ after ∧ byteLength before = 2 ∧
          AtWordEnd before.getLast? after.head?) := by
  have hmem : (2, 2) ∈ wordEndMatcher.findAll ['i', 'f', ' '] := by decide
  exact ⟨hmem, (Matcher.empty_matches_at_wordEnds "\\b" wordEndMatcher _).2 _ hmem⟩

/-- The pattern `\b` is accepted, since an empty text has no words, and finds the empty place
in front of the `a`. -/
theorem Matcher.accepts_wordBoundary :
    ∃ m, Matcher.compile "\\b" = .ok m ∧ (0, 0) ∈ m.findAll ['a'] := by
  have hcompile : Matcher.compile "\\b" = .ok wordEndMatcher := by rfl
  exact ⟨wordEndMatcher, hcompile, by decide⟩

end BackendAudit
