import BackendAudit.Proofs.Pattern.Recognition
import BackendAudit.Proofs.Rule.EmptyMatch
import BackendAudit.Proofs.Scan.Places

/-!
# Occurrences within matches

An occurrence of a pattern need not be a match: one that begins within another match is
passed over.  Without a guard it begins within a match all the same, with one exception.  At an
end of a word the pattern may prefer to read nothing, and then the search goes on behind the
next character, over what it could have read there.

* `Matcher.covers_or_prefers_empty`: where the expression of a pattern can read, that place lies
  within a match, or the pattern prefers to read nothing there.
* `Matcher.findAll_covers`: what the matches and the findings of a matcher without guard cover.
* `Matcher.misses_letter` is an occurrence that no match covers.
-/

namespace BackendAudit

open Text
open Pattern (AtWordEnd)

/-- A place lies within one of the matches. -/
def Covered (spans : List (Nat × Nat)) (place : Nat) : Prop :=
  ∃ span ∈ spans, span.1 ≤ place ∧ place < span.2

/-- Tried at a place between two parts of a content, a pattern prefers to read nothing.  It
asks for an end of a word, and has it there. -/
structure Matcher.PrefersEmpty (m : Matcher) (before after : List Char) : Prop where
  matchesAt : m.pattern.automaton.MatchesAt (before ++ after) (byteLength before)
    (byteLength before)
  marksWord : ∃ l ∈ m.pattern.expr.looks, l.marksWord = true
  atWordEnd : AtWordEnd before.getLast? after.head?

/-- Where an attempt reads anything, a matcher without guard has a match. -/
theorem Matcher.covered_of_matchesAt {m : Matcher} (hguard : m.guard = none)
    {content : List Char} {start stop : Nat}
    (h : m.pattern.automaton.MatchesAt content start stop) (hlt : start < stop) :
    Covered (m.findAll content) start := by
  rw [findAll_eq_of_guard hguard]
  exact Pattern.Automaton.exists_span_of_matchesAt h hlt

/-- Where the expression of a pattern can read, that place lies within a match, or the pattern
prefers to read nothing there. -/
theorem Matcher.covers_or_prefers_empty {m : Matcher} (hguard : m.guard = none)
    {before part after : List Char} (hfits : m.pattern.expr.Fits before part after) :
    Covered (m.findAll (before ++ part ++ after)) (byteLength before) ∨
      m.PrefersEmpty before (part ++ after) := by
  obtain ⟨stop, hmatch⟩ := Pattern.Automaton.exists_matchesAt_of_fits hfits
  rw [← m.pattern.automaton_eq] at hmatch
  rcases Nat.lt_or_eq_of_le hmatch.le with hlt | rfl
  · exact .inl (covered_of_matchesAt hguard hmatch hlt)
  · rw [List.append_assoc] at hmatch
    obtain ⟨hlook, before', after', htext, hplace, hend⟩ := m.atWordEnd_of_matchesAt hmatch
    obtain ⟨rfl, rfl⟩ := eq_of_byteLength_eq htext hplace.symm
    exact .inr ⟨hmatch, hlook, hend⟩

/-- The matches of a matcher without guard are parts of the content, begin one behind the other
and do not overlap.  Each place at which the pattern, as it prefers, reads anything lies within
a match.  So does each at which its expression can read at all, unless the pattern prefers to
read nothing there.  In a scan, every matcher of every rule has one finding for each of its
matches, in their order. -/
theorem Matcher.findAll_covers (m : Matcher) (hguard : m.guard = none) (content : List Char) :
    (∀ span ∈ m.findAll content, IsSpan content span) ∧
      ((m.findAll content).Pairwise fun x y => x.1 < y.1 ∧ x.2 ≤ y.1) ∧
      (∀ start stop, start < stop → m.pattern.automaton.MatchesAt content start stop →
        Covered (m.findAll content) start) ∧
      (∀ before part after, content = before ++ part ++ after →
        m.pattern.expr.Fits before part after →
          Covered (m.findAll content) (byteLength before) ∨
            m.PrefersEmpty before (part ++ after)) ∧
      ∀ (registry : Registry) (name : String),
        registry.scan name (String.ofList content) =
            (registry.rules.flatMap fun r => r.matchers.flatMap
              (r.findingsOf (Source.ofContent name content))) ++
            structuralFindings (Source.ofContent name content) ∧
          ∀ r : Rule, List.Forall₂ (r.Shows name content) (m.findAll content)
            (r.findingsOf (Source.ofContent name content) m) := by
  refine ⟨?_, ?_, fun start stop hlt hmatch => covered_of_matchesAt hguard hmatch hlt, ?_,
    fun registry name => ⟨?_, fun r => r.findingsOf_show name content m⟩⟩
  · rw [findAll_eq_of_guard hguard]
    exact (Pattern.Automaton.findAll_ordered content).1
  · rw [findAll_eq_of_guard hguard]
    exact (Pattern.Automaton.findAll_ascending content).and
      (Pattern.Automaton.findAll_ordered content).2.2
  · rintro before part after rfl hfits
    exact covers_or_prefers_empty hguard hfits
  · rw [Registry.scan, String.toList_ofList]
    rfl

/-- A matcher of two letters. -/
def doubleMatcher : Matcher :=
  ⟨.ofExpr "aa" (.cat (.one (.ofChar 'a')) (.one (.ofChar 'a'))), none, by rfl⟩

/-- The occurrence from the second letter on is passed over, but begins within the match from
the first. -/
theorem Matcher.findAll_covers_doubleMatcher :
    doubleMatcher.guard = none ∧ doubleMatcher.findAll ['a', 'a', 'a'] = [(0, 2)] ∧
      doubleMatcher.pattern.automaton.MatchesAt ['a', 'a', 'a'] 1 3 ∧
      Covered [(0, 2)] 1 := by
  have hfound : doubleMatcher.findAll ['a', 'a', 'a'] = [(0, 2)] := by decide +kernel
  have hmatch : doubleMatcher.pattern.automaton.MatchesAt ['a', 'a', 'a'] 1 3 :=
    ⟨['a'], ['a', 'a'], rfl, by decide, by decide +kernel⟩
  have hcovers := (Matcher.findAll_covers doubleMatcher rfl ['a', 'a', 'a']).2.2.1 1 3
    (by decide) hmatch
  rw [hfound] at hcovers
  exact ⟨rfl, hfound, hmatch, hcovers⟩

/-- The pattern `\b|a` is accepted, and its expression reads the `a`.  It prefers the empty place
in front of it, though, and the search goes on behind it. -/
theorem Matcher.misses_letter :
    ∃ m, Matcher.compile "\\b|a" = .ok m ∧ m.guard = none ∧
      m.pattern.expr.Fits [] ['a'] [] ∧ m.findAll ['a'] = [(0, 0), (1, 1)] ∧
      ¬Covered (m.findAll ['a']) 0 := by
  have hcompile : Matcher.compile "\\b|a" = .ok ⟨.ofExpr "\\b|a"
      (.alt (.look .wordBoundary) (.one (.folded (.ofChar 'a')))), none, by rfl⟩ := by rfl
  have hfound : Matcher.findAll ⟨.ofExpr "\\b|a"
      (.alt (.look .wordBoundary) (.one (.folded (.ofChar 'a')))), none, by rfl⟩ ['a'] =
        [(0, 0), (1, 1)] := by
    decide
  refine ⟨_, hcompile, rfl, ?_, hfound, ?_⟩
  · apply Pattern.Expr.fits_alt.mpr
    exact .inr (Pattern.Expr.fits_one.mpr ⟨'a', rfl, by decide⟩)
  · rw [hfound]
    simp [Covered]

end BackendAudit
