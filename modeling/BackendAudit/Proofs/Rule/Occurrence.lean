import BackendAudit.Proofs.Pattern.Leftmost
import BackendAudit.Proofs.Rule.Guard
import BackendAudit.Rule.Basic

/-!
# Occurrences of a guard that count

The matches of a guard are found once, from the start of the content, and only those
without overlap are kept.  So not every occurrence of the guard in the window of a match
drops it: one that begins within an earlier match of the guard is passed over, even where
that earlier match began before the window.

* `Matcher.mem_findAll_iff` says which occurrences count.
* `Matcher.keeps_guarded_match` is a match that is kept with its guard in the window.
-/

namespace BackendAudit

open Pattern.Automaton (PassedOver)

/-- The guard occurs in the window of a match that begins at `first`: tried at some place
from there on, its pattern matches and ends before the window does. -/
def Guard.OccursFrom (g : Guard) (content : List Char) (first : Nat) : Prop :=
  ∃ start stop, first ≤ start ∧ g.pattern.automaton.MatchesAt content start stop ∧
    stop ≤ g.window.limit content first

instance (earlier span : Nat × Nat) : Decidable (PassedOver earlier span) :=
  inferInstanceAs (Decidable (_ ∧ _))

/-- A match is dropped when the guard, tried at some place from the start of the match on,
matches and ends in the window, and is not passed over behind one of its own matches.
The window ends where it should whenever the number of its last line is a machine word. -/
theorem Matcher.mem_findAll_iff {m : Matcher} {g : Guard} (hguard : m.guard = some g)
    (content : List Char) (span : Nat × Nat) :
    (span ∈ m.findAll content ↔ span ∈ m.pattern.findAll content ∧
      ¬∃ start stop, span.1 ≤ start ∧ g.pattern.automaton.MatchesAt content start stop ∧
        stop ≤ (GuardHits.locate g content).windowEnd span.1 ∧
        ∀ earlier ∈ g.pattern.findAll content, ¬PassedOver earlier (start, stop)) ∧
      (g.window.Fits content span.1 →
        (GuardHits.locate g content).windowEnd span.1 = g.window.limit content span.1) := by
  refine ⟨?_, GuardHits.windowEnd_locate⟩
  rw [Matcher.findAll, hguard, List.mem_filter, Bool.not_eq_true', Bool.eq_false_iff, ne_eq,
    GuardHits.covers_iff]
  refine and_congr_right fun _ => not_congr ⟨?_, ?_⟩
  · rintro ⟨⟨start, stop⟩, hhit, hstart, hstop⟩
    obtain ⟨hmatch, hcounts⟩ := Pattern.Automaton.mem_findAll_iff_counts.mp hhit
    exact ⟨start, stop, hstart, hmatch, hstop, hcounts⟩
  · rintro ⟨start, stop, hstart, hmatch, hstop, hcounts⟩
    have hhit := Pattern.Automaton.mem_findAll_iff_counts.mpr ⟨hmatch, hcounts⟩
    exact ⟨(start, stop), hhit, hstart, hstop⟩

/-- The run `bb` on the next line drops the `a`.  No match of the guard stands in front of
it. -/
theorem Matcher.mem_findAll_matcherOfA :
    matcherOfA.guard = some guardByB ∧
      (0, 1) ∉ matcherOfA.findAll ['a', '\n', 'x', 'b', 'b', '\n', 'a'] := by
  refine ⟨rfl, fun hmem => ?_⟩
  have hmatch : guardByB.pattern.automaton.MatchesAt
      ['a', '\n', 'x', 'b', 'b', '\n', 'a'] 3 5 :=
    ⟨['a', '\n', 'x'], ['b', 'b', '\n', 'a'], rfl, by decide, by decide +kernel⟩
  have hcounts : ∀ earlier ∈ guardByB.pattern.findAll ['a', '\n', 'x', 'b', 'b', '\n', 'a'],
      ¬PassedOver earlier (3, 5) := by
    decide +kernel
  exact ((Matcher.mem_findAll_iff rfl _ _).1.mp hmem).2
    ⟨3, 5, by decide, hmatch, by decide +kernel, hcounts⟩

/-- In `abc` the guard `..` occurs from the `b` on and ends with the content.  It is found
at the `a` already, and what is left behind that match is too short, so the `b` is kept. -/
theorem Matcher.keeps_guarded_match :
    ∃ m g, (MatcherDef.mk "b" (some ("..", .rest))).compile = .ok m ∧ m.guard = some g ∧
      (1, 2) ∈ m.findAll ['a', 'b', 'c'] ∧ g.OccursFrom ['a', 'b', 'c'] 1 := by
  have hcompile : ((MatcherDef.mk "b" (some ("..", .rest))).compile.toOption.any fun m =>
      m.findAll ['a', 'b', 'c'] == [(1, 2)] && m.guard.any fun g =>
        g.pattern.automaton.attempt (some 'a') 1 g.pattern.automaton.start ['b', 'c'] == some 3 &&
          3 ≤ g.window.limit ['a', 'b', 'c'] 1) = true := by
    decide +kernel
  obtain ⟨m, hm, hrun⟩ := (Option.any_eq_true _ _).mp hcompile
  rw [Bool.and_eq_true, beq_iff_eq, Option.any_eq_true] at hrun
  obtain ⟨hfound, g, hguard, hoccurs⟩ := hrun
  rw [Bool.and_eq_true, beq_iff_eq, decide_eq_true_iff] at hoccurs
  refine ⟨m, g, ?_, hguard, by rw [hfound]; exact List.mem_cons_self, 1, 3, Nat.le_refl _, ?_,
    hoccurs.2⟩
  · cases hresult : (MatcherDef.mk "b" (some ("..", .rest))).compile with
    | error _ => rw [hresult] at hm; cases hm
    | ok m' => rw [hresult] at hm; cases hm; rfl
  · exact ⟨['a'], ['b', 'c'], rfl, by decide, hoccurs.1⟩

end BackendAudit
