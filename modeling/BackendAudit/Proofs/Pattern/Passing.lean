import BackendAudit.Proofs.Pattern.Leftmost

/-!
# Passing a pattern without reading

An expression can be passed between two characters without reading if the assertions on
some way through it hold there.  `Expr.passes` says so by the expression alone, and an
attempt that ends where it began has found such a way.

* `Expr.any_ends_first`: an edge from the front of an expression ends a match just when
  the expression is passed and an edge behind it ends one.
* `Automaton.passes_of_matchesAt`: what an empty match says about the place where it is.
* `Automaton.isMatch_ofExpr_nil`: the empty text is matched by passing alone.
* `Expr.marksWord_of_passes`: an expression that is passed somewhere, but not with nothing
  around it, asks for an end of a word, and has it there.
-/

namespace BackendAudit.Pattern

open Text

variable {α : Type} {before after : Option Char}

/-! ## Expressions -/

/-- Whether an expression can be passed between two characters without reading. -/
def Expr.passes (before after : Option Char) : Expr α → Bool
  | empty => true
  | one _ => false
  | look l => l.holds before after
  | cat a b => a.passes before after && b.passes before after
  | alt a b => a.passes before after || b.passes before after
  | star _ _ => true
  | plus _ a => a.passes before after

/-- The assertions in an expression. -/
def Expr.looks : Expr α → List Look
  | empty => []
  | one _ => []
  | look l => [l]
  | cat a b => a.looks ++ b.looks
  | alt a b => a.looks ++ b.looks
  | star _ a => a.looks
  | plus _ a => a.looks

/-- Numbering the steps does not change how an expression is passed. -/
theorem Expr.passes_number (e : Expr α) (n : Nat) :
    (e.number n).1.passes before after = e.passes before after := by
  induction e generalizing n with
  | empty => rfl
  | one a => rfl
  | look l => rfl
  | cat a b iha ihb => simp only [number, passes, iha, ihb]
  | alt a b iha ihb => simp only [number, passes, iha, ihb]
  | star greedy a _ => rfl
  | plus greedy a ih => simp only [number, passes, ih]

/-! ## Edges -/

/-- Whether an edge ends a match between two characters. -/
def Edge.ends (before after : Option Char) (e : Edge) : Bool :=
  e.target.isNone && e.looks.all fun l => l.holds before after

theorem Edge.ends_guarded (l : Look) (e : Edge) :
    (e.guarded l).ends before after = (l.holds before after && e.ends before after) := by
  rw [Edge.guarded]
  split
  · rename_i hmem
    -- the assertion is among those of the edge already
    cases hl : l.holds before after with
    | true => rw [Bool.true_and]
    | false =>
      have hlooks : (e.looks.all fun l => l.holds before after) = false :=
        List.all_eq_false.mpr ⟨l, List.contains_iff_mem.mp hmem, by simp [hl]⟩
      rw [Edge.ends, hlooks, Bool.and_false, Bool.false_and]
  · simp only [Edge.ends, List.all_cons]
    rw [Bool.and_left_comm]

theorem any_joinEdges (p : Edge → Bool) (xs ys : List Edge) :
    (joinEdges xs ys).any p = (xs.any p || ys.any p) := by
  rw [joinEdges, List.any_append, List.any_filter]
  cases hxs : xs.any p with
  | true => rw [Bool.true_or, Bool.true_or]
  | false =>
    rw [Bool.false_or, Bool.false_or]
    -- no edge of `ys` for which `p` holds is among `xs`
    apply List.any_congr rfl
    intro e
    cases hp : p e with
    | false => rw [Bool.and_false]
    | true =>
      have hmem : e ∉ xs := by
        intro hmem
        have := List.any_eq_false.mp hxs e hmem
        exact this hp
      simp [hmem]

/-- Edges from the front of an expression end a match where it is passed and one of the
edges behind it ends a match. -/
theorem Expr.any_ends_first (e : Expr (Nat × α)) (k : List Edge) :
    (e.first k).any (Edge.ends before after) =
      (e.passes before after && k.any (Edge.ends before after)) := by
  induction e generalizing k with
  | empty => simp only [first, passes, Bool.true_and]
  | one a => rfl
  | look l =>
    simp only [first, passes, List.any_map]
    induction k with
    | nil => simp
    | cons e k ih =>
      simp only [List.any_cons, Function.comp_apply, Edge.ends_guarded, ih]
      rw [Bool.and_or_distrib_left]
  | cat a b iha ihb => simp only [first, passes, iha, ihb, Bool.and_assoc]
  | alt a b iha ihb =>
    simp only [first, passes, any_joinEdges, iha, ihb]
    rw [Bool.and_or_distrib_right]
  | star greedy a ih =>
    -- the body leads on to its own end only, and there nothing ends
    have hbody : (a.first []).any (Edge.ends before after) = false := by
      rw [ih, List.any_nil, Bool.and_false]
    cases greedy <;> simp [first, passes, loop, any_joinEdges, hbody]
  | plus greedy a ih => simp only [first, passes, ih]

namespace Automaton

theorem start_ofExpr (e : Expr CharSet) :
    (ofExpr e).start = (e.number 0).1.first [⟨[], none⟩] := by
  simp only [ofExpr, Expr.build_eq]

theorem any_ends_start (e : Expr CharSet) :
    (ofExpr e).start.any (Edge.ends before after) = e.passes before after := by
  rw [start_ofExpr, Expr.any_ends_first, Expr.passes_number]
  simp [Edge.ends]

/-! ## Attempts that read nothing -/

variable {A : Automaton}

/-- An attempt that ends where it began has come to an edge that ends a match. -/
theorem any_ends_of_attempt {seen rest : List Char} {edges : List Edge}
    (h : A.attempt before (byteLength seen) edges rest = some (byteLength seen)) :
    edges.any (Edge.ends before rest.head?) = true := by
  obtain ⟨e, he, hlooks, ⟨htarget, _⟩ | ⟨_, c, later, _, _, _, _, hlater⟩⟩ :=
    exists_edge_of_attempt h
  · apply List.any_eq_true.mpr
    exact ⟨e, he, by simp [Edge.ends, htarget, hlooks]⟩
  · -- behind the next character an attempt ends later
    have hseen : byteLength seen + c.utf8Size = byteLength (seen ++ [c]) := by simp
    have hsize : 0 < c.utf8Size := c.utf8Size_pos
    rw [hseen] at hlater
    have := (attempt_ends hlater).2
    omega

/-- Behind the end of the text an attempt finds a match if it need not read. -/
theorem isSome_attempt_nil (A : Automaton) (before : Option Char) (pos : Nat)
    (edges : List Edge) :
    (A.attempt before pos edges []).isSome = edges.any (Edge.ends before none) := by
  rw [attempt, Bool.eq_iff_iff, List.findSome?_isSome_iff, List.any_eq_true]
  apply exists_congr
  intro e
  apply and_congr_right
  intro _
  rw [alongEdge, Edge.ends]
  cases hlooks : (e.looks.all fun l => l.holds before none) <;> cases e.target <;> simp [readOn?]

/-- The empty text has a match if the expression is passed with nothing around it. -/
theorem isMatch_ofExpr_nil (e : Expr CharSet) :
    (ofExpr e).isMatch [] = e.passes none none := by
  rw [isMatch, find?_eq_leftmost, leftmost, Option.isSome_map, isSome_attempt_nil,
    any_ends_start]

/-- Where an attempt ends at the place at which it began, the expression is passed. -/
theorem passes_of_matchesAt {e : Expr CharSet} {text : List Char} {place : Nat}
    (h : (ofExpr e).MatchesAt text place place) :
    ∃ before after, text = before ++ after ∧ byteLength before = place ∧
      e.passes before.getLast? after.head? = true := by
  obtain ⟨before, after, rfl, rfl, hattempt⟩ := h
  refine ⟨before, after, rfl, rfl, ?_⟩
  rw [← any_ends_start]
  exact any_ends_of_attempt hattempt

end Automaton

/-! ## The ends of words -/

/-- Two neighbours stand at an end of a word: one of them belongs to a word and the other
does not.  Words are those of any script, or those of ASCII. -/
def AtWordEnd (before after : Option Char) : Prop :=
  isWordAt before ≠ isWordAt after ∨ isAsciiWordAt before ≠ isAsciiWordAt after

/-- An assertion that holds only at an end of a word. -/
def Look.marksWord : Look → Bool
  | wordBoundary | wordStart | wordEnd => true
  | asciiWordBoundary | asciiWordStart | asciiWordEnd => true
  | _ => false

/-- An assertion that holds at a place, but not in an empty text, is one about an end of a
word, and the place is one. -/
theorem Look.marksWord_of_holds {l : Look} (h : l.holds before after = true)
    (halone : l.holds none none = false) : l.marksWord = true ∧ AtWordEnd before after := by
  cases l <;> simp_all [holds, marksWord, AtWordEnd, isWordAt, isAsciiWordAt]

/-- An expression that is passed at a place, but not in an empty text, has an assertion about
an end of a word, and the place is one. -/
theorem Expr.marksWord_of_passes {e : Expr α} (h : e.passes before after = true)
    (halone : e.passes none none = false) :
    (∃ l ∈ e.looks, l.marksWord = true) ∧ AtWordEnd before after := by
  induction e with
  | empty => cases halone
  | one a => cases h
  | look l =>
    obtain ⟨hl, hend⟩ := Look.marksWord_of_holds h halone
    exact ⟨⟨l, List.mem_singleton_self l, hl⟩, hend⟩
  | cat a b iha ihb =>
    rw [passes, Bool.and_eq_true] at h
    rw [passes, Bool.and_eq_false_iff] at halone
    rcases halone with halone | halone
    · obtain ⟨⟨l, hmem, hl⟩, hend⟩ := iha h.1 halone
      exact ⟨⟨l, List.mem_append_left _ hmem, hl⟩, hend⟩
    · obtain ⟨⟨l, hmem, hl⟩, hend⟩ := ihb h.2 halone
      exact ⟨⟨l, List.mem_append_right _ hmem, hl⟩, hend⟩
  | alt a b iha ihb =>
    rw [passes, Bool.or_eq_true] at h
    rw [passes, Bool.or_eq_false_iff] at halone
    rcases h with h | h
    · obtain ⟨⟨l, hmem, hl⟩, hend⟩ := iha h halone.1
      exact ⟨⟨l, List.mem_append_left _ hmem, hl⟩, hend⟩
    · obtain ⟨⟨l, hmem, hl⟩, hend⟩ := ihb h halone.2
      exact ⟨⟨l, List.mem_append_right _ hmem, hl⟩, hend⟩
  | star greedy a _ => cases halone
  | plus greedy a ih => exact ih h halone

end BackendAudit.Pattern
