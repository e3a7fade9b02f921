import BackendAudit.Proofs.Pattern.Leftmost
import BackendAudit.Proofs.Text.BlankLine

/-!
# Matches behind a blank line

Some automata find in a text with a blank line in front what they find without it, one byte
further on: those that read no line feed at first, and do not ask whether a match begins with
the text.  `Automaton.skipsBlankLine` tells them by the edges from their start.

* `Automaton.attempt_lineFeed`, `Automaton.attempt_front`: what the first edges say about
  the attempts in front of the text and at its first place.
* `Automaton.attempt_succ`: attempts one byte further on.
* `Automaton.leftmost_lineFeed`, `Automaton.findAll_lineFeed`: the leftmost match, and all
  matches.
-/

namespace BackendAudit

/-- The part of a text that is one byte further on. -/
def Text.oneOn (span : Nat × Nat) : Nat × Nat := (span.1 + 1, span.2 + 1)

namespace Pattern

open Text

/-- But for the start of the text itself, nothing that is asserted there is not the case
behind a line feed as well. -/
theorem Look.holds_lineFeed {l : Look} (h : l ≠ .textStart) (after : Option Char) :
    l.holds (some '\n') after = l.holds none after := by
  have hword : isWordAt (some '\n') = false := by decide
  have hascii : isAsciiWordAt (some '\n') = false := by decide
  have hword' : isWordAt none = false := rfl
  have hascii' : isAsciiWordAt none = false := rfl
  have hreturn : (some '\n' != some '\r') = (none != some '\r') := by decide
  cases l <;> simp_all [holds]

namespace Automaton

variable {A : Automaton}

/-- Whether a blank line in front of a text is no matter.  Every way of matching begins with
a step that reads no line feed, and the assertions in front of it do not ask for the start of
the text. -/
def skipsBlankLine (A : Automaton) : Bool :=
  A.start.all fun e =>
    (e.looks.all fun l => l != .textStart) &&
      e.target.any fun n => (A.readOn? (some '\n') n).isNone

theorem skipsBlankLine_iff : A.skipsBlankLine = true ↔ ∀ e ∈ A.start,
    (∀ l ∈ e.looks, l ≠ .textStart) ∧
      ∃ n, e.target = some n ∧ A.readOn? (some '\n') n = none := by
  simp [skipsBlankLine, Option.any_eq_true]

/-! ## Attempts in front of the text and at its start -/

/-- No match begins with a line feed. -/
theorem attempt_lineFeed (h : A.skipsBlankLine = true) (before : Option Char) (pos : Nat)
    (rest : List Char) : A.attempt before pos A.start ('\n' :: rest) = none := by
  cases hattempt : A.attempt before pos A.start ('\n' :: rest) with
  | none => rfl
  | some stop =>
    obtain ⟨e, he, _, hend⟩ := exists_edge_of_attempt hattempt
    obtain ⟨n, htarget, hnone⟩ := (skipsBlankLine_iff.mp h e he).2
    rcases hend with ⟨hstop, _⟩ | ⟨m, c, later, next, hm, hcons, hnext, _⟩
    · rw [hstop] at htarget
      cases htarget
    · cases hcons
      rw [htarget] at hm
      cases hm
      rw [hnone] at hnext
      cases hnext

/-- A match has a character in it. -/
theorem MatchesAt.lt (h : A.skipsBlankLine = true) {text : List Char} {start stop : Nat}
    (hmatch : A.MatchesAt text start stop) : start < stop := by
  obtain ⟨seen, rest, _, rfl, hattempt⟩ := hmatch
  obtain ⟨e, he, _, hend⟩ := exists_edge_of_attempt hattempt
  obtain ⟨n, htarget, _⟩ := (skipsBlankLine_iff.mp h e he).2
  rcases hend with ⟨hstop, _⟩ | ⟨_, c, later, next, _, _, _, hlater⟩
  · rw [hstop] at htarget
    cases htarget
  · have hseen : byteLength seen + c.utf8Size = byteLength (seen ++ [c]) := by simp
    have hsize : 0 < c.utf8Size := c.utf8Size_pos
    rw [hseen] at hlater
    have := (attempt_ends hlater).2
    omega

/-- Behind a line feed an attempt finds what it finds at the start of the text. -/
theorem attempt_front (h : A.skipsBlankLine = true) (pos : Nat) (rest : List Char) :
    A.attempt (some '\n') pos A.start rest = A.attempt none pos A.start rest := by
  have hedge : ∀ (after : Option Char) (go : List Edge → Option Nat), ∀ e ∈ A.start,
      A.alongEdge (some '\n') after pos go e = A.alongEdge none after pos go e := by
    intro after go e he
    have hlooks : (e.looks.all fun l => l.holds (some '\n') after) =
        e.looks.all fun l => l.holds none after := by
      rw [Bool.eq_iff_iff, List.all_eq_true, List.all_eq_true]
      apply forall₂_congr
      intro l hl
      rw [Look.holds_lineFeed ((skipsBlankLine_iff.mp h e he).1 l hl)]
    rw [alongEdge, alongEdge, hlooks]
  cases rest with
  | nil =>
    rw [attempt, attempt, ← List.head?_filterMap, ← List.head?_filterMap,
      List.filterMap_congr (hedge none _)]
  | cons c rest =>
    rw [attempt, attempt, ← List.head?_filterMap, ← List.head?_filterMap,
      List.filterMap_congr (hedge (some c) _)]

/-! ## Attempts further on -/

theorem alongEdge_succ (before after : Option Char) (pos : Nat) (go go' : List Edge → Option Nat)
    (hgo : ∀ next, go' next = (go next).map fun stop => stop + 1) (e : Edge) :
    A.alongEdge before after (pos + 1) go' e =
      (A.alongEdge before after pos go e).map fun stop => stop + 1 := by
  rw [alongEdge, alongEdge]
  split
  · cases e.target with
    | none => rfl
    | some n =>
      cases hread : A.readOn? after n with
      | none => simp [hread]
      | some next => simp [hread, hgo]
  · rfl

/-- An attempt one byte further on ends one byte further on. -/
theorem attempt_succ (before : Option Char) (pos : Nat) (edges : List Edge)
    (rest : List Char) :
    A.attempt before (pos + 1) edges rest =
      (A.attempt before pos edges rest).map fun stop => stop + 1 := by
  induction rest generalizing before pos edges with
  | nil =>
    rw [attempt, attempt, List.map_findSome?]
    congr 1
    funext e
    exact alongEdge_succ before none pos (fun _ => none) (fun _ => none) (fun _ => rfl) e
  | cons c rest ih =>
    rw [attempt, attempt, List.map_findSome?]
    congr 1
    funext e
    apply alongEdge_succ
    intro next
    rw [Nat.add_right_comm, ih]

/-! ## The leftmost match -/

/-- One byte further on, the leftmost match is one byte further on. -/
theorem leftmost_succ (before : Option Char) (pos : Nat) (rest : List Char) :
    A.leftmost before (pos + 1) rest = (A.leftmost before pos rest).map oneOn := by
  induction rest generalizing before pos with
  | nil =>
    rw [leftmost, leftmost, attempt_succ, Option.map_map, Option.map_map]
    rfl
  | cons c rest ih =>
    rw [leftmost, leftmost, attempt_succ, Nat.add_right_comm, ih, Option.map_or,
      Option.map_map, Option.map_map]
    rfl

/-- Behind a line feed, the leftmost match is that from the start of the text. -/
theorem leftmost_front (h : A.skipsBlankLine = true) (pos : Nat) (rest : List Char) :
    A.leftmost (some '\n') pos rest = A.leftmost none pos rest := by
  cases rest <;> rw [leftmost, leftmost, attempt_front h]

/-- Of the text with the line feed, the leftmost match is that of the text, one byte
further on. -/
theorem leftmost_lineFeed (h : A.skipsBlankLine = true) (cs : List Char) :
    A.leftmost none 0 ('\n' :: cs) = (A.leftmost none 0 cs).map oneOn := by
  have hsize : ('\n' : Char).utf8Size = 1 := rfl
  rw [leftmost, attempt_lineFeed h, Option.map_none, Option.none_or, hsize, leftmost_succ,
    leftmost_front h]

/-! ## All matches -/

/-- One byte further on, all matches are one byte further on. -/
theorem findAllFrom_succ (before : Option Char) (pos resume : Nat) (last : Option Nat)
    (done : List (Nat × Nat)) (rest : List Char) :
    A.findAllFrom before (pos + 1) (resume + 1) (last.map fun stop => stop + 1)
        (done.map oneOn) rest =
      (A.findAllFrom before pos resume last done rest).map oneOn := by
  have hlast : ∀ (last : Option Nat) (stop : Nat),
      (last.map fun stop => stop + 1) = some (stop + 1) ↔ last = some stop := by
    intro last stop
    cases last <;> simp
  induction rest generalizing before pos resume last done with
  | nil =>
    rw [findAllFrom, findAllFrom, find?_eq_leftmost, find?_eq_leftmost, leftmost_succ]
    simp only [Nat.add_lt_add_iff_right]
    cases A.leftmost before pos [] with
    | none => split <;> simp
    | some span =>
      simp only [Option.map_some, oneOn, Nat.add_right_cancel_iff, hlast]
      split <;> [skip; split] <;> simp [oneOn]
  | cons c rest ih =>
    have hnext : pos + 1 + c.utf8Size = pos + c.utf8Size + 1 := Nat.add_right_comm ..
    rw [findAllFrom, findAllFrom, find?_eq_leftmost, find?_eq_leftmost, leftmost_succ, hnext]
    simp only [Nat.add_lt_add_iff_right]
    split
    · exact ih ..
    · cases A.leftmost before pos (c :: rest) with
      | none => exact List.map_reverse.symm
      | some span =>
        simp only [Option.map_some, oneOn, Nat.add_right_cancel_iff, hlast]
        split
        · exact ih ..
        · exact ih (some c) _ span.2 (some span.2) (span :: done)

/-- The search is taken up again at the end of the first match. -/
theorem findAllFrom_leftmost {before : Option Char} {pos : Nat} {rest : List Char}
    (hlt : ∀ span ∈ A.leftmost before pos rest, pos < span.2) :
    A.findAllFrom before pos pos none [] rest =
      (A.leftmost before pos rest).elim [] fun span =>
        A.findAllFrom before pos span.2 (some span.2) [span] rest := by
  cases rest with
  | nil =>
    rw [findAllFrom, if_neg (Nat.lt_irrefl pos), find?_eq_leftmost]
    cases hfound : A.leftmost before pos [] with
    | none => rfl
    | some span => simp [findAllFrom, hlt span hfound]
  | cons c rest =>
    rw [findAllFrom, if_neg (Nat.lt_irrefl pos), find?_eq_leftmost]
    cases hfound : A.leftmost before pos (c :: rest) with
    | none => rfl
    | some span => simp [findAllFrom, hlt span hfound]

/-- Up to the place where the search is taken up again, it is no matter what stands in front
of the text. -/
theorem findAllFrom_congr {pos resume : Nat} (hlt : pos < resume) (before before' : Option Char)
    (last : Option Nat) (done : List (Nat × Nat)) (rest : List Char) :
    A.findAllFrom before pos resume last done rest =
      A.findAllFrom before' pos resume last done rest := by
  cases rest <;> rw [findAllFrom, findAllFrom, if_pos hlt, if_pos hlt]

/-- With a line feed in front of the text, all its matches are found one byte further on. -/
theorem findAll_lineFeed (h : A.skipsBlankLine = true) (cs : List Char) :
    A.findAll ('\n' :: cs) = (A.findAll cs).map oneOn := by
  have hsize : ('\n' : Char).utf8Size = 1 := rfl
  have hfound : ∀ span ∈ A.leftmost none 0 cs, 0 < span.2 := by
    intro span hspan
    have hspec : A.IsLeftmost cs 0 (A.leftmost none 0 cs) := leftmost_spec [] cs
    exact Nat.zero_lt_of_lt ((hspec.1 span hspan).1.lt h)
  have hshift : (A.findAll cs).map oneOn = A.findAllFrom none 1 1 none [] cs :=
    (findAllFrom_succ none 0 0 none [] cs).symm
  have hone : A.leftmost none 1 cs = (A.leftmost none 0 cs).map oneOn := leftmost_succ none 0 cs
  rw [hshift, findAll, findAllFrom_leftmost, findAllFrom_leftmost, leftmost_lineFeed h, hone]
  · cases hspan : A.leftmost none 0 cs with
    | none => rfl
    | some span =>
      have hlt : 1 < (oneOn span).2 := Nat.succ_lt_succ (hfound span hspan)
      rw [Option.map_some, Option.elim_some, Option.elim_some, findAllFrom, if_pos (by omega),
        hsize]
      exact findAllFrom_congr hlt (some '\n') none _ _ _
  all_goals
    intro span hspan
    simp only [leftmost_lineFeed h, hone, Option.mem_def, Option.map_eq_some_iff] at hspan
    obtain ⟨first, hfirst, rfl⟩ := hspan
    have hlt : 0 < first.2 := hfound first hfirst
    simp only [oneOn]
    omega

end Automaton
end Pattern
end BackendAudit
