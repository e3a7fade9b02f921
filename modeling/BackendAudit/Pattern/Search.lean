import BackendAudit.Pattern.Automaton

/-!
# Searching

The search reads a text once from left to right.  It keeps a list of threads,
one for each way of matching that is still open, in order of preference: a match
that started earlier comes before one that started later, and of two ways with
the same start the one that the expression prefers comes first.  Of the threads
that are about to read with the same step only the first is kept, since the
others can never be preferred to it.  When a thread comes to the end of a match,
the threads after it are dropped and those before it go on: they may still find
a match that is preferred.

Places in the text are numbered by the length of what is before them in UTF-8.
-/

namespace BackendAudit.Pattern

/-- A way of matching that is still open: where it started, and the edges that
lead on from what it has read. -/
structure Thread where
  start : Nat
  edges : List Edge
  deriving Inhabited

/-- What the threads of one place have led to so far. -/
structure Frontier where
  /-- The steps that have been tried at this place, as the bits of a number. -/
  tried : Nat
  /-- The threads that have read the next character, the last one first. -/
  threads : List Thread
  /-- The start of the match that ends here. -/
  hit : Option Nat
  deriving Inhabited

namespace Frontier

/-- Follows the edges of one thread, up to the first that ends a match. -/
def follow (A : Automaton) (before after : Option Char) (start : Nat) :
    List Edge → Frontier → Frontier
  | [], f => f
  | e :: rest, f =>
    if e.looks.all fun l => l.holds before after then
      match e.target with
      | none => { f with hit := some start }
      | some n =>
        if f.tried.testBit n then follow A before after start rest f
        else
          let tried := f.tried ||| 1 <<< n
          match A.states[n]?, after with
          | some state, some c =>
            if state.test.accepts c then
              follow A before after start rest
                { f with tried, threads := ⟨start, state.next⟩ :: f.threads }
            else follow A before after start rest { f with tried }
          | _, _ => follow A before after start rest { f with tried }
    else follow A before after start rest f

/-- Follows the threads in order, up to the first that ends a match. -/
def followAll (A : Automaton) (before after : Option Char) : List Thread → Frontier → Frontier
  | [], f => f
  | t :: rest, f =>
    let f := f.follow A before after t.start t.edges
    if f.hit.isSome then f else followAll A before after rest f

end Frontier

namespace Automaton

/-- Searches `rest`, the text from the place `pos` on.  `best` is the match found
so far; while there is none, a new thread starts at each place. -/
def search (A : Automaton) (before : Option Char) (pos : Nat) (threads : List Thread)
    (best : Option (Nat × Nat)) : List Char → Option (Nat × Nat)
  | [] => (step none).2
  | c :: rest =>
    match step (some c) with
    | ([], some found) => some found
    | (threads, best) => search A (some c) (pos + c.utf8Size) threads best rest
where
  /-- The threads after the place and the best match up to it. -/
  step (after : Option Char) : List Thread × Option (Nat × Nat) :=
    let threads := if best.isNone then threads ++ [⟨pos, A.start⟩] else threads
    let f := Frontier.followAll A before after threads ⟨0, [], none⟩
    (f.threads.reverse, match f.hit with
      | some start => some (start, pos)
      | none => best)

/-- The first match in `rest`, the text from the place `pos` on: the leftmost one
and, of those with the same start, the preferred one. -/
def find? (A : Automaton) (before : Option Char) (pos : Nat) (rest : List Char) :
    Option (Nat × Nat) :=
  A.search before pos [] none rest

/-- The matches in `rest` that follow one another without overlap, behind those in
`done`, which has the last one first.  The search is taken up again at the place
`resume`, the end of the match before; an empty match that ends at `last`, where
that one ended, does not count, and the search is taken up again behind the next
character. -/
def findAllFrom (A : Automaton) (before : Option Char) (pos resume : Nat) (last : Option Nat)
    (done : List (Nat × Nat)) : List Char → List (Nat × Nat)
  | [] =>
    if pos < resume then done.reverse
    else match A.find? before pos [] with
      | none => done.reverse
      | some (s, e) =>
        if s = e ∧ last = some e then done.reverse else ((s, e) :: done).reverse
  | c :: rest =>
    let next := pos + c.utf8Size
    if pos < resume then A.findAllFrom (some c) next resume last done rest
    else match A.find? before pos (c :: rest) with
      | none => done.reverse
      | some (s, e) =>
        if s = e ∧ last = some e then A.findAllFrom (some c) next next last done rest
        else A.findAllFrom (some c) next e (some e) ((s, e) :: done) rest

/-- All matches in a text, in order and without overlap, as pairs of places. -/
def findAll (A : Automaton) (text : List Char) : List (Nat × Nat) :=
  A.findAllFrom none 0 0 none [] text

/-- Whether there is a match in a text. -/
def isMatch (A : Automaton) (text : List Char) : Bool :=
  (A.find? none 0 text).isSome

end Automaton
end BackendAudit.Pattern
