import BackendAudit.Pattern.Expr

/-!
# The automaton of an expression

The states of the automaton are the single steps of the expression, numbered
from left to right.  From a state, and from the start, lead edges in the order
of preference of the expression: an edge lists the assertions to be passed and
ends at the step that is read next, or at the end of the match.  An edge that
equals one of higher preference is left out, so each list of edges stays short.
-/

namespace BackendAudit.Pattern

/-- What comes next: the step with this number or, for `none`, the end of the
match, if all the assertions hold where the text has been read to. -/
structure Edge where
  looks : List Look
  target : Option Nat
  deriving Repr, DecidableEq, Inhabited

/-- The edge with one more assertion to be passed before the others. -/
def Edge.guarded (l : Look) (e : Edge) : Edge :=
  if e.looks.contains l then e else { e with looks := l :: e.looks }

/-- The edges of `xs`, and then those of `ys` that are not among them. -/
def joinEdges (xs ys : List Edge) : List Edge :=
  xs ++ ys.filter fun e => !xs.contains e

namespace Expr

variable {α : Type}

/-- Numbers the steps from left to right, starting with `n`; also returns the
number after the last one. -/
def number : Expr α → Nat → Expr (Nat × α) × Nat
  | empty, n => (empty, n)
  | one a, n => (one (n, a), n + 1)
  | look l, n => (look l, n)
  | cat a b, n =>
    let (a', n) := a.number n
    let (b', n) := b.number n
    (cat a' b', n)
  | alt a b, n =>
    let (a', n) := a.number n
    let (b', n) := b.number n
    (alt a' b', n)
  | star greedy a, n =>
    let (a', n) := a.number n
    (star greedy a', n)
  | plus greedy a, n =>
    let (a', n) := a.number n
    (plus greedy a', n)

/-- The edges of a repetition at the end of its body: those that go on and those that
stop, in the order of preference. -/
def loop (greedy : Bool) (again stop : List Edge) : List Edge :=
  if greedy then joinEdges again stop else joinEdges stop again

/-- The edges from the front of an expression, if those of `k` lead on from its
end. -/
def first : Expr (Nat × α) → List Edge → List Edge
  | empty, k => k
  | one (n, _), _ => [⟨[], some n⟩]
  | look l, k => k.map (Edge.guarded l)
  | cat a b, k => a.first (b.first k)
  | alt a b, k => joinEdges (a.first k) (b.first k)
  | star greedy a, k => loop greedy (a.first []) k
  | plus _ a, k => a.first k

/-- The steps of an expression, each with the edges that lead on from it.  When
nothing more is read, the end of the expression is reached from a step, and `k`
gives the edges that lead on from there.  One of the ways to go on is around a
repetition and back to the front of the expression.  What is to be read there is the
argument of `k`: the edges from the front, without those behind a place that the way
has come through before, since such a place has its own turn to list them. -/
def steps : Expr (Nat × α) → (List Edge → List Edge) → List (α × List Edge)
  | empty, _ => []
  | one (n, a), k => [(a, k [⟨[], some n⟩])]
  | look _, _ => []
  | cat a b, k =>
    a.steps (fun front => b.first (k front)) ++ b.steps (fun front => k (a.first front))
  | alt a b, k =>
    a.steps (fun front => k (joinEdges front (b.first []))) ++
      b.steps (fun front => k (joinEdges (a.first []) front))
  | star greedy a, k => a.steps fun _ => loop greedy (a.first []) (k [])
  | plus greedy a, k => a.steps fun front => loop greedy front (k front)

/-- The edges from the front of an expression together with its steps, put in front
of `states`, if the edges of `k` lead on from its end and no way leads around it. -/
def build : Expr (Nat × α) → List Edge → List (α × List Edge) → List Edge × List (α × List Edge)
  | empty, k, states => (k, states)
  | one (n, a), k, states => ([⟨[], some n⟩], (a, k) :: states)
  | look l, k, states => (k.map (Edge.guarded l), states)
  | cat a b, k, states =>
    let (k, states) := b.build k states
    a.build k states
  | alt a b, k, states =>
    let (right, states) := b.build k states
    let (left, states) := a.build k states
    (joinEdges left right, states)
  | star greedy a, k, states =>
    let again := loop greedy (a.first []) k
    (again, (a.build again states).2)
  | plus greedy a, k, states =>
    (a.first k, a.steps (fun front => loop greedy front k) ++ states)

/-- What is built are the edges of `first` and the steps of `steps`. -/
theorem build_eq (e : Expr (Nat × α)) (k : List Edge) (states : List (α × List Edge)) :
    e.build k states = (e.first k, e.steps (fun _ => k) ++ states) := by
  induction e generalizing k states with
  | empty => rfl
  | one p => rfl
  | look l => rfl
  | cat a b iha ihb => simp only [build, first, steps, iha, ihb, List.append_assoc]
  | alt a b iha ihb => simp only [build, first, steps, iha, ihb, List.append_assoc]
  | star greedy a ih => simp only [build, first, steps, ih]
  | plus greedy a ih => rfl

end Expr

/-- A set of characters with its answers for ASCII written down. -/
structure CharTest where
  table : Array Bool
  set : CharSet
  deriving Inhabited

def CharTest.ofSet (set : CharSet) : CharTest :=
  ⟨((List.range 128).map set.contains).toArray, set⟩

/-- Whether the set contains a character. -/
def CharTest.accepts (t : CharTest) (c : Char) : Bool :=
  match t.table[c.toNat]? with
  | some answer => answer
  | none => t.set.contains c.toNat

/-- A step: what it reads, and the edges that lead on from it. -/
structure State where
  test : CharTest
  next : List Edge
  deriving Inhabited

/-- The automaton of an expression. -/
structure Automaton where
  start : List Edge
  states : Array State
  deriving Inhabited

/-- The automaton of an expression over sets of characters. -/
def Automaton.ofExpr (e : Expr CharSet) : Automaton :=
  let (start, states) := (e.number 0).1.build [⟨[], none⟩] []
  ⟨start, (states.map fun s => ⟨CharTest.ofSet s.1, s.2⟩).toArray⟩

end BackendAudit.Pattern
