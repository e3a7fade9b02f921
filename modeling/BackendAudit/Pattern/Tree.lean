import BackendAudit.Pattern.Expr

/-!
# Patterns as they are written

A tree keeps counted repetitions as counts, so that the size of a pattern is
known before it is spelled out as an expression.
-/

namespace BackendAudit.Pattern

/-- A pattern as it is written. -/
inductive Tree where
  | empty
  | one (set : CharSet)
  | look (l : Look)
  | cat (a b : Tree)
  | alt (a b : Tree)
  /-- From `min` up to `max` occurrences; without bound when `max` is absent. -/
  | times (greedy : Bool) (min : Nat) (max : Option Nat) (a : Tree)
  deriving Repr, Inhabited

namespace Tree

/-- The expression that a tree stands for. -/
def toExpr : Tree → Expr CharSet
  | empty => .empty
  | one set => .one set
  | look l => .look l
  | cat a b => .cat a.toExpr b.toExpr
  | alt a b => .alt a.toExpr b.toExpr
  | times greedy min max a => .repeated greedy min max a.toExpr

/-- The sequence of some trees. -/
def catAll : List Tree → Tree
  | [] => empty
  | [t] => t
  | t :: rest => cat t (catAll rest)

/-- The ordered choice between some trees. -/
def altAll : List Tree → Tree
  | [] => empty
  | [t] => t
  | t :: rest => alt t (altAll rest)

/-- An estimate of the bytes that the program of a pattern takes: those of each
step, as often as counted repetitions repeat it. -/
def programSize : Tree → Nat
  | empty => 32
  | one set => set.programSize
  | look _ => 32
  | cat a b => a.programSize + b.programSize
  | alt a b => 40 + a.programSize + b.programSize
  | times _ min max a => 40 + (Nat.max 1 (Nat.max min (max.getD 0))) * (a.programSize + 8)

end Tree
end BackendAudit.Pattern
