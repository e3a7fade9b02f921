import BackendAudit.Pattern.CharSet

/-!
# Regular expressions

The expressions that patterns are made of: single steps over a set of
characters, assertions about the place between two characters, sequence, ordered
choice and repetition.  The order of a choice, and whether a repetition prefers
to go on or to stop, decide which of several matches from one place is taken.
-/

namespace BackendAudit.Pattern

/-- An assertion about the place between two characters. -/
inductive Look where
  | textStart
  | textEnd
  | lineStart
  | lineEnd
  /-- Start of a line where a carriage return, alone or before a line feed, ends lines as well. -/
  | returnLineStart
  /-- End of a line where a carriage return, alone or before a line feed, ends lines as well. -/
  | returnLineEnd
  | wordBoundary
  | noWordBoundary
  | wordStart
  | wordEnd
  | wordStartHalf
  | wordEndHalf
  | asciiWordBoundary
  | noAsciiWordBoundary
  | asciiWordStart
  | asciiWordEnd
  | asciiWordStartHalf
  | asciiWordEndHalf
  deriving Repr, DecidableEq, Inhabited

/-- Whether there is a character and it is a word character. -/
def isWordAt (c : Option Char) : Bool :=
  c.any fun c => Unicode.isWord c.toNat

/-- Whether there is a character and it is a word character of ASCII. -/
def isAsciiWordAt (c : Option Char) : Bool :=
  c.any fun c => Unicode.isAsciiWord c.toNat

/-- Whether an assertion holds between the characters `before` and `after`, each
absent at an end of the text. -/
def Look.holds (l : Look) (before after : Option Char) : Bool :=
  match l with
  | textStart => before.isNone
  | textEnd => after.isNone
  | lineStart => before.isNone || before == some '\n'
  | lineEnd => after.isNone || after == some '\n'
  | returnLineStart =>
    before.isNone || before == some '\n' || (before == some '\r' && after != some '\n')
  | returnLineEnd =>
    after.isNone || after == some '\r' || (after == some '\n' && before != some '\r')
  | wordBoundary => isWordAt before != isWordAt after
  | noWordBoundary => isWordAt before == isWordAt after
  | wordStart => !isWordAt before && isWordAt after
  | wordEnd => isWordAt before && !isWordAt after
  | wordStartHalf => !isWordAt before
  | wordEndHalf => !isWordAt after
  | asciiWordBoundary => isAsciiWordAt before != isAsciiWordAt after
  | noAsciiWordBoundary => isAsciiWordAt before == isAsciiWordAt after
  | asciiWordStart => !isAsciiWordAt before && isAsciiWordAt after
  | asciiWordEnd => isAsciiWordAt before && !isAsciiWordAt after
  | asciiWordStartHalf => !isAsciiWordAt before
  | asciiWordEndHalf => !isAsciiWordAt after

/-- A regular expression whose single steps carry a value of type `α`. -/
inductive Expr (α : Type) where
  | empty
  /-- Reads one character. -/
  | one (a : α)
  | look (l : Look)
  | cat (a b : Expr α)
  /-- Prefers `a` to `b`. -/
  | alt (a b : Expr α)
  /-- Any number of repetitions; a greedy one prefers to go on.  Repetitions that
  read nothing are left out. -/
  | star (greedy : Bool) (a : Expr α)
  /-- At least one repetition.  The first may read nothing; others that do are left
  out. -/
  | plus (greedy : Bool) (a : Expr α)
  deriving Repr, DecidableEq, Inhabited

namespace Expr

variable {α : Type}

/-- Whether an expression can be passed without reading. -/
def nullable : Expr α → Bool
  | empty => true
  | one _ => false
  | look _ => true
  | cat a b => a.nullable && b.nullable
  | alt a b => a.nullable || b.nullable
  | star _ _ => true
  | plus _ a => a.nullable

/-- At most one occurrence. -/
def optional (greedy : Bool) (a : Expr α) : Expr α :=
  if greedy then alt a empty else alt empty a

/-- At most `n` occurrences: each one makes the next possible. -/
def atMost (greedy : Bool) (a : Expr α) : Nat → Expr α
  | 0 => empty
  | 1 => optional greedy a
  | n + 1 => optional greedy (cat a (atMost greedy a n))

/-- Exactly `n` occurrences, followed by `last`. -/
def timesThen (a : Expr α) (last : Expr α) : Nat → Expr α
  | 0 => last
  | n + 1 => cat a (timesThen a last n)

/-- Any number of occurrences.  Reading nothing once, where that can be done, is
preferred as it is by what is repeated. -/
def many (greedy : Bool) (a : Expr α) : Expr α :=
  if a.nullable then optional greedy (plus greedy a) else star greedy a

/-- From `min` up to `max` occurrences; without bound when `max` is absent. -/
def repeated (greedy : Bool) (min : Nat) (max : Option Nat) (a : Expr α) : Expr α :=
  match max, min with
  | none, 0 => many greedy a
  | none, n + 1 => timesThen a (plus greedy a) n
  | some max, min => timesThen a (atMost greedy a (max - min)) min

end Expr
end BackendAudit.Pattern
