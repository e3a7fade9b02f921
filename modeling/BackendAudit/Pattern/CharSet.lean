import BackendAudit.Unicode.Property
import BackendAudit.Unicode.Script

/-!
# Sets of characters

What a single step of a pattern may read: a set of code points, built from spans
and properties by union, intersection, complement and closure under case
variants.  A set is kept as it is written and asked by `CharSet.contains`, so
that its meaning is one equation for each way of building it.
-/

namespace BackendAudit.Pattern

open Unicode (BinaryProperty)

/-- A named set of code points. -/
inductive Property where
  /-- Word characters of every script. -/
  | word
  /-- Decimal digits of every script. -/
  | digit
  /-- The code points whose general category is one of these. -/
  | categories (cs : List Unicode.Category)
  | script (code : String)
  | scriptExtension (code : String)
  | binary (p : BinaryProperty)
  deriving Repr, DecidableEq, Inhabited

/-- Whether a code point is in a named set. -/
def Property.holds : Property → Nat → Bool
  | word, c => Unicode.isWord c
  | digit, c => Unicode.isDecimalDigit c
  | categories cs, c => Unicode.inCategories cs c
  | script code, c => Unicode.script c == code
  | scriptExtension code, c => Unicode.inScriptExtensions code c
  | binary p, c => p.holds c

/-- A set of code points. -/
inductive CharSet where
  /-- The code points from `first` to `last`, both included. -/
  | span (first last : Nat)
  | property (p : Property)
  | union (a b : CharSet)
  | inter (a b : CharSet)
  | compl (a : CharSet)
  /-- The code points that have a case variant in `a`. -/
  | folded (a : CharSet)
  deriving Repr, DecidableEq, Inhabited

namespace CharSet

/-- Whether a code point is in a set. -/
def contains : CharSet → Nat → Bool
  | span first last, c => first ≤ c && c ≤ last
  | property p, c => p.holds c
  | union a b, c => a.contains c || b.contains c
  | inter a b, c => a.contains c && b.contains c
  | compl a, c => !a.contains c
  | folded a, c => (Unicode.caseVariants c).any fun d => a.contains d

/-- The set without members. -/
def none : CharSet := span 1 0

/-- The set of all code points. -/
def all : CharSet := span 0 0x10ffff

/-- The set of one character. -/
def ofChar (c : Char) : CharSet := span c.toNat c.toNat

/-- What is in `a` and not in `b`. -/
def diff (a b : CharSet) : CharSet := inter a (compl b)

/-- What is in one of the two sets and not in the other. -/
def symmDiff (a b : CharSet) : CharSet := union (diff a b) (diff b a)

/-- The code points of ASCII. -/
def ascii : CharSet := span 0 127

/-- The union of spans that are given by their ends. -/
def ofSpans : List (Nat × Nat) → CharSet
  | [] => none
  | [(a, b)] => span a b
  | (a, b) :: rest => union (span a b) (ofSpans rest)

/-- About how many spans of ASCII the set is made of. -/
def asciiSpans : CharSet → Nat
  | span _ last => if last < 128 then 1 else 0
  | property .word => 4
  | property .digit => 1
  | property _ => 2
  | union a b => a.asciiSpans + b.asciiSpans
  | inter a b => a.asciiSpans + b.asciiSpans
  | compl a => a.asciiSpans + 1
  | folded a => a.asciiSpans + 1

/-- About how many spans beyond ASCII the set is made of. -/
def otherSpans : CharSet → Nat
  | span _ last => if last < 128 then 0 else 1
  | property .word => 785
  | property .digit => 80
  | property (.binary .whiteSpace) => 9
  | property _ => 400
  | union a b => a.otherSpans + b.otherSpans
  | inter a b => a.otherSpans + b.otherSpans
  -- All that is beyond ASCII takes as much room as fourteen spans.
  | compl a => if a.otherSpans = 0 then 14 else a.otherSpans + 1
  | folded a => a.otherSpans

/-- An estimate of the bytes that a step over the set takes in a program.  It is
made for the larger of the two programs of a pattern, which reads a character
beyond ASCII from its last byte to its first. -/
def programSize (a : CharSet) : Nat :=
  if a.otherSpans = 0 then 64 + 8 * a.asciiSpans
  else 32 + 36 * a.asciiSpans + 64 * a.otherSpans

@[simp] theorem contains_span (first last c : Nat) :
    (span first last).contains c = (first ≤ c && c ≤ last) := rfl

@[simp] theorem contains_union (a b : CharSet) (c : Nat) :
    (union a b).contains c = (a.contains c || b.contains c) := rfl

@[simp] theorem contains_inter (a b : CharSet) (c : Nat) :
    (inter a b).contains c = (a.contains c && b.contains c) := rfl

@[simp] theorem contains_compl (a : CharSet) (c : Nat) :
    (compl a).contains c = !a.contains c := rfl

theorem contains_folded (a : CharSet) (c : Nat) :
    (folded a).contains c = (Unicode.caseVariants c).any fun d => a.contains d := rfl

@[simp] theorem contains_none (c : Nat) : none.contains c = false := by
  simp only [none, contains_span, Bool.and_eq_false_iff, decide_eq_false_iff_not]
  omega

theorem contains_ofChar (c : Char) (d : Nat) : (ofChar c).contains d = (d == c.toNat) := by
  simp only [ofChar, contains_span]
  rw [Bool.eq_iff_iff]
  simp only [Bool.and_eq_true, decide_eq_true_eq, beq_iff_eq]
  omega

@[simp] theorem contains_diff (a b : CharSet) (c : Nat) :
    (diff a b).contains c = (a.contains c && !b.contains c) := rfl

end CharSet
end BackendAudit.Pattern
