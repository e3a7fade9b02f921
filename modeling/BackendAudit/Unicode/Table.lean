/-!
# Tables over code points

A property of characters is data: a list of spans of code points, or a list of
runs, each of which gives one value to the code points from its start up to the
next start.  Both are written as text, in hexadecimal, and read once.  This file
has the reader of that text and the search by halving that the look-ups use.
-/

namespace BackendAudit

/-- The number of leading elements of `a` that satisfy `p`, found by halving.
When the elements that satisfy `p` come first, it is the number of all of
them.  The first argument of `go` bounds the number of halvings. -/
def countLeading {α : Type} (a : Array α) (p : α → Bool) : Nat :=
  go a.size 0 a.size
where
  /-- The answer lies between `lo` and `hi`. -/
  go : Nat → Nat → Nat → Nat
    | 0, lo, _ => lo
    | fuel + 1, lo, hi =>
      if lo < hi then
        let mid := (lo + hi) / 2
        match a[mid]? with
        | some x => if p x then go fuel (mid + 1) hi else go fuel lo mid
        | none => lo
      else lo

namespace Unicode

/-- The value of a lower-case hexadecimal digit. -/
def hexDigit? (c : Char) : Option Nat :=
  if '0' ≤ c ∧ c ≤ '9' then some (c.toNat - '0'.toNat)
  else if 'a' ≤ c ∧ c ≤ 'f' then some (c.toNat - 'a'.toNat + 10)
  else none

/-- Reads the hexadecimal number at the front of a text, and returns the rest. -/
def readHex : List Char → Nat → Nat × List Char
  | [], n => (n, [])
  | c :: rest, n =>
    match hexDigit? c with
    | some d => readHex rest (16 * n + d)
    | none => (n, c :: rest)

/-- The words of a text, which blanks and line ends separate. -/
def words (text : String) : List (List Char) :=
  go text.toList [] []
where
  /-- The letters of the word being read are kept in reverse. -/
  go : List Char → List Char → List (List Char) → List (List Char)
    | [], [], acc => acc.reverse
    | [], w, acc => (w.reverse :: acc).reverse
    | c :: rest, w, acc =>
      if c = ' ' ∨ c = '\n' then
        if w.isEmpty then go rest [] acc else go rest [] (w.reverse :: acc)
      else go rest (c :: w) acc

/-- Reads `fb01:66,69`: a code point and the others that are in its place. -/
def readExpansion (word : List Char) : Nat × List Nat :=
  let (c, rest) := readHex word 0
  (c, go (rest.length + 1) rest)
where
  /-- The numbers that follow the colon or a comma. -/
  go : Nat → List Char → List Nat
    | fuel + 1, _ :: rest => let (n, rest) := readHex rest 0; n :: go fuel rest
    | _, _ => []

/-- One span of code points, both ends included. -/
structure Span where
  first : Nat
  last : Nat
  deriving Repr, DecidableEq, Inhabited

/-- Reads `41-5a`, or `aa` for a single code point, and returns the rest. -/
def Span.read (word : List Char) : Span × List Char :=
  match readHex word 0 with
  | (first, '-' :: rest) =>
    let (last, rest) := readHex rest 0
    (⟨first, last⟩, rest)
  | (first, rest) => (⟨first, first⟩, rest)

/-- A set of code points: disjoint spans in ascending order. -/
structure Spans where
  spans : Array Span
  deriving Inhabited

/-- Reads a set from the text of its spans. -/
def Spans.ofText (text : String) : Spans :=
  ⟨((words text).map fun w => (Span.read w).1).toArray⟩

/-- Whether a code point lies in one of the spans. -/
def Spans.contains (s : Spans) (c : Nat) : Bool :=
  match s.spans[countLeading s.spans fun span => span.last < c]? with
  | some span => span.first ≤ c && c ≤ span.last
  | none => false

/-- A value for every code point: each run gives its value to the code points
from its start up to the start of the next one. -/
structure Runs (α : Type) where
  runs : Array (Nat × α)
  deriving Inhabited

/-- Reads a table of runs, each written as its start followed by its value. -/
def Runs.ofText {α : Type} (value : List Char → α) (text : String) : Runs α :=
  ⟨((words text).map fun w => let (start, rest) := readHex w 0; (start, value rest)).toArray⟩

/-- The value of the run that a code point lies in. -/
def Runs.find? {α : Type} (t : Runs α) (c : Nat) : Option α :=
  match countLeading t.runs fun run => run.1 ≤ c with
  | 0 => none
  | n + 1 => (t.runs[n]?).map (·.2)

end Unicode
end BackendAudit
