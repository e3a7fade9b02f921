import BackendAudit.Pattern.Syntax.Escape

/-!
# Bracketed classes

A class in brackets is a union of characters, spans, named classes and nested
classes, and of such unions by the operations `&&`, `--` and `~~`, which group
from the left.  Besides the set, the reader measures how deeply the class is
nested: a bracket, a union of several items and an operation each count for one.
-/

namespace BackendAudit.Pattern.Syntax

/-- The operations between the unions of a class. -/
inductive ClassOp where
  | inter
  | diff
  | symmDiff
  deriving Repr, DecidableEq

def ClassOp.apply : ClassOp → CharSet → CharSet → CharSet
  | inter => .inter
  | diff => .diff
  | symmDiff => .symmDiff

/-- The items of a union that have been read so far. -/
structure Items where
  set : CharSet := .none
  count : Nat := 0
  depth : Nat := 0
  deriving Inhabited

/-- Adds an item of the given depth. -/
def Items.add (items : Items) (s : CharSet) (depth : Nat) : Items :=
  ⟨if items.count = 0 then s else .union items.set s, items.count + 1, max items.depth depth⟩

/-- The depth of a union: several items count for one more. -/
def Items.closedDepth (items : Items) : Nat :=
  if items.count < 2 then items.depth else items.depth + 1

/-- What is open around the items being read. -/
inductive ClassFrame where
  /-- A bracket, with the items that stand before it. -/
  | bracket (negated : Bool) (outer : Items)
  /-- An operation that waits for its right side. -/
  | operation (op : ClassOp) (left : CharSet) (depth : Nat)
  deriving Inhabited

/-- Ends the union being read: applies the operation that waits for it, if any. -/
def endUnion (f : Flags) (stack : List ClassFrame) (items : Items) :
    List ClassFrame × CharSet × Nat :=
  match stack with
  | .operation op left depth :: stack =>
    (stack, op.apply (f.fold left) (f.fold items.set), max depth items.closedDepth + 1)
  | stack => (stack, items.set, items.closedDepth)

/-- A character as an item of a class.  Where classes range over ASCII it has to
be one of ASCII. -/
def literalItem? (f : Flags) (c : Char) : Option Nat :=
  if f.unicode || c.toNat < 128 then some c.toNat else none

/-- An item of a class: a character, which can also begin or end a span, or a
class of its own. -/
inductive ClassItem where
  | literal (c : Char)
  | set (s : CharSet)

/-- Reads one item: an escape, which must not be an assertion, or a character. -/
def readItem (f : Flags) : List Char → Option (ClassItem × List Char)
  | [] => none
  | '\\' :: rest =>
    match readEscape f rest with
    | some (.literal c _, rest) => some (.literal c, rest)
    | some (.set s, rest) => some (.set s, rest)
    | _ => none
  | c :: rest => some (.literal c, rest)

/-- What stands behind the next character, with the blanks between dropped where
these mean nothing; of a comment there, its first character that is not blank. -/
def peekBehind (f : Flags) (cs : List Char) : Option Char :=
  if f.freeSpacing then
    match go false cs with
    | some c => some c
    | none => cs.head?
  else cs.head?
where
  go (inComment : Bool) : List Char → Option Char
    | [] => none
    | c :: rest =>
      if Unicode.isWhiteSpace c.toNat then go inComment rest
      else if !inComment && c == '#' then go true rest
      else some c

/-- Reads an item, or a span of characters. -/
def readSpan (f : Flags) (cs : List Char) : Option (CharSet × List Char) := do
  let (item, rest) ← readItem f cs
  let rest := f.skipBlanks rest
  let single : Option (CharSet × List Char) :=
    match item with
    | .literal c => (literalItem? f c).map fun n => (.span n n, rest)
    | .set s => some (s, rest)
  match rest with
  | [] => none
  | '-' :: behind =>
    let next := peekBehind f behind
    if next = some ']' ∨ next = some '-' then single
    else
      let behind := f.skipBlanks behind
      let (last, rest) ← readItem f behind
      match item, last with
      | .literal a, .literal b =>
        let a ← literalItem? f a
        let b ← literalItem? f b
        if a ≤ b then some (.span a b, rest) else none
      | _, _ => none
  | _ => single

/-- The classes that are named between `[:` and `:]`. -/
def asciiClass? (name : List Char) : Option CharSet :=
  match String.ofList name with
  | "alnum" => some (.ofSpans [(0x30, 0x39), (0x41, 0x5a), (0x61, 0x7a)])
  | "alpha" => some (.ofSpans [(0x41, 0x5a), (0x61, 0x7a)])
  | "ascii" => some (.span 0 0x7f)
  | "blank" => some (.ofSpans [(9, 9), (0x20, 0x20)])
  | "cntrl" => some (.ofSpans [(0, 0x1f), (0x7f, 0x7f)])
  | "digit" => some (.span 0x30 0x39)
  | "graph" => some (.span 0x21 0x7e)
  | "lower" => some (.span 0x61 0x7a)
  | "print" => some (.span 0x20 0x7e)
  | "punct" => some (.ofSpans [(0x21, 0x2f), (0x3a, 0x40), (0x5b, 0x60), (0x7b, 0x7e)])
  | "space" => some asciiSpaces
  | "upper" => some (.span 0x41 0x5a)
  | "word" => some asciiWords
  | "xdigit" => some (.ofSpans [(0x30, 0x39), (0x41, 0x46), (0x61, 0x66)])
  | _ => none

/-- Reads a named class, from behind its opening bracket.  Returns whether it is
negated, the set and the rest; nothing if what stands there is no named class, in
which case the bracket opens a nested class. -/
def readAsciiClass (cs : List Char) : Option (Bool × CharSet × List Char) :=
  match cs with
  | ':' :: cs =>
    let (negated, cs) := match cs with
      | '^' :: cs => (true, cs)
      | cs => (false, cs)
    let name := cs.takeWhile (· ≠ ':')
    match cs.drop name.length with
    | ':' :: ']' :: rest => (asciiClass? name).map fun s => (negated, s, rest)
    | _ => none
  | _ => none

/-- Reads what follows an opening bracket: a caret that negates the class, then
hyphens, and then a closing bracket if it is the first item. -/
def openBracket (f : Flags) (cs : List Char) : Option (Bool × Items × List Char) :=
  let cs := f.skipBlanks cs
  let (negated, cs) := match cs with
    | '^' :: cs => (true, f.skipBlanks cs)
    | cs => (false, cs)
  let (items, cs) := hyphens f false {} cs
  match cs with
  | [] => none
  | ']' :: rest =>
    if items.count = 0 then
      match f.skipBlanks rest with
      | [] => none
      | rest => some (negated, items.add (.ofChar ']') 0, rest)
    else some (negated, items, cs)
  | _ => some (negated, items, cs)
where
  /-- Reads hyphens, and drops the blanks behind each where these mean nothing. -/
  hyphens (f : Flags) (inComment : Bool) (items : Items) : List Char → Items × List Char
    | [] => (items, [])
    | c :: rest =>
      if f.freeSpacing && inComment then hyphens f (c != '\n') items rest
      else if f.freeSpacing && Unicode.isWhiteSpace c.toNat then hyphens f false items rest
      else if f.freeSpacing && c == '#' then hyphens f true items rest
      else if c = '-' then hyphens f false (items.add (.ofChar '-') 0) rest
      else (items, c :: rest)

/-- One step of reading a class: an item, a bracket or an operation.  The result
is either what is to be read next or the finished class and its depth. -/
def classStep (f : Flags) (stack : List ClassFrame) (items : Items) (cs : List Char) :
    Option ((List ClassFrame × Items × List Char) ⊕ (CharSet × Nat × List Char)) :=
  let startOp (op : ClassOp) (rest : List Char) :=
    let (stack, set, depth) := endUnion f stack items
    some (.inl (.operation op set depth :: stack, {}, rest))
  match f.skipBlanks cs with
  | [] => none
  | '[' :: rest =>
    match readAsciiClass rest with
    | some (negated, s, rest) => do
      let s ← f.foldAndNegate negated s
      some (.inl (stack, items.add s 0, rest))
    | none => do
      let (negated, inner, rest) ← openBracket f rest
      some (.inl (.bracket negated items :: stack, inner, rest))
  | ']' :: rest =>
    match endUnion f stack items with
    | (.bracket negated outer :: stack, set, depth) => do
      let set ← f.foldAndNegate negated set
      if stack.isEmpty then some (.inr (set, depth + 1, rest))
      else some (.inl (stack, outer.add set (depth + 1), rest))
    | _ => none
  | '&' :: '&' :: rest => startOp .inter rest
  | '-' :: '-' :: rest => startOp .diff rest
  | '~' :: '~' :: rest => startOp .symmDiff rest
  | cs => do
    let (s, rest) ← readSpan f cs
    some (.inl (stack, items.add s 0, rest))

/-- Reads a class step by step.  Each step reads a character at least, so their
number is bounded by the length of what is left. -/
def classSteps (f : Flags) :
    Nat → List ClassFrame → Items → List Char → Option (CharSet × Nat × List Char)
  | 0, _, _, _ => none
  | fuel + 1, stack, items, cs =>
    match classStep f stack items cs with
    | none => none
    | some (.inr result) => some result
    | some (.inl (stack, items, rest)) => classSteps f fuel stack items rest

/-- Reads a class from behind its opening bracket: the set, how deeply the class
is nested, and the rest of the pattern. -/
def readClass (f : Flags) (cs : List Char) : Option (CharSet × Nat × List Char) := do
  let (negated, items, rest) ← openBracket f cs
  classSteps f (rest.length + 1) [.bracket negated {}] items rest

end BackendAudit.Pattern.Syntax
