import BackendAudit.Json.Basic

/-!
# Writing documents

Two layouts: a compact one without any white space, and one with a line for each
item and member, indented by two blanks for each level.
-/

namespace BackendAudit.Json

open BackendAudit.Number (Double)

/-- The lower-case hexadecimal digit of a number below sixteen. -/
def hexDigit (n : Nat) : Char := Nat.digitChar n

/-- A character inside a written text.  Quotes, backslashes and control characters
are escaped. -/
def escape (c : Char) : List Char :=
  match c with
  | '"' => ['\\', '"']
  | '\\' => ['\\', '\\']
  | '\x08' => ['\\', 'b']
  | '\x0c' => ['\\', 'f']
  | '\n' => ['\\', 'n']
  | '\r' => ['\\', 'r']
  | '\t' => ['\\', 't']
  | c =>
    if c.toNat < 0x20 then
      ['\\', 'u', '0', '0', hexDigit (c.toNat / 16), hexDigit (c.toNat % 16)]
    else [c]

/-- A text in quotes. -/
def quoted (s : String) : List Char :=
  '"' :: s.toList.flatMap escape ++ ['"']

/-- A number of double precision, in positional notation from `0.00001` up to
below `10 ^ 16`, and with an exponent otherwise. -/
def magnitude (x : Double) : List Char :=
  if x.isZero then ['0', '.', '0']
  else
    let (digits, first) := x.shortest.scientific
    if -5 ≤ first ∧ first < 16 then Number.positional digits first
    else Number.exponential digits first

/-- A written number. -/
def numeral : Number → List Char
  | .integer n => (if n < 0 then ['-'] else []) ++ Number.decimalDigits n.natAbs
  | .double negative x => (if negative then ['-'] else []) ++ magnitude x

mutual

/-- A value without white space. -/
def compact : Json → List Char
  | .null => "null".toList
  | .bool true => "true".toList
  | .bool false => "false".toList
  | .number n => numeral n
  | .string s => quoted s
  | .array [] => ['[', ']']
  | .array (item :: items) => '[' :: compact item ++ compactItems items
  | .object [] => ['\x7b', '\x7d']
  | .object ((name, value) :: members) =>
    '\x7b' :: quoted name ++ ':' :: compact value ++ compactMembers members

/-- What follows the first item. -/
def compactItems : List Json → List Char
  | [] => [']']
  | item :: items => ',' :: compact item ++ compactItems items

/-- What follows the first member. -/
def compactMembers : List (String × Json) → List Char
  | [] => ['\x7d']
  | (name, value) :: members =>
    ',' :: quoted name ++ ':' :: compact value ++ compactMembers members

end

/-- The start of a line at a level. -/
def newLine (level : Nat) : List Char :=
  '\n' :: List.replicate (2 * level) ' '

mutual

/-- A value with a line for each item and member, when the lines around it are at
the given level. -/
def pretty (level : Nat) : Json → List Char
  | .null => "null".toList
  | .bool true => "true".toList
  | .bool false => "false".toList
  | .number n => numeral n
  | .string s => quoted s
  | .array [] => ['[', ']']
  | .array (item :: items) =>
    '[' :: newLine (level + 1) ++ pretty (level + 1) item ++ prettyItems level items
  | .object [] => ['\x7b', '\x7d']
  | .object ((name, value) :: members) =>
    '\x7b' :: newLine (level + 1) ++ quoted name ++ ':' :: ' ' :: pretty (level + 1) value ++
      prettyMembers level members

/-- What follows the first item. -/
def prettyItems (level : Nat) : List Json → List Char
  | [] => newLine level ++ [']']
  | item :: items =>
    ',' :: newLine (level + 1) ++ pretty (level + 1) item ++ prettyItems level items

/-- What follows the first member. -/
def prettyMembers (level : Nat) : List (String × Json) → List Char
  | [] => newLine level ++ ['\x7d']
  | (name, value) :: members =>
    ',' :: newLine (level + 1) ++ quoted name ++ ':' :: ' ' :: pretty (level + 1) value ++
      prettyMembers level members

end

-- the equations are made once, here, for all proofs about printed values
attribute [grind =] pretty prettyItems prettyMembers

/-- The compact text of a value. -/
def compactText (v : Json) : String := String.ofList (compact v)

/-- The indented text of a value. -/
def prettyText (v : Json) : String := String.ofList (pretty 0 v)

end BackendAudit.Json
