import BackendAudit.Toml.Value

/-!
# Reading texts and keys of TOML

A text stands in double quotes, with escapes, or in single quotes, as it is.  With
three quotes on each side it may go over several lines; a line feed right behind
the opening quotes is dropped, and up to two quotes may stand before the closing
ones.
-/

namespace BackendAudit.Toml

/-- Whether a character is a blank or a tab. -/
def isBlankChar (c : Char) : Bool := c == ' ' || c == '\t'

/-- Drops blanks and tabs. -/
def skipBlanks (cs : List Char) : List Char := cs.dropWhile isBlankChar

/-- Whether a character may stand in a comment, and in a text in single quotes if it
is not one. -/
def isPlain (c : Char) : Bool :=
  c == '\t' || (0x20 ≤ c.toNat && c.toNat != 0x7f)

/-- Takes an end of line off, if there is one. -/
def takeNewline : List Char → Option (List Char)
  | '\n' :: rest => some rest
  | '\r' :: '\n' :: rest => some rest
  | _ => none

/-- Drops a comment, if there is one. -/
def skipComment : List Char → List Char
  | '#' :: rest => rest.dropWhile isPlain
  | cs => cs

/-- Drops blanks and ends of lines.  A carriage return alone is not an end of line. -/
def skipBlankLines : List Char → List Char
  | '\r' :: '\n' :: rest => skipBlankLines rest
  | c :: rest => if isBlankChar c || c == '\n' then skipBlankLines rest else c :: rest
  | [] => []

/-! ## Escapes -/

/-- The value of a hexadecimal digit of either case. -/
def digitValue? (c : Char) : Option Nat :=
  if '0' ≤ c ∧ c ≤ '9' then some (c.toNat - '0'.toNat)
  else if 'a' ≤ c ∧ c ≤ 'f' then some (c.toNat - 'a'.toNat + 10)
  else if 'A' ≤ c ∧ c ≤ 'F' then some (c.toNat - 'A'.toNat + 10)
  else none

/-- The character whose number is given by hexadecimal digits, if there is one. -/
def charOfDigits? (digits : List Char) : Option Char :=
  match digits.foldlM (fun n c => (digitValue? c).map fun d => 16 * n + d) 0 with
  | some n => if n < 0xd800 ∨ (0xe000 ≤ n ∧ n < 0x110000) then some (Char.ofNat n) else none
  | none => none

/-- The character that an escape with one letter stands for. -/
def escaped? (c : Char) : Option Char :=
  match c with
  | '"' => some '"'
  | '\\' => some '\\'
  | 'b' => some '\x08'
  | 'f' => some '\x0c'
  | 'n' => some '\n'
  | 'r' => some '\r'
  | 't' => some '\t'
  | _ => none

/-- Reads an escape from behind its backslash.  The digits of a number are counted
by their letter: four or eight. -/
def readEscape : List Char → Option (Char × List Char)
  | 'u' :: a :: b :: c :: d :: rest => (charOfDigits? [a, b, c, d]).map (·, rest)
  | 'U' :: a :: b :: c :: d :: e :: f :: g :: h :: rest =>
    (charOfDigits? [a, b, c, d, e, f, g, h]).map (·, rest)
  | c :: rest => (escaped? c).map (·, rest)
  | [] => none

/-! ## Texts -/

/-- How a text is written. -/
structure Quoting where
  /-- The character on its sides. -/
  quote : Char
  /-- Whether it is there three times. -/
  triple : Bool
  deriving Repr, DecidableEq, Inhabited

/-- Whether a backslash begins an escape. -/
def Quoting.hasEscapes (q : Quoting) : Bool := q.quote == '"'

/-- The end of a text with three quotes: these, and up to two more that belong to
the text. -/
def closing? (quote : Char) (cs : List Char) : Option (List Char × List Char) :=
  let quotes := cs.takeWhile (· == quote)
  if 3 ≤ quotes.length then
    let count := min 5 quotes.length
    some (List.replicate (count - 3) quote, cs.drop count)
  else none

/-- Reads a text from behind its opening quotes.  The first argument bounds the
number of steps, and `before` holds the characters read so far, the nearest first. -/
def readQuoted (q : Quoting) : Nat → List Char → List Char → Option (String × List Char)
  | 0, _, _ => none
  | _ + 1, _, [] => none
  | fuel + 1, before, c :: rest =>
    if c = q.quote then
      if q.triple then
        match closing? q.quote (c :: rest) with
        | some (more, rest) => some (String.ofList (before.reverse ++ more), rest)
        | none => readQuoted q fuel (c :: before) rest
      else some (String.ofList before.reverse, rest)
    else if c = '\\' && q.hasEscapes then
      match readEscape rest with
      | some (e, rest) => readQuoted q fuel (e :: before) rest
      | none =>
        if q.triple then
          match takeNewline (skipBlanks rest) with
          | some rest => readQuoted q fuel before (skipBlankLines rest)
          | none => none
        else none
    else if isPlain c then readQuoted q fuel (c :: before) rest
    else if q.triple then
      match takeNewline (c :: rest) with
      | some rest => readQuoted q fuel ('\n' :: before) rest
      | none => none
    else none

/-- Reads a text that may be a value. -/
def readText (cs : List Char) : Option (String × List Char) :=
  let fuel := cs.length + 1
  match cs with
  | '"' :: '"' :: '"' :: rest => readQuoted ⟨'"', true⟩ fuel [] ((takeNewline rest).getD rest)
  | '"' :: rest => readQuoted ⟨'"', false⟩ fuel [] rest
  | '\'' :: '\'' :: '\'' :: rest =>
    readQuoted ⟨'\'', true⟩ fuel [] ((takeNewline rest).getD rest)
  | '\'' :: rest => readQuoted ⟨'\'', false⟩ fuel [] rest
  | _ => none

/-! ## Keys -/

/-- Whether a character may stand in a key without quotes. -/
def isKeyChar (c : Char) : Bool := c.isAlphanum || c == '_' || c == '-'

/-- Reads one part of a key, in quotes on one line or without quotes. -/
def readKeyPart (cs : List Char) : Option (String × List Char) :=
  match cs with
  | '"' :: rest => readQuoted ⟨'"', false⟩ (cs.length + 1) [] rest
  | '\'' :: rest => readQuoted ⟨'\'', false⟩ (cs.length + 1) [] rest
  | cs =>
    let key := cs.takeWhile isKeyChar
    if key.isEmpty then none else some (String.ofList key, cs.drop key.length)

/-- How many parts a key may have. -/
def maxKeyParts : Nat := 79

/-- Reads a key: parts with points between them, and blanks around each.  The first
argument bounds the number of parts, and `before` holds the parts read so far, the
last one first.  The last part is returned apart from the others. -/
def readKeyAfter : Nat → List String → List Char → Option ((List String × String) × List Char)
  | 0, _, _ => none
  | fuel + 1, before, cs =>
    match readKeyPart (skipBlanks cs) with
    | none => none
    | some (part, rest) =>
      match skipBlanks rest with
      | '.' :: rest => readKeyAfter fuel (part :: before) rest
      | rest => some ((before.reverse, part), rest)

/-- Reads a key. -/
def readKey (cs : List Char) : Option ((List String × String) × List Char) :=
  readKeyAfter maxKeyParts [] cs

end BackendAudit.Toml
