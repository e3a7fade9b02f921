import BackendAudit.Toml.Draft
import BackendAudit.Toml.Numeral

/-!
# Reading documents of TOML

A document goes line by line: each is empty, a header, or a key with a value, and a
comment may end it.  Only lists go over several lines.
-/

namespace BackendAudit.Toml

/-- How deeply lists and tables in braces may be nested. -/
def nestingLimit : Nat := 79

/-- Drops blanks, ends of lines and comments.  The first argument bounds the number
of steps. -/
def skipFiller : Nat → List Char → List Char
  | 0, cs => cs
  | fuel + 1, cs =>
    match skipBlankLines cs with
    | '#' :: rest => skipFiller fuel (rest.dropWhile isPlain)
    | cs => cs

/-- Drops blanks, ends of lines and comments. -/
def skipAll (cs : List Char) : List Char := skipFiller (cs.length + 1) cs

mutual

/-- Reads a value.  The first argument bounds the number of calls, and `depth` is
how many lists and tables may still be opened. -/
def readValue : Nat → Nat → List Char → Option (Value × List Char)
  | 0, _, _ => none
  | fuel + 1, depth, cs =>
    match cs with
    | '"' :: _ => (readText cs).map fun (s, rest) => (.string s, rest)
    | '\'' :: _ => (readText cs).map fun (s, rest) => (.string s, rest)
    | '[' :: rest =>
      match depth with
      | 0 => none
      | depth + 1 => readItems fuel depth [] (skipAll rest)
    | '\x7b' :: rest =>
      match depth with
      | 0 => none
      | depth + 1 =>
        match skipBlanks rest with
        | '\x7d' :: rest => some (.table .inline [], rest)
        | rest => readPairs fuel depth [] rest
    | 't' :: 'r' :: 'u' :: 'e' :: rest => some (.boolean true, rest)
    | 'f' :: 'a' :: 'l' :: 's' :: 'e' :: rest => some (.boolean false, rest)
    | cs => readNumeral cs

/-- Reads the items of a list and its closing bracket.  The items read so far have
the last one first; a comma may stand behind the last. -/
def readItems : Nat → Nat → List Value → List Char → Option (Value × List Char)
  | 0, _, _, _ => none
  | fuel + 1, depth, items, cs =>
    match cs with
    | ']' :: rest => some (.array items.reverse, rest)
    | cs =>
      match readValue fuel depth cs with
      | none => none
      | some (item, rest) =>
        match skipAll rest with
        | ',' :: rest => readItems fuel depth (item :: items) (skipAll rest)
        | ']' :: rest => some (.array (item :: items).reverse, rest)
        | _ => none

/-- Reads keys with values, one at least, and the closing brace.  Those read so far
have the last one first. -/
def readPairs : Nat → Nat → List (List String × String × Value) → List Char →
    Option (Value × List Char)
  | 0, _, _, _ => none
  | fuel + 1, depth, pairs, cs =>
    match readKey cs with
    | some ((path, key), '=' :: rest) =>
      match readValue fuel depth (skipBlanks rest) with
      | none => none
      | some (value, rest) =>
        match skipBlanks rest with
        | ',' :: rest => readPairs fuel depth ((path, key, value) :: pairs) rest
        | '\x7d' :: rest =>
          (Entries.ofInline ((path, key, value) :: pairs).reverse).map (·, rest)
        | _ => none
    | _ => none

end

/-- Drops the end of a line: blanks, a comment, and what ends the line or the
document. -/
def skipLineEnd (cs : List Char) : Option (List Char) :=
  match skipComment (skipBlanks cs) with
  | [] => some []
  | cs => takeNewline cs

/-- Reads a header from behind its opening brackets, with the closing ones. -/
def readHeader (repeated : Bool) (cs : List Char) : Option (Statement × List Char) :=
  match readKey cs with
  | some ((path, key), ']' :: rest) =>
    if repeated then
      match rest with
      | ']' :: rest => some (.repeatedHeader path key, rest)
      | _ => none
    else some (.header path key, rest)
  | _ => none

/-- Reads a key with its value. -/
def readEntry (cs : List Char) : Option (Statement × List Char) :=
  match readKey cs with
  | some ((path, key), '=' :: rest) =>
    let rest := skipBlanks rest
    (readValue (2 * rest.length + 2) nestingLimit rest).map fun (value, rest) =>
      (.entry path key value, rest)
  | _ => none

/-- Reads a header, or a key with its value. -/
def readStatement : List Char → Option (Statement × List Char)
  | '[' :: '[' :: rest => readHeader true rest
  | '[' :: rest => readHeader false rest
  | cs => readEntry cs

/-- Reads statements up to the end.  The first argument bounds their number, and
those read so far have the last one first. -/
def readStatements : Nat → List Statement → List Char → Option (List Statement)
  | 0, _, _ => none
  | fuel + 1, before, cs =>
    match skipAll cs with
    | [] => some before.reverse
    | cs =>
      match readStatement cs with
      | none => none
      | some (statement, rest) =>
        match skipLineEnd rest with
        | none => none
        | some rest => readStatements fuel (statement :: before) rest

/-- Reads a document.  A byte-order mark at its start is dropped. -/
def parse? (cs : List Char) : Option Entries :=
  let cs := match cs with
    | '\ufeff' :: rest => rest
    | cs => cs
  (readStatements (cs.length + 1) [] cs).bind document?

end BackendAudit.Toml
