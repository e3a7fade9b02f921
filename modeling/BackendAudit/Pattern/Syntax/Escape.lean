import BackendAudit.Pattern.Syntax.Flags
import BackendAudit.Text.Pieces

/-!
# Escapes

What a backslash stands for: a character, a class of characters or an assertion.
Every reader returns what it has read together with the rest of the pattern, and
nothing for a pattern that is not well formed.
-/

namespace BackendAudit.Pattern.Syntax

open Unicode (BinaryProperty)

/-- What an escape stands for. -/
inductive Escape where
  /-- A character; `isByte` for one written as `\x` with two digits, which stands
  for a byte where classes range over ASCII. -/
  | literal (c : Char) (isByte : Bool)
  | set (s : CharSet)
  | look (l : Look)
  deriving Inhabited

/-- The value of a hexadecimal digit of either case. -/
def hexValue? (c : Char) : Option Nat :=
  if '0' ≤ c ∧ c ≤ '9' then some (c.toNat - '0'.toNat)
  else if 'a' ≤ c ∧ c ≤ 'f' then some (c.toNat - 'a'.toNat + 10)
  else if 'A' ≤ c ∧ c ≤ 'F' then some (c.toNat - 'A'.toNat + 10)
  else none

/-- The character with a given number. -/
def charOfNumber? (n : Nat) : Option Char :=
  if h : n.isValidChar then some (Char.ofNatAux n h) else none

/-- Reads `count` hexadecimal digits, with blanks between them where these mean nothing. -/
def readHexDigits (f : Flags) : Nat → Nat → List Char → Option (Nat × List Char)
  | 0, value, cs => some (value, cs)
  | count + 1, value, c :: rest => do
    let d ← hexValue? c
    readHexDigits f count (16 * value + d) (f.skipBlanks rest)
  | _ + 1, _, [] => none

/-- Reads the text up to a closing brace, without the blanks and comments in it
where these mean nothing.  The text is collected in reverse. -/
def readBraced (f : Flags) (inComment : Bool) (acc : List Char) :
    List Char → Option (List Char × List Char)
  | [] => none
  | c :: rest =>
    if f.freeSpacing && inComment then readBraced f (c != '\n') acc rest
    else if f.freeSpacing && Unicode.isWhiteSpace c.toNat then readBraced f false acc rest
    else if f.freeSpacing && c == '#' then readBraced f true acc rest
    else if c = '\x7d' then some (acc.reverse, rest)
    else readBraced f false (c :: acc) rest

/-- Reads the digits of `\x`, `\u` or `\U`: that many, or any number in braces. -/
def readHexEscape (f : Flags) (digits : Nat) (cs : List Char) : Option (Escape × List Char) :=
  match f.skipBlanks cs with
  | '\x7b' :: rest => do
    let (text, rest) ← readBraced f false [] rest
    if text.isEmpty then none
    else
      let value ← text.foldlM (fun n c => do let d ← hexValue? c; some (16 * n + d)) 0
      let c ← charOfNumber? value
      some (.literal c false, f.skipBlanks rest)
  | cs => do
    let (value, rest) ← readHexDigits f digits 0 cs
    let c ← charOfNumber? value
    some (.literal c (digits == 2), rest)

/-! ## Properties by name -/

/-- A name as it is looked up: without blanks, hyphens, underscores and an `is` in
front, and in lower case.  What is not ASCII is left out. -/
def normalizeName (name : List Char) : String :=
  let (hasIs, name) := match name with
    | a :: b :: rest =>
      if a.toLower = 'i' ∧ b.toLower = 's' then (true, rest) else (false, name)
    | _ => (false, name)
  let kept := name.filter fun c => c.toNat < 128 && c != ' ' && c != '_' && c != '-'
  let kept := kept.map Char.toLower
  if hasIs && kept == ['c'] then "isc" else String.ofList kept

/-- The sets of general categories that have a name of their own. -/
def categorySet? (name : String) : Option CharSet :=
  match name with
  | "any" => some .all
  | "ascii" => some .ascii
  | "assigned" => some (.compl (.property (.categories [.unassigned])))
  | _ => (Unicode.categoriesNamed? name).map fun cs => .property (.categories cs)

/-- The set that a single name stands for: a property, a category or a script. -/
def namedSet? (name : String) : Option CharSet :=
  if name = "cf" ∨ name = "sc" ∨ name = "lc" then categorySet? name
  else match BinaryProperty.named? name with
    | some p => some (.property (.binary p))
    | none => match categorySet? name with
      | some s => some s
      | none => (Unicode.scriptNamed? name).map fun code => .property (.script code)

/-- The set that a name and a value stand for. -/
def valueSet? (name value : String) : Option CharSet :=
  if name = "gc" ∨ name = "generalcategory" then categorySet? value
  else if name = "sc" ∨ name = "script" then
    (Unicode.scriptNamed? value).map fun code => .property (.script code)
  else if name = "scx" ∨ name = "scriptextensions" then
    (Unicode.scriptNamed? value).map fun code => .property (.scriptExtension code)
  else none

/-- The set that the text between the braces of `\p` stands for. -/
def querySet? (text : List Char) : Option CharSet :=
  let byValue (p : List Char × List Char) := valueSet? (normalizeName p.1) (normalizeName p.2)
  match Text.splitOnce ['!', '='] text with
  | some p => byValue p
  | none => match Text.splitOnce [':'] text with
    | some p => byValue p
    | none => match Text.splitOnce ['='] text with
      | some p => byValue p
      | none => namedSet? (normalizeName text)

/-- A set closed under case variants where case is ignored. -/
def Flags.fold (f : Flags) (s : CharSet) : CharSet :=
  if f.ignoreCase then
    if f.unicode then .folded s else .inter .ascii (.folded s)
  else s

/-- A set under the flags, possibly negated.  Where classes range over ASCII a
negated class would hold bytes that are no characters, and is refused. -/
def Flags.foldAndNegate (f : Flags) (negated : Bool) (s : CharSet) : Option CharSet :=
  if negated then
    if f.unicode then some (.compl (f.fold s)) else none
  else some (f.fold s)

/-- Reads what follows `\p` or `\P`: one letter, or a name in braces. -/
def readUnicodeClass (f : Flags) (negated : Bool) (cs : List Char) :
    Option (Escape × List Char) := do
  let (text, rest) ← match f.skipBlanks cs with
    | [] => none
    | '\x7b' :: rest => readBraced f false [] rest
    | '\\' :: _ => none
    | c :: rest => some ([c], f.skipBlanks rest)
  if f.unicode then
    let s ← querySet? text
    let s ← f.foldAndNegate negated s
    some (.set s, rest)
  else none

/-! ## Classes of one letter -/

def asciiDigits : CharSet := .span 0x30 0x39

def asciiSpaces : CharSet := .union (.span 9 13) (.span 0x20 0x20)

def asciiWords : CharSet := .ofSpans [(0x30, 0x39), (0x41, 0x5a), (0x5f, 0x5f), (0x61, 0x7a)]

/-- The class that a letter after a backslash names; an upper-case letter negates it. -/
def letterClass? (f : Flags) (letter : Char) : Option CharSet :=
  let positive := match letter.toLower with
    | 'd' => some (if f.unicode then .property .digit else asciiDigits)
    | 's' => some (if f.unicode then .property (.binary .whiteSpace) else asciiSpaces)
    | 'w' => some (if f.unicode then .property .word else asciiWords)
    | _ => none
  if letter.isUpper then
    if f.unicode then positive.map .compl else none
  else positive

/-! ## Assertions -/

/-- Whether a character can occur in the name of a special word boundary. -/
def isBoundaryNameChar (c : Char) : Bool :=
  ('A' ≤ c && c ≤ 'Z') || ('a' ≤ c && c ≤ 'z') || c == '-'

/-- Reads what follows `\b`: a brace in which a name begins makes it one of the
special word boundaries; any other brace is left for a counted repetition. -/
def readWordBoundary (f : Flags) (cs : List Char) : Option (Escape × List Char) :=
  let plain := Escape.look (if f.unicode then .wordBoundary else .asciiWordBoundary)
  match cs with
  | '\x7b' :: rest =>
    match f.skipBlanks rest with
    | [] => none
    | c :: rest =>
      if isBoundaryNameChar c then do
        let (name, rest) ← readBraced f false [] (c :: rest)
        let l ← match String.ofList name with
          | "start" => some (if f.unicode then Look.wordStart else .asciiWordStart)
          | "end" => some (if f.unicode then .wordEnd else .asciiWordEnd)
          | "start-half" => some (if f.unicode then .wordStartHalf else .asciiWordStartHalf)
          | "end-half" => some (if f.unicode then .wordEndHalf else .asciiWordEndHalf)
          | _ => none
        some (.look l, rest)
      else some (plain, cs)
  | _ => some (plain, cs)

/-! ## The escape -/

/-- The characters that have a meaning of their own in a pattern. -/
def isMeta (c : Char) : Bool :=
  "\\.+*?()|[]\x7b\x7d^$#&-~".toList.contains c

/-- Whether a backslash makes a character stand for itself: one with a meaning of
its own, or any other of ASCII that is neither a letter nor a digit nor an angle
bracket. -/
def isEscapable (c : Char) : Bool :=
  isMeta c || (c.toNat < 128 && !c.isAlphanum && c != '<' && c != '>')

/-- Reads what follows a backslash. -/
def readEscape (f : Flags) : List Char → Option (Escape × List Char)
  | [] => none
  | c :: rest =>
    if c.isDigit then none
    else if isEscapable c then some (.literal c false, rest)
    else match c with
      | 'x' => readHexEscape f 2 rest
      | 'u' => readHexEscape f 4 rest
      | 'U' => readHexEscape f 8 rest
      | 'p' => readUnicodeClass f false rest
      | 'P' => readUnicodeClass f true rest
      | 'a' => some (.literal '\x07' false, rest)
      | 'f' => some (.literal '\x0c' false, rest)
      | 't' => some (.literal '\t' false, rest)
      | 'n' => some (.literal '\n' false, rest)
      | 'r' => some (.literal '\r' false, rest)
      | 'v' => some (.literal '\x0b' false, rest)
      | 'A' => some (.look .textStart, rest)
      | 'z' => some (.look .textEnd, rest)
      | 'b' => readWordBoundary f rest
      | 'B' => some (.look (if f.unicode then .noWordBoundary else .noAsciiWordBoundary), rest)
      | '<' => some (.look (if f.unicode then .wordStart else .asciiWordStart), rest)
      | '>' => some (.look (if f.unicode then .wordEnd else .asciiWordEnd), rest)
      | c => (letterClass? f c).map fun s => (.set s, rest)

end BackendAudit.Pattern.Syntax
