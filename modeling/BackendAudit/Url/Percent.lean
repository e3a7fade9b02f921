import BackendAudit.Text.Utf8

/-!
# Percent encoding

In an address, a byte may be written as a percent sign and two hexadecimal digits.
Each part of an address has its own characters that have to be written so; what is
not printable ASCII has to be everywhere.
-/

namespace BackendAudit.Url

/-- The upper-case hexadecimal digit of a number below sixteen. -/
def upperDigit (n : Nat) : Char := (Nat.digitChar n).toUpper

/-- A byte behind a percent sign. -/
def percentByte (b : UInt8) : List Char :=
  ['%', upperDigit (b.toNat / 16), upperDigit (b.toNat % 16)]

/-- Whether a character is printable ASCII, a blank included. -/
def isPrintable (c : Char) : Bool := 0x20 ≤ c.toNat && c.toNat < 0x7f

/-- Encodes the characters that are not printable, and those of a list. -/
def encodeChar (others : List Char) (c : Char) : List Char :=
  if isPrintable c && !others.contains c then [c]
  else (Text.Utf8.encode [c]).flatMap percentByte

/-- Encodes a text, given the printable characters that have to be encoded in it. -/
def encode (others : List Char) (cs : List Char) : List Char :=
  cs.flatMap (encodeChar others)

/-- What is encoded in a fragment. -/
def fragmentSet : List Char := [' ', '"', '<', '>', '\x60']

/-- What is encoded in a query. -/
def querySet : List Char := [' ', '"', '#', '<', '>']

/-- What is encoded in the query of an address with one of the special schemes. -/
def specialQuerySet : List Char := '\'' :: querySet

/-- What is encoded in a path. -/
def pathSet : List Char := fragmentSet ++ ['#', '?', '\x7b', '\x7d']

/-- What is encoded in a user name or a password. -/
def userSet : List Char := pathSet ++ ['/', ':', ';', '=', '@', '[', '\\', ']', '^', '|']

/-- The value of a hexadecimal digit of either case. -/
def hexValue? (b : UInt8) : Option Nat :=
  let n := b.toNat
  if 0x30 ≤ n ∧ n ≤ 0x39 then some (n - 0x30)
  else if 0x41 ≤ n ∧ n ≤ 0x46 then some (n - 0x41 + 10)
  else if 0x61 ≤ n ∧ n ≤ 0x66 then some (n - 0x61 + 10)
  else none

/-- The bytes of a text with percent signs; one without two digits stands for itself. -/
def decode : List UInt8 → List UInt8
  | 0x25 :: a :: b :: rest =>
    match hexValue? a, hexValue? b with
    | some x, some y => UInt8.ofNat (16 * x + y) :: decode rest
    | _, _ => 0x25 :: decode (a :: b :: rest)
  | b :: rest => b :: decode rest
  | [] => []

/-! ## Forms -/

/-- A character in the value of a form. -/
def encodeFormChar (c : Char) : List Char :=
  if c = ' ' then ['+']
  else if c.isAlphanum || ['*', '-', '.', '_'].contains c then [c]
  else (Text.Utf8.encode [c]).flatMap percentByte

/-- A text as the value of a form. -/
def encodeForm (cs : List Char) : List Char := cs.flatMap encodeFormChar

end BackendAudit.Url
