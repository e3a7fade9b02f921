import BackendAudit.Toml.Text

/-!
# Reading numbers and dates of TOML

Underscores may stand between two digits.  Integers have 64 bits with sign, and a
number with a point or an exponent is the nearest one of double precision; one that
is too large is refused, unless it is negative.
-/

namespace BackendAudit.Toml

open BackendAudit.Number (Double)

/-! ## Integers -/

/-- Reads digits of a base with single underscores between them.  The digits read so
far are in `before`, the last one first. -/
def readDigitsAfter (base : Nat) (before : List Nat) : List Char → List Nat × List Char
  | '_' :: c :: rest =>
    match digitValue? c with
    | some d =>
      if d < base ∧ before ≠ [] then readDigitsAfter base (d :: before) rest
      else (before.reverse, '_' :: c :: rest)
    | none => (before.reverse, '_' :: c :: rest)
  | c :: rest =>
    match digitValue? c with
    | some d =>
      if d < base then readDigitsAfter base (d :: before) rest else (before.reverse, c :: rest)
    | none => (before.reverse, c :: rest)
  | [] => (before.reverse, [])

/-- Reads digits of a base, one at least. -/
def readDigits (base : Nat) (cs : List Char) : Option (List Nat × List Char) :=
  match readDigitsAfter base [] cs with
  | ([], _) => none
  | r => some r

/-- The number that digits of a base stand for. -/
def ofDigits (base : Nat) (digits : List Nat) : Nat :=
  digits.foldl (fun n d => base * n + d) 0

/-- Takes a sign off, and tells whether it is a minus. -/
def takeSign : List Char → Bool × List Char
  | '+' :: rest => (false, rest)
  | '-' :: rest => (true, rest)
  | cs => (false, cs)

/-- Reads decimal digits without a leading zero, or a zero alone. -/
def readWhole (cs : List Char) : Option (List Nat × List Char) :=
  match readDigits 10 cs with
  | some (0 :: _ :: _, _) => none
  | r => r

/-- An integer, if it has a place in 64 bits. -/
def integer? (n : Int) : Option Value :=
  if -Int.ofNat (Nat.pow 2 63) ≤ n ∧ n < Int.ofNat (Nat.pow 2 63) then some (.integer n) else none

/-- Reads an integer. -/
def readInteger (cs : List Char) : Option (Value × List Char) :=
  let unsigned (base : Nat) (rest : List Char) := do
    let (digits, rest) ← readDigits base rest
    let value ← integer? (ofDigits base digits)
    return (value, rest)
  match cs with
  | '0' :: 'x' :: rest => unsigned 16 rest
  | '0' :: 'o' :: rest => unsigned 8 rest
  | '0' :: 'b' :: rest => unsigned 2 rest
  | cs => do
    let (negative, rest) := takeSign cs
    let (digits, rest) ← readWhole rest
    let n := ofDigits 10 digits
    let value ← integer? (if negative then -(n : Int) else n)
    return (value, rest)

/-! ## Floating-point numbers -/

/-- The number `n * 10 ^ e`, rounded; absent when it is too large.  Numbers far out
of the range are decided by the place of their first digit. -/
def roundDecimal (n : Nat) (e : Int) : Option Double :=
  let first : Int := (Number.decimalDigits n).length + e
  if n = 0 ∨ first < -400 then some .zero
  else if 400 < first then none
  else if 0 ≤ e then Double.ofRatio (n * Nat.pow 10 e.toNat) 1
  else Double.ofRatio n (Nat.pow 10 e.natAbs)

/-- Reads an exponent from behind its letter. -/
def readExponent (cs : List Char) : Option (Int × List Char) :=
  let (down, rest) := takeSign cs
  (readDigits 10 rest).map fun (digits, rest) =>
    let e := ofDigits 10 digits
    (if down then -(e : Int) else e, rest)

/-- Reads what follows the digits before the point: the digits behind it and the
exponent.  One of the two has to be there. -/
def readTail (cs : List Char) : Option ((List Nat × Int) × List Char) :=
  match cs with
  | '.' :: rest => do
    let (fraction, rest) ← readDigits 10 rest
    match rest with
    | c :: tail =>
      if c = 'e' ∨ c = 'E' then
        let (e, rest) ← readExponent tail
        return ((fraction, e), rest)
      else return ((fraction, 0), rest)
    | [] => return ((fraction, 0), [])
  | c :: rest =>
    if c = 'e' ∨ c = 'E' then (readExponent rest).map fun (e, rest) => (([], e), rest) else none
  | [] => none

/-- Reads a number with a point or an exponent, or one of the special ones. -/
def readFloat (cs : List Char) : Option (Value × List Char) :=
  let (negative, rest) := takeSign cs
  match rest with
  | 'i' :: 'n' :: 'f' :: rest => some (.float (.infinite negative), rest)
  | 'n' :: 'a' :: 'n' :: rest => some (.float .notANumber, rest)
  | rest => do
    let (whole, rest) ← readWhole rest
    let ((fraction, e), rest) ← readTail rest
    match roundDecimal (ofDigits 10 (whole ++ fraction)) (e - fraction.length) with
    | some x => return (.float (.finite negative x), rest)
    | none => if negative then return (.float (.infinite true), rest) else none

/-! ## Dates and times -/

/-- Reads a number of exactly so many decimal digits. -/
def readFixed : Nat → Nat → List Char → Option (Nat × List Char)
  | 0, n, cs => some (n, cs)
  | count + 1, n, c :: rest =>
    if c.isDigit then readFixed count (10 * n + (c.toNat - '0'.toNat)) rest else none
  | _ + 1, _, [] => none

/-- Reads two digits whose number is within bounds. -/
def readPair (low high : Nat) (cs : List Char) : Option (Nat × List Char) :=
  match readFixed 2 0 cs with
  | some (n, rest) => if low ≤ n ∧ n ≤ high then some (n, rest) else none
  | none => none

/-- Takes a character off. -/
def take? (c : Char) : List Char → Option (List Char)
  | d :: rest => if d = c then some rest else none
  | [] => none

/-- How many days a month has. -/
def daysIn (year month : Nat) : Nat :=
  if month = 2 then
    if year % 4 = 0 ∧ (year % 100 ≠ 0 ∨ year % 400 = 0) then 29 else 28
  else if month = 4 ∨ month = 6 ∨ month = 9 ∨ month = 11 then 30
  else 31

/-- Drops a date. -/
def skipDate (cs : List Char) : Option (List Char) := do
  let (year, rest) ← readFixed 4 0 cs
  let rest ← take? '-' rest
  let (month, rest) ← readPair 1 12 rest
  let rest ← take? '-' rest
  let (_, rest) ← readPair 1 (daysIn year month) rest
  return rest

/-- Drops a fraction of a second, if there is one. -/
def skipFraction (cs : List Char) : Option (List Char) :=
  match cs with
  | '.' :: rest =>
    let digits := rest.takeWhile Char.isDigit
    if digits.isEmpty then none else some (rest.drop digits.length)
  | cs => some cs

/-- Drops a time of day. -/
def skipTime (cs : List Char) : Option (List Char) := do
  let (_, rest) ← readPair 0 23 cs
  let rest ← take? ':' rest
  let (_, rest) ← readPair 0 59 rest
  let rest ← take? ':' rest
  let (_, rest) ← readPair 0 60 rest
  skipFraction rest

/-- Drops the distance from universal time, if it is given. -/
def skipOffset (cs : List Char) : Option (List Char) :=
  match cs with
  | c :: rest =>
    if c = 'Z' ∨ c = 'z' then some rest
    else if c = '+' ∨ c = '-' then do
      let (_, rest) ← readPair 0 23 rest
      let rest ← take? ':' rest
      let (_, rest) ← readPair 0 59 rest
      return rest
    else some (c :: rest)
  | [] => some []

/-- Drops a date, a date with a time, or a time. -/
def skipMoment (cs : List Char) : Option (List Char) :=
  match skipDate cs with
  | none => skipTime cs
  | some rest =>
    match rest with
    | c :: tail =>
      if c = 'T' ∨ c = 't' ∨ c = ' ' then
        match skipTime tail with
        | some tail => skipOffset tail
        | none => some rest
      else some rest
    | [] => some rest

/-- Reads a date or a number. -/
def readNumeral (cs : List Char) : Option (Value × List Char) :=
  match skipMoment cs with
  | some rest => some (.moment, rest)
  | none =>
    match readFloat cs with
    | some r => some r
    | none => readInteger cs

end BackendAudit.Toml
