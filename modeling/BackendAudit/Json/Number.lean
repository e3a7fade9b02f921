import BackendAudit.Json.Basic

/-!
# Reading numbers

A number is read as a significand of 64 bits and a decimal exponent.  Digits for
which the significand has no room are dropped; those before the point count in
the exponent.  An integer that fits is kept exactly.  Any other number is the
significand, rounded to double precision, multiplied or divided by powers of ten
with a rounding at each step; one that is too large is refused.
-/

namespace BackendAudit.Json

open BackendAudit.Number (Double)

/-- The parts of a written number. -/
structure Numeral where
  negative : Bool
  whole : List Nat
  fraction : List Nat
  /-- Whether the exponent is negative, and its digits. -/
  exponent : Option (Bool × List Nat)
  deriving Repr, DecidableEq, Inhabited

namespace Numeral

/-- A digit at the end of a significand, if there is room for it. -/
def push? (significand digit : Nat) : Option Nat :=
  if 10 * significand + digit < Nat.pow 2 64 then some (10 * significand + digit) else none

/-- Takes digits into a significand while there is room, and returns it with the
digits that are left. -/
def pushAll (significand : Nat) : List Nat → Nat × List Nat
  | [] => (significand, [])
  | d :: rest =>
    match push? significand d with
    | some s => pushAll s rest
    | none => (significand, d :: rest)

/-- The number of double precision for a power of ten up to 308. -/
def powerOfTen (n : Nat) : Double := (Double.ofRatio (Nat.pow 10 n) 1).getD .zero

/-- A significand with a decimal exponent as a number of double precision.  A
divisor beyond the largest power of ten is taken in several steps, whose number
the first argument bounds. -/
def scale : Nat → Double → Int → Option Double
  | 0, _, _ => some .zero
  | fuel + 1, x, e =>
    if e.natAbs ≤ 308 then
      if 0 ≤ e then x.mul (powerOfTen e.toNat) else x.div (powerOfTen e.natAbs)
    else if x.isZero then some .zero
    else if 0 ≤ e then none
    else match x.div (powerOfTen 308) with
      | some x => scale fuel x (e + 308)
      | none => none

/-- The number of a significand and a decimal exponent. -/
def double? (negative : Bool) (significand : Nat) (exponent : Int) : Option Number :=
  match Double.ofRatio significand 1 with
  | some x => (scale 8 x exponent).map (.double negative)
  | none => none

/-- The value of the digits of an exponent; absent when it is beyond 31 bits. -/
def exponentValue? (digits : List Nat) : Option Nat :=
  digits.foldlM (fun e d => if 10 * e + d < Nat.pow 2 31 then some (10 * e + d) else none) 0

/-- The value of a numeral. -/
def value? (n : Numeral) : Option Number :=
  let (significand, dropped) := pushAll 0 n.whole
  if n.fraction.isEmpty ∧ n.exponent.isNone ∧ dropped.isEmpty then
    if !n.negative then some (.integer significand)
    else if significand ≠ 0 ∧ significand ≤ Nat.pow 2 63 then some (.integer (-(significand : Int)))
    else (Double.ofRatio significand 1).map (.double true)
  else
    let (significand, left) := pushAll significand n.fraction
    let shift : Int := (dropped.length : Int) - ((n.fraction.length - left.length : Nat) : Int)
    match n.exponent with
    | none => double? n.negative significand shift
    | some (down, digits) =>
      match exponentValue? digits with
      | some e => double? n.negative significand (if down then shift - e else shift + e)
      | none =>
        if significand ≠ 0 ∧ !down then none else some (.double n.negative .zero)

end Numeral
end BackendAudit.Json
