import BackendAudit.Number.Double

/-!
# The shortest decimal that reads back

Every number of double precision is written with the fewest decimal digits that
are read back as the same number; of several such decimals the nearest is taken.
A decimal with `n` digits reads back when it lies between the two points halfway
to the neighbouring numbers, the points themselves included when the mantissa is
even.  If any point of a decimal grid lies there, so does one of the two points of
the grid next to the number, and so it is enough to try these.
-/

namespace BackendAudit.Number

/-- The decimal `digits * 10 ^ exponent`. -/
structure Decimal where
  digits : Nat
  exponent : Int
  deriving Repr, DecidableEq, Inhabited

/-- The digits of a natural number in base ten. -/
def decimalDigits (n : Nat) : List Char := Nat.toDigits 10 n

namespace Double

/-- A number and the points halfway to its neighbours, over one denominator. -/
structure Neighbourhood where
  low : Nat
  value : Nat
  high : Nat
  denominator : Nat
  /-- Whether the halfway points are read back as the number. -/
  closed : Bool

/-- The neighbourhood of a number.  Below a power of two the neighbours are half
as far apart, except at the least exponent. -/
def neighbourhood (x : Double) : Neighbourhood :=
  let below := if x.mantissa = Nat.pow 2 52 ∧ minExponent < x.exponent then 1 else 2
  let e := x.exponent - 2
  let up := if e < 0 then 1 else Nat.pow 2 e.toNat
  { low := (4 * x.mantissa - below) * up
    value := 4 * x.mantissa * up
    high := (4 * x.mantissa + 2) * up
    denominator := if e < 0 then Nat.pow 2 (-e).toNat else 1
    closed := x.mantissa % 2 == 0 }

/-- The exponent of the first digit of a positive quotient: the greatest `k` with
`10 ^ k ≤ num / den`.  The argument `fuel` bounds its distance from zero. -/
def firstExponent (num den : Nat) : Int :=
  if den ≤ num then ((decimalDigits (num / den)).length : Int) - 1
  else below 400 1 (num * 10)
where
  /-- The least `k` with `den ≤ num * 10 ^ k`, made negative. -/
  below : Nat → Nat → Nat → Int
    | 0, k, _ => -(k : Int)
    | fuel + 1, k, n => if den ≤ n then -(k : Int) else below fuel (k + 1) (n * 10)

/-- The decimal of the grid `10 ^ e` that reads back as the number, if there is one;
of two the nearer, and of two equally near ones the one whose last digit is even. -/
def onGrid (h : Neighbourhood) (e : Int) : Option Decimal :=
  let unit := if e < 0 then 1 else Nat.pow 10 e.toNat
  let scale := if e < 0 then Nat.pow 10 (-e).toNat else 1
  let step := unit * h.denominator
  let inside (c : Nat) : Bool :=
    let p := c * step
    if h.closed then h.low * scale ≤ p && p ≤ h.high * scale
    else h.low * scale < p && p < h.high * scale
  let v := h.value * scale
  let c := v / step
  let r := v % step
  match c != 0 && inside c, inside (c + 1) with
  | true, true =>
    if 2 * r < step then some ⟨c, e⟩
    else if 2 * r = step then some ⟨c + c % 2, e⟩
    else some ⟨c + 1, e⟩
  | true, false => some ⟨c, e⟩
  | false, true => some ⟨c + 1, e⟩
  | false, false => none

/-- The shortest decimal of a positive number. -/
def shortest (x : Double) : Decimal :=
  let h := x.neighbourhood
  let first := firstExponent h.value h.denominator
  go h first 17 0
where
  /-- Tries grids with one digit more each time. -/
  go (h : Neighbourhood) (first : Int) : Nat → Int → Decimal
    | 0, _ => ⟨0, 0⟩
    | fuel + 1, n =>
      match onGrid h (first - n) with
      | some d => d
      | none => go h first fuel (n + 1)

end Double

/-! ## Writing a decimal -/

/-- The digits of a decimal without zeros at its end, and the exponent of the first. -/
def Decimal.scientific (d : Decimal) : List Char × Int :=
  let digits := decimalDigits d.digits
  let kept := (digits.reverse.dropWhile (· == '0')).reverse
  (if kept.isEmpty then ['0'] else kept, d.exponent + digits.length - 1)

/-- Digits with the point where the exponent of the first one puts it, and one
digit behind the point at least. -/
def positional (digits : List Char) (first : Int) : List Char :=
  if first < 0 then
    '0' :: '.' :: List.replicate ((-first).toNat - 1) '0' ++ digits
  else
    let n := first.toNat + 1
    let whole := digits.take n ++ List.replicate (n - digits.length) '0'
    let fraction := digits.drop n
    whole ++ '.' :: (if fraction.isEmpty then ['0'] else fraction)

/-- Digits with a point behind the first one, and the exponent with its sign. -/
def exponential (digits : List Char) (first : Int) : List Char :=
  let head := match digits with
    | d :: e :: rest => d :: '.' :: e :: rest
    | ds => ds
  let sign := if first < 0 then '-' else '+'
  head ++ 'e' :: sign :: decimalDigits first.natAbs

end BackendAudit.Number
