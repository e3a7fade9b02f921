/-!
# Punycode

A label of a domain with characters outside of ASCII is written in ASCII: first its
ASCII characters, then the others in the order of their numbers, each as the number
of places and characters passed over since the one before.  These distances are
written in base thirty-six with digits of changing weight; the weights follow the
sizes of the distances.
-/

namespace BackendAudit.Url.Punycode

/-- The digit for a number below thirty-six: the letters, and then the numerals. -/
def digit (n : Nat) : Char :=
  if n < 26 then Char.ofNat ('a'.toNat + n) else Char.ofNat ('0'.toNat + (n - 26))

/-- The number that a digit stands for. -/
def digitValue? (c : Char) : Option Nat :=
  if 'a' ≤ c ∧ c ≤ 'z' then some (c.toNat - 'a'.toNat)
  else if 'A' ≤ c ∧ c ≤ 'Z' then some (c.toNat - 'A'.toNat)
  else if '0' ≤ c ∧ c ≤ '9' then some (c.toNat - '0'.toNat + 26)
  else none

/-- The threshold of the digit at a place; places count by thirty-six. -/
def threshold (place bias : Nat) : Nat :=
  if place ≤ bias + 1 then 1 else if bias + 26 ≤ place then 26 else place - bias

/-- The bias after a distance.  The first distance counts less, and `count` is how
many characters there are by now. -/
def adapt (distance count : Nat) (first : Bool) : Nat :=
  let d := if first then distance / 700 else distance / 2
  shrink 64 0 (d + d / count)
where
  /-- Divides a distance while it is large; the first argument bounds the steps. -/
  shrink : Nat → Nat → Nat → Nat
    | 0, k, d => k + 36 * d / (d + 38)
    | fuel + 1, k, d => if 455 < d then shrink fuel (k + 36) (d / 35) else k + 36 * d / (d + 38)

/-! ## Writing -/

/-- The digits of a distance.  The first argument bounds their number. -/
def digits : Nat → Nat → Nat → Nat → List Char
  | 0, _, _, _ => []
  | fuel + 1, bias, place, n =>
    let t := threshold place bias
    if n < t then [digit n]
    else digit (t + (n - t) % (36 - t)) :: digits fuel bias (place + 36) ((n - t) / (36 - t))

/-- A label being written: the text so far, the distance since the last character
written, the bias, and how many characters are written. -/
structure Writing where
  text : List Char
  distance : Nat
  bias : Nat
  count : Nat

/-- Passes over a place of a label, writing the character at it if it has the number
whose turn it is. -/
def Writing.pass (basic number : Nat) (w : Writing) (c : Char) : Writing :=
  if c.toNat < number then { w with distance := w.distance + 1 }
  else if c.toNat = number then
    { text := w.text ++ digits 64 w.bias 36 w.distance
      distance := 0
      bias := adapt w.distance (w.count + 1) (w.count = basic)
      count := w.count + 1 }
  else w

/-- Writes all characters with numbers above a number. -/
def writeAbove (label : List Char) (basic : Nat) : Nat → Nat → Writing → List Char
  | 0, _, w => w.text
  | fuel + 1, number, w =>
    match (label.filterMap fun c => if number ≤ c.toNat then some c.toNat else none).min? with
    | none => w.text
    | some next =>
      let w := { w with distance := w.distance + (next - number) * (w.count + 1) }
      let w := label.foldl (Writing.pass basic next) w
      writeAbove label basic fuel (next + 1) { w with distance := w.distance + 1 }

/-- A label in ASCII, without the mark that it is one. -/
def encode (label : List Char) : List Char :=
  let basic := label.filter fun c => c.toNat < 0x80
  let head := if basic.isEmpty then [] else basic ++ ['-']
  writeAbove label basic.length label.length 0x80 ⟨head, 0, 72, basic.length⟩

/-! ## Reading -/

/-- A distance read from its digits, and the rest.  A distance has 32 bits. -/
def readDistance (bias : Nat) : Nat → Nat → Nat → List Char → Option (Nat × List Char)
  | _, _, _, [] => none
  | place, weight, sum, c :: rest =>
    match digitValue? c with
    | none => none
    | some d =>
      let sum := sum + d * weight
      let t := threshold place bias
      if Nat.pow 2 32 ≤ sum then none
      else if d < t then some (sum, rest)
      else readDistance bias (place + 36) (weight * (36 - t)) sum rest

/-- Reads characters into their places.  The first argument bounds their number. -/
def readInto : Nat → Nat → Nat → Nat → List Char → List Char → Option (List Char)
  | _, _, _, _, label, [] => some label
  | 0, _, _, _, _, _ => none
  | fuel + 1, number, place, bias, label, cs =>
    match readDistance bias 36 1 0 cs with
    | none => none
    | some (distance, rest) =>
      let count := label.length + 1
      let total := place + distance
      let number := number + total / count
      let place := total % count
      if 0x110000 ≤ number ∨ (0xd800 ≤ number ∧ number < 0xe000) then none
      else
        readInto fuel number (place + 1) (adapt distance count (label.all fun c => c.toNat < 0x80))
          (label.take place ++ Char.ofNat number :: label.drop place) rest

/-- The label that a text in ASCII stands for. -/
def decode (text : List Char) : Option (List Char) :=
  let tail := (text.reverse.takeWhile (· ≠ '-')).reverse
  let head := text.take (text.length - tail.length - 1)
  readInto tail.length 0x80 0 72 head tail

end BackendAudit.Url.Punycode
