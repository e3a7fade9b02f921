import BackendAudit.Number.Shortest
import BackendAudit.Url.Domain
import BackendAudit.Url.Fault
import BackendAudit.Url.Percent

/-!
# Hosts

A host is a domain, or an address of the net in numbers: four parts in decimal,
octal or hexadecimal, or eight pieces in hexadecimal inside of brackets.  It is kept
in the one form in which it is written.
-/

namespace BackendAudit.Url

/-! ## Addresses of four parts -/

/-- The value of a digit of a base. -/
def digitOf? (base : Nat) (c : Char) : Option Nat :=
  match (Text.Utf8.encode [c]).map hexValue? with
  | [some d] => if d < base then some d else none
  | _ => none

/-- The number that digits of a base stand for; absent if one is no digit. -/
def numberOf? (base : Nat) (cs : List Char) : Option Nat :=
  cs.foldlM (fun n c => (digitOf? base c).map fun d => base * n + d) 0

/-- The number of a part.  Its beginning tells the base, and no digits at all behind
that are a zero. -/
def partNumber? (part : List Char) : Option Nat :=
  match part with
  | [] => none
  | '0' :: 'x' :: rest => numberOf? 16 rest
  | '0' :: 'X' :: rest => numberOf? 16 rest
  | '0' :: c :: rest => numberOf? 8 (c :: rest)
  | part => numberOf? 10 part

/-- The parts between the points of a domain, without an empty one at the end. -/
def partsOf (domain : List Char) : List (List Char) :=
  let parts := Text.splitAt '.' domain
  if parts.getLast? = some [] then parts.dropLast else parts

/-- Whether the last part of a domain is a number, so that the domain has to be an
address. -/
def endsInNumber (domain : List Char) : Bool :=
  match (partsOf domain).getLast? with
  | none => false
  | some part => (!part.isEmpty && part.all Char.isDigit) || (partNumber? part).isSome

/-- An address of 32 bits as four numbers with points between. -/
def ipv4Text (n : Nat) : List Char :=
  let part (k : Nat) := Number.decimalDigits (n / Nat.pow 256 k % 256)
  part 3 ++ '.' :: part 2 ++ '.' :: part 1 ++ '.' :: part 0

/-- The address that parts stand for.  Each but the last is a byte, and the last
takes up the bytes that are left. -/
def ipv4? (domain : List Char) : Option Nat :=
  match (partsOf domain).mapM partNumber? with
  | none => none
  | some numbers =>
    match numbers.reverse with
    | [] => none
    | last :: others =>
      if 4 < numbers.length ∨ others.any (255 < ·) ∨
          Nat.pow 256 (5 - numbers.length) ≤ last then none
      else
        some (others.reverse.zipIdx.foldl (fun sum (n, i) => sum + n * Nat.pow 256 (3 - i)) last)

/-! ## Addresses of eight pieces -/

/-- A number of one to four hexadecimal digits. -/
def piece? (cs : List Char) : Option Nat :=
  if cs.isEmpty ∨ 4 < cs.length then none else numberOf? 16 cs

/-- A byte in decimal, without a leading zero. -/
def byte? (cs : List Char) : Option Nat :=
  match cs with
  | [] => none
  | '0' :: _ :: _ => none
  | cs =>
    match numberOf? 10 cs with
    | some n => if n < 256 then some n else none
    | none => none

/-- The two pieces that four bytes with points between stand for. -/
def bytePieces? (cs : List Char) : Option (List Nat) :=
  match (Text.splitAt '.' cs).mapM byte? with
  | some [a, b, c, d] => some [256 * a + b, 256 * c + d]
  | _ => none

/-- The pieces between the colons of a text; at the end of an address the last may be
four bytes. -/
def pieces? (atEnd : Bool) (cs : List Char) : Option (List Nat) :=
  if cs.isEmpty then some []
  else
    let parts := Text.splitAt ':' cs
    match parts.getLast? with
    | none => none
    | some last =>
      match parts.dropLast.mapM piece? with
      | none => none
      | some front =>
        if atEnd && last.contains '.' then (bytePieces? last).map (front ++ ·)
        else (piece? last).map fun n => front ++ [n]

/-- The eight pieces of an address.  Two colons, which may be there once, stand for
one or more pieces of zero. -/
def ipv6? (cs : List Char) : Option (List Nat) :=
  match Text.splitOnce [':', ':'] cs with
  | none =>
    match pieces? true cs with
    | some pieces => if pieces.length = 8 then some pieces else none
    | none => none
  | some (front, back) =>
    match pieces? false front, pieces? true back with
    | some a, some b =>
      if a.length + b.length < 8 then
        some (a ++ List.replicate (8 - a.length - b.length) 0 ++ b)
      else none
    | _, _ => none

/-- How many zeros a list begins with. -/
def zeros (pieces : List Nat) : Nat := (pieces.takeWhile (· == 0)).length

/-- The place and the length of the longest run of zeros, the first of several. -/
def longestZeros (pieces : List Nat) : Nat × Nat :=
  (List.range pieces.length).foldl (fun best i =>
    let n := zeros (pieces.drop i)
    if best.2 < n then (i, n) else best) (0, 0)

/-- Pieces with colons between. -/
def piecesText (pieces : List Nat) : List Char :=
  ((pieces.map (Nat.toDigits 16)).intersperse [':']).flatten

/-- An address of eight pieces, with two colons for the longest run of zeros if that
is more than one. -/
def ipv6Text (pieces : List Nat) : List Char :=
  let (start, length) := longestZeros pieces
  if length < 2 then piecesText pieces
  else piecesText (pieces.take start) ++ ':' :: ':' :: piecesText (pieces.drop (start + length))

/-! ## Hosts -/

/-- A host in brackets, from behind the first. -/
def bracketed (cs : List Char) : Except Fault (List Char) :=
  match cs.getLast? with
  | some ']' =>
    match ipv6? cs.dropLast with
    | some pieces => .ok ('[' :: ipv6Text pieces ++ [']'])
    | none => .error .invalidIpv6
  | _ => .error .invalidIpv6

/-- The host of an address with one of the special schemes. -/
def host (cs : List Char) : Except Fault (List Char) :=
  match cs with
  | '[' :: rest => bracketed rest
  | cs =>
    match Text.Utf8.decode (decode (Text.Utf8.encode cs)) with
    | .error _ => .error .invalidDomain
    | .ok decoded =>
      match asciiDomain? decoded with
      | none => .error .invalidDomain
      | some [] => .error .emptyHost
      | some domain =>
        if endsInNumber domain then
          match ipv4? domain with
          | some n => .ok (ipv4Text n)
          | none => .error .invalidIpv4
        else .ok domain

/-- The host of an address with any other scheme, which is not looked into. -/
def opaqueHost (cs : List Char) : Except Fault (List Char) :=
  match cs with
  | '[' :: rest => bracketed rest
  | cs =>
    if cs.any fun c => c = '\x00' || isHostDelimiter c then .error .invalidHostCharacter
    else .ok (encode [] cs)

end BackendAudit.Url
