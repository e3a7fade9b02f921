/-!
# UTF-8

A character is written as one to four bytes.  Reading goes byte by byte, with the
character that is under way as its state; a byte that cannot continue it starts
anew.  The strict reader stops at the first fault, and the lenient one puts a
replacement character for each maximal run of bytes that begins a character but
does not complete one, and for each byte that cannot begin one.
-/

namespace BackendAudit.Text.Utf8

/-- Why some bytes are not a text. -/
inductive Fault where
  /-- A run of so many bytes, at an index, cannot begin a character. -/
  | invalid (length index : Nat)
  /-- The last character, which starts at an index, is cut off. -/
  | incomplete (index : Nat)
  deriving Repr, DecidableEq, Inhabited

/-- The wording of a fault. -/
def Fault.message : Fault → String
  | invalid length index =>
    "invalid utf-8 sequence of " ++ toString length ++ " bytes from index " ++ toString index
  | incomplete index => "incomplete utf-8 byte sequence from index " ++ toString index

/-- A character under way: how many bytes it has already, how many are to come,
the bounds of the next byte, and the bits read so far. -/
structure Underway where
  length : Nat
  missing : Nat
  low : Nat
  high : Nat
  bits : Nat
  deriving Repr, DecidableEq, Inhabited

/-- What a first byte stands for. -/
inductive Lead where
  | char (c : Char)
  | underway (u : Underway)
  | invalid
  deriving Inhabited

/-- The meaning of a first byte.  The bounds of the second byte leave out overlong
forms, surrogates, and what is above the last character. -/
def lead (b : Nat) : Lead :=
  if b < 0x80 then .char (Char.ofNat b)
  else if b < 0xc2 then .invalid
  else if b < 0xe0 then .underway ⟨1, 1, 0x80, 0xbf, b - 0xc0⟩
  else if b < 0xf0 then
    .underway ⟨1, 2, if b = 0xe0 then 0xa0 else 0x80, if b = 0xed then 0x9f else 0xbf, b - 0xe0⟩
  else if b < 0xf5 then
    .underway ⟨1, 3, if b = 0xf0 then 0x90 else 0x80, if b = 0xf4 then 0x8f else 0xbf, b - 0xf0⟩
  else .invalid

/-- Whether a byte continues a character. -/
def Underway.accepts (u : Underway) (b : Nat) : Bool :=
  u.low ≤ b && b ≤ u.high

/-- The bits together with those of a byte that continues the character. -/
def Underway.extend (u : Underway) (b : Nat) : Nat :=
  u.bits * 64 + (b - 0x80)

/-- The character that is completed by a byte, or what is then under way. -/
def Underway.next (u : Underway) (b : Nat) : Lead :=
  if u.missing ≤ 1 then .char (Char.ofNat (u.extend b))
  else .underway ⟨u.length + 1, u.missing - 1, 0x80, 0xbf, u.extend b⟩

/-- The text of some bytes, or the first fault in them. -/
def decode (bytes : List UInt8) : Except Fault (List Char) :=
  go 0 none [] bytes
where
  /-- `index` counts the bytes before the rest, and `before` holds the characters
  read so far, the nearest first. -/
  go (index : Nat) (state : Option Underway) (before : List Char) :
      List UInt8 → Except Fault (List Char)
    | [] =>
      match state with
      | none => .ok before.reverse
      | some u => .error (.incomplete (index - u.length))
    | b :: rest =>
      let b := b.toNat
      match state with
      | none =>
        match lead b with
        | .char c => go (index + 1) none (c :: before) rest
        | .underway u => go (index + 1) (some u) before rest
        | .invalid => .error (.invalid 1 index)
      | some u =>
        if u.accepts b then
          match u.next b with
          | .char c => go (index + 1) none (c :: before) rest
          | .underway u => go (index + 1) (some u) before rest
          | .invalid => .error (.invalid u.length (index - u.length))
        else .error (.invalid u.length (index - u.length))

/-- What stands for bytes that are not a character. -/
def replacement : Char := '\ufffd'

/-- The text of some bytes, with replacement characters for the faults. -/
def lossy (bytes : List UInt8) : List Char :=
  go none [] bytes
where
  /-- Goes on at a byte that does not continue a character. -/
  start (b : Nat) (before : List Char) : Option Underway × List Char :=
    match lead b with
    | .char c => (none, c :: before)
    | .underway u => (some u, before)
    | .invalid => (none, replacement :: before)
  /-- `before` holds the characters read so far, the nearest first. -/
  go (state : Option Underway) (before : List Char) : List UInt8 → List Char
    | [] =>
      match state with
      | none => before.reverse
      | some _ => (replacement :: before).reverse
    | b :: rest =>
      let b := b.toNat
      match state with
      | none => let s := start b before; go s.1 s.2 rest
      | some u =>
        if u.accepts b then
          match u.next b with
          | .char c => go none (c :: before) rest
          | .underway u => go (some u) before rest
          | .invalid => go none (replacement :: before) rest
        else let s := start b (replacement :: before); go s.1 s.2 rest

/-- The bytes of a text. -/
def encode (cs : List Char) : List UInt8 :=
  cs.flatMap String.utf8EncodeChar

end BackendAudit.Text.Utf8
