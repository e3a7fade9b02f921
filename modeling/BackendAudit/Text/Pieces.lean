/-!
# Parts of a text

Searching for a part of a text and splitting a text, on texts as lists of
characters.
-/

namespace BackendAudit.Text

/-- Whether `part` occurs in a text. -/
def contains (part : List Char) : List Char → Bool
  | [] => part.isEmpty
  | c :: rest => part.isPrefixOf (c :: rest) || contains part rest

/-- What stands before and behind the first occurrence of `part`. -/
def splitOnce (part : List Char) (cs : List Char) : Option (List Char × List Char) :=
  go [] cs
where
  /-- `before` holds the characters in front, the nearest first. -/
  go (before : List Char) : List Char → Option (List Char × List Char)
    | [] => if part.isEmpty then some (before.reverse, []) else none
    | c :: rest =>
      if part.isPrefixOf (c :: rest) then some (before.reverse, (c :: rest).drop part.length)
      else go (c :: before) rest

/-- The pieces between the occurrences of a separator: one more than these. -/
def splitAt (separator : Char) (cs : List Char) : List (List Char) :=
  cs.foldr step [[]]
where
  /-- Puts a character in front of the first piece, or a new piece in front of all. -/
  step (c : Char) : List (List Char) → List (List Char)
    | [] => [[]]
    | piece :: pieces => if c = separator then [] :: piece :: pieces else (c :: piece) :: pieces

/-- The length of a text in UTF-8. -/
def byteLength (cs : List Char) : Nat :=
  cs.foldl (fun n c => n + c.utf8Size) 0

/-- The text from the place `pos` on, if `cs` begins at `start`. -/
def dropTo (pos start : Nat) : List Char → List Char
  | [] => []
  | c :: rest => if start < pos then dropTo pos (start + c.utf8Size) rest else c :: rest

/-- The text up to the place `pos`, if `cs` begins at `start`. -/
def takeTo (pos start : Nat) (cs : List Char) : List Char :=
  go start [] cs
where
  /-- `before` holds the characters taken so far, the nearest first. -/
  go (start : Nat) (before : List Char) : List Char → List Char
    | [] => before.reverse
    | c :: rest =>
      if start < pos then go (start + c.utf8Size) (c :: before) rest else before.reverse

/-- The part of a text between two places, which count its bytes in UTF-8. -/
def slice (first last : Nat) (cs : List Char) : List Char :=
  takeTo last first (dropTo first 0 cs)

end BackendAudit.Text
