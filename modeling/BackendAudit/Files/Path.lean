import BackendAudit.Text.Utf8

/-!
# Paths

A path is a text of bytes, which may fail to be UTF-8.  Its pieces, between slashes,
are names; an empty piece and one dot say nothing.  A path is kept as it was given,
since findings show it that way.
-/

namespace BackendAudit.Files

/-- A name in a directory. -/
abbrev Name := List UInt8

namespace Name

/-- The name that is written as a text. -/
def ofString (s : String) : Name := Text.Utf8.encode s.toList

/-- The byte between the names of a path. -/
def slash : UInt8 := 0x2f

/-- The byte before an extension. -/
def point : UInt8 := 0x2e

/-- The name of a directory in itself. -/
def here : Name := [point]

/-- The name of the directory above. -/
def up : Name := [point, point]

/-- Whether one name comes before another or is the same, byte by byte. -/
def le (a b : Name) : Bool := decide (a ≤ b)

end Name

/-- A path as it was written. -/
structure Path where
  bytes : List UInt8
  deriving Repr, DecidableEq, Inhabited

namespace Path

/-- The path that is written as a text. -/
def ofString (s : String) : Path := ⟨Name.ofString s⟩

/-- How a path is shown. -/
def text (p : Path) : String := String.ofList (Text.Utf8.lossy p.bytes)

/-- The pieces between the slashes of a path: one more than these. -/
def pieces (bytes : List UInt8) : List Name :=
  bytes.foldr step [[]]
where
  /-- Puts a byte in front of the first piece, or a new piece in front of all. -/
  step (b : UInt8) : List Name → List Name
    | [] => [[]]
    | piece :: rest => if b = Name.slash then [] :: piece :: rest else (b :: piece) :: rest

/-- The names along a path, without the pieces that say nothing. -/
def names (p : Path) : List Name :=
  (pieces p.bytes).filter fun piece => !piece.isEmpty && piece != Name.here

/-- The name of the file that a path is for; absent when the path ends above a
directory or says nothing. -/
def fileName? (p : Path) : Option Name :=
  match p.names.getLast? with
  | none => none
  | some name => if name = Name.up then none else some name

/-- The pieces of a path without those at its end that say nothing.  The first one is kept. -/
def trimmed : List Name → List Name
  | [] => []
  | first :: rest =>
    first :: (rest.reverse.dropWhile fun piece => piece.isEmpty || piece == Name.here).reverse

/-- The part of the file name behind its last point; absent when there is no point
but at the start. -/
def extension? (p : Path) : Option Name :=
  match p.fileName? with
  | none => none
  | some name =>
    let extension := (name.reverse.takeWhile (· ≠ Name.point)).reverse
    if extension.length + 1 < name.length then some extension else none

/-- Whether a path starts from the top, and not from the current directory. -/
def isAbsolute (p : Path) : Bool := p.bytes.head? == some Name.slash

/-- The path of the directory in which a path names something: what it is without the last name,
or the current directory. -/
def parent (p : Path) : Path :=
  let above := [Name.slash].intercalate (trimmed (trimmed (pieces p.bytes)).dropLast)
  if !above.isEmpty then ⟨above⟩ else if p.isAbsolute then ⟨[Name.slash]⟩ else ⟨Name.here⟩

/-- Whether a path ends with a slash. -/
def endsWithSlash (p : Path) : Bool := p.bytes.getLast? == some Name.slash

/-- The path of what a path names below a directory. -/
def join (p q : Path) : Path :=
  if q.isAbsolute then q
  else if p.bytes.isEmpty || p.endsWithSlash then ⟨p.bytes ++ q.bytes⟩
  else ⟨p.bytes ++ Name.slash :: q.bytes⟩

/-- The path of a place below a directory, given by its names. -/
def descend (p : Path) (place : List Name) : Path :=
  place.foldl (fun p name => p.join ⟨name⟩) p

end Path
end BackendAudit.Files
