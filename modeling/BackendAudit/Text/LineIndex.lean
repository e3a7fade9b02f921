import BackendAudit.Text.Pieces
import BackendAudit.Unicode.Table

/-!
# Lines by place

The lines of a content are the pieces between its line feeds, counted from one.
An index of them has the places at which they start, a place being given by the
length in UTF-8 of what is before it.  So it tells on which line a place lies, and
between which places of the content the text of a line stands.
-/

namespace BackendAudit

/-- Where the lines of a content start. -/
structure LineIndex where
  starts : Array Nat
  deriving Inhabited

namespace LineIndex

/-- The places at which the lines of a content start: the first place, and those
behind the line feeds. -/
def startsOf (content : List Char) : Array Nat :=
  (content.foldl step (0, #[0])).2
where
  /-- Goes past a character, at the place that is the first component. -/
  step (s : Nat × Array Nat) (c : Char) : Nat × Array Nat :=
    let next := s.1 + c.utf8Size
    (next, if c = '\n' then s.2.push next else s.2)

/-- The index of a content. -/
def ofContent (content : List Char) : LineIndex := ⟨startsOf content⟩

/-- The line that a place lies on: one more than the line feeds before it. -/
def lineOf (index : LineIndex) (place : Nat) : Nat :=
  countLeading index.starts fun start => start ≤ place

/-- Where a line begins and ends: from its start up to the byte in front of the next start, or
to the end of the content.  Absent when there is no line of that number. -/
def bounds? (index : LineIndex) (content : List Char) : Nat → Option (Nat × Nat)
  | 0 => none
  | n + 1 => index.starts[n]?.map fun first =>
    (first, (index.starts[n + 1]?.map fun next => next - 1).getD (Text.byteLength content))

/-- The text of a line, without the line feed; absent when there is no line of that number. -/
def lineText? (index : LineIndex) (content : List Char) (line : Nat) : Option (List Char) :=
  (index.bounds? content line).map fun (first, last) => Text.slice first last content

end LineIndex
end BackendAudit
