import BackendAudit.Unicode.Property

/-!
# Blanks

White space of any script, and texts without the white space at their ends.
-/

namespace BackendAudit.Text

/-- Whether a character is white space. -/
def isBlank (c : Char) : Bool :=
  Unicode.isWhiteSpace c.toNat

/-- A text without the blanks at its start. -/
def trimStart (cs : List Char) : List Char :=
  cs.dropWhile isBlank

/-- A text without the blanks at its end. -/
def trimEnd (cs : List Char) : List Char :=
  (cs.reverse.dropWhile isBlank).reverse

/-- A text without the blanks at its ends. -/
def trim (cs : List Char) : List Char :=
  trimEnd (trimStart cs)

end BackendAudit.Text
