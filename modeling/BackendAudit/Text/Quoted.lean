import BackendAudit.Unicode.Property

/-!
# Quoted texts

A text in double quotes that hides nothing: what cannot be seen is written as an
escape with the number of the character.
-/

namespace BackendAudit.Text

open BackendAudit.Unicode (inCategories isGraphemeExtend)

/-- Whether a character can be seen by itself. -/
def isVisible (c : Char) : Bool :=
  c == ' ' ||
  !(inCategories [.control, .format, .surrogate, .privateUse, .unassigned, .lineSeparator,
      .paragraphSeparator, .spaceSeparator] c.toNat || isGraphemeExtend c.toNat)

/-- A character inside a quoted text. -/
def escapeQuoted (c : Char) : List Char :=
  match c with
  | '\x00' => ['\\', '0']
  | '\t' => ['\\', 't']
  | '\n' => ['\\', 'n']
  | '\r' => ['\\', 'r']
  | '"' => ['\\', '"']
  | '\\' => ['\\', '\\']
  | c => if isVisible c then [c] else "\\u\x7b".toList ++ Nat.toDigits 16 c.toNat ++ ['\x7d']

/-- A text in quotes. -/
def quoted (s : String) : String :=
  String.ofList ('"' :: s.toList.flatMap escapeQuoted ++ ['"'])

end BackendAudit.Text
