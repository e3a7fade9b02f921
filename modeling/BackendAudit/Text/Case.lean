import BackendAudit.Unicode.Property

/-!
# Texts in lower and upper case

The full case mapping of Unicode: each character is replaced by its form, which
can be several characters.  A capital sigma at the end of a word becomes the
final sigma.
-/

namespace BackendAudit.Text

open Unicode

/-- Whether the first character that case mapping does not pass over is cased. -/
def leadsToCased (cs : List Char) : Bool :=
  match cs.dropWhile fun c => isCaseIgnorable c.toNat with
  | c :: _ => isCased c.toNat
  | [] => false

/-- A text in lower case. -/
def lowercase (cs : List Char) : List Char :=
  go [] [] cs
where
  /-- `before` holds the characters in front and `done` their forms, both with the
  nearest first. -/
  go (before done : List Char) : List Char → List Char
    | [] => done.reverse
    | c :: rest =>
      let form :=
        if c = 'Σ' then
          if leadsToCased before && !leadsToCased rest then ['ς'] else ['σ']
        else lowerForm c
      go (c :: before) (form.reverse ++ done) rest

/-- A text in upper case. -/
def uppercase (cs : List Char) : List Char :=
  cs.flatMap upperForm

end BackendAudit.Text
