import BackendAudit.Finding
import BackendAudit.Text.Pieces

/-!
# Environment files

An environment file assigns values to keys, one to a line.  A key whose name tells
that it holds a secret should have a long value.  A finding names the kind of the
secret and never its value.
-/

namespace BackendAudit

/-- A kind of secret. -/
structure SecretKind where
  /-- The part of an upper-case key that tells this kind. -/
  marker : String
  label : String
  /-- A value with fewer characters is weak. -/
  minLength : Nat
  deriving Repr, DecidableEq, Inhabited

/-- The kinds of secrets; the first one whose marker a key holds counts. -/
def secretKinds : List SecretKind :=
  [⟨"PASSWORD", "password", 21⟩, ⟨"API_KEY", "api key", 33⟩, ⟨"SECRET", "secret", 33⟩]

namespace Env

/-- What a text begins with, taken off. -/
def dropLeading (part cs : List Char) : List Char :=
  if part.isPrefixOf cs then cs.drop part.length else cs

/-- The value that is written behind an equals sign: what stands between quotes,
up to the end if they are not closed, or what stands before a comment. -/
def valueOf (raw : List Char) : List Char :=
  match Text.trim raw with
  | [] => []
  | c :: rest =>
    if c = '"' ∨ c = '\'' then rest.takeWhile (· ≠ c)
    else match Text.splitOnce " #".toList (c :: rest) with
      | some (value, _) => Text.trimEnd value
      | none => c :: rest

/-- The key and the value of a line, if it is an assignment. -/
def assignment? (line : List Char) : Option (List Char × List Char) :=
  match Text.trim line with
  | [] => none
  | '#' :: _ => none
  | line =>
    match Text.splitOnce ['='] (dropLeading "export ".toList line) with
    | none => none
    | some (key, raw) =>
      let key := Text.trim key
      if key.isEmpty then none else some (key, valueOf raw)

/-- The kind of the secret that a key holds. -/
def secretKind? (key : List Char) : Option SecretKind :=
  let key := Text.uppercase key
  secretKinds.find? fun k => Text.contains k.marker.toList key

/-- The weak secret that a line assigns, if it does. -/
def weakSecret? (line : List Char) : Option SecretKind :=
  match assignment? line with
  | none => none
  | some (key, value) =>
    match secretKind? key with
    | none => none
    | some kind => if 0 < value.length ∧ value.length < kind.minLength then some kind else none

/-- The finding of a weak secret on a line. -/
def finding (target : String) (line : Nat) (kind : SecretKind) : Finding where
  severity := .high
  category := .security
  location := ⟨target, line⟩
  description := "Weak or short secret detected in environment file"
  recommendation := "Use strong, randomly generated secrets"
  snippet := "weak " ++ kind.label ++ " value"

/-- The findings of an environment file: one for each weak secret. -/
def check (target : String) (content : String) : List Finding :=
  (Text.splitAt '\n' content.toList).zipIdx.filterMap fun (line, i) =>
    (weakSecret? line).map (finding target (i + 1))

end Env
end BackendAudit
