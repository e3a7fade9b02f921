import BackendAudit.Number.Shortest
import BackendAudit.Url.Percent

/-!
# Addresses

The address of something on the net, in parts: a scheme, who asks whom, a path, a
query and a fragment.  Every part is kept in the form in which it is written, so an
address has one text.
-/

namespace BackendAudit.Url

/-- What is behind the host of an address. -/
inductive AddressPath where
  /-- A text without parts. -/
  | plain (text : List Char)
  /-- Segments, each behind a slash. -/
  | segments (names : List (List Char))
  deriving Repr, DecidableEq, Inhabited

/-- An address. -/
structure Address where
  scheme : List Char
  user : List Char := []
  password : List Char := []
  /-- Absent in an address that says nothing about a host; an empty one is a host. -/
  host : Option (List Char) := none
  /-- Absent if it is the usual one of the scheme. -/
  port : Option Nat := none
  path : AddressPath
  query : Option (List Char) := none
  fragment : Option (List Char) := none
  deriving Repr, DecidableEq, Inhabited

/-! ## Schemes -/

/-- The scheme of addresses of files. -/
def fileScheme : List Char := "file".toList

/-- The usual port of a special scheme other than that of files. -/
def usualPort? (scheme : List Char) : Option Nat :=
  [("http", 80), ("ws", 80), ("https", 443), ("wss", 443), ("ftp", 21)].lookup
    (String.ofList scheme)

/-- Whether addresses of a scheme have hosts and paths of the common form. -/
def isSpecial (scheme : List Char) : Bool :=
  scheme == fileScheme || (usualPort? scheme).isSome

namespace Address

/-! ## Text -/

/-- Who asks, with a mark behind. -/
def userText (a : Address) : List Char :=
  if a.user.isEmpty && a.password.isEmpty then []
  else a.user ++ (if a.password.isEmpty then [] else ':' :: a.password) ++ ['@']

/-- The port, with a colon in front. -/
def portText (a : Address) : List Char :=
  match a.port with
  | none => []
  | some n => ':' :: Number.decimalDigits n

/-- Who asks whom, behind two slashes. -/
def authorityText (a : Address) : List Char :=
  match a.host with
  | none => []
  | some host => '/' :: '/' :: a.userText ++ host ++ a.portText

/-- The path.  Without a host, a first segment that is empty has a segment of one
point in front of it, as it would be taken for a host otherwise. -/
def pathText (a : Address) : List Char :=
  match a.path with
  | .plain text => text
  | .segments names =>
    let text := names.flatMap ('/' :: ·)
    match a.host, names with
    | none, [] :: _ :: _ => '/' :: '.' :: text
    | _, _ => text

/-- A part that may be absent, with a mark in front. -/
def markedText (mark : Char) : Option (List Char) → List Char
  | none => []
  | some text => mark :: text

/-- The characters of an address. -/
def chars (a : Address) : List Char :=
  a.scheme ++ ':' :: a.authorityText ++ a.pathText ++ markedText '?' a.query ++
    markedText '#' a.fragment

/-- The text of an address. -/
def text (a : Address) : String := String.ofList a.chars

/-! ## Parts -/

/-- Whether an address says on which host its target is. -/
def hasHost (a : Address) : Bool :=
  match a.host with
  | none => false
  | some host => !host.isEmpty

/-- The segments of the path; none if it has no parts. -/
def segments (a : Address) : List (List Char) :=
  match a.path with
  | .plain _ => []
  | .segments names => names

/-- Whether an address can be taken relative to this one. -/
def isBase (a : Address) : Bool :=
  match a.path with
  | .plain _ => false
  | .segments _ => true

/-- An address without a fragment. -/
def withoutFragment (a : Address) : Address := { a with fragment := none }

/-- An address with a field of a form added to its query. -/
def addField (name value : List Char) (a : Address) : Address :=
  let field := encodeForm name ++ '=' :: encodeForm value
  { a with query := some (match a.query with
      | none => field
      | some [] => field
      | some query => query ++ '&' :: field) }

/-- An address that does not say who asks, if what it says can be read. -/
def withoutUser (a : Address) : Address :=
  let readable (part : List Char) : Bool :=
    (Text.Utf8.decode (decode (Text.Utf8.encode part))).isOk
  if readable a.user && (!a.user.isEmpty || readable a.password) then
    { a with user := [], password := [] }
  else a

end Address
end BackendAudit.Url
