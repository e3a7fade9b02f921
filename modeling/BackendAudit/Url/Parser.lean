import BackendAudit.Url.Address
import BackendAudit.Url.Host

/-!
# Reading addresses

A text is the address of something by itself, or relative to another address, its
base.  What is read is brought into the form in which addresses are written: letters
of the scheme and the host are in lower case, segments that stand for the place
itself or for the one above are resolved, and characters are encoded.
-/

namespace BackendAudit.Url

/-! ## Parts of a text -/

/-- The characters of an address in a text, without blanks and controls around it and
without the ends of lines in it. -/
def addressChars (cs : List Char) : List Char :=
  let isBlank (c : Char) : Bool := c.toNat ≤ 0x20
  ((cs.dropWhile isBlank).reverse.dropWhile isBlank).reverse.filter fun c =>
    !(['\t', '\n', '\r'].contains c)

/-- Whether a character may stand in a scheme. -/
def isSchemeChar (c : Char) : Bool := c.isAlphanum || ['+', '-', '.'].contains c

/-- The scheme that a text begins with, and what is behind its colon. -/
def splitScheme? (cs : List Char) : Option (List Char × List Char) :=
  match cs.takeWhile isSchemeChar, cs.dropWhile isSchemeChar with
  | c :: more, ':' :: rest =>
    if c.isAlpha then some ((c :: more).map Char.toLower, rest) else none
  | _, _ => none

/-- Whether a character stands between segments. -/
def isSeparator (special : Bool) (c : Char) : Bool := c = '/' || (special && c = '\\')

/-- Whether a character is of neither the query nor the fragment, nor before one. -/
def inPath (c : Char) : Bool := c ≠ '?' && c ≠ '#'

/-- Whether a character ends what is said about who asks whom. -/
def endsAuthority (special : Bool) (c : Char) : Bool := isSeparator special c || !inPath c

/-- What is left of a text behind the slashes that it begins with, of both kinds. -/
def dropSlashes (cs : List Char) : List Char := cs.dropWhile (isSeparator true)

/-- How many slashes of both kinds a text begins with. -/
def slashCount (cs : List Char) : Nat := (cs.takeWhile (isSeparator true)).length

/-! ## Query and fragment -/

/-- The fragment in a text that begins with its mark, or has none. -/
def fragmentOf : List Char → Option (List Char)
  | '#' :: rest => some (encode fragmentSet rest)
  | _ => none

/-- An address with the query and the fragment of a text, from the end of its path. -/
def Address.readQuery (a : Address) (cs : List Char) : Address :=
  match cs with
  | '?' :: rest =>
    let set := if isSpecial a.scheme then specialQuerySet else querySet
    { a with
      query := some (encode set (rest.takeWhile (· ≠ '#')))
      fragment := fragmentOf (rest.dropWhile (· ≠ '#')) }
  | cs => { a with query := none, fragment := fragmentOf cs }

/-! ## Paths -/

/-- Whether a piece of a path stands for the place where it is. -/
def isHere (piece : List Char) : Bool :=
  [".", "%2e"].contains (String.ofList (piece.map Char.toLower))

/-- Whether a piece of a path stands for the place above. -/
def isAbove (piece : List Char) : Bool :=
  ["..", ".%2e", "%2e.", "%2e%2e"].contains (String.ofList (piece.map Char.toLower))

/-- Whether a piece of a path is the letter of a drive. -/
def isDrive : List Char → Bool
  | [c, mark] => c.isAlpha && (mark = ':' || mark = '|')
  | _ => false

/-- The segments above a place.  A drive is not left. -/
def segmentsAbove (segments : List (List Char)) : List (List Char) :=
  match segments.getLast? with
  | none => []
  | some name => if isDrive name then segments else segments.dropLast

/-- The segment for a piece.  In the first place in the address of a file, the mark of
a drive is a colon. -/
def segmentFor (isFile : Bool) (segments : List (List Char)) (piece : List Char) : List Char :=
  match piece with
  | [c, '|'] =>
    if isFile && segments.isEmpty && c.isAlpha then [c, ':'] else encode pathSet piece
  | piece => encode pathSet piece

/-- Follows pieces of a path from a place.  There is a segment behind the last slash,
even if it is empty. -/
def follow (isFile : Bool) (segments : List (List Char)) :
    List (List Char) → List (List Char)
  | [] => segments
  | piece :: rest =>
    let ending := if rest.isEmpty then [[]] else []
    if isAbove piece then follow isFile (segmentsAbove segments ++ ending) rest
    else if isHere piece then follow isFile (segments ++ ending) rest
    else follow isFile (segments ++ [segmentFor isFile segments piece]) rest

/-- The pieces of a path. -/
def pathPieces (special : Bool) (cs : List Char) : List (List Char) :=
  Text.splitAt '/' (cs.map fun c => if isSeparator special c then '/' else c)

/-- The segments without empty ones in front. -/
def withoutEmptyFront (segments : List (List Char)) : List (List Char) :=
  match segments.dropWhile List.isEmpty with
  | [] => [[]]
  | rest => rest

/-- An address with all that a text says behind a slash, from a place on. -/
def Address.readPath (a : Address) (segments : List (List Char)) (cs : List Char) : Address :=
  let isFile := a.scheme == fileScheme
  let followed := follow isFile segments (pathPieces (isSpecial a.scheme) (cs.takeWhile inPath))
  { a with path := .segments (if isFile then withoutEmptyFront followed else followed) }.readQuery
    (cs.dropWhile inPath)

/-- An address with all that a text says behind the host. -/
def Address.readBehindHost (a : Address) (cs : List Char) : Address :=
  let special := isSpecial a.scheme
  match cs with
  | [] => if special then a.readPath [] [] else { a with path := .segments [] }
  | c :: rest =>
    if isSeparator special c then a.readPath [] rest
    else if special || inPath c then a.readPath [] cs
    else { a with path := .segments [] }.readQuery cs

/-! ## Who asks whom -/

/-- Who asks, by name and password, and what is behind it. -/
def splitUser (special : Bool) (cs : List Char) :
    Except Fault (List Char × List Char × List Char) :=
  let part := cs.takeWhile fun c => !endsAuthority special c
  if !part.contains '@' then .ok ([], [], cs)
  else
    let behind := (part.reverse.takeWhile (· ≠ '@')).length
    let info := part.take (part.length - behind - 1)
    let rest := cs.drop (info.length + 1)
    if info.isEmpty && (rest.head?.any (endsAuthority special)) then .error .emptyHost
    else
      .ok (encode userSet (info.takeWhile (· ≠ ':')),
        encode userSet ((info.dropWhile (· ≠ ':')).drop 1), rest)

/-- The text of a host and what is behind it.  A colon in brackets is part of it. -/
def splitHost (special : Bool) (bracketed : Bool) : List Char → List Char × List Char
  | [] => ([], [])
  | c :: rest =>
    if (c = ':' && !bracketed) || endsAuthority special c then ([], c :: rest)
    else
      let (host, behind) := splitHost special ((bracketed || c = '[') && c ≠ ']') rest
      (c :: host, behind)

/-- The number of a port; absent if there are no digits. -/
def portNumber? (digits : List Char) : Except Fault (Option Nat) :=
  if digits.isEmpty then .ok none
  else
    match numberOf? 10 digits with
    | some n => if n < 65536 then .ok (some n) else .error .invalidPort
    | none => .error .invalidPort

/-- The port in a text that begins with its colon, or has none, and what is behind. -/
def splitPort (scheme : List Char) (cs : List Char) :
    Except Fault (Option Nat × List Char) :=
  match cs with
  | ':' :: rest => do
    let port ← portNumber? (rest.takeWhile fun c => !endsAuthority true c)
    let rest := rest.dropWhile fun c => !endsAuthority true c
    return (if port = usualPort? scheme then none else port, rest)
  | cs => .ok (none, cs)

/-- The host that a text names. -/
def namedHost (special : Bool) (cs : List Char) : Except Fault (List Char) :=
  if !special then opaqueHost cs
  else if cs.isEmpty then .error .emptyHost
  else host cs

/-- The address with a scheme and all that a text says behind two slashes. -/
def readAuthority (scheme cs : List Char) : Except Fault Address := do
  let special := isSpecial scheme
  let (user, password, rest) ← splitUser special cs
  let (hostText, rest) := splitHost special false rest
  let host ← namedHost special hostText
  if host.isEmpty && rest.head? == some ':' then throw .emptyHost
  let (port, rest) ← splitPort scheme rest
  if host.isEmpty && !(user.isEmpty && password.isEmpty) then throw .emptyHost
  return { scheme, user, password, host := some host, port, path := .plain [] : Address
    }.readBehindHost rest

/-! ## Files -/

/-- Whether the first piece of a path is a drive. -/
def beginsWithDrive (cs : List Char) : Bool :=
  isDrive (cs.takeWhile fun c => !endsAuthority true c)

/-- The address of a file on no particular host. -/
def localFile : Address :=
  { scheme := fileScheme, host := some [], path := .segments [[]] }

/-- The address of a file, from a text that begins with its host.  The computer at
hand has no name, and a drive is on no host. -/
def readFileHost (cs : List Char) : Except Fault Address := do
  if beginsWithDrive cs then return localFile.readPath [] cs
  let hostText := cs.takeWhile fun c => !endsAuthority true c
  let rest := cs.dropWhile fun c => !endsAuthority true c
  if hostText.isEmpty then return localFile.readBehindHost rest
  let host ← host hostText
  let named := String.ofList host != "localhost" && !beginsWithDrive (rest.drop 1)
  return { localFile with host := some (if named then host else []) }.readBehindHost rest

/-- The segments that a file shares with the files beside it.  A drive is shared. -/
def siblingsOf (segments : List (List Char)) : List (List Char) :=
  match segments.getLast? with
  | some [c, ':'] => if c.isAlpha then segments else segments.dropLast
  | _ => segments.dropLast

/-- The address of a file on the host and the drive of another file. -/
def readFileFrom (base : Address) (cs : List Char) : Address :=
  match base.segments with
  | name :: _ =>
    if isDrive name then { base with host := some [] }.readPath [name] cs
    else base.readPath [] cs
  | [] => base.readPath [] cs

/-- The address of a file, from the text behind the scheme.  The base is of a file. -/
def readFile (base : Option Address) (cs : List Char) : Except Fault Address :=
  match slashCount cs with
  | 0 =>
    match base with
    | none => .ok (localFile.readPath [] cs)
    | some base =>
      match cs with
      | [] => .ok base.withoutFragment
      | '?' :: _ => .ok (base.readQuery cs)
      | '#' :: _ => .ok { base with fragment := fragmentOf cs }
      | cs =>
        if beginsWithDrive cs then .ok (localFile.readPath [] cs)
        else
          .ok (base.readPath (siblingsOf base.segments) cs)
  | 1 =>
    let rest := cs.drop 1
    match base with
    | some base =>
      if beginsWithDrive rest then .ok (localFile.readPath [] rest)
      else .ok (readFileFrom base rest)
    | none => .ok (localFile.readPath [] rest)
  | _ => readFileHost (cs.drop 2)

/-! ## Addresses -/

/-- The address that a text without a scheme stands for, relative to one with segments
that is not of a file. -/
def readRelative (base : Address) (cs : List Char) : Except Fault Address :=
  match cs with
  | [] => .ok base.withoutFragment
  | '?' :: _ => .ok (base.readQuery cs)
  | '#' :: _ => .ok { base with fragment := fragmentOf cs }
  | '/' :: '/' :: rest => readAuthority base.scheme rest
  | c :: rest =>
    if !isSeparator true c then .ok (base.readPath base.segments.dropLast cs)
    else if slashCount cs < 2 then .ok (base.readPath [] rest)
    else readAuthority base.scheme (dropSlashes cs)

/-- The address with a scheme of its own, from the text behind the colon. -/
def readAbsolute (base : Option Address) (scheme cs : List Char) : Except Fault Address :=
  if scheme == fileScheme then readFile (base.filter fun b => b.scheme == fileScheme) cs
  else if isSpecial scheme then
    match base.filter fun b => b.scheme == scheme && slashCount cs < 2 with
    | some base => readRelative base cs
    | none => readAuthority scheme (dropSlashes cs)
  else
    match cs with
    | '/' :: '/' :: rest => readAuthority scheme rest
    | '/' :: rest => .ok ({ scheme, path := .plain [] : Address }.readPath [] rest)
    | cs =>
      .ok ({ scheme, path := .plain (encode [] (cs.takeWhile inPath)) : Address }.readQuery
        (cs.dropWhile inPath))

/-- The address that characters stand for. -/
def readAddress (base : Option Address) (cs : List Char) : Except Fault Address :=
  match splitScheme? cs with
  | some (scheme, rest) => readAbsolute base scheme rest
  | none =>
    match base with
    | none => .error .relative
    | some base =>
      if cs.head? = some '#' then .ok { base with fragment := fragmentOf cs }
      else if !base.isBase then .error .relativeToOpaque
      else if base.scheme == fileScheme then readFile (some base) cs
      else readRelative base cs

namespace Address

/-- The address that a text stands for by itself. -/
def ofText (s : String) : Except Fault Address := readAddress none (addressChars s.toList)

/-- The address that a text stands for, relative to another. -/
def resolve (base : Address) (s : String) : Except Fault Address :=
  readAddress (some base) (addressChars s.toList)

end Address
end BackendAudit.Url
