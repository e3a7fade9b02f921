import BackendAudit.Pattern.Syntax.Class

/-!
# Reading a pattern

The reader goes through a pattern once and keeps what is open around the place it
has come to: the items of the sequence being read, the branches before it, and
the groups around them.  A pattern that is not well formed, or that is nested
more deeply than `nestingLimit`, is refused.
-/

namespace BackendAudit.Pattern.Syntax

/-- How deeply groups, repetitions, sequences, choices and classes may be nested. -/
def nestingLimit : Nat := 250

/-- One item of a sequence. -/
structure Item where
  tree : Tree
  depth : Nat
  /-- Whether the item only sets flags, so that it cannot be repeated. -/
  isDirective : Bool
  deriving Inhabited

/-- Several parts as one: their depth is one more, unless there is only one. -/
def joinItems (join : List Tree → Tree) (items : List Item) : Item :=
  let depth := items.foldl (fun d item => max d item.depth) 0
  ⟨join (items.map (·.tree)), if items.length < 2 then depth else depth + 1, false⟩

/-- What has been read of a group. -/
structure Body where
  /-- The items of the sequence being read, the last one first. -/
  items : List Item := []
  /-- The branches before it, the last one first. -/
  branches : List Item := []
  deriving Inhabited

/-- Ends the sequence being read. -/
def Body.endBranch (b : Body) : Body :=
  ⟨[], joinItems Tree.catAll b.items.reverse :: b.branches⟩

/-- The body as one item. -/
def Body.close (b : Body) : Item :=
  joinItems Tree.altAll b.endBranch.branches.reverse

/-- What is to be read, and what is open around it. -/
structure Reader where
  flags : Flags
  body : Body := {}
  /-- The groups around the body, each with the flags to go back to. -/
  groups : List (Body × Flags) := []
  /-- The names of the groups so far. -/
  names : List (List Char) := []
  rest : List Char
  deriving Inhabited

/-- Adds an item to the sequence being read. -/
def Reader.add (r : Reader) (item : Item) (rest : List Char) : Reader :=
  { r with body := { r.body with items := item :: r.body.items }, rest }

/-! ## Repetition -/

/-- Whether a number fits the counts of repetitions. -/
def isCount (n : Nat) : Bool := n < Nat.pow 2 32

/-- Drops white space. -/
def dropWhite (cs : List Char) : List Char :=
  cs.dropWhile fun c => Unicode.isWhiteSpace c.toNat

/-- Reads decimal digits, with blanks between them where these mean nothing; also
tells whether there was any. -/
def readDigits (f : Flags) (inComment : Bool) (any : Bool) (value : Nat) :
    List Char → Bool × Nat × List Char
  | [] => (any, value, [])
  | c :: rest =>
    if f.freeSpacing && any && inComment then readDigits f (c != '\n') any value rest
    else if f.freeSpacing && any && Unicode.isWhiteSpace c.toNat then
      readDigits f false any value rest
    else if f.freeSpacing && any && c == '#' then readDigits f true any value rest
    else if c.isDigit then readDigits f false true (10 * value + (c.toNat - '0'.toNat)) rest
    else (any, value, c :: rest)

/-- Reads a count, with white space around it. -/
def readCount (f : Flags) (cs : List Char) : Option (Nat × List Char) :=
  let (any, value, rest) := readDigits f false false 0 (dropWhite cs)
  if any && isCount value then
    some (value, if f.freeSpacing then f.skipBlanks (dropWhite rest) else dropWhite rest)
  else none

/-- Reads the bounds of a counted repetition from behind its opening brace. -/
def readBounds (f : Flags) (cs : List Char) : Option (Nat × Option Nat × List Char) := do
  let (min, rest) ← readCount f (f.skipBlanks cs)
  match rest with
  | '\x7d' :: rest => some (min, some min, rest)
  | ',' :: rest =>
    match f.skipBlanks rest with
    | '\x7d' :: rest => some (min, none, rest)
    | rest =>
      let (max, rest) ← readCount f rest
      match rest with
      | '\x7d' :: rest => if min ≤ max then some (min, some max, rest) else none
      | _ => none
  | _ => none

/-- Reads the question mark that makes a repetition prefer to stop. -/
def readLazy : List Char → Bool × List Char
  | '?' :: rest => (true, rest)
  | rest => (false, rest)

/-- Repeats the last item of the sequence. -/
def Reader.repeatLast (r : Reader) (min : Nat) (max : Option Nat) (rest : List Char) :
    Option Reader :=
  match r.body.items with
  | [] => none
  | item :: items =>
    if item.isDirective then none
    else
      let (isLazy, rest) := readLazy rest
      let tree := Tree.times (isLazy == r.flags.swapGreed) min max item.tree
      some { r with
        body := { r.body with items := ⟨tree, item.depth + 1, false⟩ :: items }
        rest }

/-! ## Groups -/

/-- Whether a character can stand in the name of a group, or begin it. -/
def isNameChar (c : Char) (first : Bool) : Bool :=
  c == '_' || Unicode.isAlphabetic c.toNat ||
  (!first && (c == '.' || c == '[' || c == ']' || Unicode.isNumeric c.toNat))

/-- Reads the name of a group up to its closing angle bracket. -/
def readName (cs : List Char) : Option (List Char × List Char) :=
  let name := cs.takeWhile (· ≠ '>')
  match name, cs.drop name.length with
  | c :: tail, '>' :: rest =>
    if isNameChar c true && tail.all fun d => isNameChar d false then some (c :: tail, rest)
    else none
  | _, _ => none

/-- Opens a group in which the flags are `inner`. -/
def Reader.openGroup (r : Reader) (inner : Flags) (rest : List Char) : Reader :=
  { r with flags := inner, body := {}, groups := (r.body, r.flags) :: r.groups, rest }

/-- Opens a group with a name, which no other group may have. -/
def Reader.openNamed (r : Reader) (cs : List Char) : Option Reader := do
  let (name, rest) ← readName cs
  if r.names.contains name then none
  else some ({ r with names := name :: r.names }.openGroup r.flags rest)

/-- Reads what follows an opening parenthesis: a group, or flags for the rest of
the group that is open.  There is no way of looking around a match. -/
def Reader.readGroup (r : Reader) (cs : List Char) : Option Reader :=
  match r.flags.skipBlanks cs with
  | '?' :: '=' :: _ => none
  | '?' :: '!' :: _ => none
  | '?' :: '<' :: '=' :: _ => none
  | '?' :: '<' :: '!' :: _ => none
  | '?' :: 'P' :: '<' :: rest => r.openNamed rest
  | '?' :: '<' :: rest => r.openNamed rest
  | '?' :: rest =>
    match r.flags.read [] rest with
    | some (inner, ':' :: behind) => some (r.openGroup inner behind)
    | some (inner, ')' :: behind) =>
      if rest.head? = some ')' then none
      else some ({ r with flags := inner }.add ⟨.empty, 0, true⟩ behind)
    | _ => none
  | rest => some (r.openGroup r.flags rest)

/-- Closes the innermost group. -/
def Reader.closeGroup (r : Reader) (rest : List Char) : Option Reader :=
  match r.groups with
  | [] => none
  | (outer, flags) :: groups =>
    let inner := r.body.close
    some ({ r with flags, body := outer, groups }.add ⟨inner.tree, inner.depth + 1, false⟩ rest)

/-! ## Single items -/

/-- The step that reads one character as it is written. -/
def literalSet? (f : Flags) (c : Char) (isByte : Bool) : Option CharSet :=
  if f.unicode then some (f.fold (.ofChar c))
  else if isByte && 128 ≤ c.toNat then none
  else if c.toNat < 128 then some (f.fold (.ofChar c))
  else some (.ofChar c)

/-- What a dot reads: any character, but none that ends a line unless the flags
say so. -/
def dotSet? (f : Flags) : Option CharSet :=
  if !f.unicode then none
  else if f.dotAll then some .all
  else if f.returnEndsLine then some (.compl (.union (.ofChar '\n') (.ofChar '\r')))
  else some (.compl (.ofChar '\n'))

/-- The assertion that a caret makes. -/
def caretLook (f : Flags) : Look :=
  if !f.multiLine then .textStart
  else if f.returnEndsLine then .returnLineStart
  else .lineStart

/-- The assertion that a dollar sign makes. -/
def dollarLook (f : Flags) : Look :=
  if !f.multiLine then .textEnd
  else if f.returnEndsLine then .returnLineEnd
  else .lineEnd

/-- One step of reading: reads something, and a character at least. -/
def Reader.step (r : Reader) (c : Char) (rest : List Char) : Option Reader :=
  let set (s : Option CharSet) (rest : List Char) : Option Reader :=
    s.map fun s => r.add ⟨.one s, 0, false⟩ rest
  let look (l : Look) (rest : List Char) : Option Reader := some (r.add ⟨.look l, 0, false⟩ rest)
  match c with
  | '(' => r.readGroup rest
  | ')' => r.closeGroup rest
  | '|' => some { r with body := r.body.endBranch, rest }
  | '[' =>
    match readClass r.flags rest with
    | some (s, depth, rest) => some (r.add ⟨.one s, depth, false⟩ rest)
    | none => none
  | '?' => r.repeatLast 0 (some 1) rest
  | '*' => r.repeatLast 0 none rest
  | '+' => r.repeatLast 1 none rest
  | '\x7b' =>
    match readBounds r.flags rest with
    | some (min, max, rest) => r.repeatLast min max (r.flags.skipBlanks rest)
    | none => none
  | '\\' =>
    match readEscape r.flags rest with
    | some (.literal c isByte, rest) => set (literalSet? r.flags c isByte) rest
    | some (.set s, rest) => set (some s) rest
    | some (.look l, rest) => look l rest
    | none => none
  | '.' => set (dotSet? r.flags) rest
  | '^' => look (caretLook r.flags) rest
  | '$' => look (dollarLook r.flags) rest
  | c => set (literalSet? r.flags c false) rest

/-- Reads step by step up to the end of the pattern.  Each step reads a character
at least, so their number is bounded by its length. -/
def Reader.steps : Nat → Reader → Option Reader
  | 0, _ => none
  | fuel + 1, r =>
    match r.flags.skipBlanks r.rest with
    | [] => some r
    | c :: rest =>
      match r.step c rest with
      | some r => steps fuel r
      | none => none

/-- Reads a pattern under the given flags. -/
def parse (flags : Flags) (pattern : List Char) : Option Tree := do
  let r ← Reader.steps (pattern.length + 1) { flags, rest := pattern }
  match r.groups with
  | [] =>
    let whole := r.body.close
    if whole.depth ≤ nestingLimit then some whole.tree else none
  | _ => none

end BackendAudit.Pattern.Syntax
