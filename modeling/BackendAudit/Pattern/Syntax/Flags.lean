import BackendAudit.Pattern.Tree

/-!
# Flags

A pattern is read under flags, which it can change from within: for the rest of
a group, as in `(?i)`, or for one group, as in `(?i:…)`.
-/

namespace BackendAudit.Pattern.Syntax

/-- The flags that a pattern is read under. -/
structure Flags where
  /-- `i`: a character stands for all its case variants. -/
  ignoreCase : Bool := false
  /-- `m`: `^` and `$` hold at the ends of lines. -/
  multiLine : Bool := false
  /-- `s`: a dot reads line feeds as well. -/
  dotAll : Bool := false
  /-- `U`: repetitions prefer to stop, and those marked with `?` to go on. -/
  swapGreed : Bool := false
  /-- `u`: classes range over all of Unicode, not over ASCII. -/
  unicode : Bool := true
  /-- `x`: blanks and comments in the pattern mean nothing. -/
  freeSpacing : Bool := false
  /-- `R`: a carriage return ends lines as well. -/
  returnEndsLine : Bool := false
  deriving Repr, DecidableEq, Inhabited

/-- The flags that the rules of this library are read under. -/
def Flags.ofRules : Flags := { ignoreCase := true, multiLine := true }

/-- Sets the flag that a letter names; absent for any other letter. -/
def Flags.set? (f : Flags) (letter : Char) (value : Bool) : Option Flags :=
  match letter with
  | 'i' => some { f with ignoreCase := value }
  | 'm' => some { f with multiLine := value }
  | 's' => some { f with dotAll := value }
  | 'U' => some { f with swapGreed := value }
  | 'u' => some { f with unicode := value }
  | 'x' => some { f with freeSpacing := value }
  | 'R' => some { f with returnEndsLine := value }
  | _ => none

/-- Reads the flags of a group up to the `:` or `)` behind them, and returns the
rest from there on.  A flag, or the sign `-`, must not stand twice, and the sign
must be followed by a flag.  `seen` holds what has been read so far, the last one
first. -/
def Flags.read (f : Flags) (seen : List Char) : List Char → Option (Flags × List Char)
  | [] => none
  | c :: rest =>
    if c = ':' ∨ c = ')' then
      if seen.head? = some '-' then none else some (f, c :: rest)
    else if seen.contains c then none
    else if c = '-' then f.read (c :: seen) rest
    else match f.set? c (!seen.contains '-') with
      | some f => f.read (c :: seen) rest
      | none => none

/-- Drops blanks and comments if the flags say that they mean nothing. -/
def Flags.skipBlanks (f : Flags) (cs : List Char) : List Char :=
  if f.freeSpacing then go false cs else cs
where
  /-- A comment goes from a number sign to the end of its line. -/
  go (inComment : Bool) : List Char → List Char
    | [] => []
    | c :: rest =>
      if inComment then go (c != '\n') rest
      else if Unicode.isWhiteSpace c.toNat then go false rest
      else if c = '#' then go true rest
      else c :: rest

end BackendAudit.Pattern.Syntax
