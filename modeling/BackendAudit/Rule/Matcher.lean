import BackendAudit.Pattern.Basic
import BackendAudit.Text.Pieces

/-!
# Matchers

A matcher finds the places at which one pattern matches.  A guard takes the part
of a negative condition on what follows: a match is dropped when the guard's own
pattern occurs in a window that starts with the match.

The matches of the guard are found once for the whole content.  Since they do
not overlap, the first that starts in a window is also the first to end, so that
each match needs only two searches by halving.
-/

namespace BackendAudit

/-- The part of the content that a guard looks at, starting at the match. -/
inductive Window where
  /-- The line of the match and as many lines more.  The number of a line is a
  machine word, and adding to it wraps around. -/
  | lines (extra : UInt64)
  /-- Everything up to the end of the content. -/
  | rest
  deriving Repr, DecidableEq, Inhabited

/-- A pattern that drops a match when it occurs in the window of the match. -/
structure Guard where
  pattern : Pattern
  window : Window
  deriving Inhabited

/-- Why a matcher is not accepted. -/
inductive MatcherError where
  | pattern (e : PatternError)
  /-- The pattern matches the empty text, so that it would match everywhere. -/
  | matchesEmpty (source : String)
  deriving Repr, DecidableEq, Inhabited

/-- The wording of an error. -/
def MatcherError.message (w : Wording) : MatcherError → String
  | pattern e => e.message w
  | matchesEmpty source => "pattern '" ++ source ++ "' matches the empty string"

/-- A pattern that does not match the empty text, and perhaps a guard. -/
structure Matcher where
  pattern : Pattern
  guard : Option Guard
  isMatch_nil : pattern.isMatch [] = false

namespace Matcher

/-- The matcher without guard for the text of a pattern. -/
def compile (source : String) : Except MatcherError Matcher :=
  match Pattern.compile source with
  | .error e => .error (.pattern e)
  | .ok p =>
    if h : p.isMatch [] = false then .ok ⟨p, none, h⟩
    else .error (.matchesEmpty source)

/-- The matcher with a guard put on it. -/
def withGuard (m : Matcher) (source : String) (window : Window) : Except MatcherError Matcher :=
  match Pattern.compile source with
  | .error e => .error (.pattern e)
  | .ok p => .ok { m with guard := some ⟨p, window⟩ }

end Matcher

/-! ## Guards on a content -/

/-- Where a guard matches in one content. -/
structure GuardHits where
  window : Window
  /-- The matches of the guard, in order and without overlap. -/
  hits : Array (Nat × Nat)
  /-- The places of the line feeds. -/
  lineFeeds : Array Nat
  /-- The place at the end of the content. -/
  length : Nat
  deriving Inhabited

namespace GuardHits

/-- The places of the line feeds of a content. -/
def lineFeedsOf (content : List Char) : Array Nat :=
  (content.foldl step (0, #[])).2
where
  /-- Goes past a character, at the place that is the first component. -/
  step (s : Nat × Array Nat) (c : Char) : Nat × Array Nat :=
    (s.1 + c.utf8Size, if c = '\n' then s.2.push s.1 else s.2)

/-- Finds the matches of a guard. -/
def locate (g : Guard) (content : List Char) : GuardHits :=
  ⟨g.window, (g.pattern.findAll content).toArray, lineFeedsOf content, Text.byteLength content⟩

/-- Where the window of a match that starts at `start` ends: behind the line feed
of its last line, or at the end of the content if there is none. -/
def windowEnd (g : GuardHits) (start : Nat) : Nat :=
  match g.window with
  | .rest => g.length
  | .lines extra =>
    let line := UInt64.ofNat (countLeading g.lineFeeds fun p => p < start)
    match g.lineFeeds[(line + extra).toNat]? with
    | some p => p + 1
    | none => g.length

/-- Whether the guard matches in the window of a match that starts at `start`. -/
def covers (g : GuardHits) (start : Nat) : Bool :=
  match g.hits[countLeading g.hits fun hit => hit.1 < start]? with
  | some hit => hit.2 ≤ g.windowEnd start
  | none => false

end GuardHits

/-- The matches of a matcher in a content, without those that its guard drops. -/
def Matcher.findAll (m : Matcher) (content : List Char) : List (Nat × Nat) :=
  let found := m.pattern.findAll content
  match m.guard with
  | none => found
  | some g =>
    let hits := GuardHits.locate g content
    found.filter fun span => !hits.covers span.1

end BackendAudit
