import BackendAudit.Pattern.Search
import BackendAudit.Pattern.Syntax.Parser
import BackendAudit.Wording

/-!
# Patterns

A pattern is the text of a regular expression together with its automaton.  It
exists only for texts that are well formed and whose program is not too large.
-/

namespace BackendAudit

/-- Why a text is not accepted as a pattern. -/
inductive PatternError where
  | malformed (source : String)
  | tooLarge
  deriving Repr, DecidableEq, Inhabited

namespace Pattern

/-- The most bytes that the program of a pattern may take. -/
def sizeLimit : Nat := 1048576

end Pattern

/-- The wording of an error. -/
def PatternError.message (w : Wording) : PatternError → String
  | malformed source => w.pattern source
  | tooLarge => "Compiled regex exceeds size limit of " ++ toString Pattern.sizeLimit ++ " bytes."

/-- A regular expression with its text and its automaton. -/
structure Pattern where
  source : String
  expr : Pattern.Expr Pattern.CharSet
  automaton : Pattern.Automaton
  /-- The automaton is that of the expression. -/
  automaton_eq : automaton = .ofExpr expr

namespace Pattern

/-- The pattern of an expression. -/
def ofExpr (source : String) (expr : Expr CharSet) : Pattern :=
  ⟨source, expr, .ofExpr expr, rfl⟩

instance : Inhabited Pattern := ⟨ofExpr "" .empty⟩

/-- Reads a pattern under the given flags. -/
def compileWith (flags : Syntax.Flags) (source : String) : Except PatternError Pattern :=
  match Syntax.parse flags source.toList with
  | none => .error (.malformed source)
  | some tree =>
    if sizeLimit < tree.programSize then .error .tooLarge
    else .ok (ofExpr source tree.toExpr)

/-- Reads a pattern of a rule: case is ignored, and `^` and `$` hold at the ends
of lines. -/
def compile (source : String) : Except PatternError Pattern :=
  compileWith .ofRules source

/-- All matches in a text, in order and without overlap. -/
def findAll (p : Pattern) (text : List Char) : List (Nat × Nat) :=
  p.automaton.findAll text

/-- Whether there is a match in a text. -/
def isMatch (p : Pattern) (text : List Char) : Bool :=
  p.automaton.isMatch text

end Pattern
end BackendAudit
