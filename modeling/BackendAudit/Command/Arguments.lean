import BackendAudit.Text.Pieces

/-!
# Arguments of a command

A command is given switches and operands in any order.  A switch has a name, which is
behind two hyphens, and may have a letter, which is behind one and can be followed by
other letters.  The value of a switch is the next argument, or is in the same one:
behind an equals sign, or directly behind the letter.  All arguments behind a pair of
hyphens are operands.  The first argument that cannot be read, or that asks for help,
decides.
-/

namespace BackendAudit.Command

/-- How a switch is used. -/
inductive SwitchKind where
  /-- It has no value, and is given once. -/
  | flag
  /-- It has no value, and may be given often. -/
  | repeatedFlag
  /-- It has any text as its value, and is given once. -/
  | text
  /-- It has a text as its value that is not empty, and is given once. -/
  | path
  deriving Repr, DecidableEq, Inhabited

/-- A switch of a command. -/
structure Switch where
  name : String
  letter : Option Char := none
  kind : SwitchKind
  deriving Repr, DecidableEq, Inhabited

/-- Whether a switch has a value. -/
def Switch.takesValue (s : Switch) : Bool := s.kind == .text || s.kind == .path

/-- What a command is given: its switches by name, with their values, and its
operands. -/
structure Given where
  switches : List (String × String) := []
  operands : List String := []
  deriving Repr, DecidableEq, Inhabited

namespace Given

/-- One more switch, if it may be given. -/
def addSwitch (g : Given) (s : Switch) (value : String) : Option Given :=
  let again := s.kind != .repeatedFlag && g.switches.any fun given => given.1 == s.name
  if again || (s.kind == .path && value.isEmpty) then none
  else some { g with switches := g.switches ++ [(s.name, value)] }

/-- One more operand, if there may be one.  Operands are paths. -/
def addOperand (g : Given) (limit : Nat) (operand : String) : Option Given :=
  if g.operands.length < limit && !operand.isEmpty then
    some { g with operands := g.operands ++ [operand] }
  else none

/-- The value of a switch, if it is given. -/
def value? (g : Given) (name : String) : Option String := g.switches.lookup name

/-- Whether a switch is given. -/
def has (g : Given) (name : String) : Bool := (g.value? name).isSome

/-- How often a switch is given. -/
def count (g : Given) (name : String) : Nat :=
  g.switches.countP fun given => given.1 == name

end Given

/-- What a command can be given. -/
structure Usage where
  switches : List Switch
  /-- How many operands there may be. -/
  operands : Nat := 0
  deriving Repr, DecidableEq, Inhabited

/-- What comes of one argument. -/
inductive Step where
  | done (g : Given)
  /-- The next argument is the value of a switch. -/
  | wants (s : Switch) (g : Given)
  | help
  | misuse
  deriving Repr, DecidableEq, Inhabited

/-- What comes of all arguments. -/
inductive Reading where
  | given (g : Given)
  | help
  | misuse
  deriving Repr, DecidableEq, Inhabited

/-- The name and the letter of the switch that asks for help. -/
def helpName : String := "help"
def helpLetter : Char := 'h'

/-- A step to what is given, if it may be. -/
def Step.ofGiven? : Option Given → Step
  | some g => .done g
  | none => .misuse

/-- Whether an argument is no value and no operand. -/
def isSwitchLike (arg : String) : Bool :=
  match arg.toList with
  | '-' :: _ :: _ => true
  | _ => false

namespace Usage

/-- Reads the letters behind a hyphen. -/
def readLetters (u : Usage) (g : Given) : List Char → Step
  | [] => .done g
  | c :: rest =>
    if c = helpLetter then .help
    else
      match u.switches.find? fun s => s.letter == some c with
      | none => .misuse
      | some s =>
        if s.takesValue then
          match rest with
          | [] => .wants s g
          | '=' :: value => .ofGiven? (g.addSwitch s (String.ofList value))
          | value => .ofGiven? (g.addSwitch s (String.ofList value))
        else
          match g.addSwitch s "" with
          | none => .misuse
          | some g => readLetters u g rest

/-- Reads the name behind two hyphens, which may have a value behind it. -/
def readName (u : Usage) (g : Given) (cs : List Char) : Step :=
  let (name, value?) :=
    match Text.splitOnce ['='] cs with
    | some (name, value) => (String.ofList name, some (String.ofList value))
    | none => (String.ofList cs, none)
  if name = helpName then (if value?.isSome then .misuse else .help)
  else
    match u.switches.find? fun s => s.name == name with
    | none => .misuse
    | some s =>
      match s.takesValue, value? with
      | true, none => .wants s g
      | true, some value => .ofGiven? (g.addSwitch s value)
      | false, none => .ofGiven? (g.addSwitch s "")
      | false, some _ => .misuse

/-- Reads one argument. -/
def readOne (u : Usage) (g : Given) (arg : String) : Step :=
  match arg.toList with
  | '-' :: '-' :: name => u.readName g name
  | '-' :: c :: rest => u.readLetters g (c :: rest)
  | _ => .ofGiven? (g.addOperand u.operands arg)

/-- Reads all arguments, behind those that are given already. -/
def readFrom (u : Usage) (g : Given) : List String → Reading
  | [] => .given g
  | arg :: rest =>
    if arg = "--" then
      match rest.foldlM (fun g operand => g.addOperand u.operands operand) g with
      | some g => .given g
      | none => .misuse
    else
      match u.readOne g arg with
      | .help => .help
      | .misuse => .misuse
      | .done g => readFrom u g rest
      | .wants s g =>
        match rest with
        | [] => .misuse
        | value :: rest =>
          if isSwitchLike value then .misuse
          else
            match g.addSwitch s value with
            | none => .misuse
            | some g => readFrom u g rest

/-- Reads all arguments. -/
def read (u : Usage) (args : List String) : Reading := u.readFrom {} args

end Usage
end BackendAudit.Command
