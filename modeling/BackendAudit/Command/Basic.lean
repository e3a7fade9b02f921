import BackendAudit.Command.Arguments
import BackendAudit.Config.Load

/-!
# Commands

What can be asked for from outside: a scan with a report, the list of the built-in
rules, or a file to begin a configuration with.
-/

namespace BackendAudit

/-- What is asked of a scan. -/
structure ScanRequest where
  root : Files.Path := .ofString "."
  options : Options := {}
  /-- The name of the format of the report. -/
  format : String := "text"
  /-- The file of the report, if it is not the one of the configuration. -/
  report : Option Files.Path := none
  deriving Repr, DecidableEq, Inhabited

/-- What is asked of the list of rules. -/
structure RuleListRequest where
  /-- The name of the format of the list. -/
  format : String := "table"
  /-- The name of the only category to be listed. -/
  category : Option String := none
  deriving Repr, DecidableEq, Inhabited

/-- A command. -/
inductive Command where
  | scan (request : ScanRequest)
  | listRules (request : RuleListRequest)
  /-- Creates a configuration, in place of an old one if it is forced. -/
  | createConfig (force : Bool)
  | showVersion
  | showHelp
  deriving Repr, DecidableEq, Inhabited

namespace Command

/-! ## Usage -/

/-- What a scan can be given. -/
def scanUsage : Usage where
  switches := [⟨"config", some 'c', .path⟩, ⟨"format", some 'f', .text⟩,
    ⟨"output", some 'o', .path⟩, ⟨"probe", none, .flag⟩, ⟨"verbose", some 'v', .repeatedFlag⟩]
  operands := 1

/-- What the list of rules can be given. -/
def listUsage : Usage where
  switches := [⟨"format", some 'f', .text⟩, ⟨"category", none, .text⟩]

/-- What the command that creates a configuration can be given. -/
def initUsage : Usage where
  switches := [⟨"force", none, .flag⟩]

/-- The command that is asked for by what is given; absent if that cannot be given. -/
def ofReading? (make : Given → Command) : Reading → Option Command
  | .given g => some (make g)
  | .help => some .showHelp
  | .misuse => none

/-- What is asked of a scan that is given this. -/
def scanRequest (g : Given) : ScanRequest :=
  let standard : ScanRequest := {}
  { root := (g.operands.head?.map Files.Path.ofString).getD standard.root
    options :=
      { configPath := (g.value? "config").map Files.Path.ofString, probe := g.has "probe" }
    format := (g.value? "format").getD standard.format
    report := (g.value? "output").map Files.Path.ofString }

/-- What is asked of a list of rules that is given this. -/
def ruleListRequest (g : Given) : RuleListRequest :=
  let standard : RuleListRequest := {}
  { format := (g.value? "format").getD standard.format, category := g.value? "category" }

/-! ## Names -/

/-- Whether all names that help is asked for are names of commands. -/
def hasHelpFor : List String → Bool
  | [] => true
  | [name] => ["scan", "list-rules", "init", helpName].contains name
  | _ => false

/-- The command that arguments ask for; absent if they cannot be read. -/
def ofArguments? : List String → Option Command
  | [] => none
  | name :: rest =>
    match name with
    | "scan" => ofReading? (.scan ∘ scanRequest) (scanUsage.read rest)
    | "list-rules" => ofReading? (.listRules ∘ ruleListRequest) (listUsage.read rest)
    | "init" => ofReading? (fun g => .createConfig (g.has "force")) (initUsage.read rest)
    | "help" => if hasHelpFor rest then some .showHelp else none
    | "--help" => some .showHelp
    | "--version" => some .showVersion
    | name =>
      match name.toList with
      | '-' :: 'h' :: _ => some .showHelp
      | '-' :: 'V' :: _ => some .showVersion
      | _ => none

end Command
end BackendAudit
