import Shapewright.Command.Usage

/-!
# Command lines

A command line names a command; options and operands follow in any order.  The value of an option is
the next argument, whatever it looks like, or stands behind an equals sign.  Behind two hyphens all
is an operand.
-/

namespace Shapewright.Command

/-- The commands. -/
inductive Verb where
  | version
  | generate
  | preview
  | showConfig
  | configSchema
deriving DecidableEq

/-- An option as it is given. -/
inductive Choice where
  | outDir (path : Text)
  | config (path : Text)
  | pretty (on : Bool)
  | help
deriving DecidableEq

/-- An option of a command: it takes a value, or it is a choice by itself. -/
inductive OptionForm where
  | value (choose : Text → Choice)
  | flag (choice : Choice)

/-- The options and operands that are given, in order. -/
structure Arguments where
  choices : List Choice
  operands : List Text
deriving DecidableEq

/-- What a command line asks for: a command, or help. -/
inductive Request where
  | help
  | command (verb : Verb) (arguments : Arguments)
deriving DecidableEq

namespace Verb

/-- All commands. -/
def all : List Verb := [.version, .generate, .preview, .showConfig, .configSchema]

/-- The word for a command. -/
def name : Verb → Text
  | .version => "version"
  | .generate => "generate"
  | .preview => "preview"
  | .showConfig => "show-config"
  | .configSchema => "config-schema"

/-- The command that a word stands for. -/
def ofName? (word : Text) : Option Verb := all.find? fun verb => verb.name = word

/-- The options of a command with their names. -/
def options : Verb → List (String × OptionForm)
  | .version => [("--help", .flag .help)]
  | .generate =>
    [("--out-dir", .value .outDir), ("--config", .value .config), ("--help", .flag .help)]
  | .preview =>
    [("--pretty", .flag (.pretty true)), ("--no-pretty", .flag (.pretty false)),
      ("--config", .value .config), ("--help", .flag .help)]
  | .showConfig => [("--config", .value .config), ("--help", .flag .help)]
  | .configSchema =>
    [("--pretty", .flag (.pretty true)), ("--no-pretty", .flag (.pretty false)),
      ("--help", .flag .help)]

/-- The option of a command with a name. -/
def option? (verb : Verb) (name : Text) : Option OptionForm :=
  (verb.options.find? fun option => Text.ofString option.1 = name).map (·.2)

end Verb

namespace Arguments

/-- Whether an argument is meant as an option. -/
def isOption : Text → Bool
  | .char '-' :: _ :: _ => true
  | _ => false

/-- The name of an option, and its value if it stands behind an equals sign. -/
def splitOption (argument : Text) : Text × Option Text :=
  match argument.span (· != .char '=') with
  | (name, _ :: value) => (name, some value)
  | (name, []) => (name, none)

/-- Arguments with a choice in front. -/
def choose (choice : Choice) (arguments : Arguments) : Arguments :=
  { arguments with choices := choice :: arguments.choices }

/-- Arguments with an operand in front. -/
def operate (operand : Text) (arguments : Arguments) : Arguments :=
  { arguments with operands := operand :: arguments.operands }

/-- The options and operands of a command. -/
def read (verb : Verb) : List Text → Except UsageError Arguments
  | [] => .ok ⟨[], []⟩
  | argument :: rest =>
    if argument = Text.ofString "--" then .ok ⟨[], rest⟩
    else if !isOption argument then (read verb rest).map (operate argument)
    else
      let (name, value?) := splitOption argument
      match verb.option? name, value? with
      | none, _ => .error (.unknownOption name)
      | some (.flag _), some _ => .error (.unwantedValue name)
      | some (.flag choice), none => (read verb rest).map (choose choice)
      | some (.value form), some value => (read verb rest).map (choose (form value))
      | some (.value form), none =>
        match rest with
        | [] => .error (.missingValue name)
        | value :: rest => (read verb rest).map (choose (form value))

end Arguments

namespace Request

/-- What the word of a command and the arguments behind it ask for. -/
def ofWords : List Text → Except UsageError Request
  | [] => .error .missingCommand
  | name :: rest =>
    match Verb.ofName? name with
    | none => .error (.unknownCommand name)
    | some verb => (Arguments.read verb rest).map (.command verb)

/-- What a command line asks for. -/
def read (arguments : List Text) : Except UsageError Request :=
  match arguments with
  | first :: rest =>
    if first = Text.ofString "--" then ofWords rest
    else if first = Text.ofString "--help" then .ok .help
    else if Arguments.isOption first then .error (.unknownOption first)
    else ofWords arguments
  | [] => .error .missingCommand

end Request

end Shapewright.Command
