import Shapewright.Command.Arguments
import Shapewright.Command.Report
import Shapewright.Handler
import Shapewright.Settings.Schema

/-!
# Commands

The commands: they show the version, the settings or code that is generated, and write handler files
or the schema of settings.  A sample document comes from a file or from standard input.
-/

namespace Shapewright.Command

open Console

/-- What a command finds: the files, the current directory, what is on standard input, and the stack
for reading settings. -/
structure Workspace where
  tree : FileTree
  current : Location
  input : List UInt8
  stack : Yaml.Stack := .usual

/-- The text that a command shows for help. -/
def usage : Text :=
  Text.ofString "Usage: shapewright COMMAND [ARGUMENTS]\n\n" ++
    Text.ofString "  version\n" ++
    Text.ofString "  generate HANDLER_NAME [JSON_FILE] [--out-dir DIR] [--config FILE]\n" ++
    Text.ofString "  preview BASE_NAME [JSON_FILE] [--pretty] [--config FILE]\n" ++
    Text.ofString "  show-config [--config FILE]\n" ++
    Text.ofString "  config-schema OUT [--no-pretty]"

/-- The settings in a file, or the defaults. -/
def loadSettings (workspace : Workspace) (config : Option Path) : Except Report Settings :=
  match config with
  | none => .ok {}
  | some path =>
    match Settings.load workspace.tree workspace.current path workspace.stack with
    | .ok settings => .ok settings
    | .error (.file error) => .error (.broken (.file error))
    | .error (.document error) => .error (.broken (.document error))
    | .error (.invalid path) =>
      .error (.rejected "Config error" (Settings.LoadError.invalid path).message)

/-- Why there is no sample document to read. -/
inductive SourceError where
  | missing (path : Path)
  | file (error : FileError)
  | undecodable (path : Path) (error : DecodingError)
  | input (error : DecodingError)

/-- The text of the sample document: that of a file, or standard input. -/
def readSource (workspace : Workspace) (source : Option Path) : Except SourceError Text :=
  match source with
  | none =>
    match Utf8.decode workspace.input with
    | .ok t => .ok t.normalizeLineEnds
    | .error error => .error (.input error)
  | some path =>
    match workspace.tree.readText workspace.current path with
    | .ok t => .ok t
    | .error (.decoding error) => .error (.undecodable path error)
    | .error (.file (.refused .notFound _)) => .error (.missing path)
    | .error (.file (.refused .notDirectory _)) => .error (.missing path)
    | .error (.file .nullInPath) => .error (.missing path)
    | .error (.file (.unencodablePath _)) => .error (.missing path)
    | .error (.file error) => .error (.file error)

/-- The heading of a generation that is rejected. -/
def generationFailed : Text := "Generation failed"

/-- The message for a sample file that is not UTF-8. -/
def undecodableMessage (path : Path) (error : DecodingError) : Text :=
  path.toText ++ Text.ofString " is not valid UTF-8: " ++ error.message

/-- What a handler file that is not written ends in. -/
def handlerReport (error : Handler.Error) : Report :=
  match error with
  | .write (.file (.refused kind path)) => .broken (.file (.refused kind path))
  | error => .rejected generationFailed error.message

/-- Shows the version. -/
def runVersion (workspace : Workspace) : FileTree × Report :=
  (workspace.tree, .shown [.code version])

/-- Writes the file of a handler. -/
def runGenerate (workspace : Workspace) (name : Text) (source : Option Path) (directory : Path)
    (config : Option Path) : FileTree × Report :=
  match loadSettings workspace config with
  | .error report => (workspace.tree, report)
  | .ok settings =>
    match readSource workspace source with
    | .error (.missing path) => (workspace.tree, .refused (.missingFile path.toText))
    | .error (.file error) => (workspace.tree, .broken (.file error))
    | .error (.undecodable path error) =>
      (workspace.tree, .rejected generationFailed (undecodableMessage path error))
    | .error (.input error) => (workspace.tree, .rejected generationFailed error.message)
    | .ok text =>
      match Handler.generateFile workspace.tree workspace.current settings text name directory with
      | (tree, .error error) => (tree, handlerReport error)
      | (tree, .ok path) =>
        (tree, .shown
          [.message "[bold green]Code generated successfully![/]",
            .message (Text.ofString "[bold]Root type:[/] " ++
              Handler.requestTypeName settings name),
            .message (Text.ofString "[bold]Written:[/] " ++ path.toText)])

/-- Shows the code for a sample document. -/
def runPreview (workspace : Workspace) (name : Text) (source : Option Path) (pretty : Bool)
    (config : Option Path) : Report :=
  match loadSettings workspace config with
  | .error report => report
  | .ok settings =>
    match readSource workspace source with
    | .error (.missing path) => .refused (.missingFile path.toText)
    | .error (.file error) => .broken (.file error)
    | .error (.undecodable path error) =>
      .rejected generationFailed (undecodableMessage path error)
    | .error (.input error) => .broken (.input error)
    | .ok text =>
      match generateFromText settings text (.text name) with
      | .error error => .rejected generationFailed error.message
      | .ok code => .shown [if pretty then .listing code else .code code]

/-- A value in the table of settings. -/
def cell : Value → Text
  | .object entries => Json.write none (.object entries)
  | .text t => t
  | v => v.shown

/-- Shows settings in a table. -/
def runShowConfig (workspace : Workspace) (config : Option Path) : Report :=
  match loadSettings workspace config with
  | .error report => report
  | .ok settings =>
    if !settings.isWritable then .broken .tooManyDigits
    else
      let origin : Text := (config.map Path.toText).getD "defaults"
      .shown
        [.table
          { title := Text.ofString "Generator config (" ++ origin ++ Text.ofString ")",
            head := ("Setting", "Value"),
            rows := settings.summary.map fun (key, v) => (key, cell v) }]

/-- Writes the schema of settings. -/
def runConfigSchema (workspace : Workspace) (target : Path) (pretty : Bool) : FileTree × Report :=
  let schema := Json.write (if pretty then some 2 else none) Settings.schema
  match workspace.tree.writeText workspace.current target schema with
  | (tree, .error (.file error)) => (tree, .broken (.file error))
  | (tree, .error (.encoding error)) => (tree, .broken (.write error))
  | (tree, .ok ()) =>
    (tree, .shown
      [.message (Text.ofString "[bold green]Config schema written:[/] " ++ target.toText)])

/-- Checks a path on the command line: it can be handed to the file system. -/
def checkPath (path : Text) : Except Report Unit :=
  (FileTree.checkPath path).mapError fun error => .broken (.file error)

/-- Checks the path of a settings file on the command line: something is there. -/
def checkConfig (workspace : Workspace) (path : Text) : Except Report Unit := do
  checkPath path
  if workspace.tree.hasEntry workspace.current path then .ok ()
  else .error (.refused (.missingFile path))

/-- The last directory for output that is given. -/
def outDir? (choices : List Choice) : Option Text :=
  choices.reverse.findSome? fun
    | .outDir path => some path
    | _ => none

/-- The last settings file that is given. -/
def config? (choices : List Choice) : Option Text :=
  choices.reverse.findSome? fun
    | .config path => some path
    | _ => none

/-- The last choice about the layout that is given. -/
def pretty? (choices : List Choice) : Option Bool :=
  choices.reverse.findSome? fun
    | .pretty on => some on
    | _ => none

/-- Checks the options of a command in the order in which they are given, each by its last value. -/
def checkChoices (workspace : Workspace) (given : List Choice) : List Choice → Except Report Unit
  | [] => .ok ()
  | choice :: rest => do
    match choice with
    | .outDir path => checkPath ((outDir? given).getD path)
    | .config path => checkConfig workspace ((config? given).getD path)
    | _ => .ok ()
    checkChoices workspace given rest

/-- The first operand, which has to be given, and those behind it. -/
def takeOperand (name : Text) : List Text → Except Report (Text × List Text)
  | [] => .error (.refused (.missingOperand name))
  | operand :: rest => .ok (operand, rest)

/-- The path of the sample file, if it is given, and the operands behind it. -/
def takeSource : List Text → Except Report (Option Path × List Text)
  | [] => .ok (none, [])
  | path :: rest => do
    checkPath path
    .ok (some (.ofText path), rest)

/-- Checks that no operand is left. -/
def endOperands : List Text → Except Report Unit
  | [] => .ok ()
  | operand :: _ => .error (.refused (.extraOperand operand))

/-- Runs a command with its options and operands. -/
def runVerb (workspace : Workspace) (verb : Verb) (arguments : Arguments) :
    Except Report (FileTree × Report) := do
  let choices := arguments.choices
  checkChoices workspace choices choices
  let config := (config? choices).map Path.ofText
  match verb with
  | .version => do
    endOperands arguments.operands
    .ok (runVersion workspace)
  | .generate => do
    let (name, rest) ← takeOperand "HANDLER_NAME" arguments.operands
    let (source, rest) ← takeSource rest
    endOperands rest
    let directory := Path.ofText ((outDir? choices).getD ".")
    .ok (runGenerate workspace name source directory config)
  | .preview => do
    let (name, rest) ← takeOperand "BASE_NAME" arguments.operands
    let (source, rest) ← takeSource rest
    endOperands rest
    .ok (workspace.tree, runPreview workspace name source ((pretty? choices).getD false) config)
  | .showConfig => do
    endOperands arguments.operands
    .ok (workspace.tree, runShowConfig workspace config)
  | .configSchema => do
    let (target, rest) ← takeOperand "OUT" arguments.operands
    checkPath target
    endOperands rest
    .ok (runConfigSchema workspace (.ofText target) ((pretty? choices).getD true))

/-- Whether a command line takes its sample document from standard input. -/
def readsInput (arguments : List Text) : Bool :=
  match Request.read arguments with
  | .ok (.command .generate arguments) => arguments.operands.length = 1
  | .ok (.command .preview arguments) => arguments.operands.length = 1
  | _ => false

/-- Runs a command line: the files that it leaves, and its report. -/
def run (workspace : Workspace) (arguments : List Text) : FileTree × Report :=
  match Request.read arguments with
  | .error error => (workspace.tree, .refused error)
  | .ok .help => (workspace.tree, .shown [.code usage])
  | .ok (.command verb arguments) =>
    if arguments.choices.contains .help then (workspace.tree, .shown [.code usage])
    else
      match runVerb workspace verb arguments with
      | .ok result => result
      | .error report => (workspace.tree, report)

end Shapewright.Command
