import Shapewright.Files.TextFile
import Shapewright.Json.Reader
import Shapewright.Json.Writer
import Shapewright.Settings.Validate
import Shapewright.Settings.View
import Shapewright.Yaml.Document
import Shapewright.Yaml.Writer

/-!
# Settings files

Settings are kept in files, in YAML or in JSON after the suffix of the path.  A file that says
nothing holds the default settings.  A file that can be opened and does not hold settings is
invalid, whatever the reason, apart from the few failures that a YAML text has of its own: those of
scalars with explicit tags, of an escape that is too large, and of nodes that lead too deep.
-/

namespace Shapewright

namespace Settings

/-- The formats of settings files. -/
inductive Format where
  | json
  | yaml
deriving DecidableEq

/-- The format of the file at a path: YAML with the suffix `.yaml` or `.yml`, else JSON. -/
def Format.ofPath (path : Path) : Format :=
  if path.suffix = Text.ofString ".yaml" || path.suffix = Text.ofString ".yml" then .yaml else .json

/-- Why no settings are loaded. -/
inductive LoadError where
  | file (error : FileError)
  | document (error : Yaml.Error)
  | invalid (path : Path)

/-- The wording of a load error. -/
def LoadError.message : LoadError → Text
  | .file error => error.message
  | .document error => error.message
  | .invalid path => Text.ofString "Invalid config " ++ path.toText

/-- Why settings are not saved. -/
inductive SaveError where
  | tooManyDigits
  | write (error : FileTree.WriteError)

/-- The wording of a save error. -/
def SaveError.message : SaveError → Text
  | .tooManyDigits =>
    Text.ofString "Exceeds the limit (4300 digits) for integer string conversion; " ++
      Text.ofString "use sys.set_int_max_str_digits() to increase the limit"
  | .write error => error.message

/-- The settings that the root of a document describes, if it does; one that says nothing describes
the defaults. -/
def ofRoot? (root : Value) : Option Settings :=
  if root.isBlank then some {}
  else
    match root with
    | .object entries => (ofEntries entries).toOption
    | _ => none

/-- The settings that a YAML document describes, if it does; the keys of its root have to be
texts. -/
def ofYaml? (document : Yaml.Document) : Option Settings :=
  if document.keyedByText then ofRoot? document.root else none

/-- The settings in a text in YAML, if there are any. -/
def readYaml (t : Text) (stack : Yaml.Stack := .usual) : Except Yaml.Error (Option Settings) :=
  match Yaml.load t stack with
  | .ok document => .ok (ofYaml? document)
  | .error .malformed => .ok none
  | .error error => .error error

/-- The settings in a text in JSON, if there are any. -/
def readJson? (t : Text) : Option Settings :=
  match Json.read t with
  | .ok root => ofRoot? root
  | .error _ => none

/-- The settings in a text, if there are any. -/
def read (format : Format) (t : Text) (stack : Yaml.Stack := .usual) :
    Except Yaml.Error (Option Settings) :=
  match format with
  | .yaml => readYaml t stack
  | .json => .ok (readJson? t)

/-- Loads the settings from the file at a path.  A path that cannot be handed to the file system
counts as an invalid file, one that the file system refuses does not. -/
def load (tree : FileTree) (current : Location) (path : Path) (stack : Yaml.Stack := .usual) :
    Except LoadError Settings :=
  match tree.readText current path with
  | .error (.file (.refused kind text)) => .error (.file (.refused kind text))
  | .error _ => .error (.invalid path)
  | .ok t =>
    match read (.ofPath path) t stack with
    | .error error => .error (.document error)
    | .ok none => .error (.invalid path)
    | .ok (some settings) => .ok settings

/-- The first number that has too many digits to be written. -/
def writeLimit : Nat := Nat.pow 10 4300

/-- Whether all numbers of settings can be written. -/
def isWritable (settings : Settings) : Bool :=
  match settings.maxDepth with
  | none => true
  | some limit => limit < writeLimit

/-- Settings as a text in a format. -/
def write (format : Format) (settings : Settings) : Text :=
  match format with
  | .yaml => Yaml.writeEntries 0 settings.toEntries
  | .json => Json.write (some 2) settings.toValue

/-- Saves settings in the file at a path.  The file is left alone if the settings cannot be
written. -/
def save (tree : FileTree) (current : Location) (path : Path) (settings : Settings) :
    FileTree × Except SaveError Unit :=
  if !settings.isWritable then (tree, .error .tooManyDigits)
  else
    match tree.writeText current path (settings.write (.ofPath path)) with
    | (tree, .error error) => (tree, .error (.write error))
    | (tree, .ok ()) => (tree, .ok ())

end Settings

end Shapewright
