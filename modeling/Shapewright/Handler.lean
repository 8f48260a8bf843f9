import Shapewright.Declaration.Generate
import Shapewright.Files.TextFile
import Shapewright.Json.Document

/-!
# Handler files

The declarations for a handler: the root class is named after the request of the handler, and the
code goes into a file that is named after the handler.
-/

namespace Shapewright

/-- The version of the program. -/
def version : Text := "0.1.0"

/-- Why no code is made from a text. -/
inductive CodeError where
  | document (error : Json.DocumentError)
  | generate (error : GenerateError)

/-- The wording of a code error. -/
def CodeError.message : CodeError → Text
  | .document error => error.message
  | .generate error => error.message

/-- The code for a document in text, named after a seed. -/
def generateFromText (settings : Settings) (text : Text) (seed : Value) :
    Except CodeError Text := do
  let document ← (Json.parse text).mapError .document
  (Declaration.generate settings document seed).mapError .generate

namespace Handler

/-- Why no handler file is written. -/
inductive Error where
  | blankName
  | code (error : CodeError)
  | write (error : FileTree.WriteError)

/-- The wording of an error. -/
def Error.message : Error → Text
  | .blankName => "Handler name must not be blank"
  | .code error => error.message
  | .write error => error.message

/-- The name of the root class of a handler. -/
def requestTypeName (settings : Settings) (name : Text) : Text := name ++ settings.requestSuffix

/-- The name of the file of a handler. -/
def fileName (settings : Settings) (name : Text) : Text :=
  name ++ settings.handlerSuffix ++ settings.fileExtension

/-- The path of the file of a handler below a directory. -/
def filePath (settings : Settings) (name : Text) (directory : Path) : Path :=
  directory.join (.ofText (fileName settings name))

/-- The code of a handler, if its name is not blank. -/
def code (settings : Settings) (text name : Text) : Except Error Text :=
  if name.isBlank then .error .blankName
  else
    (generateFromText settings text (.text (requestTypeName settings name))).mapError .code

/-- Writes the file of a handler and answers with its path.  The file system is left alone until
the code is made; then the missing directories are made, the file is opened, and the code with a
final line feed is written. -/
def generateFile (tree : FileTree) (current : Location) (settings : Settings) (text name : Text)
    (directory : Path) : FileTree × Except Error Path :=
  match code settings text name with
  | .error error => (tree, .error error)
  | .ok code =>
    let path := filePath settings name directory
    match tree.ensureDirectory current path.parent with
    | (tree, .error error) => (tree, .error (.write (.file error)))
    | (tree, .ok ()) =>
      match tree.writeText current path (code ++ [.char '\n']) with
      | (tree, .error error) => (tree, .error (.write error))
      | (tree, .ok ()) => (tree, .ok path)

end Handler

end Shapewright
