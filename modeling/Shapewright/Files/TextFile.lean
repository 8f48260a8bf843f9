import Shapewright.Files.Tree
import Shapewright.Text.Lines

/-!
# Text files

Text files are UTF-8.  Reading one normalizes its line ends; writing one empties the file before the
text is encoded.
-/

namespace Shapewright.FileTree

/-- Why no text is read from a file. -/
inductive ReadError where
  | file (error : FileError)
  | decoding (error : DecodingError)
deriving DecidableEq

/-- Why a text is not written to a file. -/
inductive WriteError where
  | file (error : FileError)
  | encoding (error : EncodingError)
deriving DecidableEq

/-- The wording of a write error. -/
def WriteError.message : WriteError → Text
  | .file error => error.message
  | .encoding error => error.message

/-- The text of the file at a path. -/
def readText (tree : FileTree) (current : Location) (p : Path) : Except ReadError Text :=
  match tree.read current p with
  | .error error => .error (.file error)
  | .ok content =>
    match Utf8.decode content with
    | .error error => .error (.decoding error)
    | .ok t => .ok t.normalizeLineEnds

/-- Writes a text to the file at a path.  One with a lone surrogate leaves an empty file. -/
def writeText (tree : FileTree) (current : Location) (p : Path) (t : Text) :
    FileTree × Except WriteError Unit :=
  match tree.truncate current p with
  | .error error => (tree, .error (.file error))
  | .ok (tree, l) =>
    match Utf8.encode t with
    | .error error => (tree, .error (.encoding error))
    | .ok bytes => (tree.put l (.file bytes), .ok ())

end Shapewright.FileTree
