import Shapewright.Json.Finite
import Shapewright.Json.Reader
import Shapewright.Text.Blank

/-!
# Documents

A document is a JSON text between blanks.  It has to hold something, and all its numbers have to be
finite.
-/

namespace Shapewright.Json

/-- Why a text is no document. -/
inductive DocumentError where
  | empty
  | unreadable (error : ReadError)
  | nonFinite (x : Binary64)
deriving DecidableEq

/-- The wording of a document error. -/
def DocumentError.message : DocumentError → Text
  | .empty => "JSON input is empty"
  | .unreadable error => Text.ofString "Invalid JSON input: " ++ error.message
  | .nonFinite x => Text.ofString "Invalid JSON input: non-finite number " ++ x.text

/-- The value of a document. -/
def parse (t : Text) : Except DocumentError Value :=
  let payload := t.trimBlanks
  if payload.isEmpty then .error .empty
  else
    match read payload with
    | .error e => .error (.unreadable e)
    | .ok v =>
      match v.findNonFinite with
      | some x => .error (.nonFinite x)
      | none => .ok v

end Shapewright.Json
