import Shapewright.Settings.Basic
import Shapewright.Value.Basic

/-!
# Kinds of values

The kind of a value decides how it is declared.  A value outside the JSON model has no kind and is
declared like a null.
-/

namespace Shapewright

/-- The kinds of JSON values. -/
inductive Kind where
  | object
  | array
  | string
  | number
  | boolean
  | null
deriving DecidableEq

/-- The word for a kind. -/
def Kind.label : Kind → Text
  | .object => "object"
  | .array => "array"
  | .string => "string"
  | .number => "number"
  | .boolean => "boolean"
  | .null => "null"

/-- The kind of a value, if it belongs to the JSON model. -/
def Value.kind? : Value → Option Kind
  | .null => some .null
  | .boolean _ => some .boolean
  | .integer _ => some .number
  | .float _ => some .number
  | .text _ => some .string
  | .array _ => some .array
  | .object _ => some .object
  | .bytes _ => none
  | .foreign => none

/-- The declared type of a member that is not expanded: objects, arrays, nulls and values without a
kind have the generic type. -/
def TypeNames.memberType (types : TypeNames) (v : Value) : Text :=
  match v.kind? with
  | some .string => types.text
  | some .number => types.number
  | some .boolean => types.boolean
  | _ => types.generic

end Shapewright
