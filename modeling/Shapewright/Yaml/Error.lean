import Shapewright.Text.Quoted

/-!
# YAML errors

Most texts that cannot be read are just malformed.  A few values with an explicit tag, an escape
that is far too large, and nodes that lead too deep fail in ways of their own that are told apart.
-/

namespace Shapewright.Yaml

/-- Why a YAML text cannot be read. -/
inductive Error where
  | malformed
  | emptyNumber
  | unknownBoolean (word : Text)
  | noTimestamp
  | escapeTooLarge
  | numberTooLarge
  | exhausted
deriving DecidableEq

/-- The wording of an error. -/
def Error.message : Error → Text
  | .malformed => "malformed document"
  | .emptyNumber => "string index out of range"
  | .unknownBoolean word => word.quoted
  | .noTimestamp => "'NoneType' object has no attribute 'groupdict'"
  | .escapeTooLarge => "Python int too large to convert to C int"
  | .numberTooLarge => "int too large to convert to float"
  | .exhausted => "maximum recursion depth exceeded"

end Shapewright.Yaml
