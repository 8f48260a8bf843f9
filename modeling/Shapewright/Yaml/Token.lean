import Shapewright.Text.Basic
import Shapewright.Yaml.Error

/-!
# Tokens

The tokens of a YAML text.  Blocks have explicit starts and ends, which the indentation shows in the
text, and every key of a mapping has a key token in front of it.
-/

namespace Shapewright.Yaml

/-- A token.  The last token of a text is its end, or the error that ends its reading. -/
inductive Token where
  | versionDirective (major minor : Nat)
  | tagDirective (handle expansion : Text)
  | otherDirective
  | documentStart
  | documentEnd
  | blockSequenceStart
  | blockMappingStart
  | blockEnd
  | flowSequenceStart
  | flowSequenceEnd
  | flowMappingStart
  | flowMappingEnd
  | blockEntry
  | flowEntry
  | key
  | value
  | alias (name : Text)
  | anchor (name : Text)
  | tag (handle : Option Text) (suffix : Text)
  | scalar (content : Text) (plain : Bool)
  | streamEnd
  | broken (error : Error)
deriving DecidableEq

end Shapewright.Yaml
