import Shapewright.Settings.Basic
import Shapewright.Value.Basic

/-!
# Views of settings

Settings as an object that they can be made from again, and as a summary for display.
-/

namespace Shapewright

/-- The declared types as the entries of an object. -/
def TypeNames.toEntries (types : TypeNames) : List (Text × Value) :=
  [(Text.ofString "text", .text types.text),
    (Text.ofString "number", .text types.number),
    (Text.ofString "boolean", .text types.boolean),
    (Text.ofString "generic", .text types.generic),
    (Text.ofString "collection", .text types.collection)]

namespace Settings

/-- The nesting limit as a value. -/
def maxDepthValue (settings : Settings) : Value :=
  match settings.maxDepth with
  | none => .null
  | some limit => .integer limit

/-- The settings as the entries of an object. -/
def toEntries (settings : Settings) : List (Text × Value) :=
  [(Text.ofString "indent", .integer settings.indent),
    (Text.ofString "max_depth", settings.maxDepthValue),
    (Text.ofString "request_suffix", .text settings.requestSuffix),
    (Text.ofString "handler_suffix", .text settings.handlerSuffix),
    (Text.ofString "file_extension", .text settings.fileExtension),
    (Text.ofString "types", .object settings.types.toEntries)]

/-- The settings as an object. -/
def toValue (settings : Settings) : Value := .object settings.toEntries

/-- What a user is shown of the settings. -/
def summary (settings : Settings) : List (Text × Value) :=
  [(Text.ofString "indent", .integer settings.indent),
    (Text.ofString "max_depth", settings.maxDepthValue),
    (Text.ofString "root_suffix", .text settings.requestSuffix),
    (Text.ofString "file",
      .text (Text.ofString "<name>" ++ settings.handlerSuffix ++ settings.fileExtension)),
    (Text.ofString "types", .object settings.types.toEntries)]

end Settings

end Shapewright
