import Shapewright.Settings.View

/-!
# The schema of settings

A JSON schema of the objects that settings are made from, with the defaults.
-/

namespace Shapewright.Settings

namespace Schema

/-- An object with the given entries. -/
def object (entries : List (String × Value)) : Value :=
  .object (entries.map fun (key, v) => (Text.ofString key, v))

/-- A word of the schema. -/
def word (s : String) : Value := .text (Text.ofString s)

/-- The schema of a text with a default. -/
def text (title : String) (default : Text) : Value :=
  object [("default", .text default), ("title", word title), ("type", word "string")]

/-- The schema of the declared types. -/
def types : Value :=
  let defaults : TypeNames := {}
  object
    [("description", word "Declared C# types for each primitive JSON kind."),
      ("properties", object
        [("text", text "Text" defaults.text),
          ("number", text "Number" defaults.number),
          ("boolean", text "Boolean" defaults.boolean),
          ("generic", text "Generic" defaults.generic),
          ("collection", text "Collection" defaults.collection)]),
      ("title", word "TypeMapping"),
      ("type", word "object")]

/-- The schema of the indentation. -/
def indent : Value :=
  let defaults : Settings := {}
  object
    [("default", .integer defaults.indent), ("maximum", .integer 16), ("minimum", .integer 1),
      ("title", word "Indent"), ("type", word "integer")]

/-- The schema of the limit on the nesting. -/
def maxDepth : Value :=
  let defaults : Settings := {}
  let limit := object [("exclusiveMinimum", .integer 0), ("type", word "integer")]
  object
    [("anyOf", .array [limit, object [("type", word "null")]]),
      ("default", defaults.maxDepthValue),
      ("title", word "Max Depth")]

end Schema

/-- The schema of settings. -/
def schema : Value :=
  let defaults : Settings := {}
  Schema.object
    [("$defs", Schema.object [("TypeMapping", Schema.types)]),
      ("description", Schema.word "Top-level generator settings."),
      ("properties", Schema.object
        [("indent", Schema.indent),
          ("max_depth", Schema.maxDepth),
          ("request_suffix", Schema.text "Request Suffix" defaults.requestSuffix),
          ("handler_suffix", Schema.text "Handler Suffix" defaults.handlerSuffix),
          ("file_extension", Schema.text "File Extension" defaults.fileExtension),
          ("types", Schema.object [("$ref", Schema.word "#/$defs/TypeMapping")])]),
      ("title", Schema.word "GeneratorConfig"),
      ("type", Schema.word "object")]

end Shapewright.Settings
