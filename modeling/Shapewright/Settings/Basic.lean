import Shapewright.Settings.Template

/-!
# Settings

What a user can choose about the generated declarations: the indentation, a limit on the nesting,
the parts of the names, and the type that each kind of value is declared with.
-/

namespace Shapewright

/-- The declared types; `collection` is a template for the type of an element. -/
structure TypeNames where
  text : Text := "string"
  number : Text := "double"
  boolean : Text := "bool"
  generic : Text := "object"
  collection : Text := "List<\x7b\x7d>"
deriving DecidableEq

/-- The declared type of a collection of the given elements. -/
def TypeNames.collectionOf (types : TypeNames) (element : Text) : Text :=
  Template.fill element types.collection

/-- The settings of the generator; without a `maxDepth` a document may nest to any depth. -/
structure Settings where
  indent : Nat := 4
  maxDepth : Option Nat := none
  requestSuffix : Text := "Request"
  handlerSuffix : Text := "Handler"
  fileExtension : Text := ".cs"
  types : TypeNames := {}
deriving DecidableEq

end Shapewright
