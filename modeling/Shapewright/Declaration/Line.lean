import Shapewright.Text.Basic

/-!
# Lines

Generated code is a list of lines, each with its nesting level.  A line is padded when the code is
put together; an empty line stays empty.  The text of a line may start with blanks of its own.
-/

namespace Shapewright

/-- A line of code at a nesting level. -/
structure Line where
  level : Nat
  text : Text
deriving DecidableEq

namespace Line

/-- The line behind `indent` blanks for each level. -/
def render (indent : Nat) (line : Line) : Text :=
  if line.text.isEmpty then []
  else List.replicate (indent * line.level) (.char ' ') ++ line.text

/-- The lines as one text, with a line feed between each two. -/
def renderAll (indent : Nat) (lines : List Line) : Text :=
  Text.join "\n" (lines.map (render indent))

end Line

end Shapewright
