import Shapewright.Text.Basic

/-!
# Line ends

A text that is read from a file or from standard input has one kind of line end: a carriage return,
alone or with a line feed behind it, is read as a line feed.
-/

namespace Shapewright.Text

/-- A text in which every carriage return, alone or before a line feed, is a line feed. -/
def normalizeLineEnds : Text → Text
  | [] => []
  | .char '\r' :: .char '\n' :: rest => .char '\n' :: normalizeLineEnds rest
  | .char '\r' :: rest => .char '\n' :: normalizeLineEnds rest
  | c :: rest => c :: normalizeLineEnds rest

end Shapewright.Text
