import Shapewright.Console.Layout
import Shapewright.Console.Style

/-!
# Texts with styles

The parts of a text that is shown may have styles.  A style is looked up for each part of which
something is left when the text has been laid out in lines.  Line breaks and what is cropped at the
end of a line are not left, and a part that is empty is only left on a line that is not broken.
-/

namespace Shapewright.Console

/-- A part of a text, from one place up to another, and the description of its style. -/
structure Span where
  start : Nat
  stop : Nat
  style : Text
deriving DecidableEq

/-- Puts a span in front of those that start where it does or later. -/
def Span.insert (span : Span) : List Span → List Span
  | [] => [span]
  | other :: rest =>
    if span.start ≤ other.start then span :: other :: rest else other :: Span.insert span rest

/-- A text without control characters that are not shown, and the styles of its parts. -/
structure Styled where
  text : Text
  spans : List Span

/-- How a text is laid out: what happens to long words, the number of cells of a line, and what
becomes of a line that has been broken off. -/
structure Format where
  overflow : Overflow
  width : Nat
  finish : Text → Text

namespace Format

/-- Which code points of a piece of a line are left. -/
def leftOfPiece (format : Format) (piece : Text) : List Bool :=
  let left := (format.finish piece).length
  piece.mapIdx fun i _ => i < left

/-- Which code points of a line from a column on are left, by which are left of the line with blanks
in place of tabs; of a tab the first blank counts. -/
def leftWithTabs (column : Nat) : Text → List Bool → List Bool
  | [], _ => []
  | c :: rest, left =>
    if c = .char '\t' then
      let blanks := Layout.tabSize - column % Layout.tabSize
      left.headD false :: leftWithTabs (column + blanks) rest (left.drop blanks)
    else left.headD false :: leftWithTabs (column + c.width) rest left.tail

/-- Which code points of a line are left. -/
def leftOfLine (format : Format) (line : Text) : List Bool :=
  let expanded := Layout.expandTabs Layout.tabSize CodePoint.width 0 line
  leftWithTabs 0 line
    ((Layout.breakLine format.overflow format.width expanded).flatMap format.leftOfPiece)

/-- Which code points of a text are left; the line breaks are not. -/
def left (format : Format) (t : Text) : List Bool :=
  ((t.splitOn (.char '\n')).flatMap fun line => false :: format.leftOfLine line).tail

/-- Whether a text stays on one line as it is. -/
def keepsWhole (format : Format) (t : Text) : Bool :=
  !t.contains (.char '\n') && !t.contains (.char '\t') &&
    (Layout.breakLine format.overflow format.width t).length ≤ 1

/-- Whether something is left of a part of a text, or the part is empty and its place is left. -/
def leaves (format : Format) (t : Text) (span : Span) : Bool :=
  if span.start < span.stop then
    (((format.left t).take span.stop).drop span.start).contains true
  else
    let left := (format.finish t).length
    format.keepsWhole t && (left = t.length || span.start < left)

end Format

/-- The error that ends the look-up of the styles of a text. -/
def Styled.lookupError? (format : Format) (styled : Styled) : Option Color.PartError :=
  (styled.spans.filter (format.leaves styled.text)).findSome? (Style.lookupError? ·.style)

end Shapewright.Console
