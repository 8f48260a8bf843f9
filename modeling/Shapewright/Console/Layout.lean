import Shapewright.Text.Blank
import Shapewright.Text.Width

/-!
# Layout of lines

Text is laid out in lines of a number of cells: control characters are left out, tabs are expanded,
and lines that are too long are broken between words.  A word that does not fit on a line is folded
or, where lines may lose text, cropped with an ellipsis.
-/

namespace Shapewright.Console

/-- What happens to a word that is longer than a line. -/
inductive Overflow where
  | fold
  | ellipsis
deriving DecidableEq

namespace Layout

/-- Whether a code point is a control character that is not shown. -/
def isHidden : CodePoint → Bool
  | .char c => ['\x07', '\x08', '\x0b', '\x0c', '\r'].contains c
  | .surrogate _ => false

/-- A text without the control characters that are not shown. -/
def dropHidden (t : Text) : Text := t.filter (!isHidden ·)

/-- A line from a column on, with blanks up to the next tab stop in place of every tab. -/
def expandTabs (size : Nat) (width : CodePoint → Nat) (column : Nat) : Text → Text
  | [] => []
  | c :: rest =>
    if c = .char '\t' then
      let blanks := size - column % size
      List.replicate blanks (.char ' ') ++ expandTabs size width (column + blanks) rest
    else c :: expandTabs size width (column + width c) rest

/-- A number of blanks. -/
def blanks (n : Nat) : Text := List.replicate n (.char ' ')

/-- The start of a text that fits into a number of cells; half a wide character becomes a blank. -/
def crop (width : Nat) : Text → Text
  | [] => []
  | c :: rest =>
    if c.width ≤ width then c :: crop (width - c.width) rest
    else blanks width

/-- A text cropped or filled with blanks to a number of cells. -/
def fit (width : Nat) (t : Text) : Text :=
  if width < t.width then crop width t else t ++ blanks (width - t.width)

/-- A text that does not fit into a number of cells, cropped. -/
def truncate (overflow : Overflow) (width : Nat) (t : Text) : Text :=
  if t.width ≤ width then t
  else
    match overflow with
    | .fold => crop width t
    | .ellipsis => crop (width - 1) t ++ [.char '…']

/-- The first word of a text with the blanks around it, and what follows them. -/
def spanWord (t : Text) : Text × Text :=
  let (before, rest) := t.span CodePoint.isBlank
  let (word, rest) := rest.span (!·.isBlank)
  let (after, rest) := rest.span CodePoint.isBlank
  (before ++ word ++ after, rest)

/-- The words of a text, each with the blanks around it; `fuel` bounds their number. -/
def wordsWithin (fuel : Nat) (t : Text) : List Text :=
  match fuel, t with
  | _, [] => []
  | 0, t => [t]
  | fuel + 1, t =>
    let (word, rest) := spanWord t
    word :: wordsWithin fuel rest

/-- A text without the blanks at its end. -/
def trimEnd (t : Text) : Text := (t.reverse.dropWhile CodePoint.isBlank).reverse

/-- The pieces of a word that fill lines of a number of cells, behind a piece that is begun. -/
def chop (width used : Nat) (piece : Text) : Text → List Text
  | [] => [piece]
  | c :: rest =>
    if width < used + c.width then piece :: chop width c.width [c] rest
    else chop width (used + c.width) (piece ++ [c]) rest

/-- The lines for the words of a text behind a line that is begun. -/
def fill (overflow : Overflow) (width used : Nat) (line : Text) : List Text → List Text
  | [] => [line]
  | word :: rest =>
    let needed := (trimEnd word).width
    if used + needed ≤ width then
      fill overflow width (used + word.width) (line ++ word) rest
    else
      let full := if line.isEmpty then [] else [line]
      if width < needed && overflow = .fold then
        let pieces := chop width 0 [] word
        let last := pieces.getLastD []
        full ++ pieces.dropLast ++ fill overflow width last.width last rest
      else full ++ fill overflow width word.width word rest

/-- A line without the blanks at its end that are too much. -/
def dropExcess (width : Nat) (line : Text) : Text :=
  let trailing := line.length - (trimEnd line).length
  line.take (line.length - min trailing (line.length - width))

/-- A line whose blanks at the end reach no further than a number of cells. -/
def cropBlanks (width : Nat) (line : Text) : Text :=
  if line.width ≤ width then line
  else
    let front := trimEnd line
    front ++ crop (width - front.width) (line.drop front.length)

/-- What becomes of a line that has been broken off. -/
def finishLine (overflow : Overflow) (width : Nat) (line : Text) : Text :=
  match overflow with
  | .fold => cropBlanks width (dropExcess width line)
  | .ellipsis => dropExcess width line

/-- The pieces that a line without tabs is broken into. -/
def breakLine (overflow : Overflow) (width : Nat) (line : Text) : List Text :=
  fill overflow width 0 [] (wordsWithin line.length line)

/-- The lines that a line is broken into. -/
def wrapLine (overflow : Overflow) (width : Nat) (line : Text) : List Text :=
  (breakLine overflow width line).map (finishLine overflow width)

/-- The tab stops of text on the console. -/
def tabSize : Nat := 8

/-- The lines of a text. -/
def wrap (overflow : Overflow) (width : Nat) (t : Text) : List Text :=
  ((dropHidden t).splitOn (.char '\n')).flatMap fun line =>
    wrapLine overflow width (expandTabs tabSize CodePoint.width 0 line)

/-- A line in the middle of a number of cells. -/
def center (width : Nat) (line : Text) : Text :=
  let line := truncate .fold width (trimEnd line)
  fit width (blanks ((width - line.width) / 2) ++ line)

/-- Whether a code point ends a line when a text is measured. -/
def endsLine (c : CodePoint) : Bool :=
  let n := c.toNat
  (0xA ≤ n && n ≤ 0xD) || (0x1C ≤ n && n ≤ 0x1E) || n == 0x85 || n == 0x2028 || n == 0x2029

/-- The number of cells of the longest line of a text. -/
def measure (t : Text) : Nat :=
  ((Text.splitOnAny endsLine (dropHidden t)).map Text.width).foldl max 0

end Layout

end Shapewright.Console
