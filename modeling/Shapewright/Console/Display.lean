import Shapewright.Console.Markup
import Shapewright.Console.Table
import Shapewright.Text.Lines
import Shapewright.Text.Utf8

/-!
# The console

What a command shows: marked-up messages, code as it is, listings of code, and tables.  The console
has no colors and a fixed number of cells, and takes UTF-8.
-/

namespace Shapewright.Console

/-- Something to show.  The texts in a table are marked up. -/
inductive Display where
  | message (markup : Text)
  | code (t : Text)
  | listing (t : Text)
  | table (table : Table)
deriving DecidableEq

/-- Why something cannot be shown. -/
inductive DisplayError where
  | markup (error : MarkupError)
  | style (error : Color.PartError)
  | code (error : EncodingError)
  | layout (error : EncodingError)
deriving DecidableEq

/-- The wording of a display error. -/
def DisplayError.message : DisplayError → Text
  | .markup error => error.message
  | .style error => error.message
  | .code error => error.message
  | .layout error =>
    error.message ++ Text.ofString "\n*** You may need to add PYTHONIOENCODING=utf-8 " ++
      Text.ofString "to your environment ***"

/-- The number of cells of a line. -/
def lineWidth : Nat := 200

namespace Code

/-- Whether a code point is a parameter of a control sequence. -/
def isParameter (c : CodePoint) : Bool :=
  c.isAsciiDigit || c = .char ';' || c = .char '?'

/-- The number of code points behind the first one of the control sequence that a text starts
with, if it does. -/
def sequenceLength? : Text → Option Nat
  | .char '\x1b' :: .char '[' :: rest =>
    let (parameters, rest) := rest.span isParameter
    match rest with
    | .char c :: _ => if c.isAlpha then some (parameters.length + 2) else none
    | _ => none
  | _ => none

/-- A text without its control sequences, of which the next `skipped` code points are part of
one. -/
def dropSequencesFrom (skipped : Nat) : Text → Text
  | [] => []
  | c :: rest =>
    match skipped with
    | n + 1 => dropSequencesFrom n rest
    | 0 =>
      match sequenceLength? (c :: rest) with
      | some n => dropSequencesFrom n rest
      | none => c :: dropSequencesFrom 0 rest

/-- A text without its control sequences. -/
def dropSequences (t : Text) : Text := dropSequencesFrom 0 t

/-- The tab stops of a listing. -/
def tabSize : Nat := 4

/-- The lines of a listing, each as wide as the console. -/
def listingLines (t : Text) : List Text :=
  (t.normalizeLineEnds.splitOn (.char '\n')).map fun line =>
    Layout.fit lineWidth
      (Layout.dropHidden (Layout.expandTabs tabSize (fun _ => 1) 0 line))

end Code

namespace Table

/-- A table of marked-up texts that have been rendered. -/
structure Rendered where
  title : Styled
  rows : List (Styled × Styled)

/-- Renders the texts of a table.  The cells come before the title, those of the first column
first. -/
def render (handlers : HandlerReader) (table : Table) : Except MarkupError Rendered := do
  let first ← table.rows.mapM fun row => Markup.render handlers row.1
  let second ← table.rows.mapM fun row => Markup.render handlers row.2
  let title ← Markup.render handlers table.title
  .ok ⟨title, first.zip second⟩

/-- A table of the texts that are shown. -/
def Rendered.plain (head : Text × Text) (rendered : Rendered) : Table where
  title := rendered.title.text
  head := head
  rows := rendered.rows.map fun row => (row.1.text, row.2.text)

/-- How the title of a table is laid out. -/
def titleFormat (total : Nat) : Format where
  overflow := .fold
  width := total
  finish line := Layout.truncate .fold total (Layout.trimEnd (Layout.finishLine .fold total line))

/-- How a cell is laid out. -/
def cellFormat (width : Nat) : Format where
  overflow := .ellipsis
  width := width
  finish line := Layout.truncate .ellipsis width (Layout.finishLine .ellipsis width line)

/-- The error that ends the look-up of the styles in a table, those of the title first and then row
by row. -/
def Rendered.lookupError? (widths : Nat × Nat) (rendered : Rendered) : Option Color.PartError :=
  let total := widths.1 + widths.2 + frameWidth
  (rendered.title.lookupError? (titleFormat total)).or
    (rendered.rows.findSome? fun row =>
      (row.1.lookupError? (cellFormat widths.1)).or (row.2.lookupError? (cellFormat widths.2)))

end Table

namespace Display

/-- Lines as a text, with a line feed behind each of them. -/
def joinLines (lines : List Text) : Text := lines.flatMap (· ++ [.char '\n'])

/-- A text that the console takes. -/
def encodable (onError : EncodingError → DisplayError) (t : Text) : Except DisplayError Text :=
  match Utf8.encode t with
  | .ok _ => .ok t
  | .error error => .error (onError error)

/-- How a message is laid out. -/
def messageFormat : Format := ⟨.fold, lineWidth, Layout.finishLine .fold lineWidth⟩

/-- What the console shows. -/
def text (handlers : HandlerReader) : Display → Except DisplayError Text
  | .message markup =>
    match Markup.render handlers markup with
    | .error error => .error (.markup error)
    | .ok styled =>
      match styled.lookupError? messageFormat with
      | some error => .error (.style error)
      | none => encodable .layout (joinLines (Layout.wrap .fold lineWidth styled.text))
  | .code t => encodable .code (Code.dropSequences (t ++ [.char '\n']))
  | .listing t => encodable .layout (joinLines (Code.listingLines t))
  | .table marked =>
    match marked.render handlers with
    | .error error => .error (.markup error)
    | .ok rendered =>
      let table := rendered.plain marked.head
      match rendered.lookupError? (table.widths lineWidth) with
      | some error => .error (.style error)
      | none => encodable .layout (joinLines (table.lines lineWidth))

end Display

end Shapewright.Console
