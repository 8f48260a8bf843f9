import Shapewright.Console.Literal
import Shapewright.Console.Style
import Shapewright.Console.Styled

/-!
# Markup

A marked-up text holds tags in square brackets.  An opening tag names a style, `[/]` closes the last
open tag and `[/style]` the last open one of that style.  A tag starts with a small letter, a hash,
a solidus or an at sign; other brackets are just text.  A tag with an at sign names a handler, with
parameters behind an equals sign.  Of the backslashes in front of a tag each two stand for one, and
a single one left over turns the tag into text.
-/

namespace Shapewright.Console

/-- Why a marked-up text cannot be rendered: a closing tag fits no open one, the parameters of a
handler cannot be read, or the style of a tag has a color with a part that is no number. -/
inductive MarkupError where
  | nothingToClose (position : Nat)
  | unmatched (tag : Text) (position : Nat)
  | handler (error : Text)
  | color (error : Color.PartError)
deriving DecidableEq

/-- The wording of a markup error. -/
def MarkupError.message : MarkupError → Text
  | .nothingToClose position =>
    Text.ofString "closing tag '[/]' at position " ++ Text.ofNat 10 position ++
      Text.ofString " has nothing to close"
  | .unmatched tag position =>
    Text.ofString "closing tag '[" ++ tag ++ Text.ofString "]' at position " ++
      Text.ofNat 10 position ++ Text.ofString " doesn't match any open tag"
  | .handler error => error
  | .color error => error.message

namespace Markup

/-- A piece of a marked-up text: a text, or the content of a tag with its position. -/
inductive Piece where
  | text (t : Text)
  | tag (content : Text) (position : Nat)
deriving DecidableEq

/-- Whether a code point may come first in a tag. -/
def startsTag : CodePoint → Bool
  | .char c => ('a' ≤ c && c ≤ 'z') || c = '#' || c = '/' || c = '@'
  | .surrogate _ => false

/-- The content of the tag whose opening bracket has been read, and what follows the tag. -/
def tag? : Text → Option (Text × Text)
  | [] => none
  | c :: rest =>
    if startsTag c then
      let (content, rest) := rest.span (fun c => c != .char '[' && c != .char ']')
      match rest with
      | .char ']' :: rest => some (c :: content, rest)
      | _ => none
    else none

/-- A text in which a bracket with a backslash in front stands for itself. -/
def unescape : Text → Text
  | .char '\\' :: .char '[' :: rest => .char '[' :: unescape rest
  | c :: rest => c :: unescape rest
  | [] => []

/-- The piece of text that has been collected, last code point first, if there is any. -/
def flush (collected : Text) : List Piece :=
  if collected.isEmpty then [] else [.text (unescape collected.reverse)]

/-- The pieces for a tag behind a number of backslashes, at the position of the first of them. -/
def tagPieces (position backslashes : Nat) (content : Text) : List Piece :=
  let halves := backslashes / 2
  let front := if halves = 0 then [] else [.text (List.replicate halves (.char '\\'))]
  if backslashes % 2 = 0 then front ++ [.tag content (position + 2 * halves)]
  else front ++ [.text (.char '[' :: content ++ [.char ']'])]

/-- The pieces of a text at a position behind a collected piece; `fuel` bounds the number of
steps. -/
def piecesFrom (fuel position : Nat) (collected : Text) (t : Text) : List Piece :=
  match fuel, t with
  | _, [] => flush collected
  | 0, _ => flush collected
  | fuel + 1, c :: rest =>
    let (backslashes, behind) := (c :: rest).span (· == .char '\\')
    let tag :=
      match behind with
      | .char '[' :: behind => tag? behind
      | _ => none
    match tag with
    | some (content, rest) =>
      flush collected ++ tagPieces position backslashes.length content ++
        piecesFrom fuel (position + backslashes.length + content.length + 2) [] rest
    | none =>
      if backslashes.isEmpty then piecesFrom fuel (position + 1) (c :: collected) rest
      else
        piecesFrom fuel (position + backslashes.length) (backslashes ++ collected) behind

/-- The pieces of a marked-up text. -/
def pieces (t : Text) : List Piece := piecesFrom t.length 0 [] t

/-- A tag that is open: where its part of the text starts, its style, and its parameters, if it has
an equals sign. -/
structure OpenTag where
  start : Nat
  style : Text
  parameters : Option Text
deriving DecidableEq

/-- The description that is looked up for a tag. -/
def OpenTag.description (tag : OpenTag) : Text :=
  match tag.parameters with
  | some parameters => tag.style ++ .char ' ' :: parameters
  | none => tag.style

/-- Whether a tag names a handler and not a style. -/
def OpenTag.isHandler (tag : OpenTag) : Bool := tag.style.head? = some (.char '@')

/-- How far a marked-up text has been rendered: the text that is shown, the tags that are open, the
last one first, and the styles of the parts whose tags are closed, in the order of their closing. -/
structure Rendering where
  text : Text := []
  opened : List OpenTag := []
  spans : List Span := []

namespace Rendering

/-- Closes a tag.  What the parameters of a handler stand for is read now. -/
def close (handlers : HandlerReader) (r : Rendering) (tag : OpenTag) :
    Except MarkupError Rendering :=
  let opened := r.opened.erase tag
  if tag.isHandler then
    match tag.parameters with
    | none | some [] => .ok { r with opened }
    | some parameters =>
      match handlers parameters with
      | some error => .error (.handler error)
      | none => .ok { r with opened }
  else .ok { r with opened, spans := r.spans ++ [⟨tag.start, r.text.length, tag.description⟩] }

/-- Goes on with a tag. -/
def takeTag (handlers : HandlerReader) (r : Rendering) (content : Text) (position : Nat) :
    Except MarkupError Rendering := do
  let name := content.takeWhile (· != .char '=')
  match name with
  | .char '/' :: style =>
    let style := Text.trimBlanks style
    if style.isEmpty then
      match r.opened with
      | [] => .error (.nothingToClose position)
      | tag :: _ => r.close handlers tag
    else do
      let style ← (Style.normalize style).mapError .color
      match r.opened.find? (·.style = style) with
      | none => .error (.unmatched content position)
      | some tag => r.close handlers tag
  | name => do
    let style ← (Style.normalize name).mapError .color
    let parameters :=
      if name.length < content.length then some (content.drop (name.length + 1)) else none
    .ok { r with opened := ⟨r.text.length, style, parameters⟩ :: r.opened }

/-- Goes on with a piece.  Control characters that are not shown take no room. -/
def take (handlers : HandlerReader) (r : Rendering) : Piece → Except MarkupError Rendering
  | .text t => .ok { r with text := r.text ++ Layout.dropHidden t }
  | .tag content position => r.takeTag handlers content position

/-- The text with its styles; tags that are still open hold up to its end. -/
def styled (r : Rendering) : Styled where
  text := r.text
  spans :=
    let openSpans := r.opened.map fun tag => Span.mk tag.start r.text.length tag.description
    (r.spans ++ openSpans).foldl (fun spans span => span.insert spans) []

end Rendering

/-- The text that a marked-up text shows, with its styles. -/
def render (handlers : HandlerReader) (t : Text) : Except MarkupError Styled :=
  ((pieces t).foldlM (Rendering.take handlers) {}).map Rendering.styled

end Markup

end Shapewright.Console
