import Shapewright.Console.Color
import Shapewright.Text.Blank
import Shapewright.Text.Case

/-!
# Styles

A style is described by words: attributes, perhaps denied, a color, the color behind the text, and
a link.  Descriptions that say the same have one normal form; it is what the tags of a marked-up
text are compared by.
-/

namespace Shapewright.Console

/-- The attributes of a text, in the order in which the normal form of a style lists them. -/
inductive Attribute where
  | bold
  | dim
  | italic
  | underline
  | blink
  | fastBlink
  | reverse
  | conceal
  | strike
  | doubleUnderline
  | frame
  | encircle
  | overline
deriving DecidableEq

namespace Attribute

/-- All attributes, in order. -/
def all : List Attribute :=
  [.bold, .dim, .italic, .underline, .blink, .fastBlink, .reverse, .conceal, .strike,
    .doubleUnderline, .frame, .encircle, .overline]

/-- The words for an attribute, its name first. -/
def words : Attribute → List String
  | .bold => ["bold", "b"]
  | .dim => ["dim", "d"]
  | .italic => ["italic", "i"]
  | .underline => ["underline", "u"]
  | .blink => ["blink"]
  | .fastBlink => ["blink2"]
  | .reverse => ["reverse", "r"]
  | .conceal => ["conceal", "c"]
  | .strike => ["strike", "s"]
  | .doubleUnderline => ["underline2", "uu"]
  | .frame => ["frame"]
  | .encircle => ["encircle"]
  | .overline => ["overline", "o"]

/-- The name of an attribute. -/
def name (a : Attribute) : Text := a.words.headD ""

/-- The attribute that a word stands for. -/
def ofWord? (word : Text) : Option Attribute :=
  all.find? fun a => a.words.any fun w => word = Text.ofString w

end Attribute

/-- Why a description is no style: it holds a word that says nothing about styles, or a color with a
part that is no number. -/
inductive StyleError where
  | unknown
  | color (error : Color.PartError)
deriving DecidableEq

/-- A style; an attribute that is not listed is left as it is. -/
structure Style where
  attributes : List (Attribute × Bool) := []
  color : Option Text := none
  background : Option Text := none
  link : Option Text := none

namespace Style

/-- A style with an attribute, or with its denial. -/
def withAttribute (style : Style) (a : Attribute) (value : Bool) : Style :=
  { style with attributes := (a, value) :: style.attributes }

/-- The color that a word stands for, in lower case. -/
def namedColor (word : Text) : Except StyleError Text := do
  let lower := word.lower
  match ← (Color.read lower).mapError .color with
  | true => .ok lower
  | false => .error .unknown

/-- A style extended by what the words say. -/
def extend (style : Style) : List Text → Except StyleError Style
  | [] => .ok style
  | word :: rest =>
    let lower := word.lower
    if lower = Text.ofString "on" then
      match rest with
      | [] => .error .unknown
      | color :: rest => do
        let color ← namedColor color
        extend { style with background := some color } rest
    else if lower = Text.ofString "not" then
      match rest with
      | [] => .error .unknown
      | word :: rest =>
        match Attribute.ofWord? word with
        | some a => extend (style.withAttribute a false) rest
        | none => .error .unknown
    else if lower = Text.ofString "link" then
      match rest with
      | [] => .error .unknown
      | target :: rest => extend { style with link := some target } rest
    else
      match Attribute.ofWord? lower with
      | some a => extend (style.withAttribute a true) rest
      | none => do
        let color ← namedColor word
        extend { style with color := some color } rest

/-- The style that a description stands for. -/
def read (description : Text) : Except StyleError Style := extend {} description.words

/-- The words for an attribute in the normal form of a style. -/
def attributeWords (style : Style) (a : Attribute) : List Text :=
  match style.attributes.find? (fun entry => entry.1 = a) with
  | some (_, true) => [a.name]
  | some (_, false) => [Text.ofString "not", a.name]
  | none => []

/-- The words of the normal form of a style. -/
def words (style : Style) : List Text :=
  Attribute.all.flatMap style.attributeWords ++ style.color.toList ++
    (style.background.map fun color => [Text.ofString "on", color]).getD [] ++
    (style.link.map fun target => [Text.ofString "link", target]).getD []

/-- The normal form of a style. -/
def text (style : Style) : Text :=
  match style.words with
  | [] => "none"
  | words => Text.join " " words

/-- The normal form of a description.  One that is no style is just trimmed and in lower case,
unless a part of a color in it is no number. -/
def normalize (description : Text) : Except Color.PartError Text :=
  match read description with
  | .ok style => .ok style.text
  | .error .unknown => .ok description.trimBlanks.lower
  | .error (.color error) => .error error

/-- The error that ends the look-up of a description; one that is no style is passed over. -/
def lookupError? (description : Text) : Option Color.PartError :=
  match read description with
  | .error (.color error) => some error
  | _ => none

end Style

end Shapewright.Console
