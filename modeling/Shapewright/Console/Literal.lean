import Shapewright.Text.Blank
import Shapewright.Text.Digit
import Shapewright.Text.Letter
import Shapewright.Text.Quoted

/-!
# Handlers

The parameters of a handler name a function and maybe its arguments, which are literals of the host
language.  Reading literals is the host's affair, so a console takes a reader of parameters for
granted; the one here knows numbers, quoted texts, the words for constants, and tuples, sets and
dictionaries of such literals.
-/

namespace Shapewright.Console

/-- What a host makes of the parameters of a handler: nothing if they can be read, else the
error. -/
abbrev HandlerReader := Text → Option Text

namespace Literal

/-- The words for constants. -/
def constants : List Text := ["True", "False", "None"]

/-- Whether a text is a decimal number, maybe with a fraction. -/
def isNumber (t : Text) : Bool :=
  match t.span CodePoint.isAsciiDigit with
  | (_ :: _, []) => true
  | (digits, .char '.' :: fraction) =>
    fraction.all CodePoint.isAsciiDigit && !(digits.isEmpty && fraction.isEmpty)
  | _ => false

/-- What follows a quoted text whose opening quote has been read. -/
def skipQuoted (quote : CodePoint) : Text → Option Text
  | [] => none
  | c :: rest =>
    if c = quote then some rest
    else if c = .char '\n' || c = .char '\\' then none
    else skipQuoted quote rest

/-- Whether a code point may stand in a number, a constant or the name of a function. -/
def isWordPart (c : CodePoint) : Bool :=
  c.isLetter || c.decimalDigit?.isSome || c = .char '_' || c = .char '.'

mutual

/-- What follows the literal at the start of a text; `fuel` bounds the number of steps. -/
def skip (fuel : Nat) (t : Text) : Option Text :=
  match fuel, t.dropWhile CodePoint.isBlank with
  | 0, _ => none
  | _, [] => none
  | fuel + 1, .char '(' :: rest => skipItems fuel (.char ')') rest
  | fuel + 1, .char '\x7b' :: rest => skipItems fuel (.char '\x7d') rest
  | fuel + 1, .char '-' :: rest => skip fuel rest
  | _, .char '\'' :: rest => skipQuoted (.char '\'') rest
  | _, .char '"' :: rest => skipQuoted (.char '"') rest
  | _, t =>
    let (word, rest) := t.span isWordPart
    if constants.contains word || isNumber word then some rest else none

/-- What follows literals with commas or colons between them, up to a closing bracket. -/
def skipItems (fuel : Nat) (closing : CodePoint) (t : Text) : Option Text :=
  match fuel with
  | 0 => none
  | fuel + 1 =>
    match t.dropWhile CodePoint.isBlank with
    | [] => none
    | c :: rest =>
      if c = closing then some rest
      else do
        match (← skip fuel (c :: rest)).dropWhile CodePoint.isBlank with
        | [] => none
        | c :: rest =>
          if c = closing then some rest
          else if c = .char ',' || c = .char ':' then skipItems fuel closing rest
          else none

end

/-- Whether a text is a literal. -/
def isLiteral (t : Text) : Bool :=
  match skip (2 * t.length + 2) t with
  | some rest => rest.all CodePoint.isBlank
  | none => false

/-- A reader of parameters: the name of a function, the name with arguments in round brackets, or a
literal. -/
def refusal? : HandlerReader := fun parameters =>
  let given := parameters.trimBlanks
  let arguments := given.dropWhile isWordPart
  let isCall := arguments.head? = some (.char '(') && arguments.getLast? = some (.char ')')
  if arguments.isEmpty || isLiteral (if isCall then arguments else given) then none
  else some (Text.ofString "error parsing " ++ parameters.quoted ++ Text.ofString "; malformed")

end Literal

end Shapewright.Console
