import Shapewright.Text.Digit

/-!
# Tags

The tag of a node says what it is read as.  A plain scalar without a tag gets one from its spelling:
words for truth values, numbers in four bases and in base sixty, dates, and so on.  A line feed at
the very end of a scalar does not count.
-/

namespace Shapewright.Yaml

/-- What a node is read as. -/
inductive Tag where
  | null
  | boolean
  | integer
  | float
  | text
  | binary
  | timestamp
  | sequence
  | mapping
  | set
  | orderedMap
  | pairs
  | merge
  | default
  | unknown
deriving DecidableEq

/-- What the common tags start with. -/
def tagBase : Text := "tag:yaml.org,2002:"

/-- The common tags by their names. -/
def namedTags : List (Text × Tag) :=
  [(Text.ofString "null", .null), (Text.ofString "bool", .boolean),
    (Text.ofString "int", .integer), (Text.ofString "float", .float),
    (Text.ofString "str", .text), (Text.ofString "binary", .binary),
    (Text.ofString "timestamp", .timestamp), (Text.ofString "seq", .sequence),
    (Text.ofString "map", .mapping), (Text.ofString "set", .set),
    (Text.ofString "omap", .orderedMap), (Text.ofString "pairs", .pairs),
    (Text.ofString "merge", .merge), (Text.ofString "value", .default)]

/-- The tag with a full name. -/
def Tag.ofName (name : Text) : Tag :=
  match namedTags.find? (fun (short, _) => tagBase ++ short = name) with
  | some (_, tag) => tag
  | none => .unknown

/-- Whether a tag is for collections. -/
def Tag.isCollection : Tag → Bool
  | .sequence | .mapping | .set | .orderedMap | .pairs => true
  | _ => false

/-- Whether a tag has no value of its own. -/
def Tag.isValueless : Tag → Bool
  | .merge | .default | .unknown => true
  | _ => false

namespace Spelling

/-- Whether a code point is an ASCII digit or an underscore. -/
def isDigitOrUnderscore (c : CodePoint) : Bool := c.isAsciiDigit || c = .char '_'

/-- A text without a sign at its start. -/
def unsigned : Text → Text
  | .char '+' :: rest => rest
  | .char '-' :: rest => rest
  | t => t

/-- Whether a text is one of some words. -/
def isOneOf (words : List String) (t : Text) : Bool := words.any (fun w => Text.ofString w = t)

/-- Whether a text is a word for a truth value. -/
def isBoolean (t : Text) : Bool :=
  isOneOf ["yes", "Yes", "YES", "no", "No", "NO", "true", "True", "TRUE", "false", "False",
    "FALSE", "on", "On", "ON", "off", "Off", "OFF"] t

/-- Whether a text stands for null. -/
def isNull (t : Text) : Bool := isOneOf ["~", "null", "Null", "NULL", ""] t

/-- Whether a text starts with an ASCII digit and goes on with digits and underscores. -/
def isDigits : Text → Bool
  | [] => false
  | c :: rest => c.isAsciiDigit && rest.all isDigitOrUnderscore

/-- Whether a text is a part of a number in base sixty behind its first: one digit, or two below
sixty. -/
def isSixtieth : Text → Bool
  | [a] => a.isAsciiDigit
  | [a, b] => (match a.asciiDigit? with | some n => n < 6 | none => false) && b.isAsciiDigit
  | _ => false

/-- Whether a text is a number in base sixty: at least two parts between colons. -/
def isBaseSixty (isFirst : Text → Bool) (t : Text) : Bool :=
  match t.splitOn (.char ':') with
  | first :: second :: rest => isFirst first && (second :: rest).all isSixtieth
  | _ => false

/-- Whether digits and underscores in one of the bases follow a zero and a letter. -/
def isPrefixed (letter : Char) (isDigit : CodePoint → Bool) : Text → Bool
  | .char '0' :: .char c :: d :: rest =>
    c = letter && (d :: rest).all (fun e => isDigit e || e = .char '_')
  | _ => false

/-- Whether a code point is one of the first digits below a bound. -/
def isDigitBelow (bound : Nat) (c : CodePoint) : Bool :=
  match c.asciiDigit? with
  | some n => n < bound
  | none => false

/-- Whether a text is a zero before octal digits and underscores. -/
def isOctal : Text → Bool
  | .char '0' :: d :: rest => (d :: rest).all (fun e => isDigitBelow 8 e || e = .char '_')
  | _ => false

/-- Whether a text is decimal digits and underscores that do not start with a zero. -/
def isDecimal : Text → Bool
  | [] => false
  | c :: rest => c.isAsciiDigit && c != .char '0' && rest.all isDigitOrUnderscore

/-- Whether a text is spelled as an integer. -/
def isInteger (t : Text) : Bool :=
  let u := unsigned t
  isPrefixed 'b' (isDigitBelow 2) u || isOctal u || u = [.char '0'] || isDecimal u ||
    isPrefixed 'x' CodePoint.isHexDigit u || isBaseSixty isDecimal u

/-- Whether a text is empty or an exponent with a sign. -/
def isExponentOrEmpty : Text → Bool
  | [] => true
  | .char e :: .char sign :: digits =>
    (e = 'e' || e = 'E') && (sign = '-' || sign = '+') && !digits.isEmpty &&
      digits.all CodePoint.isAsciiDigit
  | _ => false

/-- Whether a text is a point with digits and underscores and maybe an exponent behind it. -/
def isFraction : Text → Bool
  | .char '.' :: rest => isExponentOrEmpty (rest.dropWhile isDigitOrUnderscore)
  | _ => false

/-- Whether a text is spelled as a floating-point number. -/
def isFloat (t : Text) : Bool :=
  let u := unsigned t
  let whole := u.takeWhile isDigitOrUnderscore
  let rest := u.dropWhile isDigitOrUnderscore
  (isDigits whole && isFraction rest) ||
    (match t with
      | .char '.' :: d :: _ => d.isAsciiDigit && isFraction t
      | _ => false) ||
    (match (u.takeWhile (· != .char '.')), (u.dropWhile (· != .char '.')) with
      | sixties, .char '.' :: fraction =>
        isBaseSixty isDigits sixties && fraction.all isDigitOrUnderscore
      | _, _ => false) ||
    isOneOf [".inf", ".Inf", ".INF"] u || isOneOf [".nan", ".NaN", ".NAN"] t

end Spelling

end Shapewright.Yaml
