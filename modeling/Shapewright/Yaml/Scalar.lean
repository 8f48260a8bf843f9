import Shapewright.Text.Blank
import Shapewright.Text.Case
import Shapewright.Value.Basic
import Shapewright.Yaml.Base64
import Shapewright.Yaml.Error
import Shapewright.Yaml.Node

/-!
# Values of scalars

What the content of a scalar with a given tag stands for.  An explicit tag may stand at any content,
so more is read here than is recognized in a scalar without a tag.
-/

namespace Shapewright.Yaml.Scalar

/-- The value of a digit in bases up to thirty-six, in any script and case. -/
def digit? (c : CodePoint) : Option Nat :=
  match c.decimalDigit? with
  | some n => some n
  | none =>
    let n := c.toNat
    if 0x41 ≤ n ∧ n ≤ 0x5A then some (n - 0x37)
    else if 0x61 ≤ n ∧ n ≤ 0x7A then some (n - 0x57)
    else none

/-- The value of a digit of a base. -/
def digitBelow? (base : Nat) (c : CodePoint) : Option Nat := (digit? c).filter (· < base)

/-- A text without the mark of its base, if it has one. -/
def dropBaseMark (base : Nat) (t : Text) : Text :=
  match t with
  | .char '0' :: .char c :: rest =>
    if (base = 16 && (c = 'x' || c = 'X')) || (base = 8 && (c = 'o' || c = 'O')) ||
        (base = 2 && (c = 'b' || c = 'B')) then rest
    else t
  | t => t

/-- A sign at the start of a text, and what follows it. -/
def splitSign : Text → Bool × Text
  | .char '-' :: rest => (true, rest)
  | .char '+' :: rest => (false, rest)
  | t => (false, t)

/-- An integer in a base, with blanks around it and a sign.  A decimal one has at most 4300
digits. -/
def integer? (base : Nat) (t : Text) : Option Int :=
  let (negative, unsigned) := splitSign t.trimBlanks
  let digits := dropBaseMark base unsigned
  if digits.isEmpty || (base = 10 && maxDecimalDigits < digits.length) then none
  else
    (digits.mapM (digitBelow? base)).map fun values =>
      let n : Int := numberOf base values
      if negative then -n else n

/-- An answer that may be missing because the text is malformed. -/
def orMalformed {α : Type} : Option α → Except Error α
  | some a => .ok a
  | none => .error .malformed

/-- The sum of the parts of a number in base sixty, the last one first. -/
def sumSixtieths : List Int → Int
  | [] => 0
  | part :: rest => part + 60 * sumSixtieths rest

/-- The content of a number without the underscores that group its digits. -/
def ungrouped (content : Text) : Text := content.filter (· != .char '_')

/-- The value of an integer without its sign. -/
def unsignedInteger (u : Text) : Except Error Int :=
  match u with
  | [] => .error .emptyNumber
  | .char '0' :: .char 'b' :: rest => orMalformed (integer? 2 rest)
  | .char '0' :: .char 'x' :: rest => orMalformed (integer? 16 rest)
  | [.char '0'] => .ok 0
  | .char '0' :: _ => orMalformed (integer? 8 u)
  | u =>
    if u.contains (.char ':') then
      (orMalformed ((u.splitOn (.char ':')).mapM (integer? 10))).map fun parts =>
        sumSixtieths parts.reverse
    else orMalformed (integer? 10 u)

/-- The value of an integer scalar. -/
def integer (content : Text) : Except Error Int :=
  let (negative, u) := splitSign (ungrouped content)
  (unsignedInteger u).map fun n => if negative then -n else n

/-- The digits at the start of a text as a list of their values, and what follows them. -/
def spanDigits : Text → List Nat × Text
  | [] => ([], [])
  | c :: rest =>
    match c.decimalDigit? with
    | some d =>
      let (digits, rest) := spanDigits rest
      (d :: digits, rest)
    | none => ([], c :: rest)

/-- An exponent that is a whole text; an empty one is zero. -/
def exponent? (t : Text) : Option Int :=
  match t with
  | [] => some 0
  | .char 'e' :: rest | .char 'E' :: rest =>
    let (negative, rest) := splitSign rest
    match spanDigits rest with
    | ([], _) => none
    | (digits, []) =>
      let n : Int := numberOf 10 digits
      some (if negative then -n else n)
    | _ => none
  | _ => none

/-- A floating-point number, with blanks around it and a sign. -/
def float? (t : Text) : Option Binary64 :=
  let (negative, u) := splitSign t.trimBlanks
  let lower := u.asciiLower
  if lower = Text.ofString "inf" || lower = Text.ofString "infinity" then
    some (.infinite negative)
  else if lower = Text.ofString "nan" then some .nan
  else
    let (whole, rest) := spanDigits u
    let (fraction, rest) :=
      match rest with
      | .char '.' :: rest => spanDigits rest
      | rest => ([], rest)
    if whole.isEmpty && fraction.isEmpty then none
    else
      (exponent? rest).map fun exponent =>
        .ofDecimal negative (numberOf 10 (whole ++ fraction)) (exponent - fraction.length)

/-- The sum of the parts of a floating-point number in base sixty, the last one first, where `unit`
is what the next part counts. -/
def addSixtieths (sum : Binary64) (unit : Nat) : List Binary64 → Except Error Binary64
  | [] => .ok sum
  | part :: rest =>
    let factor := Binary64.ofInt unit
    if factor.isFinite then addSixtieths (sum.add (part.multiply factor)) (unit * 60) rest
    else .error .numberTooLarge

/-- The value of a floating-point number in lower case without its sign. -/
def unsignedFloat (u : Text) : Except Error Binary64 :=
  if u = Text.ofString ".inf" then .ok (.infinite false)
  else if u = Text.ofString ".nan" then .ok .nan
  else if u.contains (.char ':') then do
    let parts ← orMalformed ((u.splitOn (.char ':')).mapM float?)
    addSixtieths (.signedZero false) 1 parts.reverse
  else orMalformed (float? u)

/-- The value of a floating-point scalar. -/
def float (content : Text) : Except Error Binary64 :=
  let spelled := Text.lower (ungrouped content)
  if spelled.isEmpty then .error .emptyNumber
  else
    let (negative, u) := splitSign spelled
    (unsignedFloat u).map fun x => if negative then x.negate else x

/-- The words for what is true, in lower case. -/
def trueWords : List String := ["yes", "true", "on"]

/-- The words for what is false, in lower case. -/
def falseWords : List String := ["no", "false", "off"]

/-- The value of a truth-value scalar. -/
def boolean (content : Text) : Except Error Bool :=
  let word := content.lower
  if Spelling.isOneOf trueWords word then .ok true
  else if Spelling.isOneOf falseWords word then .ok false
  else .error (.unknownBoolean word)

/-- The timestamp that is spelled by a content, if there is one.  A line feed at its very end does
not count. -/
def spelledTimestamp? (content : Text) : Option Timestamp :=
  Timestamp.read? (if content.getLast? = some (.char '\n') then content.dropLast else content)

/-- Checks the content of a timestamp scalar. -/
def timestamp (content : Text) : Except Error Unit :=
  match spelledTimestamp? content with
  | none => .error .noTimestamp
  | some timestamp => if timestamp.isValid then .ok () else .error .malformed

/-- The value of a scalar with a tag. -/
def value (tag : Tag) (content : Text) : Except Error Value :=
  match tag with
  | .null => .ok .null
  | .boolean => (boolean content).map .boolean
  | .integer => (integer content).map .integer
  | .float => (float content).map .float
  | .text => .ok (.text content)
  | .binary => (orMalformed (Base64.decode content)).map .bytes
  | .timestamp => (timestamp content).map fun _ => .foreign
  | _ => .error .malformed

end Shapewright.Yaml.Scalar
