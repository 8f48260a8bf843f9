import Shapewright.Settings.Issue
import Shapewright.Text.Blank
import Shapewright.Text.Digit
import Shapewright.Text.Utf8
import Shapewright.Value.Basic

/-!
# Integers in settings

An integer may be given as an integer, as a boolean, as a number without a fraction, or in text.  A
text may have blanks around it, a sign, leading zeros, single underscores between its digits, and a
fraction of zeros.
-/

namespace Shapewright.Settings

/-- Reads digits without a leading zero. -/
def readDigits (negative : Bool) (digits : Text) : Except Flaw Int :=
  if digits.isEmpty || !digits.all CodePoint.isAsciiDigit then .error .unreadableInteger
  else if 1 < digits.length && digits.head? == some (.char '0') then .error .unreadableInteger
  else if maxDecimalDigits < digits.length then .error .oversized
  else
    let n : Int := Text.digitsValue digits
    .ok (if negative then -n else n)

/-- Reads an optional minus and digits without a leading zero. -/
def readPlainInteger (t : Text) : Except Flaw Int :=
  match t with
  | .char '-' :: digits => readDigits true digits
  | digits => readDigits false digits

/-- The text from its last leading zero or the first other code point on, underscores among the
leading zeros included; a text that does not start with a digit has no such part. -/
def dropLeadingZeros : Text → Option Text
  | .char '0' :: rest => some (go (.char '0') rest)
  | c :: rest => if c.isAsciiDigit then some (c :: rest) else none
  | [] => none
where
  /-- The same behind `last`, a zero or an underscore. -/
  go (last : CodePoint) : Text → Text
    | [] => [last]
    | .char '.' :: rest => last :: .char '.' :: rest
    | c :: rest => if c = .char '0' || c = .char '_' then go c rest else c :: rest

/-- The text before its first point, if only zeros follow the point, at least one of them. -/
def dropZeroFraction (t : Text) : Text :=
  match t.dropWhile (· != .char '.') with
  | _ :: fraction =>
    if !fraction.isEmpty && fraction.all (· == .char '0') then t.takeWhile (· != .char '.') else t
  | [] => t

/-- Whether each underscore of a text stands alone between two other code points. -/
def hasSingleUnderscores : Text → Bool
  | [] => true
  | [c] => c != .char '_'
  | .char '_' :: .char '_' :: _ => false
  | _ :: rest => hasSingleUnderscores rest

/-- The text without its underscores, if each stands alone within the text. -/
def dropUnderscores (t : Text) : Text :=
  if t.head? != some (.char '_') && hasSingleUnderscores t then t.filter (· != .char '_') else t

/-- Reads an integer in text. -/
def integerOfText (t : Text) : Except Flaw Int :=
  if !t.isWellFormed then .error .notUnicode
  else
    match readPlainInteger t with
    | .ok n => .ok n
    | .error .oversized => .error .oversized
    | .error _ =>
      let (sign, unsigned) : Text × Text :=
        match Text.trim CodePoint.isWhiteSpace t with
        | .char '+' :: rest => ([], rest)
        | .char '-' :: rest => ([.char '-'], rest)
        | t => ([], t)
      match dropLeadingZeros unsigned with
      | none => .error .unreadableInteger
      | some digits =>
        readPlainInteger (sign ++ dropUnderscores (dropZeroFraction digits))

/-- Reads a floating-point number without a fraction, in the range of 64-bit integers. -/
def integerOfFloat (x : Binary64) : Except Flaw Int :=
  if !x.isFinite then .error .notFinite
  else
    match x.toInt? with
    | none => .error .fractional
    | some n => if n.natAbs < Nat.pow 2 63 then .ok n else .error .oversized

/-- The integer that the value of a setting stands for. -/
def integerOf (v : Value) : Except Flaw Int :=
  match v with
  | .boolean b => .ok (if b then 1 else 0)
  | .integer n => .ok n
  | .float x => integerOfFloat x
  | .text t => integerOfText t
  | .bytes content =>
    match Utf8.decode content with
    | .ok t => integerOfText t
    | .error _ => .error .unreadableInteger
  | _ => .error .notInteger

end Shapewright.Settings
