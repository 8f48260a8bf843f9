import Shapewright.Text.Digit
import Shapewright.Value.Basic

/-!
# Reading JSON

A lenient reader of JSON texts.  Besides standard JSON it reads leading zeros, a missing integer
part, raw control characters in strings, and the literals of the numbers that are not finite; it
keeps lone surrogates.  The end of the text reads as U+0000 does.
-/

namespace Shapewright.Json

/-- The words that stand for a value. -/
inductive Literal where
  | true
  | false
  | null
  | notANumber
  | infinity
  | minusInfinity
deriving DecidableEq

/-- Why a text cannot be read. -/
inductive ReadError where
  | expectedValue
  | misspelled (literal : Literal)
  | trailingData
  | unmatchedQuote
  | unterminatedEscape
  | unknownEscape
  | unterminatedUnicodeEscape
  | badUnicodeEscape
  | commaBeforeArrayEnd
  | missingArraySeparator
  | badObjectSeparator
  | keyNotText
  | missingColon
  | tooDeep
  | tooManyDigits (count : Nat)
deriving DecidableEq

/-- The spelling of a literal. -/
def Literal.spelling : Literal → Text
  | .true => "true"
  | .false => "false"
  | .null => "null"
  | .notANumber => "NaN"
  | .infinity => "Infinity"
  | .minusInfinity => "-Infinity"

/-- The value of a literal. -/
def Literal.value : Literal → Value
  | .true => .boolean Bool.true
  | .false => .boolean Bool.false
  | .null => .null
  | .notANumber => .float .nan
  | .infinity => .float (.infinite Bool.false)
  | .minusInfinity => .float (.infinite Bool.true)

/-- The wording of a read error. -/
def ReadError.message : ReadError → Text
  | .expectedValue => "Expected object or value"
  | .misspelled literal =>
    Text.ofString "Unexpected character found when decoding '" ++ literal.spelling ++ [.char '\'']
  | .trailingData => "Trailing data"
  | .unmatchedQuote => "Unmatched '\"' when decoding 'string'"
  | .unterminatedEscape => "Unterminated escape sequence when decoding 'string'"
  | .unknownEscape => "Unrecognized escape sequence when decoding 'string'"
  | .unterminatedUnicodeEscape => "Unterminated unicode escape sequence when decoding 'string'"
  | .badUnicodeEscape =>
    "Unexpected character in unicode escape sequence when decoding 'string'"
  | .commaBeforeArrayEnd => "Unexpected character found when decoding array value (1)"
  | .missingArraySeparator => "Unexpected character found when decoding array value (2)"
  | .badObjectSeparator => "Unexpected character in found when decoding object value"
  | .keyNotText => "Key name of object must be 'string' when decoding 'object'"
  | .missingColon => "No ':' found when decoding object value"
  | .tooDeep => "Reached object decoding depth limit"
  | .tooManyDigits count => tooManyDigitsMessage count

/-- Whether a code point may stand between the tokens. -/
def isSpace (c : CodePoint) : Bool :=
  c = .char ' ' || c = .char '\t' || c = .char '\r' || c = .char '\n'

/-- A text from its first token on. -/
def skipSpace (t : Text) : Text := t.dropWhile isSpace

/-- The text behind a literal whose first letters have been read. -/
def expect (literal : Literal) : Text → Text → Except ReadError Text
  | [], t => .ok t
  | c :: rest, t =>
    match t with
    | d :: t => if c = d then expect literal rest t else .error (.misspelled literal)
    | [] => .error (.misspelled literal)

/-- The digits at the start of a text and what follows them. -/
def spanDigits (t : Text) : Text × Text := t.span CodePoint.isAsciiDigit

/-- The exponent at the start of a text, if there is one, and what follows it. -/
def readExponent (t : Text) : Int × Text :=
  match t with
  | .char 'e' :: rest | .char 'E' :: rest =>
    let (negative, unsigned) :=
      match rest with
      | .char '-' :: rest => (true, rest)
      | .char '+' :: rest => (false, rest)
      | rest => (false, rest)
    match spanDigits unsigned with
    | ([], _) => (0, t)
    | (digits, rest) =>
      let n : Int := Text.digitsValue digits
      (if negative then -n else n, rest)
  | t => (0, t)

/-- The longest decimal number with a fraction or an exponent at the start of a text, and what
follows it; without a digit before the exponent nothing is read. -/
def readFloat (t : Text) : Binary64 × Text :=
  let (negative, unsigned) :=
    match t with
    | .char '-' :: rest => (true, rest)
    | t => (false, t)
  let (whole, rest) := spanDigits unsigned
  let (fraction, rest) :=
    match rest with
    | .char '.' :: rest => spanDigits rest
    | rest => ([], rest)
  if whole.isEmpty && fraction.isEmpty then (.signedZero false, t)
  else
    let (exponent, rest) := readExponent rest
    (.ofDecimal negative (Text.digitsValue (whole ++ fraction)) (exponent - fraction.length), rest)

/-- Whether an integer fits 64 bits: without a sign, or with one if it is written with a minus. -/
def fitsWord (negative : Bool) (n : Nat) : Bool :=
  if negative then n ≤ Nat.pow 2 63 else n < Nat.pow 2 64

/-- The number at the start of a text, which begins with a digit or a minus, and what follows it.
No digits at all read as zero. -/
def readNumber (t : Text) : Except ReadError (Value × Text) :=
  let (negative, unsigned) :=
    match t with
    | .char '-' :: rest => (true, rest)
    | t => (false, t)
  let (digits, rest) := spanDigits unsigned
  match rest with
  | .char '.' :: _ | .char 'e' :: _ | .char 'E' :: _ =>
    let (x, rest) := readFloat t
    .ok (.float x, rest)
  | rest =>
    let n := Text.digitsValue digits
    if maxDecimalDigits < digits.length && !fitsWord negative n then
      .error (.tooManyDigits digits.length)
    else .ok (.integer (if negative then -n else n), rest)

/-- The meaning of a one-letter escape. -/
def simpleEscape? : CodePoint → Option CodePoint
  | .char '"' => some (.char '"')
  | .char '\\' => some (.char '\\')
  | .char '/' => some (.char '/')
  | .char 'b' => some (.char '\x08')
  | .char 'f' => some (.char '\x0c')
  | .char 'n' => some (.char '\n')
  | .char 'r' => some (.char '\r')
  | .char 't' => some (.char '\t')
  | _ => none

/-- The value of four hexadecimal digits. -/
def hexQuad? (a b c d : CodePoint) : Option Nat := do
  let a ← a.hexDigit?
  let b ← b.hexDigit?
  let c ← c.hexDigit?
  let d ← d.hexDigit?
  some (a * 0x1000 + b * 0x100 + c * 0x10 + d)

/-- Why a text does not start with four hexadecimal digits. -/
def unicodeEscapeError (t : Text) : ReadError :=
  match t.dropWhile CodePoint.isHexDigit with
  | [] => .unterminatedUnicodeEscape
  | .char '\x00' :: _ => .unterminatedUnicodeEscape
  | _ => .badUnicodeEscape

/-- The low surrogate whose escape stands at the start of a text, if one does. -/
def lowSurrogateEscape? : Text → Option CodePoint
  | .char '\\' :: .char 'u' :: a :: b :: c :: d :: _ =>
    match hexQuad? a b c d with
    | some n => if (CodePoint.ofNat n).isLowSurrogate then some (.ofNat n) else none
    | none => none
  | _ => none

/-- The content of a string that starts with an escaped code point: the escapes of a surrogate
pair, one right behind the other, make one character. -/
def consEscaped (c : CodePoint) (next : Option CodePoint) (t : Text) : Text :=
  match next with
  | some low => if c.isHighSurrogate then .ofPair c low :: t.drop 1 else c :: t
  | none => c :: t

/-- The content of a string whose opening quote has been read, and what follows its closing
quote. -/
def readString : Text → Except ReadError (Text × Text)
  | [] => .error .unmatchedQuote
  | .char '\x00' :: _ => .error .unmatchedQuote
  | .char '"' :: rest => .ok ([], rest)
  | [.char '\\'] => .error .unterminatedEscape
  | .char '\\' :: .char '\x00' :: _ => .error .unterminatedEscape
  | .char '\\' :: .char 'u' :: a :: b :: c :: d :: rest =>
    match hexQuad? a b c d with
    | none => .error (unicodeEscapeError (a :: b :: c :: d :: rest))
    | some n =>
      (readString rest).map fun (t, rest') =>
        (consEscaped (.ofNat n) (lowSurrogateEscape? rest) t, rest')
  | .char '\\' :: .char 'u' :: rest => .error (unicodeEscapeError rest)
  | .char '\\' :: c :: rest =>
    match simpleEscape? c with
    | some c => (readString rest).map fun (t, rest') => (c :: t, rest')
    | none => .error .unknownEscape
  | c :: rest => (readString rest).map fun (t, rest') => (c :: t, rest')

mutual

/-- The value at the start of a text and what follows it.  `depth` containers may still be opened;
`fuel` bounds the number of steps. -/
def readValue (fuel depth : Nat) (t : Text) : Except ReadError (Value × Text) :=
  match fuel with
  | 0 => .error .expectedValue
  | fuel + 1 =>
    match skipSpace t with
    | .char '"' :: rest => (readString rest).map fun (t, rest) => (.text t, rest)
    | .char '[' :: rest =>
      match depth with
      | 0 => .error .tooDeep
      | depth + 1 =>
        match skipSpace rest with
        | .char ']' :: rest => .ok (.array [], rest)
        | rest => (readItems fuel depth rest).map fun (items, rest) => (.array items, rest)
    | .char '\x7b' :: rest =>
      match depth with
      | 0 => .error .tooDeep
      | depth + 1 =>
        match skipSpace rest with
        | .char '\x7d' :: rest => .ok (.object [], rest)
        | rest =>
          (readMembers fuel depth rest).map fun (members, rest) =>
            (.object (Value.entriesOf members), rest)
    | .char 't' :: rest => readLiteral .true rest
    | .char 'f' :: rest => readLiteral .false rest
    | .char 'n' :: rest => readLiteral .null rest
    | .char 'N' :: rest => readLiteral .notANumber rest
    | .char 'I' :: rest => readLiteral .infinity rest
    | .char '-' :: .char 'I' :: rest =>
      (expect .minusInfinity (Literal.minusInfinity.spelling.drop 2) rest).map fun rest =>
        (Literal.minusInfinity.value, rest)
    | c :: rest =>
      if c = .char '-' || c.isAsciiDigit then readNumber (c :: rest) else .error .expectedValue
    | [] => .error .expectedValue

/-- The value of a literal whose first letter has been read, and what follows it. -/
def readLiteral (literal : Literal) (t : Text) : Except ReadError (Value × Text) :=
  (expect literal (literal.spelling.drop 1) t).map fun rest => (literal.value, rest)

/-- The items of an array up to its closing bracket, at least one, and what follows it. -/
def readItems (fuel depth : Nat) (t : Text) : Except ReadError (List Value × Text) :=
  match fuel with
  | 0 => .error .expectedValue
  | fuel + 1 =>
    match readValue fuel depth t with
    | .error e => .error e
    | .ok (item, rest) =>
      match skipSpace rest with
      | .char ']' :: rest => .ok ([item], rest)
      | .char ',' :: rest =>
        match skipSpace rest with
        | .char ']' :: _ => .error .commaBeforeArrayEnd
        | rest => (readItems fuel depth rest).map fun (items, rest) => (item :: items, rest)
      | _ => .error .missingArraySeparator

/-- The members of an object up to its closing brace, at least one, and what follows it.  A key is
read as any value before it turns out to be no text. -/
def readMembers (fuel depth : Nat) (t : Text) : Except ReadError (List (Text × Value) × Text) :=
  match fuel with
  | 0 => .error .expectedValue
  | fuel + 1 =>
    match readValue fuel depth t with
    | .error e => .error e
    | .ok (.text key, rest) =>
      match skipSpace rest with
      | .char ':' :: rest =>
        match readValue fuel depth rest with
        | .error e => .error e
        | .ok (value, rest) =>
          match skipSpace rest with
          | .char '\x7d' :: rest => .ok ([(key, value)], rest)
          | .char ',' :: rest =>
            match skipSpace rest with
            | .char '\x7d' :: _ => .error .badObjectSeparator
            | rest =>
              (readMembers fuel depth rest).map fun (members, rest) =>
                ((key, value) :: members, rest)
          | _ => .error .badObjectSeparator
      | _ => .error .missingColon
    | .ok _ => .error .keyNotText

end

/-- The most containers that may be open at one place. -/
def maxDepth : Nat := 1024

/-- The value that a whole text stands for, with at most `depth` open containers. -/
def readWithin (depth : Nat) (t : Text) : Except ReadError Value :=
  match readValue (2 * t.length + 2) depth t with
  | .error e => .error e
  | .ok (value, rest) => if (skipSpace rest).isEmpty then .ok value else .error .trailingData

/-- The value that a whole text stands for. -/
def read (t : Text) : Except ReadError Value := readWithin maxDepth t

end Shapewright.Json
