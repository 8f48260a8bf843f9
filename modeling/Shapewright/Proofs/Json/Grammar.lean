import Shapewright.Proofs.Json.Standard
import Shapewright.Json.Reader

/-!
# Grammars of JSON texts

The JSON grammar, with what the reader is lenient about left open: how a number may be spelled,
which code points of a string stand for themselves, and which words stand for a value.  The standard
grammar fills these in as JSON does, the lenient one as the reader does.

A derivation relates a text to the value that it stands for.  Where an object repeats a key, its
last value counts.
-/

namespace Shapewright.Json

/-! ## Numbers -/

/-- A text of decimal digits. -/
def AreDigits (t : Text) : Prop := ∀ c ∈ t, c.isAsciiDigit = true

/-- An exponent as it is spelled. -/
structure ExponentForm where
  letter : Char
  sign : Text
  digits : Text

namespace ExponentForm

/-- The text of an exponent. -/
def text (e : ExponentForm) : Text := .char e.letter :: (e.sign ++ e.digits)

/-- The number that an exponent stands for. -/
def value (e : ExponentForm) : Int :=
  if e.sign = Text.ofString "-" then -(Text.digitsValue e.digits : Int)
  else Text.digitsValue e.digits

/-- An exponent has a letter in either case, maybe a sign, and at least one digit. -/
structure IsExponent (e : ExponentForm) : Prop where
  letter : e.letter = 'e' ∨ e.letter = 'E'
  sign : e.sign = [] ∨ e.sign = Text.ofString "+" ∨ e.sign = Text.ofString "-"
  nonempty : e.digits ≠ []
  digits : AreDigits e.digits

end ExponentForm

/-- A number as it is spelled; the fraction is without its point. -/
structure NumberForm where
  negative : Bool
  whole : Text
  fraction : Option Text
  exponent : Option ExponentForm

namespace NumberForm

/-- The text of a number. -/
def text (form : NumberForm) : Text :=
  (if form.negative then [.char '-'] else []) ++
    (form.whole ++
      ((form.fraction.elim [] (.char '.' :: ·)) ++ (form.exponent.elim [] ExponentForm.text)))

/-- The number that a form stands for: an integer without a fraction and an exponent. -/
def value (form : NumberForm) : Value :=
  match form.fraction, form.exponent with
  | none, none =>
    .integer
      (if form.negative then -(Text.digitsValue form.whole : Int) else Text.digitsValue form.whole)
  | _, _ =>
    .float (.ofDecimal form.negative (Text.digitsValue (form.whole ++ form.fraction.getD []))
      ((form.exponent.elim 0 ExponentForm.value) - (form.fraction.getD []).length))

/-- The parts of a number that are there consist of digits. -/
structure HasDigits (form : NumberForm) : Prop where
  whole : AreDigits form.whole
  fraction : ∀ digits ∈ form.fraction, AreDigits digits
  exponent : ∀ e ∈ form.exponent, e.IsExponent

/-- A number of the standard: its integer part is not empty and has no needless zero, and neither is
its fraction empty. -/
structure IsStandard (form : NumberForm) : Prop extends HasDigits form where
  nonempty : form.whole ≠ []
  leading : form.whole.head? = some (.char '0') → form.whole = [.char '0']
  fractionNonempty : ∀ digits ∈ form.fraction, digits ≠ []

/-- A number that the reader takes: any zeros may lead it; it starts with a digit or a minus; and
with a fraction or an exponent, there is a digit before the exponent. -/
structure IsLenient (form : NumberForm) : Prop extends HasDigits form where
  start : form.negative = true ∨ form.whole ≠ []
  digit : form.fraction ≠ none ∨ form.exponent ≠ none → form.whole ++ form.fraction.getD [] ≠ []

end NumberForm

/-! ## Grammars -/

/-- What a grammar may be lenient about. -/
structure Grammar where
  isNumber : NumberForm → Prop
  isRaw : CodePoint → Prop
  isLiteral : Literal → Prop

namespace Grammar

/-- The grammar of JSON. -/
def standard : Grammar where
  isNumber := NumberForm.IsStandard
  isRaw c := 0x20 ≤ c.toNat ∧ c ≠ .char '"' ∧ c ≠ .char '\\'
  isLiteral literal := literal = .true ∨ literal = .false ∨ literal = .null

/-- The grammar of the reader: control characters but U+0000 may stand in strings, and there are
words for the numbers that are not finite. -/
def lenient : Grammar where
  isNumber := NumberForm.IsLenient
  isRaw c := c ≠ .char '\x00' ∧ c ≠ .char '"' ∧ c ≠ .char '\\'
  isLiteral _ := True

variable (grammar : Grammar)

/-- The texts of the content of a string.  The escapes of a surrogate pair, one right behind the
other, make one character. -/
inductive DerivesContent : Text → Text → Prop where
  | nil : DerivesContent [] []
  | raw {c : CodePoint} {s t : Text} :
      grammar.isRaw c → DerivesContent s t → DerivesContent (c :: s) (c :: t)
  | short {letter c : Char} {s t : Text} :
      (letter, c) ∈ shortEscapes → DerivesContent s t →
        DerivesContent (.char c :: s) (.char '\\' :: .char letter :: t)
  | unit {n : Nat} {a b c d : CodePoint} {s t : Text} :
      hexQuad? a b c d = some n → DerivesContent s t →
        DerivesContent (consEscaped (.ofNat n) (lowSurrogateEscape? t) s)
          (.char '\\' :: .char 'u' :: a :: b :: c :: d :: t)

mutual

/-- The texts of a value without spaces around it. -/
inductive Derives : Value → Text → Prop where
  | literal {literal : Literal} :
      grammar.isLiteral literal → Derives literal.value literal.spelling
  | number {form : NumberForm} : grammar.isNumber form → Derives form.value form.text
  | text {s t : Text} :
      DerivesContent grammar s t → Derives (.text s) (.char '"' :: (t ++ [.char '"']))
  | emptyArray {space : Text} :
      IsSpacing space → Derives (.array []) (.char '[' :: (space ++ [.char ']']))
  | array {items : List Value} {t : Text} :
      DerivesItems items t → Derives (.array items) (.char '[' :: (t ++ [.char ']']))
  | emptyObject {space : Text} :
      IsSpacing space → Derives (.object []) (.char '\x7b' :: (space ++ [.char '\x7d']))
  | object {members : List (Text × Value)} {t : Text} :
      DerivesMembers members t →
        Derives (.object (Value.entriesOf members)) (.char '\x7b' :: (t ++ [.char '\x7d']))

/-- The texts of a value with spaces around it. -/
inductive DerivesSpaced : Value → Text → Prop where
  | mk {v : Value} {before t after : Text} :
      IsSpacing before → Derives v t → IsSpacing after →
        DerivesSpaced v (before ++ (t ++ after))

/-- The texts of the items of an array, at least one. -/
inductive DerivesItems : List Value → Text → Prop where
  | last {v : Value} {t : Text} : DerivesSpaced v t → DerivesItems [v] t
  | cons {v : Value} {rest : List Value} {t more : Text} :
      DerivesSpaced v t → DerivesItems rest more →
        DerivesItems (v :: rest) (t ++ .char ',' :: more)

/-- The texts of the members of an object, at least one. -/
inductive DerivesMembers : List (Text × Value) → Text → Prop where
  | last {key : Text} {v : Value} {k t : Text} :
      DerivesSpaced (.text key) k → DerivesSpaced v t →
        DerivesMembers [(key, v)] (k ++ .char ':' :: t)
  | cons {key : Text} {v : Value} {rest : List (Text × Value)} {k t more : Text} :
      DerivesSpaced (.text key) k → DerivesSpaced v t → DerivesMembers rest more →
        DerivesMembers ((key, v) :: rest) (k ++ .char ':' :: (t ++ .char ',' :: more))

end

end Grammar

end Shapewright.Json
