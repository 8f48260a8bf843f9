import Shapewright.Text.Basic

/-!
# Digits

Digit values of code points: decimal digits of every script of version 14 of the character
database, and the ASCII digits of the bases two to sixteen.  Wherever digits are read, what they
stand for is the number of their values.
-/

namespace Shapewright

/-- The zeros of the decimal digit blocks; each block runs from its zero over ten code points. -/
def digitZeros : List Nat :=
  [0x30, 0x660, 0x6F0, 0x7C0, 0x966, 0x9E6, 0xA66, 0xAE6, 0xB66, 0xBE6, 0xC66, 0xCE6, 0xD66,
   0xDE6, 0xE50, 0xED0, 0xF20, 0x1040, 0x1090, 0x17E0, 0x1810, 0x1946, 0x19D0, 0x1A80, 0x1A90,
   0x1B50, 0x1BB0, 0x1C40, 0x1C50, 0xA620, 0xA8D0, 0xA900, 0xA9D0, 0xA9F0, 0xAA50, 0xABF0, 0xFF10,
   0x104A0, 0x10D30, 0x11066, 0x110F0, 0x11136, 0x111D0, 0x112F0, 0x11450, 0x114D0, 0x11650,
   0x116C0, 0x11730, 0x118E0, 0x11950, 0x11C50, 0x11D50, 0x11DA0, 0x16A60, 0x16AC0, 0x16B50,
   0x1D7CE, 0x1D7D8, 0x1D7E2, 0x1D7EC, 0x1D7F6, 0x1E140, 0x1E2F0, 0x1E950, 0x1FBF0]

namespace CodePoint

/-- The value of an ASCII decimal digit. -/
def asciiDigit? (c : CodePoint) : Option Nat :=
  let n := c.toNat
  if 0x30 ≤ n ∧ n ≤ 0x39 then some (n - 0x30) else none

/-- The value of a hexadecimal digit in either case. -/
def hexDigit? (c : CodePoint) : Option Nat :=
  let n := c.toNat
  if 0x30 ≤ n ∧ n ≤ 0x39 then some (n - 0x30)
  else if 0x41 ≤ n ∧ n ≤ 0x46 then some (n - 0x37)
  else if 0x61 ≤ n ∧ n ≤ 0x66 then some (n - 0x57)
  else none

/-- The value of a decimal digit of any script. -/
def decimalDigit? (c : CodePoint) : Option Nat :=
  let n := c.toNat
  match digitZeros.find? (fun first => first ≤ n ∧ n < first + 10) with
  | some first => some (n - first)
  | none => none

/-- Whether a code point is an ASCII decimal digit. -/
def isAsciiDigit (c : CodePoint) : Bool := c.asciiDigit?.isSome

/-- Whether a code point is a hexadecimal digit. -/
def isHexDigit (c : CodePoint) : Bool := c.hexDigit?.isSome

end CodePoint

/-- The most digits that a decimal number in a text may have. -/
def maxDecimalDigits : Nat := 4300

/-- The refusal of a decimal number that has more digits. -/
def tooManyDigitsMessage (count : Nat) : Text :=
  Text.ofString "Exceeds the limit (4300 digits) for integer string conversion: value has " ++
    Text.ofNat 10 count ++
    Text.ofString " digits; use sys.set_int_max_str_digits() to increase the limit"

/-- The number that digit values in a base stand for, the highest digit first. -/
def numberOf (base : Nat) (digits : List Nat) : Nat := digits.foldl (fun n d => n * base + d) 0

/-- The number that ASCII decimal digits stand for; other code points count as zero. -/
def Text.digitsValue (digits : Text) : Nat :=
  numberOf 10 (digits.map fun c => c.asciiDigit?.getD 0)

end Shapewright
