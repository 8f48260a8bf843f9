import Shapewright.Text.Digit

/-!
# The number that digits stand for

Decimal digits that are given as characters stand for the number that the library makes of the
characters.
-/

namespace Shapewright

theorem toNat_of_isDigit
    {c : Char}
    (digit : c.isDigit = true) :
    0x30 ≤ c.toNat ∧ c.toNat ≤ 0x39 := by
  simp only [Char.isDigit, Bool.and_eq_true, decide_eq_true_eq, UInt32.le_iff_toNat_le,
    ge_iff_le] at digit
  exact digit

theorem asciiDigit?_of_isDigit
    {c : Char}
    (digit : c.isDigit = true) :
    (CodePoint.char c).asciiDigit? = some (c.toNat - '0'.toNat) := by
  have zero : '0'.toNat = 0x30 := rfl
  simp [CodePoint.asciiDigit?, CodePoint.toNat, toNat_of_isDigit digit, zero]

theorem numberOf_map_toNat
    (digits : List Char) :
    numberOf 10 (digits.map fun c => c.toNat - '0'.toNat) = Nat.ofDigitChars 10 digits 0 := by
  simp only [numberOf, List.foldl_map, Nat.ofDigitChars, Nat.mul_comm]

theorem digitsValue_map_char
    {digits : List Char}
    (areDigits : ∀ c ∈ digits, c.isDigit = true) :
    Text.digitsValue (digits.map .char) = Nat.ofDigitChars 10 digits 0 := by
  have values :
      (digits.map CodePoint.char).map (fun c => c.asciiDigit?.getD 0) =
        digits.map fun c => c.toNat - '0'.toNat := by
    rw [List.map_map]
    refine List.map_congr_left fun c member => ?_
    simp [asciiDigit?_of_isDigit (areDigits c member)]
  rw [Text.digitsValue, values, numberOf_map_toNat]

end Shapewright
