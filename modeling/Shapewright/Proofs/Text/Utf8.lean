import Shapewright.Text.Utf8

/-!
# Decoding what was encoded

Every text without a lone surrogate has an encoding, and decoding gives the text back.  The proof
goes from the bytes of one character, whatever follows them, to those of a text.
-/

namespace Shapewright

/-- A character is the code point with its number, for its number is not that of a surrogate. -/
@[simp]
theorem CodePoint.ofNat_toNat_char
    (c : Char) :
    CodePoint.ofNat c.toNat = .char c := by
  have valid := c.valid
  simp only [UInt32.isValidChar, Nat.isValidChar] at valid
  have notSurrogate : ¬ (0xD800 ≤ c.toNat ∧ c.toNat < 0xE000) := by
    simp only [Char.toNat]
    omega
  simp [CodePoint.ofNat, notSurrogate]

namespace Utf8

/-! ## Bytes -/

theorem toNat_toUInt8
    {n : Nat}
    (small : n < 0x100) :
    n.toUInt8.toNat = n := by
  simpa using small

theorem isContinuation_eq_true
    {b : UInt8}
    (low : 0x80 ≤ b.toNat)
    (high : b.toNat < 0xC0) :
    isContinuation b = true := by
  simp [isContinuation, UInt8.le_iff_toNat_le, UInt8.lt_iff_toNat_lt, low, high]

/-- The bytes that hold the low bits of a number are continuations. -/
theorem isContinuation_lowBits
    (n : Nat) :
    isContinuation (0x80 + n % 0x40).toUInt8 = true := by
  apply isContinuation_eq_true <;> rw [toNat_toUInt8] <;> omega

theorem lowBits_continuation
    (n : Nat) :
    lowBits (0x80 + n % 0x40).toUInt8 = n % 0x40 := by
  rw [lowBits, toNat_toUInt8] <;> omega

theorem isSecondOf_eq_true
    {first second : UInt8}
    (continuation : isContinuation second = true)
    (notOverlong : first.toNat = 0xE0 → 0xA0 ≤ second.toNat)
    (notSurrogate : first.toNat = 0xED → second.toNat < 0xA0)
    (notOverlongFour : first.toNat = 0xF0 → 0x90 ≤ second.toNat)
    (notTooLarge : first.toNat = 0xF4 → second.toNat < 0x90) :
    isSecondOf first second = true := by
  simp only [isSecondOf, continuation, Bool.true_and, Bool.and_eq_true, Bool.not_eq_true',
    Bool.and_eq_false_imp, beq_iff_eq, decide_eq_false_iff_not, UInt8.lt_iff_toNat_lt,
    UInt8.le_iff_toNat_le, ← UInt8.toNat_inj, Nat.not_lt, Nat.not_le]
  exact ⟨⟨⟨notOverlong, notSurrogate⟩, notOverlongFour⟩, notTooLarge⟩

/-! ## Characters -/

theorem decodeChar_one
    {b : UInt8} (rest : List UInt8)
    (high : b.toNat < 0x80) :
    decodeChar (b :: rest) = .ok (.ofNat b.toNat, rest) := by
  simp [decodeChar, UInt8.lt_iff_toNat_lt, high]

theorem decodeChar_two
    {b b₂ : UInt8} (rest : List UInt8)
    (low : 0xC2 ≤ b.toNat)
    (high : b.toNat < 0xE0)
    (second : isContinuation b₂ = true) :
    decodeChar (b :: b₂ :: rest) =
      .ok (.ofNat ((b.toNat - 0xC0) * 0x40 + lowBits b₂), rest) := by
  have notOne : ¬ b.toNat < 0x80 := by omega
  have notInvalid : ¬ 0xF5 ≤ b.toNat := by omega
  simp [decodeChar, UInt8.lt_iff_toNat_lt, UInt8.le_iff_toNat_le, Nat.not_lt.mpr low, high, second,
    notOne, notInvalid]

theorem decodeChar_three
    {b b₂ b₃ : UInt8} (rest : List UInt8)
    (low : 0xE0 ≤ b.toNat)
    (high : b.toNat < 0xF0)
    (second : isSecondOf b b₂ = true)
    (third : isContinuation b₃ = true) :
    decodeChar (b :: b₂ :: b₃ :: rest) =
      .ok (.ofNat ((b.toNat - 0xE0) * 0x1000 + lowBits b₂ * 0x40 + lowBits b₃), rest) := by
  have notOne : ¬ b.toNat < 0x80 := by omega
  have notInvalid : ¬ b.toNat < 0xC2 ∧ ¬ 0xF5 ≤ b.toNat := by omega
  simp [decodeChar, UInt8.lt_iff_toNat_lt, UInt8.le_iff_toNat_le, Nat.not_lt.mpr low, high, second,
    third, notOne, notInvalid]

theorem decodeChar_four
    {b b₂ b₃ b₄ : UInt8} (rest : List UInt8)
    (low : 0xF0 ≤ b.toNat)
    (high : b.toNat < 0xF5)
    (second : isSecondOf b b₂ = true)
    (third : isContinuation b₃ = true)
    (fourth : isContinuation b₄ = true) :
    decodeChar (b :: b₂ :: b₃ :: b₄ :: rest) =
      .ok (.ofNat ((b.toNat - 0xF0) * 0x40000 + lowBits b₂ * 0x1000 + lowBits b₃ * 0x40 +
        lowBits b₄), rest) := by
  have notOne : ¬ b.toNat < 0x80 := by omega
  have notInvalid : ¬ b.toNat < 0xC2 ∧ ¬ 0xF5 ≤ b.toNat := by omega
  have notTwo : ¬ b.toNat < 0xE0 := by omega
  simp [decodeChar, UInt8.lt_iff_toNat_lt, UInt8.le_iff_toNat_le, Nat.not_lt.mpr low, second,
    third, fourth, notOne, notInvalid, notTwo]

/-- The bytes of a character decode to it, whatever follows them. -/
theorem decodeChar_encodeChar
    (c : Char) (rest : List UInt8) :
    decodeChar (encodeChar c ++ rest) = .ok (.char c, rest) := by
  have valid := c.valid
  simp only [UInt32.isValidChar, Nat.isValidChar] at valid
  have number : c.val.toNat = c.toNat := rfl
  rw [number] at valid
  rw [← CodePoint.ofNat_toNat_char c]
  unfold encodeChar
  by_cases one : c.toNat < 0x80
  · have first := toNat_toUInt8 (show c.toNat < 0x100 by omega)
    simp only [one, ↓reduceIte, List.cons_append, List.nil_append]
    rw [decodeChar_one rest (by rw [first]; exact one), first]
  by_cases two : c.toNat < 0x800
  · have first := toNat_toUInt8 (show 0xC0 + c.toNat / 0x40 < 0x100 by omega)
    simp only [one, two, ↓reduceIte, List.cons_append, List.nil_append]
    rw [decodeChar_two rest (by omega) (by omega) (isContinuation_lowBits _), first,
      lowBits_continuation]
    congr 3
    omega
  by_cases three : c.toNat < 0x10000
  · have first := toNat_toUInt8 (show 0xE0 + c.toNat / 0x1000 < 0x100 by omega)
    have second := toNat_toUInt8 (show 0x80 + c.toNat / 0x40 % 0x40 < 0x100 by omega)
    simp only [one, two, three, ↓reduceIte, List.cons_append, List.nil_append]
    rw [decodeChar_three rest (by omega) (by omega)
      (isSecondOf_eq_true (isContinuation_lowBits _) (by omega) (by omega) (by omega) (by omega))
      (isContinuation_lowBits _), first, lowBits_continuation, lowBits_continuation]
    congr 3
    omega
  · have first := toNat_toUInt8 (show 0xF0 + c.toNat / 0x40000 < 0x100 by omega)
    have second := toNat_toUInt8 (show 0x80 + c.toNat / 0x1000 % 0x40 < 0x100 by omega)
    simp only [one, two, three, ↓reduceIte, List.cons_append, List.nil_append]
    rw [decodeChar_four rest (by omega) (by omega)
      (isSecondOf_eq_true (isContinuation_lowBits _) (by omega) (by omega) (by omega) (by omega))
      (isContinuation_lowBits _) (isContinuation_lowBits _), first, lowBits_continuation,
      lowBits_continuation, lowBits_continuation]
    congr 3
    omega

theorem encodeChar_ne_nil
    (c : Char) :
    encodeChar c ≠ [] := by
  unfold encodeChar
  simp only
  split
  · simp
  · split
    · simp
    · split <;> simp

/-! ## Texts -/

theorem decodeWithin_of_encodeFrom
    {position total fuel : Nat} {t : Text} {bytes : List UInt8}
    (encoded : encodeFrom position t = .ok bytes)
    (enough : bytes.length ≤ fuel) :
    decodeWithin total fuel bytes = .ok t := by
  induction t generalizing position bytes fuel with
  | nil =>
      cases encoded
      unfold decodeWithin
      rfl
  | cons c rest induction =>
      cases c with
      | surrogate offset =>
          simp [encodeFrom] at encoded
      | char c =>
          rw [encodeFrom] at encoded
          split at encoded
          next more encodedRest =>
            cases encoded
            have decoded := decodeChar_encodeChar c more
            cases bytesEq : encodeChar c with
            | nil =>
                exact absurd bytesEq (encodeChar_ne_nil c)
            | cons b others =>
                rw [bytesEq] at enough decoded
                rw [List.cons_append] at enough decoded ⊢
                cases fuel with
                | zero =>
                    simp at enough
                | succ fuel =>
                    have enoughRest : more.length ≤ fuel := by
                      simp only [List.length_cons, List.length_append] at enough
                      omega
                    rw [decodeWithin, decoded]
                    simp [induction encodedRest enoughRest]
          next =>
            cases encoded

/-- Decoding the encoding of a text gives the text back. -/
theorem decode_of_encode
    {t : Text} {bytes : List UInt8}
    (encoded : encode t = .ok bytes) :
    decode bytes = .ok t :=
  decodeWithin_of_encodeFrom encoded (Nat.le_refl _)

theorem encodeFrom_of_isWellFormed
    {t : Text} (position : Nat)
    (wellFormed : t.isWellFormed = true) :
    ∃ bytes, encodeFrom position t = .ok bytes := by
  induction t generalizing position with
  | nil =>
      exact ⟨[], rfl⟩
  | cons c rest induction =>
      cases c with
      | surrogate offset =>
          simp [Text.isWellFormed] at wellFormed
      | char c =>
          have restWellFormed : Text.isWellFormed rest = true := by
            simpa [Text.isWellFormed] using wellFormed
          rcases induction (position + 1) restWellFormed with ⟨bytes, encoded⟩
          exact ⟨encodeChar c ++ bytes, by rw [encodeFrom, encoded]⟩

/-- Every text without a lone surrogate has an encoding. -/
theorem encode_of_isWellFormed
    {t : Text}
    (wellFormed : t.isWellFormed = true) :
    ∃ bytes, encode t = .ok bytes :=
  encodeFrom_of_isWellFormed 0 wellFormed

theorem isWellFormed_of_encodeFrom
    {position : Nat} {t : Text} {bytes : List UInt8}
    (encoded : encodeFrom position t = .ok bytes) :
    t.isWellFormed = true := by
  induction t generalizing position bytes with
  | nil =>
      rfl
  | cons c rest induction =>
      cases c with
      | surrogate offset =>
          cases encoded
      | char c =>
          rw [encodeFrom] at encoded
          split at encoded
          next more encodedRest =>
            simpa [Text.isWellFormed] using induction encodedRest
          next =>
            cases encoded

/-- A text that has an encoding holds no lone surrogate. -/
theorem isWellFormed_of_encode
    {t : Text} {bytes : List UInt8}
    (encoded : encode t = .ok bytes) :
    t.isWellFormed = true :=
  isWellFormed_of_encodeFrom encoded

end Utf8

end Shapewright
