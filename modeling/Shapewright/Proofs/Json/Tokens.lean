import Mathlib.Data.List.TakeDrop
import Shapewright.Json.Reader
import Shapewright.Proofs.Json.Standard
import Shapewright.Proofs.Text.Digit
import Shapewright.Proofs.Text.Utf8

/-!
# Reading the tokens of standard JSON

Spaces are skipped, an integer is read up to where its value ends, and a string up to its closing
quote, in each of their spellings and whatever follows them.
-/

namespace Shapewright.Json

/-! ## Spaces -/

theorem isSpace_of_isSpacing
    {space : Text} {c : CodePoint}
    (spacing : IsSpacing space)
    (member : c ∈ space) :
    isSpace c = true := by
  have listed := spacing c member
  simp only [List.mem_cons, List.not_mem_nil, or_false] at listed
  rcases listed with rfl | rfl | rfl | rfl <;> rfl

theorem skipSpace_append
    {space : Text} (t : Text)
    (spacing : IsSpacing space) :
    skipSpace (space ++ t) = skipSpace t :=
  List.dropWhile_append_of_pos fun _ member => isSpace_of_isSpacing spacing member

theorem skipSpace_cons
    {c : CodePoint} (t : Text)
    (notSpace : isSpace c = false) :
    skipSpace (c :: t) = c :: t := by
  simp [skipSpace, notSpace]

@[simp]
theorem skipSpace_skipSpace
    (t : Text) :
    skipSpace (skipSpace t) = skipSpace t := by
  induction t with
  | nil =>
      rfl
  | cons c rest induction =>
      by_cases space : isSpace c = true
      · simpa [skipSpace, space] using induction
      · simp [skipSpace, space]

/-- A text in which no value goes on: it is empty or starts with a space, a separator or a closing
bracket. -/
def EndsValue (t : Text) : Prop :=
  ∀ c ∈ t.head?, c ∈ [CodePoint.char ' ', .char '\t', .char '\r', .char '\n', .char ',', .char ':',
    .char ']', .char '\x7d']

theorem endsValue_append
    {space t : Text}
    (spacing : IsSpacing space)
    (ends : EndsValue t) :
    EndsValue (space ++ t) := by
  cases space with
  | nil =>
      exact ends
  | cons c rest =>
      intro d member
      simp only [List.cons_append, List.head?_cons, Option.mem_def, Option.some.injEq] at member
      have listed := spacing c List.mem_cons_self
      simp only [List.mem_cons, List.not_mem_nil, or_false] at listed ⊢
      rw [← member]
      grind

/-! ## Integers -/

/-- Without a needless zero, a run of digits is no longer than its number takes. -/
theorem IsDigits.length_le
    {digits : List Char}
    (isDigits : IsDigits digits) :
    digits.length ≤ (Nat.toDigits 10 (Nat.ofDigitChars 10 digits 0)).length := by
  cases digits with
  | nil =>
      exact absurd rfl isDigits.nonempty
  | cons c rest =>
      by_cases single : rest = []
      · rw [single]
        exact Nat.length_toDigits_pos
      · have restLength : 0 < rest.length := List.length_pos_iff.mpr single
        have notZero : c ≠ '0' := by
          intro isZero
          rw [isZero] at isDigits
          exact single (List.cons.inj (isDigits.leading rfl)).2
        have positive : 1 ≤ c.toNat - '0'.toNat := by
          have bounds := toNat_of_isDigit (isDigits.digit c List.mem_cons_self)
          have different : c.toNat ≠ '0'.toNat := fun same => notZero (Char.toNat_inj.mp same)
          have zero : '0'.toNat = 0x30 := rfl
          omega
        -- The first digit alone makes the number at least that power of ten.
        have large : 10 ^ rest.length ≤ Nat.ofDigitChars 10 (c :: rest) 0 := by
          rw [Nat.ofDigitChars_cons, Nat.ofDigitChars_eq_ofDigitChars_zero, Nat.mul_zero,
            Nat.zero_add]
          have scaled := Nat.mul_le_mul_left (10 ^ rest.length) positive
          omega
        rw [List.length_cons, Nat.succ_le_iff, ← Nat.not_le,
          Nat.length_toDigits_le_iff (by decide) restLength, Nat.not_lt]
        exact large

/-- Where a value ends, neither a digit follows nor what would make an integer another number. -/
theorem EndsValue.not_number
    {c : CodePoint} {rest : Text}
    (ends : EndsValue (c :: rest)) :
    c.isAsciiDigit = false ∧ c ≠ .char '.' ∧ c ≠ .char 'e' ∧ c ≠ .char 'E' := by
  have listed := ends c rfl
  simp only [List.mem_cons, List.not_mem_nil, or_false] at listed
  rcases listed with rfl | rfl | rfl | rfl | rfl | rfl | rfl | rfl <;> decide

/-- A text that does not go on with a digit. -/
def EndsDigits (t : Text) : Prop := ∀ c ∈ t.head?, c.isAsciiDigit = false

theorem EndsValue.endsDigits
    {t : Text}
    (ends : EndsValue t) :
    EndsDigits t := by
  intro c first
  cases t with
  | nil => cases first
  | cons d rest =>
      cases first
      exact ends.not_number.1

/-- Digits are read up to where they end. -/
theorem spanDigits_append
    {digits rest : Text}
    (areDigits : ∀ c ∈ digits, c.isAsciiDigit = true)
    (ends : EndsDigits rest) :
    spanDigits (digits ++ rest) = (digits, rest) := by
  rw [spanDigits, List.span_eq_takeWhile_dropWhile, List.takeWhile_append_of_pos areDigits,
    List.dropWhile_append_of_pos areDigits]
  cases rest with
  | nil => simp
  | cons c more => simp [ends c rfl]

theorem spanDigits_map_char
    {digits : List Char} {rest : Text}
    (areDigits : ∀ c ∈ digits, c.isDigit = true)
    (ends : EndsValue rest) :
    spanDigits (digits.map .char ++ rest) = (digits.map .char, rest) := by
  refine spanDigits_append (fun c member => ?_) ends.endsDigits
  rcases List.mem_map.mp member with ⟨digit, digitMember, rfl⟩
  simp [CodePoint.isAsciiDigit, asciiDigit?_of_isDigit (areDigits digit digitMember)]

/-- Whether a number starts with a minus, and what follows its sign. -/
def splitSign : Text → Bool × Text
  | .char '-' :: rest => (true, rest)
  | t => (false, t)

theorem splitSign_minus
    (t : Text) :
    splitSign (.char '-' :: t) = (true, t) :=
  rfl

theorem splitSign_of_ne
    {c : CodePoint} (t : Text)
    (unsigned : c ≠ .char '-') :
    splitSign (c :: t) = (false, c :: t) := by
  unfold splitSign
  split
  next same =>
    cases same
    exact absurd rfl unsigned
  next => rfl

/-- Digits behind a sign are read as an integer where neither a fraction nor an exponent follows,
unless there are too many of them. -/
theorem readNumber_of_splitSign
    {negative : Bool} {t unsigned digits rest : Text}
    (sign : splitSign t = (negative, unsigned))
    (spanned : spanDigits unsigned = (digits, rest))
    (ends : EndsValue rest) :
    readNumber t =
      if maxDecimalDigits < digits.length && !fitsWord negative (Text.digitsValue digits) then
        .error (.tooManyDigits digits.length)
      else
        .ok
          (.integer
            (if negative then -(Text.digitsValue digits : Int) else Text.digitsValue digits),
            rest) := by
  unfold readNumber
  split
  next found remaining split =>
    change splitSign t = _ at split
    rw [sign] at split
    cases split
    simp only [spanned]
    split
    next => exact absurd rfl ends.not_number.2.1
    next => exact absurd rfl ends.not_number.2.2.1
    next => exact absurd rfl ends.not_number.2.2.2
    next => rfl

theorem readNumber_of_short
    {negative : Bool} {t unsigned digits rest : Text}
    (sign : splitSign t = (negative, unsigned))
    (spanned : spanDigits unsigned = (digits, rest))
    (short : digits.length ≤ maxDecimalDigits)
    (ends : EndsValue rest) :
    readNumber t =
      .ok
        (.integer (if negative then -(Text.digitsValue digits : Int) else Text.digitsValue digits),
          rest) := by
  simp [readNumber_of_splitSign sign spanned ends, Nat.not_lt.mpr short]

/-- An integer is read up to where the value ends. -/
theorem readNumber_of_spellsInteger
    {n : Int} {t rest : Text}
    (spells : SpellsInteger n t)
    (short : (Nat.toDigits 10 n.natAbs).length ≤ 4300)
    (ends : EndsValue rest) :
    readNumber (t ++ rest) = .ok (.integer n, rest) := by
  cases spells with
  | @natural digits isDigits =>
      have few : (digits.map CodePoint.char).length ≤ maxDecimalDigits := by
        rw [List.length_map]
        exact Nat.le_trans isDigits.length_le short
      have unsigned : splitSign (digits.map .char ++ rest) = (false, digits.map .char ++ rest) := by
        cases digits with
        | nil =>
            exact absurd rfl isDigits.nonempty
        | cons c others =>
            refine splitSign_of_ne _ fun minus => ?_
            cases minus
            exact absurd (isDigits.digit '-' List.mem_cons_self) (by decide)
      rw [readNumber_of_short unsigned (spanDigits_map_char isDigits.digit ends) few ends,
        digitsValue_map_char isDigits.digit]
      rfl
  | @negative digits isDigits =>
      have few : (digits.map CodePoint.char).length ≤ maxDecimalDigits := by
        rw [Int.natAbs_neg] at short
        rw [List.length_map]
        exact Nat.le_trans isDigits.length_le short
      rw [List.cons_append, readNumber_of_short (splitSign_minus _)
        (spanDigits_map_char isDigits.digit ends) few ends, digitsValue_map_char isDigits.digit]
      rfl

/-! ## Strings -/

theorem hexDigit?_of_mem_hexForms
    {n : Nat} {a : Char}
    (small : n < 0x10)
    (form : a ∈ hexForms n) :
    (CodePoint.char a).hexDigit? = some n := by
  have listed :
      ∀ n < 0x10, (hexForms n).all fun a => (CodePoint.char a).hexDigit? = some n := by
    decide
  simpa using List.all_eq_true.mp (listed n small) a form

theorem hexQuad?_of_mem_hexForms
    {n : Nat} {a b c d : Char}
    (small : n < 0x10000)
    (first : a ∈ hexForms (n / 0x1000 % 0x10))
    (second : b ∈ hexForms (n / 0x100 % 0x10))
    (third : c ∈ hexForms (n / 0x10 % 0x10))
    (fourth : d ∈ hexForms (n % 0x10)) :
    hexQuad? (.char a) (.char b) (.char c) (.char d) = some n := by
  have firstDigit := hexDigit?_of_mem_hexForms (Nat.mod_lt _ (by decide)) first
  have secondDigit := hexDigit?_of_mem_hexForms (Nat.mod_lt _ (by decide)) second
  have thirdDigit := hexDigit?_of_mem_hexForms (Nat.mod_lt _ (by decide)) third
  have fourthDigit := hexDigit?_of_mem_hexForms (Nat.mod_lt _ (by decide)) fourth
  simp only [hexQuad?, firstDigit, secondDigit, thirdDigit, fourthDigit, Option.bind_eq_bind,
    Option.bind_some, Option.some.injEq]
  omega

/-- The escape of a code unit stands for that unit, joined with a low surrogate that follows. -/
theorem readString_unit
    {n : Nat} {t : Text} (rest : Text)
    (spells : SpellsUnit n t)
    (small : n < 0x10000) :
    readString (t ++ rest) =
      (readString rest).map fun (s, left) =>
        (consEscaped (.ofNat n) (lowSurrogateEscape? rest) s, left) := by
  cases spells with
  | mk first second third fourth =>
      simp only [List.cons_append, List.nil_append]
      rw [readString, hexQuad?_of_mem_hexForms small first second third fourth]

theorem ofNat_surrogate
    {n : Nat}
    (small : n < 0x800) :
    CodePoint.ofNat (0xD800 + n) = .surrogate ⟨n, small⟩ := by
  have inRange : 0xD800 ≤ 0xD800 + n ∧ 0xD800 + n < 0xE000 := by omega
  simp [CodePoint.ofNat, inRange]

theorem lowSurrogateEscape?_unit
    {n : Nat} {t : Text} (rest : Text)
    (spells : SpellsUnit (0xD800 + n) t)
    (low : 0x400 ≤ n)
    (small : n < 0x800) :
    lowSurrogateEscape? (t ++ rest) = some (.surrogate ⟨n, small⟩) := by
  cases spells with
  | mk first second third fourth =>
      have unitSmall : 0xD800 + n < 0x10000 := by omega
      simp only [List.cons_append, List.nil_append, lowSurrogateEscape?]
      rw [hexQuad?_of_mem_hexForms unitSmall first second third fourth]
      simp [ofNat_surrogate small, CodePoint.isLowSurrogate, low]

@[simp]
theorem consEscaped_char
    (c : Char) (next : Option CodePoint) (t : Text) :
    consEscaped (.char c) next t = .char c :: t := by
  cases next <;> rfl

theorem consEscaped_low
    (offset : Fin 0x800) (next : Option CodePoint) (t : Text)
    (low : 0x400 ≤ offset.val) :
    consEscaped (.surrogate offset) next t = .surrogate offset :: t := by
  cases next with
  | none =>
      rfl
  | some other =>
      simp [consEscaped, CodePoint.isHighSurrogate, Nat.not_lt.mpr low]

theorem consEscaped_high
    (offset : Fin 0x800) (next c : CodePoint) (t : Text)
    (high : offset.val < 0x400) :
    consEscaped (.surrogate offset) (some next) (c :: t) =
      .ofPair (.surrogate offset) next :: t := by
  simp [consEscaped, CodePoint.isHighSurrogate, high]

/-- A character above U+FFFF is the pair of the surrogates that its number splits into. -/
theorem ofPair_eq_char
    {c : Char} (high low : Fin 0x800)
    (number : 0x10000 + high.val * 0x400 + (low.val - 0x400) = c.toNat) :
    CodePoint.ofPair (.surrogate high) (.surrogate low) = .char c := by
  have highEq : (CodePoint.surrogate high).toNat - 0xD800 = high.val :=
    Nat.add_sub_cancel_left _ _
  have lowEq : (CodePoint.surrogate low).toNat - 0xDC00 = low.val - 0x400 :=
    Nat.add_sub_add_left 0xD800 _ 0x400
  rw [CodePoint.ofPair, highEq, lowEq, number, CodePoint.ofNat_toNat_char]

/-- Two escapes of surrogates, a high one right before a low one, stand for one character. -/
theorem readString_pair
    {high low : Nat} {t u : Text} (rest : Text)
    (spellsHigh : SpellsUnit (0xD800 + high) t)
    (spellsLow : SpellsUnit (0xD800 + low) u)
    (highInRange : high < 0x800)
    (lowInRange : low < 0x800)
    (isHigh : high < 0x400)
    (isLow : 0x400 ≤ low) :
    readString (t ++ (u ++ rest)) =
      (readString rest).map fun (s, left) =>
        (.ofPair (.surrogate ⟨high, highInRange⟩) (.surrogate ⟨low, lowInRange⟩) :: s, left) := by
  have highSmall : 0xD800 + high < 0x10000 := by omega
  have lowSmall : 0xD800 + low < 0x10000 := by omega
  rw [readString_unit _ spellsHigh highSmall, readString_unit _ spellsLow lowSmall,
    lowSurrogateEscape?_unit rest spellsLow isLow lowInRange, ofNat_surrogate lowInRange,
    ofNat_surrogate highInRange]
  cases readString rest with
  | error error =>
      rfl
  | ok result =>
      have lowAlone :=
        consEscaped_low ⟨low, lowInRange⟩ (lowSurrogateEscape? rest) result.1 isLow
      have joined :=
        consEscaped_high ⟨high, highInRange⟩ (.surrogate ⟨low, lowInRange⟩)
          (.surrogate ⟨low, lowInRange⟩) result.1 isHigh
      simp only [Except.map, lowAlone, joined]

theorem toNat_lt_of_char
    (c : Char) :
    c.toNat < 0x110000 := by
  have valid := c.valid
  simp only [UInt32.isValidChar, Nat.isValidChar] at valid
  have number : c.val.toNat = c.toNat := rfl
  omega

/-- A character is read from each of its texts. -/
theorem readString_of_spellsChar
    {c : Char} {t : Text} (rest : Text)
    (spells : SpellsChar c t) :
    readString (t ++ rest) = (readString rest).map fun (s, left) => (.char c :: s, left) := by
  cases spells with
  | raw visible notQuote notBackslash =>
      have notNull : c ≠ '\x00' := by
        intro isNull
        rw [isNull] at visible
        exact absurd visible (by decide)
      rw [List.cons_append, List.nil_append, readString] <;> simp [notNull, notQuote, notBackslash]
  | @short letter _ listed =>
      simp only [shortEscapes, List.mem_cons, Prod.mk.injEq, List.not_mem_nil, or_false] at listed
      rcases listed with ⟨rfl, rfl⟩ | ⟨rfl, rfl⟩ | ⟨rfl, rfl⟩ | ⟨rfl, rfl⟩ | ⟨rfl, rfl⟩ |
        ⟨rfl, rfl⟩ | ⟨rfl, rfl⟩ | ⟨rfl, rfl⟩ <;> rfl
  | unit small spellsUnit =>
      rw [readString_unit rest spellsUnit small]
      simp
  | @pair _ highText lowText large spellsHigh spellsLow =>
      have bound := toNat_lt_of_char c
      have lowEq : 0xDC00 + (c.toNat - 0x10000) % 0x400 =
          0xD800 + (0x400 + (c.toNat - 0x10000) % 0x400) := by omega
      have isLow : 0x400 ≤ 0x400 + (c.toNat - 0x10000) % 0x400 := Nat.le_add_right _ _
      have isHigh : (c.toNat - 0x10000) / 0x400 < 0x400 := by omega
      have number : 0x10000 + (c.toNat - 0x10000) / 0x400 * 0x400 +
          (0x400 + (c.toNat - 0x10000) % 0x400 - 0x400) = c.toNat := by omega
      rw [lowEq] at spellsLow
      have lowInRange : 0x400 + (c.toNat - 0x10000) % 0x400 < 0x800 := by omega
      generalize 0x400 + (c.toNat - 0x10000) % 0x400 = low at *
      generalize (c.toNat - 0x10000) / 0x400 = high at *
      have highInRange : high < 0x800 := by omega
      rw [List.append_assoc,
        readString_pair rest spellsHigh spellsLow highInRange lowInRange isHigh isLow,
        ofPair_eq_char ⟨high, highInRange⟩ ⟨low, lowInRange⟩ number]

/-- The characters of a string are read up to the closing quote. -/
theorem readString_of_spellsChars
    {s t : Text} (rest : Text)
    (spells : SpellsChars s t) :
    readString (t ++ .char '"' :: rest) = .ok (s, rest) := by
  induction spells with
  | nil =>
      rfl
  | cons first _ induction =>
      rw [List.append_assoc, readString_of_spellsChar _ first, induction]
      rfl

end Shapewright.Json
