import Shapewright.Proofs.Json.Writing
import Shapewright.Proofs.Text.Blank
import Shapewright.Proofs.Text.Digit
import Shapewright.Proofs.Yaml.Plain
import Shapewright.Yaml.Scalar

/-!
# Written integers

The decimal text of an integer may stand without quotes, is taken for an integer there, and has the
integer for its value.  The digits have no needless zero, so none of the other bases is meant.
-/

namespace Shapewright.Yaml

/-! ## Standing without quotes -/

theorem hasInnerIndicator_of_notMem
    {t : Text} (afterBlank : Bool)
    (noIndicator : ∀ c ∈ t, c ≠ .char ':' ∧ c ≠ .char '#') :
    Plain.hasInnerIndicator afterBlank t = false := by
  induction t generalizing afterBlank with
  | nil => rfl
  | cons c rest induction =>
      rcases noIndicator c List.mem_cons_self with ⟨notColon, notHash⟩
      rw [Plain.hasInnerIndicator,
        induction _ fun d member => noIndicator d (List.mem_cons_of_mem c member)]
      simp [notColon, notHash]

/-- A word without colons and hashes stands without quotes, unless it starts with an indicator. -/
theorem stands_of_word
    {t : Text}
    (nonempty : t ≠ [])
    (word : ∀ c ∈ t, isPrintable c = true ∧ c ≠ .char ' ' ∧ c ≠ .char ':' ∧ c ≠ .char '#')
    (notSeparator : Plain.startsLikeSeparator t = false)
    (leading : Plain.hasLeadingIndicator t = false) :
    Plain.Stands t where
  nonempty := nonempty
  printable c member := (word c member).1
  first := by
    cases t with
    | nil => rfl
    | cons c rest => simpa [startsWith] using (word c List.mem_cons_self).2.1
  last := fun same => (word _ (List.mem_of_getLast? same)).2.1 rfl
  notSeparator := notSeparator
  leading := leading
  inner :=
    hasInnerIndicator_of_notMem false fun c member => (word c (List.mem_of_mem_drop member)).2.2

/-! ## Digits -/

/-- The decimal digits. -/
def decimalDigits : Text := Text.ofString "0123456789"

theorem mem_decimalDigits
    {c : Char}
    (digit : c.isDigit = true) :
    .char c ∈ decimalDigits := by
  have listed : ∀ n < 0x3A, 0x30 ≤ n → .char (Char.ofNat n) ∈ decimalDigits := by decide
  have bounds := toNat_of_isDigit digit
  rw [← Char.ofNat_toNat c]
  exact listed c.toNat (by omega) bounds.1

section Digits

variable {digits : List Char}

/-- What holds of each decimal digit holds of the digits of a number. -/
theorem forall_mem_digits
    {p : CodePoint → Prop}
    (isDigits : Json.IsDigits digits)
    (listed : ∀ c ∈ decimalDigits, p c) :
    ∀ c ∈ digits.map CodePoint.char, p c := by
  intro c member
  rcases List.mem_map.mp member with ⟨digit, digitMember, rfl⟩
  exact listed (.char digit) (mem_decimalDigits (isDigits.digit digit digitMember))

theorem exists_cons_digits
    (isDigits : Json.IsDigits digits) :
    ∃ first rest, digits.map CodePoint.char = .char first :: rest ∧
      .char first ∈ decimalDigits ∧ (first = '0' → rest = []) := by
  rcases List.exists_cons_of_ne_nil isDigits.nonempty with ⟨first, rest, rfl⟩
  refine
    ⟨first, rest.map .char, rfl, mem_decimalDigits (isDigits.digit first List.mem_cons_self), ?_⟩
  rintro rfl
  rw [(List.cons.inj (isDigits.leading rfl)).2]
  rfl

/-- The digits of an integer, behind a minus if it is negative. -/
def signed (negative : Bool) (digits : List Char) : Text :=
  (if negative then [.char '-'] else []) ++ digits.map .char

theorem stands_signed
    (negative : Bool)
    (isDigits : Json.IsDigits digits) :
    Plain.Stands (signed negative digits) := by
  have isWord :=
    forall_mem_digits
      (p := fun c => isPrintable c = true ∧ c ≠ .char ' ' ∧ c ≠ .char ':' ∧ c ≠ .char '#') isDigits
      (by decide)
  rcases exists_cons_digits isDigits with ⟨first, rest, eq, listed, _⟩
  have start :
      ∀ c ∈ decimalDigits, c ≠ .char '-' ∧ c ≠ .char '.' ∧
        startsWithOneOf "#,[]\x7b\x7d&*!|>'\"%@\x60" [c] = false ∧
          startsWithOneOf "?:-" [c] = false ∧ endsWord [c] = false := by
    decide
  rcases start (.char first) listed with ⟨notHyphen, notPoint, notIndicator, notBlock, goesOn⟩
  cases negative with
  | false =>
      rw [signed, if_neg (by decide), List.nil_append]
      refine stands_of_word (by simp [eq]) isWord ?_ ?_
      · rw [eq]
        simp [Plain.startsLikeSeparator, Text.ofString, notHyphen, notPoint]
      · rw [eq, Plain.hasLeadingIndicator, notIndicator, notBlock]
        rfl
  | true =>
      rw [signed, if_pos rfl, List.singleton_append]
      refine stands_of_word (by simp) (List.forall_mem_cons.mpr ⟨by decide, isWord⟩) ?_ ?_
      · rw [eq]
        simp [Plain.startsLikeSeparator, Text.ofString, notHyphen]
      · rw [eq, Plain.hasLeadingIndicator]
        change (false || (true && endsWord [.char first])) = false
        rw [goesOn]
        rfl

/-! ## The tag of an integer -/

theorem isOneOf_cons
    {c : CodePoint} {rest : Text} {words : List String}
    (others : ∀ w ∈ words, (Text.ofString w).head? ≠ some c) :
    Spelling.isOneOf words (c :: rest) = false := by
  rw [Spelling.isOneOf, List.any_eq_false]
  intro w member same
  apply others w member
  rw [of_decide_eq_true same]
  rfl

theorem exists_cons_signed
    (negative : Bool)
    (isDigits : Json.IsDigits digits) :
    ∃ first ∈ .char '-' :: decimalDigits, ∃ rest, signed negative digits = first :: rest := by
  cases negative with
  | false =>
      rcases exists_cons_digits isDigits with ⟨first, rest, eq, listed, _⟩
      exact ⟨.char first, List.mem_cons_of_mem _ listed, rest, eq⟩
  | true => exact ⟨.char '-', List.mem_cons_self, _, rfl⟩

theorem isOneOf_signed
    (negative : Bool) (words : List String)
    (isDigits : Json.IsDigits digits)
    (others :
      ∀ w ∈ words, ∀ c ∈ CodePoint.char '-' :: decimalDigits, (Text.ofString w).head? ≠ some c) :
    Spelling.isOneOf words (signed negative digits) = false := by
  rcases exists_cons_signed negative isDigits with ⟨first, listed, rest, eq⟩
  rw [eq]
  exact isOneOf_cons fun w member => others w member first listed

theorem unsigned_signed
    (negative : Bool)
    (isDigits : Json.IsDigits digits) :
    Spelling.unsigned (signed negative digits) = digits.map .char := by
  cases negative with
  | true => rfl
  | false =>
      rcases exists_cons_digits isDigits with ⟨first, rest, eq, listed, _⟩
      rw [signed, if_neg (by decide), List.nil_append, eq, Spelling.unsigned]
      · rintro more same
        cases same
        exact absurd listed (by decide)
      · rintro more same
        cases same
        exact absurd listed (by decide)

theorem isFloat_signed
    (negative : Bool)
    (isDigits : Json.IsDigits digits) :
    Spelling.isFloat (signed negative digits) = false := by
  have whole :=
    forall_mem_digits (p := fun c => Spelling.isDigitOrUnderscore c = true) isDigits (by decide)
  have noPoint := forall_mem_digits (p := fun c => (c != .char '.') = true) isDigits (by decide)
  have infinity := isOneOf_signed false [".inf", ".Inf", ".INF"] isDigits (by decide)
  have notANumber := isOneOf_signed negative [".nan", ".NaN", ".NAN"] isDigits (by decide)
  rw [signed, if_neg (by decide), List.nil_append] at infinity
  -- Nothing is left behind the digits that could start a fraction.
  simp only [Spelling.isFloat, unsigned_signed negative isDigits, infinity, notANumber,
    List.dropWhile_eq_nil_iff.mpr whole, List.dropWhile_eq_nil_iff.mpr noPoint,
    Spelling.isFraction, Bool.and_false, Bool.false_or, Bool.or_false]
  rcases exists_cons_signed negative isDigits with ⟨first, listed, rest, eq⟩
  rw [eq]
  split
  next same =>
    cases same
    exact absurd listed (by decide)
  · rfl

theorem isInteger_signed
    (negative : Bool)
    (isDigits : Json.IsDigits digits) :
    Spelling.isInteger (signed negative digits) = true := by
  have isDigit :=
    forall_mem_digits (p := fun c => Spelling.isDigitOrUnderscore c = true) isDigits (by decide)
  have listedDigit : ∀ c ∈ decimalDigits, c.isAsciiDigit = true := by decide
  rw [Spelling.isInteger, unsigned_signed negative isDigits]
  rcases exists_cons_digits isDigits with ⟨first, rest, eq, listed, leading⟩
  rw [eq] at isDigit ⊢
  by_cases zero : first = '0'
  · rw [zero, leading zero]
    rfl
  · have decimal : Spelling.isDecimal (.char first :: rest) = true := by
      simp only [Spelling.isDecimal, listedDigit (.char first) listed, Bool.true_and,
        Bool.and_eq_true, bne_iff_ne, ne_eq, CodePoint.char.injEq, List.all_eq_true]
      exact ⟨zero, fun c member => isDigit c (List.mem_cons_of_mem _ member)⟩
    simp [decimal]

/-- The digits of an integer are taken for an integer. -/
theorem resolvePlain_signed
    (negative : Bool)
    (isDigits : Json.IsDigits digits) :
    resolvePlain (signed negative digits) = .integer := by
  have notBoolean :=
    isOneOf_signed negative
      ["yes", "Yes", "YES", "no", "No", "NO", "true", "True", "TRUE", "false", "False", "FALSE",
        "on", "On", "ON", "off", "Off", "OFF"] isDigits (by decide)
  have last : (signed negative digits).getLast? ≠ some (.char '\n') := fun same =>
    absurd ((stands_signed negative isDigits).printable _ (List.mem_of_getLast? same)) (by decide)
  simp [resolvePlain, last, Spelling.isBoolean, notBoolean, isFloat_signed negative isDigits,
    isInteger_signed negative isDigits]

/-! ## The value of an integer -/

theorem mapM_digitBelow?_digits
    {digits : List Char}
    (areDigits : ∀ c ∈ digits, c.isDigit = true) :
    (digits.map CodePoint.char).mapM (Scalar.digitBelow? 10) =
      some (digits.map fun c => c.toNat - '0'.toNat) := by
  have value :
      ∀ c ∈ decimalDigits, Scalar.digitBelow? 10 c = some (c.toNat - '0'.toNat) := by
    decide
  induction digits with
  | nil => rfl
  | cons c rest induction =>
      rcases List.forall_mem_cons.mp areDigits with ⟨first, others⟩
      rw [List.map_cons, List.mapM_cons, value (.char c) (mem_decimalDigits first),
        induction others]
      rfl

theorem splitSign_digits
    (isDigits : Json.IsDigits digits) :
    Scalar.splitSign (digits.map .char) = (false, digits.map .char) := by
  rcases exists_cons_digits isDigits with ⟨first, rest, eq, listed, _⟩
  rw [eq, Scalar.splitSign]
  · rintro more same
    cases same
    exact absurd listed (by decide)
  · rintro more same
    cases same
    exact absurd listed (by decide)

theorem splitSign_signed
    (negative : Bool)
    (isDigits : Json.IsDigits digits) :
    Scalar.splitSign (signed negative digits) = (negative, digits.map .char) := by
  cases negative with
  | true => rfl
  | false => exact splitSign_digits isDigits

theorem dropBaseMark_ten
    (t : Text) :
    Scalar.dropBaseMark 10 t = t := by
  unfold Scalar.dropBaseMark
  split <;> simp

theorem trimBlanks_digits
    (isDigits : Json.IsDigits digits) :
    Text.trimBlanks (digits.map .char) = digits.map .char := by
  have visible := forall_mem_digits (p := fun c => c.isBlank = false) isDigits (by decide)
  rcases exists_cons_digits isDigits with ⟨first, rest, eq, _, _⟩
  rcases List.eq_nil_or_concat digits with rfl | ⟨front, last, rfl⟩
  · exact absurd rfl isDigits.nonempty
  · have endsVisibly :
        (front.concat last).map CodePoint.char = front.map .char ++ [.char last] := by
      simp
    refine Text.trim_of_kept_ends eq endsVisibly (visible _ ?_) (visible _ ?_)
    · rw [eq]
      exact List.mem_cons_self
    · rw [endsVisibly]
      exact List.mem_append_right _ List.mem_cons_self

theorem integer?_digits
    (isDigits : Json.IsDigits digits)
    (short : digits.length ≤ 4300) :
    Scalar.integer? 10 (digits.map .char) = some (Nat.ofDigitChars 10 digits 0 : Int) := by
  have notEmpty : (digits.map CodePoint.char).isEmpty = false := by
    simpa using isDigits.nonempty
  simp only [Scalar.integer?, trimBlanks_digits isDigits, splitSign_digits isDigits,
    dropBaseMark_ten, notEmpty, mapM_digitBelow?_digits isDigits.digit, List.length_map,
    maxDecimalDigits, Nat.not_lt.mpr short, Option.map_some, numberOf_map_toNat]
  rfl

/-- The digits of an integer stand for the integer. -/
theorem integer_signed
    (negative : Bool)
    (isDigits : Json.IsDigits digits)
    (short : digits.length ≤ 4300) :
    Scalar.integer (signed negative digits) =
      .ok (if negative then -(Nat.ofDigitChars 10 digits 0 : Int)
        else Nat.ofDigitChars 10 digits 0) := by
  have noUnderscore : Scalar.ungrouped (signed negative digits) = signed negative digits := by
    have others := forall_mem_digits (p := fun c => (c != .char '_') = true) isDigits (by decide)
    rw [Scalar.ungrouped, List.filter_eq_self]
    cases negative with
    | false => exact others
    | true => exact List.forall_mem_cons.mpr ⟨rfl, others⟩
  have noColon : (digits.map CodePoint.char).contains (.char ':') = false := by
    have others := forall_mem_digits (p := fun c => c ≠ .char ':') isDigits (by decide)
    rw [List.contains_eq_mem, decide_eq_false_iff_not]
    exact fun member => others _ member rfl
  simp only [Scalar.integer, noUnderscore, splitSign_signed negative isDigits]
  by_cases zero : digits = ['0']
  · subst zero
    cases negative <;> rfl
  · have reading := integer?_digits isDigits short
    rcases List.exists_cons_of_ne_nil isDigits.nonempty with ⟨first, rest, rfl⟩
    have notZero : first ≠ '0' := fun same => zero (isDigits.leading (congrArg some same))
    rw [List.map_cons] at reading noColon ⊢
    have unsigned :
        Scalar.unsignedInteger (.char first :: rest.map .char) =
          .ok (Nat.ofDigitChars 10 (first :: rest) 0 : Int) := by
      unfold Scalar.unsignedInteger
      split
      next same => cases same
      next same => exact absurd (CodePoint.char.inj (List.cons.inj same).1) notZero
      next same => exact absurd (CodePoint.char.inj (List.cons.inj same).1) notZero
      next same => exact absurd (CodePoint.char.inj (List.cons.inj same).1) notZero
      next same => exact absurd (CodePoint.char.inj (List.cons.inj same).1) notZero
      next =>
        simp only [noColon, reading]
        rfl
    rw [unsigned]
    rfl

end Digits

theorem ofInt_eq_signed
    (n : Int) :
    Text.ofInt n = signed (decide (n < 0)) (Nat.toDigits 10 n.natAbs) := by
  cases n with
  | ofNat n => rfl
  | negSucc n =>
      rw [decide_eq_true (Int.negSucc_lt_zero n)]
      rfl

/-- The text of an integer may stand without quotes, and there it is read as the integer. -/
theorem stands_ofInt
    {n : Int}
    (short : (Nat.toDigits 10 n.natAbs).length ≤ 4300) :
    Plain.Stands (Text.ofInt n) ∧
      Scalar.value (resolvePlain (Text.ofInt n)) (Text.ofInt n) = .ok (.integer n) := by
  have isDigits := Json.isDigits_toDigits n.natAbs
  rw [ofInt_eq_signed, resolvePlain_signed _ isDigits, Scalar.value,
    integer_signed _ isDigits short, Nat.ofDigitChars_ten_toDigits]
  refine ⟨stands_signed _ isDigits, congrArg (Except.ok ∘ Value.integer) ?_⟩
  by_cases negative : n < 0
  · rw [decide_eq_true negative, if_pos rfl]
    omega
  · rw [decide_eq_false negative, if_neg (by decide)]
    omega

theorem noSpace_ofInt
    (n : Int) :
    ∀ c ∈ Text.ofInt n, c ≠ .char ' ' := by
  have digits :=
    forall_mem_digits (p := fun c => c ≠ .char ' ') (Json.isDigits_toDigits n.natAbs) (by decide)
  rw [ofInt_eq_signed, signed]
  intro c member
  rcases List.mem_append.mp member with sign | digit
  · split at sign <;> simp_all
  · exact digits c digit

end Shapewright.Yaml
