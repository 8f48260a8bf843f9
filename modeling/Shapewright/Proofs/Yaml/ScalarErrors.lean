import Mathlib.Algebra.Group.Nat.Defs
import Shapewright.Proofs.Text.Split
import Shapewright.Proofs.Yaml.Apart
import Shapewright.Yaml.Scalar

/-!
# Scalars that fail in ways of their own

Most contents that do not fit their tag are malformed.  The others are known by tag and content: a
number without digits, a number in base sixty with too many parts, a word that is no truth value,
and a text that is no timestamp.
-/

namespace Shapewright.Yaml.Scalar

open Shapewright.Outcome

/-- The most parts of a floating-point number in base sixty: the next one counts a power of sixty
that is no floating-point number. -/
def maxSixtieths : Nat := 174

/-- The error with which a scalar fails other than by being malformed, by its tag and its
content. -/
inductive FailsApart : Tag → Text → Error → Prop where
  | integer {content : Text}
      (noDigits : ungrouped content ∈ [[], [.char '+'], [.char '-']]) :
      FailsApart .integer content .emptyNumber
  | float {content : Text}
      (nothing : ungrouped content = []) :
      FailsApart .float content .emptyNumber
  | sixtieths {content : Text} {parts : List Text}
      (cut : (splitSign (ungrouped content).lower).2.splitOn (.char ':') = parts)
      (many : maxSixtieths < parts.length)
      (readable : ∀ part ∈ parts, (float? part).isSome = true) :
      FailsApart .float content .numberTooLarge
  | boolean {content : Text}
      (unknown : Spelling.isOneOf (trueWords ++ falseWords) content.lower = false) :
      FailsApart .boolean content (.unknownBoolean content.lower)
  | timestamp {content : Text}
      (unspelled : spelledTimestamp? content = none) :
      FailsApart .timestamp content .noTimestamp

@[simp]
theorem not_isApart_orMalformed
    {α : Type} (answer : Option α) :
    ¬IsApart (orMalformed answer) := by
  cases answer <;> simp [orMalformed]

/-! ## Numbers -/

theorem isApart_unsignedInteger_iff
    {u : Text} :
    IsApart (unsignedInteger u) ↔ u = [] := by
  unfold unsignedInteger
  split
  next => simp
  next => simp
  next => simp
  next => simp
  next => simp
  next notEmpty _ _ _ _ => split <;> simpa using notEmpty

theorem splitSign_snd_eq_nil_iff
    {t : Text} :
    (splitSign t).2 = [] ↔ t ∈ [[], [.char '+'], [.char '-']] := by
  unfold splitSign
  split <;> simp_all

theorem isApart_integer_iff
    {content : Text} :
    IsApart (integer content) ↔ ungrouped content ∈ [[], [.char '+'], [.char '-']] := by
  simp only [integer, isApart_map, isApart_unsignedInteger_iff, splitSign_snd_eq_nil_iff]

/-! ## Numbers in base sixty -/

theorem isFinite_power_of_lt
    {n : Nat}
    (small : n < maxSixtieths) :
    (Binary64.ofInt (60 ^ n : Nat)).isFinite = true := by
  have all : ∀ n ∈ List.range maxSixtieths, (Binary64.ofInt (60 ^ n : Nat)).isFinite = true := by
    decide +kernel
  exact all n (List.mem_range.mpr small)

theorem not_isFinite_power :
    (Binary64.ofInt (60 ^ maxSixtieths : Nat)).isFinite = false := by
  decide +kernel

/-- The sum of parts that are behind `n` others fails exactly if there are too many of them all. -/
theorem isApart_addSixtieths_iff
    {n : Nat} (sum : Binary64) (parts : List Binary64)
    (few : n ≤ maxSixtieths) :
    IsApart (addSixtieths sum (60 ^ n) parts) ↔ maxSixtieths < n + parts.length := by
  induction parts generalizing n sum with
  | nil => simpa [addSixtieths] using few
  | cons part rest induction =>
      rw [addSixtieths, List.length_cons]
      rcases Nat.lt_or_eq_of_le few with fewer | rfl
      · simp only [isFinite_power_of_lt fewer, if_true, ← Nat.pow_succ, induction _ fewer]
        omega
      · simp only [not_isFinite_power]
        simp

theorem mapM_eq_some
    {α β : Type} {read : α → Option β} {items : List α}
    (readable : ∀ item ∈ items, (read item).isSome = true) :
    ∃ values, items.mapM read = some values ∧ values.length = items.length := by
  induction items with
  | nil => exact ⟨[], rfl, rfl⟩
  | cons item rest induction =>
      rcases List.forall_mem_cons.mp readable with ⟨first, others⟩
      rcases Option.isSome_iff_exists.mp first with ⟨value, valueEq⟩
      rcases induction others with ⟨values, valuesEq, lengths⟩
      exact ⟨value :: values, by simp [List.mapM_cons, valueEq, valuesEq], by simp [lengths]⟩

theorem mapM_eq_none
    {α β : Type} {read : α → Option β} {items : List α}
    (unreadable : ¬∀ item ∈ items, (read item).isSome = true) :
    items.mapM read = none := by
  induction items with
  | nil => simp at unreadable
  | cons item rest induction =>
      cases valueEq : read item with
      | none => simp [List.mapM_cons, valueEq]
      | some value =>
          have others := induction (by simpa [valueEq] using unreadable)
          simp [List.mapM_cons, valueEq, others]

theorem isApart_unsignedFloat_iff
    {u : Text} :
    IsApart (unsignedFloat u) ↔
      maxSixtieths < (u.splitOn (.char ':')).length ∧
        ∀ part ∈ u.splitOn (.char ':'), (float? part).isSome = true := by
  have whole : u.contains (.char ':') = false → ¬maxSixtieths < (u.splitOn (.char ':')).length := by
    intro noColon
    have absent : CodePoint.char ':' ∉ u := by simpa using noColon
    rw [Text.length_splitOn, List.count_eq_zero.mpr absent]
    decide
  unfold unsignedFloat
  split
  next infinity =>
    subst infinity
    simpa using fun many => absurd many (whole (by decide))
  next =>
    split
    next notANumber =>
      subst notANumber
      simpa using fun many => absurd many (whole (by decide))
    next =>
      split
      next =>
        by_cases readable : ∀ part ∈ u.splitOn (.char ':'), (float? part).isSome = true
        · rcases mapM_eq_some readable with ⟨parts, partsEq, lengths⟩
          have sum := isApart_addSixtieths_iff (.signedZero false) parts.reverse
            (Nat.zero_le maxSixtieths)
          rw [List.length_reverse, lengths, Nat.zero_add, Nat.pow_zero] at sum
          simp only [partsEq, orMalformed, ok_bind]
          rw [and_iff_left readable, ← sum]
        · simp [mapM_eq_none readable, orMalformed, readable]
      next noColon => simpa using fun many => absurd many (whole (by simpa using noColon))

theorem lower_eq_nil_iff
    {t : Text} :
    t.lower = [] ↔ t = [] := by
  cases t with
  | nil => exact iff_of_true rfl rfl
  | cons c rest =>
      simp only [Text.lower, Text.lowerFrom, List.append_eq_nil_iff]
      split
      · simp
      · split <;> simp

theorem isApart_float_iff
    {content : Text} :
    IsApart (float content) ↔
      ungrouped content = [] ∨
        maxSixtieths < ((splitSign (ungrouped content).lower).2.splitOn (.char ':')).length ∧
          ∀ part ∈ (splitSign (ungrouped content).lower).2.splitOn (.char ':'),
            (float? part).isSome = true := by
  unfold float
  by_cases empty : ungrouped content = []
  · simp [empty, Text.lower, Text.lowerFrom]
  · have notEmpty : (ungrouped content).lower.isEmpty = false := by
      simpa [lower_eq_nil_iff] using empty
    simp only [notEmpty, Bool.false_eq_true, if_false, isApart_map, isApart_unsignedFloat_iff,
      empty, false_or]

theorem eq_numberTooLarge_of_addSixtieths
    {sum : Binary64} {unit : Nat} {parts : List Binary64} {error : Error}
    (failed : addSixtieths sum unit parts = .error error) :
    error = .numberTooLarge := by
  fun_induction addSixtieths sum unit parts with
  | case1 => cases failed
  | case2 _ _ _ _ _ _ induction => exact induction failed
  | case3 => exact (Except.error.inj failed).symm

theorem eq_numberTooLarge_of_unsignedFloat
    {u : Text} {error : Error}
    (failed : unsignedFloat u = .error error)
    (notMalformed : error ≠ .malformed) :
    error = .numberTooLarge := by
  unfold unsignedFloat at failed
  split at failed
  next => cases failed
  next =>
    split at failed
    next => cases failed
    next =>
      split at failed
      next =>
        cases parts : (u.splitOn (.char ':')).mapM float? with
        | none =>
            rw [parts] at failed
            exact absurd (Except.error.inj failed).symm notMalformed
        | some parts =>
            rw [parts] at failed
            exact eq_numberTooLarge_of_addSixtieths failed
      next =>
        have regular := eq_malformed_of_not_isApart (not_isApart_orMalformed _) failed
        exact absurd regular notMalformed

theorem float_eq_error
    {content : Text}
    (many :
      maxSixtieths < ((splitSign (ungrouped content).lower).2.splitOn (.char ':')).length)
    (readable : ∀ part ∈ (splitSign (ungrouped content).lower).2.splitOn (.char ':'),
      (float? part).isSome = true) :
    float content = .error .numberTooLarge := by
  rcases isApart_float_iff.mpr (.inr ⟨many, readable⟩) with ⟨error, failed, notMalformed⟩
  have reading := failed
  unfold float at reading
  dsimp only at reading
  split at reading
  next nothing =>
    rw [List.isEmpty_iff.mp nothing] at many
    exact absurd many (by decide)
  next =>
    cases unsigned : unsignedFloat (splitSign (ungrouped content).lower).2 with
    | ok x =>
        rw [unsigned] at reading
        cases reading
    | error other =>
        rw [unsigned] at reading
        cases reading
        rw [failed, eq_numberTooLarge_of_unsignedFloat unsigned notMalformed]

/-! ## All scalars -/

theorem boolean_eq_error
    {content : Text}
    (unknown : Spelling.isOneOf (trueWords ++ falseWords) content.lower = false) :
    boolean content = .error (.unknownBoolean content.lower) := by
  rw [Spelling.isOneOf, List.any_append, Bool.or_eq_false_iff, ← Spelling.isOneOf,
    ← Spelling.isOneOf] at unknown
  simp only [boolean, unknown.1, unknown.2]
  rfl

theorem isApart_boolean_iff
    {content : Text} :
    IsApart (boolean content) ↔
      Spelling.isOneOf (trueWords ++ falseWords) content.lower = false := by
  unfold boolean
  rw [Spelling.isOneOf, List.any_append, ← Spelling.isOneOf, ← Spelling.isOneOf]
  simp only
  split
  next isTrue => simp [isTrue]
  next =>
    split
    next isFalse => simp [isFalse]
    next notTrue notFalse => simp [notTrue, notFalse]

theorem isApart_timestamp_iff
    {content : Text} :
    IsApart (timestamp content) ↔ spelledTimestamp? content = none := by
  unfold timestamp
  cases spelledTimestamp? content with
  | none => simp
  | some timestamp => cases valid : timestamp.isValid <;> simp [valid]

theorem FailsApart.ne_malformed
    {tag : Tag} {content : Text} {error : Error}
    (fails : FailsApart tag content error) :
    error ≠ .malformed := by
  cases fails <;> nofun

theorem exists_failsApart
    {tag : Tag} {content : Text}
    (apart : IsApart (value tag content)) :
    ∃ error, FailsApart tag content error := by
  cases tag with
  | integer => exact ⟨_, .integer (isApart_integer_iff.mp (isApart_map.mp apart))⟩
  | float =>
      rcases isApart_float_iff.mp (isApart_map.mp apart) with nothing | ⟨many, readable⟩
      · exact ⟨_, .float nothing⟩
      · exact ⟨_, .sixtieths rfl many readable⟩
  | boolean => exact ⟨_, .boolean (isApart_boolean_iff.mp (isApart_map.mp apart))⟩
  | timestamp => exact ⟨_, .timestamp (isApart_timestamp_iff.mp (isApart_map.mp apart))⟩
  | _ => simp [value] at apart

theorem value_of_failsApart
    {tag : Tag} {content : Text} {error : Error}
    (fails : FailsApart tag content error) :
    value tag content = .error error := by
  cases fails with
  | integer noDigits =>
      have nothing := splitSign_snd_eq_nil_iff.mpr noDigits
      simp only [value, integer, nothing, unsignedInteger]
      rfl
  | float nothing =>
      simp only [value, float, nothing]
      rfl
  | sixtieths cut many readable =>
      subst cut
      rw [value, float_eq_error many readable]
      rfl
  | boolean unknown =>
      rw [value, boolean_eq_error unknown]
      rfl
  | timestamp unspelled =>
      simp only [value, timestamp, unspelled]
      rfl

/-- A scalar fails other than by being malformed exactly if its tag and its content say so. -/
theorem value_eq_error_iff
    {tag : Tag} {content : Text} {error : Error}
    (notMalformed : error ≠ .malformed) :
    value tag content = .error error ↔ FailsApart tag content error := by
  constructor
  · intro valueEq
    rcases exists_failsApart ⟨error, valueEq, notMalformed⟩ with ⟨other, fails⟩
    cases valueEq.symm.trans (value_of_failsApart fails)
    exact fails
  · exact value_of_failsApart

end Shapewright.Yaml.Scalar
