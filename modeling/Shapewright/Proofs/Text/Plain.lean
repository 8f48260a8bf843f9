import Shapewright.Text.Lines

/-!
# Plain text

A plain text is in ASCII and has no control characters but line feeds.  It has an encoding, and it
is the same when its line ends are normalized.
-/

namespace Shapewright

/-- Whether a code point is a line feed or an ASCII character from the space on. -/
def CodePoint.isPlain (c : CodePoint) : Bool :=
  c = .char '\n' || (0x20 ≤ c.toNat && c.toNat < 0x80)

namespace Text

/-- Whether a text consists of plain code points. -/
def isPlain (t : Text) : Bool := t.all CodePoint.isPlain

@[simp]
theorem isPlain_cons
    (c : CodePoint) (t : Text) :
    isPlain (c :: t) = (c.isPlain && t.isPlain) :=
  rfl

@[simp]
theorem isPlain_append
    (s t : Text) :
    isPlain (s ++ t) = (s.isPlain && t.isPlain) :=
  List.all_append

theorem isWellFormed_of_isPlain
    {t : Text}
    (plain : t.isPlain = true) :
    t.isWellFormed = true := by
  rw [isPlain, List.all_eq_true] at plain
  rw [isWellFormed, List.all_eq_true]
  intro c member
  cases c with
  | char c =>
      rfl
  | surrogate offset =>
      have low : (CodePoint.surrogate offset).toNat < 0x80 := by
        have bounds := plain _ member
        simp only [CodePoint.isPlain, reduceCtorEq, decide_false, Bool.false_or, Bool.and_eq_true,
          decide_eq_true_eq] at bounds
        exact bounds.2
      exact absurd low (Nat.not_lt.mpr (Nat.le_trans (by decide) (Nat.le_add_right 0xD800 _)))

theorem normalizeLineEnds_of_isPlain
    {t : Text}
    (plain : t.isPlain = true) :
    t.normalizeLineEnds = t := by
  induction t with
  | nil =>
      rfl
  | cons c rest induction =>
      simp only [isPlain, List.all_cons, Bool.and_eq_true] at plain
      have notReturn : c ≠ .char '\r' := by
        rintro rfl
        exact absurd plain.1 (by decide)
      rw [normalizeLineEnds, induction plain.2]
      all_goals
        intros
        contradiction

end Text

end Shapewright
