import Shapewright.Proofs.Text.Plain
import Shapewright.Yaml.Character

/-!
# The characters of written texts

What is written in YAML consists of line feeds and printable ASCII characters.  All of them are
allowed in a text, and none changes when line ends are normalized.
-/

namespace Shapewright.Yaml

/-- Whether a code point is a printable ASCII character. -/
def isPrintable (c : CodePoint) : Bool := 0x20 ≤ c.toNat && c.toNat ≤ 0x7E

theorem breakOf?_of_isPrintable
    {c : CodePoint}
    (printable : isPrintable c = true) :
    breakOf? c = none := by
  have notListed :
      ∀ d ∈ [CodePoint.char '\n', .char '\x85', .char '\u2028', .char '\u2029'],
        isPrintable d = false := by
    decide
  unfold breakOf?
  split
  next found =>
    simp only [Bool.or_eq_true, decide_eq_true_eq] at found
    rcases found with rfl | rfl <;>
      exact absurd printable (by decide)
  next =>
    split
    next found =>
      simp only [Bool.or_eq_true, decide_eq_true_eq] at found
      rcases found with rfl | rfl <;>
        exact absurd printable (by decide)
    next => rfl

theorem isBreak_of_isPrintable
    {c : CodePoint}
    (printable : isPrintable c = true) :
    isBreak c = false := by
  rw [isBreak, breakOf?_of_isPrintable printable]
  rfl

theorem isSpaceOrTab_of_isPrintable
    {c : CodePoint}
    (printable : isPrintable c = true)
    (notSpace : c ≠ .char ' ') :
    isSpaceOrTab c = false := by
  have notTab : c ≠ .char '\t' := by
    rintro rfl
    exact absurd printable (by decide)
  simp [isSpaceOrTab, notSpace, notTab]

/-- Whether a text consists of line feeds and printable ASCII characters. -/
def isWritten (t : Text) : Bool := t.all fun c => c = .char '\n' || isPrintable c

@[simp]
theorem isWritten_nil : isWritten [] = true := rfl

@[simp]
theorem isWritten_cons
    (c : CodePoint) (t : Text) :
    isWritten (c :: t) = ((c = .char '\n' || isPrintable c) && isWritten t) :=
  rfl

@[simp]
theorem isWritten_append
    (s t : Text) :
    isWritten (s ++ t) = (isWritten s && isWritten t) :=
  List.all_append

@[simp]
theorem isWritten_spaces
    (n : Nat) :
    isWritten (List.replicate n (.char ' ')) = true := by
  induction n with
  | zero => rfl
  | succ n induction => exact induction

theorem isPlain_of_isWritten
    {t : Text}
    (written : isWritten t = true) :
    t.isPlain = true := by
  rw [isWritten, List.all_eq_true] at written
  rw [Text.isPlain, List.all_eq_true]
  intro c member
  have found := written c member
  simp only [isPrintable, Bool.or_eq_true, Bool.and_eq_true, decide_eq_true_eq] at found
  simp only [CodePoint.isPlain, Bool.or_eq_true, Bool.and_eq_true, decide_eq_true_eq]
  rcases found with lineFeed | ⟨low, high⟩
  · exact .inl lineFeed
  · exact .inr ⟨low, Nat.lt_of_le_of_lt high (by decide)⟩

theorem all_isAllowed_of_isWritten
    {t : Text}
    (written : isWritten t = true) :
    t.all isAllowed = true := by
  rw [isWritten, List.all_eq_true] at written
  rw [List.all_eq_true]
  intro c member
  have found := written c member
  simp only [isPrintable, Bool.or_eq_true, Bool.and_eq_true, decide_eq_true_eq] at found
  rcases found with rfl | bounds
  · decide
  · simp [isAllowed, bounds]

end Shapewright.Yaml
