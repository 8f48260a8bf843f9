import Mathlib.Data.List.DropRight
import Mathlib.Data.List.TakeDrop
import Shapewright.Text.Blank

/-!
# Trimming

What is trimmed at both ends of a text does not count: padding makes no difference, and a text
without any is left as it is.
-/

namespace Shapewright.Text

variable {isTrimmed : CodePoint → Bool}

/-- Padding on both sides is trimmed off. -/
theorem trim_padded
    {before after : Text} (t : Text)
    (blankBefore : ∀ c ∈ before, isTrimmed c = true)
    (blankAfter : ∀ c ∈ after, isTrimmed c = true) :
    trim isTrimmed (before ++ (t ++ after)) = trim isTrimmed t := by
  have blankReversed : ∀ c ∈ after.reverse, isTrimmed c = true :=
    fun c member => blankAfter c (List.mem_reverse.mp member)
  simp only [trim, List.dropWhile_append_of_pos blankBefore]
  rw [List.dropWhile_append]
  split
  next nothing =>
    rw [List.isEmpty_iff.mp nothing, List.dropWhile_eq_nil_iff.mpr blankAfter]
  next =>
    rw [List.reverse_append, List.dropWhile_append_of_pos blankReversed]

/-- A text that starts and ends with what stays is left as it is. -/
theorem trim_of_kept_ends
    {t : Text} {first last : CodePoint} {front rest : Text}
    (starts : t = first :: rest)
    (ends : t = front ++ [last])
    (keptFirst : isTrimmed first = false)
    (keptLast : isTrimmed last = false) :
    trim isTrimmed t = t := by
  have keepsStart : t.dropWhile isTrimmed = t := by
    rw [starts, List.dropWhile_cons_of_neg (by simp [keptFirst])]
  have keepsEnd : t.rdropWhile isTrimmed = t := by
    rw [ends, List.rdropWhile_concat_neg _ _ _ (by simp [keptLast])]
  calc
    trim isTrimmed t = (t.dropWhile isTrimmed).rdropWhile isTrimmed := rfl
    _ = t := by rw [keepsStart, keepsEnd]

/-- Once is enough. -/
theorem trim_trim
    (isTrimmed : CodePoint → Bool) (t : Text) :
    trim isTrimmed (trim isTrimmed t) = trim isTrimmed t := by
  have startsKept :
      (trim isTrimmed t).dropWhile isTrimmed = trim isTrimmed t := by
    rcases List.rdropWhile_prefix isTrimmed (t.dropWhile isTrimmed) with ⟨ending, eq⟩
    change trim isTrimmed t ++ ending = _ at eq
    cases trimmed : trim isTrimmed t with
    | nil =>
        rfl
    | cons c rest =>
        rw [trimmed, List.cons_append] at eq
        have kept := List.head?_dropWhile_not isTrimmed t
        rw [← eq] at kept
        exact List.dropWhile_cons_of_neg (by simpa using kept)
  calc
    trim isTrimmed (trim isTrimmed t) =
        ((trim isTrimmed t).dropWhile isTrimmed).rdropWhile isTrimmed := rfl
    _ = (trim isTrimmed t).rdropWhile isTrimmed := by rw [startsKept]
    _ = trim isTrimmed t := List.rdropWhile_idempotent isTrimmed _

end Shapewright.Text
