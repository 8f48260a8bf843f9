import Mathlib.Data.List.Basic
import Shapewright.Text.Basic

/-!
# Cutting a text

A text is cut at a code point into one part more than it holds of that code point.  No part holds
it, and joining texts and cutting the result cuts each of them.  What two or more texts are joined
by can be read off the result.
-/

namespace Shapewright.Text

theorem length_splitOn
    (separator : CodePoint) (t : Text) :
    (t.splitOn separator).length = t.count separator + 1 := by
  induction t with
  | nil =>
      rfl
  | cons c rest induction =>
      by_cases same : c = separator
      · rw [same, splitOn, if_pos rfl, List.length_cons, induction, List.count_cons_self]
      · rw [splitOn, if_neg same, List.count_cons_of_ne same]
        cases parts : splitOn separator rest with
        | nil =>
            rw [parts] at induction
            cases induction
        | cons part others =>
            rw [parts] at induction
            exact induction

theorem splitOn_ne_nil
    (separator : CodePoint) (t : Text) :
    t.splitOn separator ≠ [] := by
  intro nothing
  have length := length_splitOn separator t
  rw [nothing] at length
  cases length

theorem splitOn_of_count_eq_zero
    {separator : CodePoint} {t : Text}
    (absent : t.count separator = 0) :
    t.splitOn separator = [t] := by
  induction t with
  | nil =>
      rfl
  | cons c rest induction =>
      rw [List.count_eq_zero, List.mem_cons, not_or] at absent
      rw [splitOn, if_neg (Ne.symm absent.1), induction (List.count_eq_zero.mpr absent.2)]

/-- A text is cut at a separator into what it is cut into before and behind it. -/
theorem splitOn_append_cons
    (separator : CodePoint) (s t : Text) :
    splitOn separator (s ++ separator :: t) = splitOn separator s ++ splitOn separator t := by
  induction s with
  | nil =>
      simp [splitOn]
  | cons c rest induction =>
      by_cases same : c = separator
      · rw [List.cons_append, splitOn, if_pos same, induction, splitOn, if_pos same,
          List.cons_append]
      · rw [List.cons_append, splitOn, if_neg same, induction, splitOn, if_neg same]
        cases parts : splitOn separator rest with
        | nil =>
            exact absurd parts (splitOn_ne_nil separator rest)
        | cons part others =>
            rfl

theorem join_cons
    (separator part : Text) {rest : List Text}
    (nonempty : rest ≠ []) :
    join separator (part :: rest) = part ++ (separator ++ join separator rest) := by
  cases rest with
  | nil =>
      exact absurd rfl nonempty
  | cons other others =>
      simp [join]

theorem splitOn_join
    (separator : CodePoint) {parts : List Text}
    (nonempty : parts ≠ []) :
    splitOn separator (join [separator] parts) = parts.flatMap (splitOn separator) := by
  induction parts with
  | nil =>
      exact absurd rfl nonempty
  | cons part rest induction =>
      cases rest with
      | nil =>
          simp [join]
      | cons other others =>
          calc
            splitOn separator (join [separator] (part :: other :: others)) =
                splitOn separator
                  (part ++ separator :: join [separator] (other :: others)) := by
              rw [join_cons [separator] part (List.cons_ne_nil other others)]
              rfl
            _ = splitOn separator part ++
                splitOn separator (join [separator] (other :: others)) :=
              splitOn_append_cons separator part _
            _ = (part :: other :: others).flatMap (splitOn separator) := by
              rw [induction (List.cons_ne_nil other others)]
              rfl

theorem length_join
    (separator part : Text) (rest : List Text) :
    (join separator (part :: rest)).length =
      (part :: rest).flatten.length + rest.length * separator.length := by
  induction rest generalizing part with
  | nil =>
      simp [join]
  | cons other others induction =>
      have flattened :
          (part :: other :: others).flatten.length =
            part.length + (other :: others).flatten.length := by
        rw [List.flatten_cons, List.length_append]
      rw [join_cons separator part (List.cons_ne_nil other others), List.length_append,
        List.length_append, induction, flattened, List.length_cons, Nat.succ_mul]
      omega

/-- What stands between the parts can be read off a joined text, if there are two parts at least:
its length tells how long a separator is, and the first one stands behind the first part. -/
theorem join_injective
    {parts : List Text}
    (atLeastTwo : 2 ≤ parts.length) :
    Function.Injective fun separator => join separator parts := by
  intro separator other equal
  match parts, atLeastTwo with
  | part :: next :: others, _ =>
    have lengths := congrArg List.length equal
    simp only [length_join, Nat.add_left_cancel_iff] at lengths
    have sameLength : separator.length = other.length :=
      Nat.eq_of_mul_eq_mul_left (Nat.succ_pos others.length) lengths
    simp only [join_cons _ part (List.cons_ne_nil next others)] at equal
    exact List.append_inj_left (List.append_cancel_left equal) sameLength

theorem count_join
    (separator : CodePoint) {parts : List Text}
    (nonempty : parts ≠ []) :
    (join [separator] parts).count separator + 1 =
      parts.flatten.count separator + parts.length := by
  induction parts with
  | nil =>
      exact absurd rfl nonempty
  | cons part rest induction =>
      cases rest with
      | nil =>
          simp [join]
      | cons other others =>
          have more := induction (List.cons_ne_nil other others)
          rw [join_cons [separator] part (List.cons_ne_nil other others), List.count_append,
            List.count_append, List.count_singleton_self, List.flatten_cons, List.count_append,
            List.length_cons]
          omega

/-- No part of a text holds what the text is cut at. -/
theorem notMem_of_mem_splitOn
    {separator : CodePoint} {t part : Text}
    (isPart : part ∈ t.splitOn separator) :
    separator ∉ part := by
  induction t generalizing part with
  | nil =>
      rw [splitOn, List.mem_singleton] at isPart
      simp [isPart]
  | cons c rest induction =>
      by_cases same : c = separator
      · rw [splitOn, if_pos same, List.mem_cons] at isPart
        rcases isPart with rfl | later
        · simp
        · exact induction later
      · rw [splitOn, if_neg same] at isPart
        cases parts : splitOn separator rest with
        | nil =>
            exact absurd parts (splitOn_ne_nil separator rest)
        | cons first others =>
            rw [parts] at isPart induction
            rcases List.mem_cons.mp isPart with rfl | later
            · rw [List.mem_cons, not_or]
              exact ⟨Ne.symm same, induction List.mem_cons_self⟩
            · exact induction (List.mem_cons_of_mem first later)

end Shapewright.Text
