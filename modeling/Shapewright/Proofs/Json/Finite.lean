import Mathlib.Algebra.BigOperators.Group.List.Basic
import Mathlib.Algebra.GroupWithZero.Nat
import Shapewright.Json.Finite

/-!
# What the search for numbers that are not finite finds

The stack of the search holds the values that are still to be looked at, the last one of the
document on top.  So the search meets the numbers of a document from the last one to the first.
-/

namespace Shapewright.Value

mutual

/-- The numbers of a value that are not finite, in the order of the document. -/
def nonFiniteNumbers : Value → List Binary64
  | .float x => if x.isFinite then [] else [x]
  | .array items => nonFiniteItems items
  | .object entries => nonFiniteEntries entries
  | _ => []

/-- The numbers of the items of an array that are not finite. -/
def nonFiniteItems : List Value → List Binary64
  | [] => []
  | v :: rest => nonFiniteNumbers v ++ nonFiniteItems rest

/-- The numbers of the entries of an object that are not finite. -/
def nonFiniteEntries : List (Text × Value) → List Binary64
  | [] => []
  | (_, v) :: rest => nonFiniteNumbers v ++ nonFiniteEntries rest

end

theorem nonFiniteItems_eq_flatMap
    (items : List Value) :
    nonFiniteItems items = items.flatMap nonFiniteNumbers := by
  induction items with
  | nil => rfl
  | cons v rest induction => rw [nonFiniteItems, induction, List.flatMap_cons]

theorem nonFiniteEntries_eq_flatMap
    (entries : List (Text × Value)) :
    nonFiniteEntries entries = (entries.map (·.2)).flatMap nonFiniteNumbers := by
  induction entries with
  | nil => rfl
  | cons entry rest induction =>
      rw [nonFiniteEntries, induction, List.map_cons, List.flatMap_cons]

theorem nonFiniteNumbers_of_nonFinite?
    {v : Value} {x : Binary64}
    (found : nonFinite? v = some x) :
    v.nonFiniteNumbers = [x] := by
  cases v with
  | float y =>
      simp only [nonFinite?] at found
      split at found
      · cases found
      next infinite =>
        cases found
        simp [nonFiniteNumbers, infinite]
  | _ => cases found

theorem nonFiniteNumbers_of_children
    {v : Value}
    (notFound : nonFinite? v = none) :
    v.nonFiniteNumbers = v.children.flatMap nonFiniteNumbers := by
  cases v with
  | float x => simpa [nonFinite?, nonFiniteNumbers, children] using notFound
  | array items => exact nonFiniteItems_eq_flatMap items
  | object entries => exact nonFiniteEntries_eq_flatMap entries
  | _ => rfl

theorem countItems_eq_sum
    (items : List Value) :
    countItems items = (items.map count).sum := by
  induction items with
  | nil => rfl
  | cons v rest induction => rw [countItems, induction, List.map_cons, List.sum_cons]

theorem countEntries_eq_sum
    (entries : List (Text × Value)) :
    countEntries entries = ((entries.map (·.2)).map count).sum := by
  induction entries with
  | nil => rfl
  | cons entry rest induction =>
      rw [countEntries, induction, List.map_cons, List.map_cons, List.sum_cons]

theorem count_eq_sum_children
    (v : Value) :
    v.count = (v.children.map count).sum + 1 := by
  cases v with
  | array items => rw [count, countItems_eq_sum, children]
  | object entries => rw [count, countEntries_eq_sum, children]
  | _ => rfl

/-- A round of the search takes one value from the stack and leaves the others. -/
theorem sum_count_pushed
    (v : Value) (rest : List Value) :
    ((v.children.reverse ++ rest).map count).sum + 1 = ((v :: rest).map count).sum := by
  rw [List.map_append, List.sum_append, List.map_reverse, List.sum_reverse, List.map_cons,
    List.sum_cons, count_eq_sum_children]
  omega

/-- With fuel for all values on the stack, the search finds the first of their numbers that are not
finite, each value's own taken from the last to the first. -/
theorem searchNonFinite_eq_head?
    {fuel : Nat} {stack : List Value}
    (enough : (stack.map count).sum ≤ fuel) :
    searchNonFinite fuel stack = (stack.flatMap fun v => v.nonFiniteNumbers.reverse).head? := by
  induction fuel generalizing stack with
  | zero =>
      cases stack with
      | nil => rfl
      | cons v rest =>
          rw [List.map_cons, List.sum_cons, count_eq_sum_children] at enough
          omega
  | succ fuel induction =>
      cases stack with
      | nil => rfl
      | cons v rest =>
          rw [searchNonFinite, List.flatMap_cons]
          cases found : nonFinite? v with
          | some x =>
              rw [nonFiniteNumbers_of_nonFinite? found]
              rfl
          | none =>
              rw [← sum_count_pushed] at enough
              have enoughPushed := Nat.le_of_succ_le_succ enough
              rw [nonFiniteNumbers_of_children found, List.reverse_flatMap]
              simp only [induction enoughPushed, List.flatMap_append, Function.comp_def]

/-- The search finds nothing exactly in a value whose numbers are all finite. -/
theorem findNonFinite_eq_none_iff
    {v : Value} :
    v.findNonFinite = none ↔ v.nonFiniteNumbers = [] := by
  rw [findNonFinite, searchNonFinite_eq_head? (by simp)]
  simp

end Shapewright.Value
