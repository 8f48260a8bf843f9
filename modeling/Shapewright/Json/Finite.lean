import Shapewright.Value.Basic

/-!
# Numbers that are not finite

A document that is read from a text may hold a NaN or an infinity, which JSON does not have.  They
are looked for with a stack of values: the last value is taken first, and its children are put on
top of the stack in their order.
-/

namespace Shapewright

namespace Value

/-- The values right below a value. -/
def children : Value → List Value
  | .array items => items
  | .object entries => entries.map (·.2)
  | _ => []

mutual

/-- The number of values in a value, itself included. -/
def count : Value → Nat
  | .array items => countItems items + 1
  | .object entries => countEntries entries + 1
  | _ => 1

/-- The number of values in the items of an array. -/
def countItems : List Value → Nat
  | [] => 0
  | v :: rest => count v + countItems rest

/-- The number of values in the entries of an object. -/
def countEntries : List (Text × Value) → Nat
  | [] => 0
  | (_, v) :: rest => count v + countEntries rest

end

/-- Whether a value is a number that is not finite. -/
def nonFinite? : Value → Option Binary64
  | .float x => if x.isFinite then none else some x
  | _ => none

/-- The first number that is not finite on a search of the stack, whose top is the head of the
list; `fuel` bounds the number of values looked at. -/
def searchNonFinite (fuel : Nat) (stack : List Value) : Option Binary64 :=
  match fuel, stack with
  | 0, _ => none
  | _, [] => none
  | fuel + 1, v :: rest =>
    match nonFinite? v with
    | some x => some x
    | none => searchNonFinite fuel (v.children.reverse ++ rest)

/-- A number in the value that is not finite, if there is one. -/
def findNonFinite (v : Value) : Option Binary64 := searchNonFinite v.count [v]

end Value

end Shapewright
