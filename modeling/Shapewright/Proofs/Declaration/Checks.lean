import Shapewright.Proofs.Declaration.Name
import Shapewright.Proofs.Declaration.Walk

/-!
# The checks behind a declaration

Whether a value has a declaration is decided by a list of checks, read off the value from the
outside in and from left to right: a class is checked for its depth and then for its name, a member
for its name.  Of an array only the first item counts, and of that item only the keys.

The first check of the list that fails gives the error of the whole declaration.  The proof goes
through the recursion that the walk unfolds to: each part of it fails as its own checks do.
-/

namespace Shapewright.Declaration

open Shapewright.Outcome

/-! ## The list of checks -/

/-- A check: that one more class may be opened at a level, or that a seed has a name. -/
inductive Check where
  | depth (level : Nat)
  | typeName (seed : Value)
  | memberName (seed : Value)

/-- The error of a check that fails under the settings. -/
def Check.failure? (settings : Settings) : Check → Option GenerateError
  | .depth level =>
    match settings.maxDepth with
    | none => none
    | some limit => if level + 1 ≤ limit then none else some (.tooDeep limit)
  | .typeName seed =>
    if typeNameRule.accepts seed then none else some (.unusableName ⟨seed, .type⟩)
  | .memberName seed =>
    if memberNameRule.accepts seed then none else some (.unusableName ⟨seed, .member⟩)

/-- The checks of the items of an array: the keys of the first item, if it is an object. -/
def sampleChecks : List Value → List Check
  | .object entries :: _ => entries.map fun entry => .memberName (.text entry.1)
  | _ => []

mutual

/-- The checks of a value at a level, in the order of the document. -/
def checks : Value → Value → Nat → List Check
  | .object entries, seed, level =>
    .depth level :: .typeName seed :: entryChecks entries (level + 1)
  | .array items, seed, level => .depth level :: .typeName seed :: sampleChecks items
  | _, seed, _ => [.memberName seed]

/-- The checks of the entries of an object at a level. -/
def entryChecks : List (Text × Value) → Nat → List Check
  | [], _ => []
  | (key, v) :: rest, level => checks v (.text key) level ++ entryChecks rest level

end

/-- The error of the first check that fails, if one does. -/
def firstFailure (settings : Settings) (list : List Check) : Option GenerateError :=
  list.findSome? (Check.failure? settings)

@[simp]
theorem firstFailure_nil
    (settings : Settings) :
    firstFailure settings [] = none :=
  rfl

@[simp]
theorem firstFailure_cons
    (settings : Settings) (check : Check) (list : List Check) :
    firstFailure settings (check :: list) =
      (check.failure? settings).or (firstFailure settings list) := by
  rw [firstFailure, List.findSome?_cons]
  cases check.failure? settings <;> rfl

@[simp]
theorem firstFailure_append
    (settings : Settings) (list more : List Check) :
    firstFailure settings (list ++ more) =
      (firstFailure settings list).or (firstFailure settings more) :=
  List.findSome?_append

/-! ## The errors of the parts -/

theorem failure?_descend
    (settings : Settings) (level : Nat) :
    failure? (descend settings level) = (Check.depth level).failure? settings := by
  simp only [descend, Check.failure?]
  cases settings.maxDepth with
  | none =>
      rfl
  | some limit =>
      by_cases within : level + 1 ≤ limit
      · simp [within, failure?, Nat.not_lt.mpr within]
      · simp [within, failure?, Nat.lt_of_not_le within]

theorem failure?_typeName
    (settings : Settings) (seed : Value) :
    failure? (named typeNameRule seed) = (Check.typeName seed).failure? settings :=
  failure?_named typeNameRule seed

theorem failure?_member
    (settings : Settings) (declaredType : Text) (seed : Value) :
    failure? (member declaredType seed) = (Check.memberName seed).failure? settings := by
  rw [member, failure?_bind_ok]
  exact failure?_named memberNameRule seed

theorem failure?_openLines
    (settings : Settings) (seed : Value) (level : Nat) :
    failure? (openLines settings seed level) =
      firstFailure settings [.depth level, .typeName seed] := by
  rw [openLines, failure?_bind_bind_ok, failure?_descend, failure?_typeName settings]
  simp

theorem failure?_itemMembers
    (settings : Settings) (entries : List (Text × Value)) :
    failure? (itemMembers settings.types entries) =
      firstFailure settings (entries.map fun entry => .memberName (.text entry.1)) := by
  induction entries with
  | nil =>
      rfl
  | cons entry rest induction =>
      rcases entry with ⟨key, v⟩
      rw [itemMembers, failure?_bind_bind_ok, failure?_member settings, induction]
      simp

theorem failure?_wrapperNamed
    (settings : Settings) (name : Text) (items : List Value) :
    failure? (wrapperNamed (pad settings) settings.types name items) =
      firstFailure settings (sampleChecks items) := by
  cases items with
  | nil =>
      rfl
  | cons sample rest =>
      cases sample with
      | object entries =>
          simp only [wrapperNamed, objectWrapper, member_itemsMember, ok_bind]
          rw [failure?_bind_ok, failure?_itemMembers]
          rfl
      | _ =>
          rfl

theorem failure?_wrapper
    (settings : Settings) (items : List Value) (seed : Value) :
    failure? (wrapper (pad settings) settings.types items seed) =
      firstFailure settings (.typeName seed :: sampleChecks items) := by
  rw [wrapper, failure?_bind _ _ fun name => failure?_wrapperNamed settings name items,
    failure?_typeName settings]
  simp

theorem failure?_flat
    (settings : Settings) (v seed : Value) (level : Nat)
    (notObject : ∀ entries, v ≠ .object entries) :
    failure? (flat settings v seed level) = firstFailure settings (checks v seed level) := by
  cases v with
  | object entries =>
      exact absurd rfl (notObject entries)
  | array items =>
      rw [flat, failure?_bind _ _ fun _ => failure?_wrapper settings items seed, failure?_descend]
      simp [checks]
  | _ =>
      simp only [flat]
      rw [failure?_bind_ok, failure?_member settings]
      simp [checks]

mutual

/-- The recursion that a walk unfolds to fails as the first of the checks that fails. -/
theorem failure?_declared
    (settings : Settings) (v seed : Value) (level : Nat) :
    failure? (declared settings v seed level) = firstFailure settings (checks v seed level) := by
  cases v with
  | object entries =>
      rw [declared, failure?_bind_bind_ok, failure?_openLines,
        failure?_declaredEntries settings entries]
      simp [checks, Option.or_assoc]
  | _ =>
      simp only [declared]
      rw [failure?_bind_ok]
      exact failure?_flat settings _ seed level (by simp)

theorem failure?_declaredEntries
    (settings : Settings) (entries : List (Text × Value)) (level : Nat) :
    failure? (declaredEntries settings entries level) =
      firstFailure settings (entryChecks entries level) := by
  cases entries with
  | nil =>
      rfl
  | cons entry rest =>
      rcases entry with ⟨key, v⟩
      rw [declaredEntries, failure?_bind_bind_ok, failure?_declared settings v,
        failure?_declaredEntries settings rest]
      simp [entryChecks]

end

/-! ## The error of a declaration -/

theorem failure?_generate
    (settings : Settings) (v seed : Value) :
    failure? (generate settings v seed) = firstFailure settings (checks v seed 0) := by
  rw [generate_eq_declared, failure?_bind_ok, failure?_declared]

/--
A declaration fails with the error of the first check that fails, and there is text exactly when
no check fails.
-/
theorem generate_eq_error_iff_firstFailure
    (settings : Settings) (v seed : Value) :
    (∀ error, generate settings v seed = .error error ↔
        ∃ before check after,
          checks v seed 0 = before ++ check :: after ∧
            check.failure? settings = some error ∧
            ∀ earlier ∈ before, earlier.failure? settings = none) ∧
      ((∃ text, generate settings v seed = .ok text) ↔
        ∀ check ∈ checks v seed 0, check.failure? settings = none) := by
  constructor
  · intro error
    rw [← failure?_eq_some_iff, failure?_generate, firstFailure, List.findSome?_eq_some_iff]
  · rw [← failure?_eq_none_iff, failure?_generate, firstFailure, List.findSome?_eq_none_iff]

/-- The depth of a class is checked before its name. -/
example :
    generate { maxDepth := some 1 } (.object [(" ", .array []), ("-", .null)]) (.text "Order") =
      .error (.tooDeep 1) := by
  rfl

end Shapewright.Declaration
