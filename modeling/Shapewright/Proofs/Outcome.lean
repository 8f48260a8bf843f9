/-!
# Outcomes

An outcome is a value or the error that stands in its place.  A chain of outcomes ends at its first
error, and this module states what that means for the value and for the error of the whole chain.
-/

namespace Shapewright.Outcome

variable {ε α β : Type}

/-- A chain goes on with the value of its first outcome. -/
@[simp]
theorem ok_bind
    (value : α) (next : α → Except ε β) :
    (Except.ok value >>= next) = next value :=
  rfl

/-- A chain ends with the error of its first outcome. -/
@[simp]
theorem error_bind
    (error : ε) (next : α → Except ε β) :
    ((Except.error error : Except ε α) >>= next) = .error error :=
  rfl

/-- A chain has a value exactly when each of its outcomes has one. -/
theorem bind_eq_ok_iff
    {outcome : Except ε α} {next : α → Except ε β} {result : β} :
    (outcome >>= next) = .ok result ↔
      ∃ value, outcome = .ok value ∧ next value = .ok result := by
  cases outcome with
  | ok value =>
      simp
  | error error =>
      simp

/-- A chain that starts with a check has a value exactly when the check passes and the rest has
it. -/
theorem check_bind_eq_ok_iff
    {check : Except ε Unit} {next : Except ε β} {result : β} :
    (check >>= fun _ => next) = .ok result ↔ check = .ok () ∧ next = .ok result := by
  cases check with
  | ok value =>
      simp
  | error error =>
      simp

theorem map_eq_ok_iff
    {outcome : Except ε α} {change : α → β} {result : β} :
    outcome.map change = .ok result ↔ ∃ value, outcome = .ok value ∧ change value = result := by
  cases outcome <;> simp [Except.map]

/-- The error of an outcome, if there is one. -/
def failure? : Except ε α → Option ε
  | .ok _ => none
  | .error error => some error

theorem failure?_eq_some_iff
    {outcome : Except ε α} {error : ε} :
    failure? outcome = some error ↔ outcome = .error error := by
  cases outcome <;> simp [failure?]

theorem failure?_eq_none_iff
    {outcome : Except ε α} :
    failure? outcome = none ↔ ∃ value, outcome = .ok value := by
  cases outcome <;> simp [failure?]

/--
The error of a chain is the first one among the errors of its outcomes, provided that the error of
what comes later does not depend on the value it starts from.
-/
theorem failure?_bind
    (outcome : Except ε α) (next : α → Except ε β) {later : Option ε}
    (laterFailure : ∀ value, failure? (next value) = later) :
    failure? (outcome >>= next) = (failure? outcome).or later := by
  cases outcome with
  | ok value =>
      exact laterFailure value
  | error error =>
      rfl

/-- A value made from that of an outcome adds no error. -/
theorem failure?_bind_ok
    (outcome : Except ε α) (result : α → β) :
    failure? (outcome >>= fun value => .ok (result value)) = failure? outcome := by
  cases outcome <;> rfl

/-- A value made from those of two outcomes adds no error to theirs. -/
theorem failure?_bind_bind_ok
    {γ : Type} (outcome : Except ε α) (other : Except ε β) (result : α → β → γ) :
    failure? (outcome >>= fun value => other >>= fun further => .ok (result value further)) =
      (failure? outcome).or (failure? other) :=
  failure?_bind outcome _ fun value => failure?_bind_ok other (result value)

end Shapewright.Outcome
