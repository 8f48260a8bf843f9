import Shapewright.Proofs.Outcome
import Shapewright.Yaml.Error

/-!
# Failures apart

Most of what goes wrong with a text makes it malformed.  This module tells the other failures apart
and follows them through chains of outcomes.
-/

namespace Shapewright.Yaml

open Shapewright.Outcome

variable {α β : Type}

/-- Whether an outcome fails, and other than by being malformed. -/
def IsApart (outcome : Except Error α) : Prop :=
  ∃ error, outcome = .error error ∧ error ≠ .malformed

@[simp]
theorem not_isApart_ok
    (a : α) :
    ¬IsApart (.ok a : Except Error α) := by
  rintro ⟨_, impossible, _⟩
  cases impossible

@[simp]
theorem isApart_error
    {error : Error} :
    IsApart (.error error : Except Error α) ↔ error ≠ .malformed := by
  simp [IsApart]

@[simp]
theorem isApart_map
    {outcome : Except Error α} {change : α → β} :
    IsApart (outcome.map change) ↔ IsApart outcome := by
  cases outcome <;> simp [Except.map]

theorem eq_malformed_of_not_isApart
    {outcome : Except Error α} {error : Error}
    (regular : ¬IsApart outcome)
    (failed : outcome = .error error) :
    error = .malformed := by
  subst failed
  simpa using regular

/-- A chain does not fail apart if none of its outcomes does. -/
theorem not_isApart_bind
    {outcome : Except Error α} {next : α → Except Error β}
    (first : ¬IsApart outcome)
    (second : ∀ a, ¬IsApart (next a)) :
    ¬IsApart (outcome >>= next) := by
  cases outcome with
  | ok a => exact second a
  | error error => simpa using first

end Shapewright.Yaml
