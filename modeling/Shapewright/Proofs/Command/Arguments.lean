import Shapewright.Command.Arguments
import Shapewright.Proofs.Outcome

/-!
# The choices of a command line

A command is given only such choices as its options can make, however these are spelled and wherever
they stand.
-/

namespace Shapewright.Command

open Shapewright.Outcome

/-- The choices that an option can make. -/
def OptionForm.Makes : OptionForm → Choice → Prop
  | .value choose, choice => ∃ t, choose t = choice
  | .flag made, choice => made = choice

namespace Verb

/-- The choices that the options of a command can make. -/
def Offers (verb : Verb) (choice : Choice) : Prop :=
  ∃ option ∈ verb.options, option.2.Makes choice

theorem offers_of_option?
    {verb : Verb} {name : Text} {form : OptionForm} {choice : Choice}
    (found : verb.option? name = some form)
    (makes : form.Makes choice) :
    verb.Offers choice := by
  rcases Option.map_eq_some_iff.mp found with ⟨option, isFound, rfl⟩
  exact ⟨option, List.mem_of_find?_eq_some isFound, makes⟩

/-- Only the files of handlers go into a directory for output. -/
theorem not_offers_outDir
    {verb : Verb} {path : Text}
    (notGenerate : verb ≠ .generate) :
    ¬ verb.Offers (.outDir path) := by
  cases verb with
  | generate =>
      exact absurd rfl notGenerate
  | _ =>
      simp [Offers, options, OptionForm.Makes]

end Verb

namespace Arguments

theorem offers_of_map_choose
    {verb : Verb} {choice : Choice} {outcome : Except UsageError Arguments}
    {arguments : Arguments}
    (offered : verb.Offers choice)
    (others : ∀ {rest : Arguments}, outcome = .ok rest → ∀ c ∈ rest.choices, verb.Offers c)
    (success : outcome.map (choose choice) = .ok arguments) :
    ∀ c ∈ arguments.choices, verb.Offers c := by
  rcases map_eq_ok_iff.mp success with ⟨rest, isRead, rfl⟩
  exact List.forall_mem_cons.mpr ⟨offered, others isRead⟩

/-- The choices that are read for a command are offered by it. -/
theorem offers_of_read
    {verb : Verb} {line : List Text} {arguments : Arguments}
    (success : read verb line = .ok arguments) :
    ∀ choice ∈ arguments.choices, verb.Offers choice := by
  fun_induction read verb line generalizing arguments with
  | case1 | case2 =>
      cases success
      simp
  | case3 argument rest _ _ others =>
      rcases map_eq_ok_iff.mp success with ⟨more, isRead, rfl⟩
      have offered := others isRead
      exact offered
  | case4 | case5 | case8 =>
      cases success
  | case6 argument rest _ _ name choice isOption _ others =>
      exact offers_of_map_choose (Verb.offers_of_option? isOption rfl) others success
  | case7 argument rest _ _ name form value isOption _ others =>
      exact offers_of_map_choose (Verb.offers_of_option? isOption ⟨value, rfl⟩) others success
  | case9 argument _ _ name form isOption value rest _ others =>
      exact offers_of_map_choose (Verb.offers_of_option? isOption ⟨value, rfl⟩) others success

end Arguments

theorem Request.offers_of_ofWords
    {words : List Text} {verb : Verb} {arguments : Arguments}
    (success : ofWords words = .ok (.command verb arguments)) :
    ∀ choice ∈ arguments.choices, verb.Offers choice := by
  cases words with
  | nil =>
      cases success
  | cons name rest =>
      rw [ofWords] at success
      split at success
      next => cases success
      next found =>
        rcases map_eq_ok_iff.mp success with ⟨read, isRead, equal⟩
        cases equal
        exact Arguments.offers_of_read isRead

/-- A command line makes only such choices as the options of its command can make. -/
theorem Request.offers_of_read
    {line : List Text} {verb : Verb} {arguments : Arguments}
    (success : read line = .ok (.command verb arguments)) :
    ∀ choice ∈ arguments.choices, verb.Offers choice := by
  cases line with
  | nil =>
      cases success
  | cons first rest =>
      simp only [read] at success
      split at success
      · exact offers_of_ofWords success
      · split at success
        · cases success
        · split at success
          · cases success
          · exact offers_of_ofWords success

end Shapewright.Command
