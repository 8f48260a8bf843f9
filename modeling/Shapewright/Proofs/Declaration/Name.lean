import Shapewright.Declaration.Generate
import Shapewright.Proofs.Outcome

/-!
# Names that a rule gives

A rule finds a name in a seed exactly when the seed is a text of which the rule keeps something.
What it gives is always a name in the sense of the rule: it starts with a letter, and it holds
nothing that the rule drops.
-/

namespace Shapewright

open Shapewright.Outcome

namespace NameRule

/-! ## Seeds -/

/-- Whether a seed has a name: it is a text, and the rule keeps some of it. -/
def accepts (rule : NameRule) : Value → Bool
  | .text t => t.any (fun c => !rule.drops c)
  | _ => false

/-- The name of a seed, if there is one. -/
def name? (rule : NameRule) : Value → Option Text
  | .text t => rule.normalize? t
  | _ => none

theorem normalize?_isSome
    (rule : NameRule) (t : Text) :
    (rule.normalize? t).isSome = t.any (fun c => !rule.drops c) := by
  simp only [normalize?]
  rw [Bool.eq_iff_iff, List.any_eq_true]
  cases filtered : t.filter (fun c => !rule.drops c) with
  | nil =>
      simpa using filtered
  | cons c rest =>
      have member : c ∈ t.filter (fun c => !rule.drops c) := by
        simp [filtered]
      have kept := List.mem_filter.mp member
      simpa using ⟨c, kept.1, by simpa using kept.2⟩

theorem name?_isSome
    (rule : NameRule) (seed : Value) :
    (rule.name? seed).isSome = rule.accepts seed := by
  cases seed with
  | text t =>
      exact rule.normalize?_isSome t
  | _ =>
      rfl

/-! ## Names -/

/-- A text is a name of a rule if it starts with a letter and holds nothing that the rule drops. -/
structure IsName (rule : NameRule) (t : Text) : Prop where
  letter : t.head?.any CodePoint.isLetter = true
  kept : ∀ c ∈ t, rule.drops c = false

theorem normalize?_isName
    {rule : NameRule} {seed name : Text}
    (success : rule.normalize? seed = some name) :
    rule.IsName name := by
  simp only [normalize?] at success
  cases filtered : seed.filter (fun c => !rule.drops c) with
  | nil =>
      rw [filtered] at success
      cases success
  | cons c rest =>
      rw [filtered] at success
      have restKept : ∀ d ∈ c :: rest, rule.drops d = false := by
        intro d member
        rw [← filtered, List.mem_filter] at member
        simpa using member.2
      have leadKept : ∀ d ∈ rule.lead, rule.drops d = false := by
        simpa using rule.lead_kept
      by_cases isLetter : c.isLetter = true
      · simp only [isLetter, ↓reduceIte, Option.some.injEq] at success
        rw [← success]
        exact ⟨isLetter, restKept⟩
      · simp only [isLetter, Bool.false_eq_true, ↓reduceIte, Option.some.injEq] at success
        rw [← success]
        refine ⟨?_, ?_⟩
        · have leadLetter := rule.lead_letter
          cases leadEq : rule.lead with
          | nil =>
              simp [leadEq] at leadLetter
          | cons first others =>
              simpa [leadEq] using leadLetter
        · intro d member
          exact (List.mem_append.mp member).elim (leadKept d) (restKept d)

theorem name?_isName
    {rule : NameRule} {seed : Value} {name : Text}
    (success : rule.name? seed = some name) :
    rule.IsName name := by
  cases seed with
  | text t =>
      exact normalize?_isName success
  | _ =>
      cases success

/-- A text that is a name of a rule. -/
@[ext]
structure Name (rule : NameRule) where
  text : Text
  isName : rule.IsName text
deriving DecidableEq

/-- What a rule drops is in none of its names. -/
theorem Name.notMem_of_drops
    {rule : NameRule} {c : CodePoint}
    (name : rule.Name)
    (dropped : rule.drops c = true) :
    c ∉ name.text := by
  intro member
  have kept := name.isName.kept c member
  rw [dropped] at kept
  cases kept

/-- The name of a seed, with what makes it a name. -/
def nameOf? (rule : NameRule) (seed : Value) : Option rule.Name :=
  (rule.name? seed).pmap Name.mk fun _ success => name?_isName success

@[simp]
theorem nameOf?_map_text
    (rule : NameRule) (seed : Value) :
    (rule.nameOf? seed).map Name.text = rule.name? seed := by
  simp [nameOf?, Option.map_pmap]

end NameRule

namespace Declaration

/-! ## The names of a declaration -/

theorem named_eq
    (rule : NameRule) (seed : Value) :
    named rule seed =
      match rule.name? seed with
      | some name => .ok name
      | none => .error (.unusableName ⟨seed, rule.role⟩) := by
  cases seed with
  | text t =>
      simp only [named, NameRule.apply, NameRule.name?]
      cases rule.normalize? t <;> rfl
  | _ =>
      rfl

theorem named_eq_ok_iff
    {rule : NameRule} {seed : Value} {name : Text} :
    named rule seed = .ok name ↔ rule.name? seed = some name := by
  rw [named_eq]
  cases rule.name? seed <;> simp

/-- A seed without a name is an error that carries the seed and the role of the rule. -/
theorem failure?_named
    (rule : NameRule) (seed : Value) :
    failure? (named rule seed) =
      if rule.accepts seed then none else some (.unusableName ⟨seed, rule.role⟩) := by
  rw [named_eq, ← rule.name?_isSome]
  cases rule.name? seed <;> rfl

theorem member_eq_ok_iff
    {declaredType text : Text} {seed : Value} :
    member declaredType seed = .ok text ↔
      ∃ name, memberNameRule.name? seed = some name ∧ memberText declaredType name = text := by
  simp [member, bind_eq_ok_iff, named_eq_ok_iff]

/-- The collection member of a wrapper class always has its name. -/
@[simp]
theorem member_itemsMember
    (declaredType : Text) :
    member declaredType (.text itemsMember) = .ok (memberText declaredType itemsMember) :=
  rfl

end Declaration

end Shapewright
