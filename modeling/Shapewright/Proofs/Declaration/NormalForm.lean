import Shapewright.Proofs.Declaration.Skeleton

/-!
# Names as normal forms

A rule takes every seed of which it keeps something to a name, and it takes a name to itself.  So
the names of a rule are what the rule gives, and they are what it leaves alone.  What it gives
depends on the code points that it keeps and on nothing else of the seed.

A type name stays one with the suffix of item classes behind it, which goes through no rule.  So all
identifiers in the lines of a declaration are names: those of classes, of item classes and of
constructors by the rule for types, those of members by the rule for members.
-/

namespace Shapewright

namespace NameRule

/-! ## What a rule keeps -/

/-- The code points of a text that a rule keeps. -/
def keep (rule : NameRule) (t : Text) : Text := t.filter fun c => !rule.drops c

variable {rule : NameRule} {seed other name : Text}

theorem keep_eq_nil_iff :
    rule.keep seed = [] ↔ ∀ c ∈ seed, rule.drops c = true := by
  simp [keep, List.filter_eq_nil_iff]

theorem IsName.keep_eq
    (isName : rule.IsName name) :
    rule.keep name = name := by
  rw [keep, List.filter_eq_self]
  intro c member
  simp [isName.kept c member]

theorem normalize?_eq_none_iff :
    rule.normalize? seed = none ↔ ∀ c ∈ seed, rule.drops c = true := by
  rw [← keep_eq_nil_iff, normalize?, ← keep]
  cases rule.keep seed <;> simp

/-- Two seeds of which the same is kept have the same name. -/
theorem normalize?_eq_of_keep_eq
    (sameKeep : rule.keep seed = rule.keep other) :
    rule.normalize? seed = rule.normalize? other := by
  rw [normalize?, normalize?, ← keep, ← keep, sameKeep]

/-- A name ends in all that is kept of its seed. -/
theorem keep_suffix_of_normalize?
    (success : rule.normalize? seed = some name) :
    rule.keep seed <:+ name := by
  rw [normalize?, ← keep] at success
  cases keepEq : rule.keep seed with
  | nil =>
      exact List.nil_suffix
  | cons c rest =>
      rw [keepEq] at success
      cases success
      split
      · exact List.suffix_rfl
      · exact List.suffix_append _ _

/-! ## Names are left alone -/

theorem IsName.normalize?_eq
    (isName : rule.IsName name) :
    rule.normalize? name = some name := by
  rw [normalize?, ← keep, isName.keep_eq]
  cases name with
  | nil =>
      cases isName.letter
  | cons c rest =>
      have letter : c.isLetter = true := isName.letter
      simp [letter]

/-- A rule leaves a text alone exactly if it is a name of the rule. -/
theorem normalize?_eq_self_iff :
    rule.normalize? name = some name ↔ rule.IsName name :=
  ⟨normalize?_isName, IsName.normalize?_eq⟩

theorem IsName.append
    {more : Text}
    (isName : rule.IsName name)
    (moreKept : ∀ c ∈ more, rule.drops c = false) :
    rule.IsName (name ++ more) where
  letter := by
    cases name with
    | nil => cases isName.letter
    | cons c rest => exact isName.letter
  kept := by
    intro c member
    exact (List.mem_append.mp member).elim (isName.kept c) (moreKept c)

/-! ## Outcomes -/

theorem apply_text
    (rule : NameRule) (t : Text) :
    rule.apply (.text t) =
      match rule.normalize? t with
      | some found => .ok found
      | none => .error ⟨.text t, rule.role⟩ :=
  rfl

theorem apply_text_eq_ok_iff :
    rule.apply (.text seed) = .ok name ↔ rule.normalize? seed = some name := by
  rw [apply_text]
  cases rule.normalize? seed <;> simp

theorem apply_isName
    {value : Value}
    (success : rule.apply value = .ok name) :
    rule.IsName name := by
  cases value with
  | text t => exact normalize?_isName (apply_text_eq_ok_iff.mp success)
  | _ => cases success

/-- A seed has a name, or all of it is dropped, which is an error that carries the seed. -/
theorem apply_text_cases
    (rule : NameRule) (seed : Text) :
    ((∀ c ∈ seed, rule.drops c = true) ∧
        rule.apply (.text seed) = .error ⟨.text seed, rule.role⟩) ∨
      (¬ (∀ c ∈ seed, rule.drops c = true) ∧
        ∃ name, rule.apply (.text seed) = .ok name ∧ rule.IsName name ∧
          rule.keep seed <:+ name) := by
  rw [← normalize?_eq_none_iff]
  cases found : rule.normalize? seed with
  | none =>
      exact .inl ⟨rfl, by rw [apply_text, found]⟩
  | some name =>
      exact .inr ⟨by simp, name, apply_text_eq_ok_iff.mpr found, normalize?_isName found,
        keep_suffix_of_normalize? found⟩

/-- Seeds of which the same is kept have the same outcome, up to the seed that an error carries. -/
theorem apply_text_eq_of_keep_eq
    (sameKeep : rule.keep seed = rule.keep other) :
    (rule.apply (.text seed)).mapError UnusableName.role =
      (rule.apply (.text other)).mapError UnusableName.role := by
  rw [apply_text, apply_text, normalize?_eq_of_keep_eq sameKeep]
  cases rule.normalize? other <;> rfl

end NameRule

/-- The rule for type names drops spaces and what is invalid in a file name. -/
theorem typeNameRule_drops_iff
    (c : CodePoint) :
    typeNameRule.drops c = true ↔
      c = .char ' ' ∨ c.toNat < 32 ∨ c ∈ Text.ofString "\"<>|:*?\\/" := by
  simp [typeNameRule, CodePoint.isInvalidInFileName]

/-- The rule for member names drops spaces and hyphens. -/
theorem memberNameRule_drops_iff
    (c : CodePoint) :
    memberNameRule.drops c = true ↔ c = .char ' ' ∨ c = .char '-' := by
  simp [memberNameRule]

namespace Declaration

open Shapewright.Outcome

/-! ## Identifiers in lines -/

/-- The name of an item class, by the name of its wrapper class. -/
def itemName (name : typeNameRule.Name) : typeNameRule.Name :=
  ⟨name.text ++ itemTypeSuffix, name.isName.append (by decide)⟩

/-- The name of the collection member of a wrapper class. -/
def itemsName : memberNameRule.Name := ⟨itemsMember, by decide, by decide⟩

/-- The types that members are declared with: one for the kind of a value, or a collection of such
values or of items of a class. -/
inductive IsDeclaredType (types : TypeNames) : Text → Prop where
  | plain (kind : MemberKind) : IsDeclaredType types (types.typeOf kind)
  | collection (kind : MemberKind) :
      IsDeclaredType types (types.collectionOf (types.typeOf kind))
  | items (item : typeNameRule.Name) : IsDeclaredType types (types.collectionOf item.text)

/-- The texts of the lines of a declaration, with names for all identifiers in them. -/
inductive IsNamedLine (types : TypeNames) : Text → Prop where
  | empty : IsNamedLine types []
  | opening : IsNamedLine types "\x7b"
  | closing : IsNamedLine types "\x7d"
  | header (name : typeNameRule.Name) : IsNamedLine types (classText name.text)
  | constructor (name : typeNameRule.Name) :
      IsNamedLine types (Text.ofString "public " ++ name.text ++ Text.ofString "()")
  | newCollection (item : typeNameRule.Name) :
      IsNamedLine types
        (Text.ofString "Items = new " ++ types.collectionOf item.text ++ Text.ofString "();")
  | member {declaredType : Text} (name : memberNameRule.Name) :
      IsDeclaredType types declaredType →
        IsNamedLine types (memberText declaredType name.text)

/-- Lines in which all identifiers are names. -/
def AreNamed (types : TypeNames) (lines : List Line) : Prop :=
  ∀ line ∈ lines, IsNamedLine types line.text

variable {types : TypeNames}

theorem areNamed_append
    {lines more : List Line} :
    AreNamed types (lines ++ more) ↔ AreNamed types lines ∧ AreNamed types more :=
  List.forall_mem_append

theorem isNamedLine_member
    {declaredType : Text} (name : memberNameRule.Name) (level : Nat)
    (declared : IsDeclaredType types declaredType) :
    IsNamedLine types (outlineMember declaredType name.text level).text := by
  rw [← memberText_eq]
  exact .member name declared

theorem areNamed_class
    {body : List Line} (name : typeNameRule.Name) (level : Nat)
    (named : AreNamed types body) :
    AreNamed types (outlineClass name.text level body) := by
  intro line isLine
  simp only [outlineClass, List.mem_cons, List.mem_append, List.not_mem_nil, or_false] at isLine
  rcases isLine with rfl | rfl | inBody | rfl
  · exact .header name
  · exact .opening
  · exact named line inBody
  · exact .closing

theorem areNamed_members
    (level : Nat) (members : List (memberNameRule.Name × MemberKind)) :
    AreNamed types (memberLines types level members) := by
  intro line isLine
  rcases List.mem_map.mp isLine with ⟨⟨name, kind⟩, _, rfl⟩
  exact isNamedLine_member name level (.plain kind)

theorem areNamed_collection
    (name : typeNameRule.Name) (level : Nat) :
    AreNamed types
      (collectionLines name.text (types.collectionOf (itemName name).text) level) := by
  intro line isLine
  simp only [collectionLines, List.mem_cons, List.not_mem_nil, or_false] at isLine
  rcases isLine with rfl | rfl | rfl | rfl | rfl | rfl | rfl
  · exact .constructor name
  · exact .opening
  · exact .newCollection (itemName name)
  · exact .closing
  · exact .empty
  · exact isNamedLine_member itemsName level (.items (itemName name))
  · exact .empty

theorem areNamed_sample
    (name : typeNameRule.Name) (level : Nat) (sample : Sample) :
    AreNamed types (sampleLines types name.text level sample) := by
  cases sample with
  | scalar kind =>
      intro line isLine
      rw [sampleLines, List.mem_singleton] at isLine
      rw [isLine]
      exact isNamedLine_member itemsName level (.collection kind)
  | object members =>
      exact areNamed_append.mpr
        ⟨areNamed_collection name level,
          areNamed_class (itemName name) level (areNamed_members (level + 1) members)⟩

mutual

/-- All identifiers in the lines of a skeleton are names. -/
theorem areNamed_skeletonLines
    (level : Nat) (skeleton : Skeleton) :
    AreNamed types (skeletonLines types level skeleton) := by
  cases skeleton with
  | member name kind =>
      intro line isLine
      rw [skeletonLines, List.mem_singleton] at isLine
      rw [isLine]
      exact isNamedLine_member name level (.plain kind)
  | object name entries =>
      exact areNamed_class name level (areNamed_skeletonsLines (level + 1) entries)
  | array name sample =>
      exact areNamed_class name level (areNamed_sample name (level + 1) sample)

theorem areNamed_skeletonsLines
    (level : Nat) (skeletons : List Skeleton) :
    AreNamed types (skeletonsLines types level skeletons) := by
  cases skeletons with
  | nil =>
      intro line isLine
      cases isLine
  | cons skeleton rest =>
      exact areNamed_append.mpr
        ⟨areNamed_skeletonLines level skeleton, areNamed_skeletonsLines level rest⟩

end

/-- Generated text consists of lines in which all identifiers are names. -/
theorem exists_areNamed_of_generate
    {settings : Settings} {v seed : Value} {text : Text}
    (success : generate settings v seed = .ok text) :
    ∃ lines, outline settings.types v seed 0 = some lines ∧
      text = Line.renderAll settings.indent lines ∧ AreNamed settings.types lines := by
  rcases Option.map_eq_some_iff.mp (outline_map_renderAll success) with ⟨lines, outlined, rendered⟩
  refine ⟨lines, outlined, rendered.symm, ?_⟩
  rw [outline_eq_skeleton?] at outlined
  rcases Option.map_eq_some_iff.mp outlined with ⟨skeleton, _, rfl⟩
  exact areNamed_skeletonLines 0 skeleton

/-! ## Rules as projections -/

/-- A rule is a projection onto its names.

It refuses a text exactly if it drops all of it.  Otherwise it gives a name, which starts with a
letter, holds nothing that is dropped, and ends in all that is kept of the text.  It leaves a text
alone exactly if that is a name, and these texts are all that it gives.  Putting in or leaving out
what is dropped changes nothing but the seed in an error.  The rule for types drops spaces and what
is invalid in a file name, the rule for members spaces and hyphens.

A type name with the suffix of item classes is left alone, too; and all identifiers in generated
code are names of their rules. -/
theorem apply_projects :
    (∀ (rule : NameRule) (seed : Text),
        ((∀ c ∈ seed, rule.drops c = true) ∧
            rule.apply (.text seed) = .error ⟨.text seed, rule.role⟩) ∨
          (¬ (∀ c ∈ seed, rule.drops c = true) ∧
            ∃ name, rule.apply (.text seed) = .ok name ∧ rule.IsName name ∧
              rule.keep seed <:+ name)) ∧
      (∀ (rule : NameRule) (t : Text), rule.apply (.text t) = .ok t ↔ rule.IsName t) ∧
      (∀ (rule : NameRule) (name : Text),
        (∃ seed, rule.apply (.text seed) = .ok name) ↔ rule.apply (.text name) = .ok name) ∧
      (∀ (rule : NameRule) (seed other : Text), rule.keep seed = rule.keep other →
        (rule.apply (.text seed)).mapError UnusableName.role =
          (rule.apply (.text other)).mapError UnusableName.role) ∧
      (∀ c, typeNameRule.drops c = true ↔
        c = .char ' ' ∨ c.toNat < 32 ∨ c ∈ Text.ofString "\"<>|:*?\\/") ∧
      (∀ c, memberNameRule.drops c = true ↔ c = .char ' ' ∨ c = .char '-') ∧
      (∀ (seed : Value) (name : Text), typeNameRule.apply seed = .ok name →
        typeNameRule.apply (.text (name ++ itemTypeSuffix)) = .ok (name ++ itemTypeSuffix)) ∧
      ∀ (settings : Settings) (v seed : Value) (text : Text),
        generate settings v seed = .ok text →
          ∃ lines, outline settings.types v seed 0 = some lines ∧
            text = Line.renderAll settings.indent lines ∧ AreNamed settings.types lines := by
  have leavesAlone : ∀ (rule : NameRule) (t : Text),
      rule.apply (.text t) = .ok t ↔ rule.IsName t := by
    intro rule t
    rw [NameRule.apply_text_eq_ok_iff, NameRule.normalize?_eq_self_iff]
  refine ⟨NameRule.apply_text_cases, leavesAlone, ?_, ?_, typeNameRule_drops_iff,
    memberNameRule_drops_iff, ?_, ?_⟩
  · intro rule name
    constructor
    · rintro ⟨seed, success⟩
      exact (leavesAlone rule name).mpr (NameRule.apply_isName success)
    · intro fixed
      exact ⟨name, fixed⟩
  · intro rule seed other
    exact NameRule.apply_text_eq_of_keep_eq
  · intro seed name success
    exact (leavesAlone typeNameRule _).mpr
      (itemName ⟨name, NameRule.apply_isName success⟩).isName
  · intro settings v seed text
    exact exists_areNamed_of_generate

end Declaration

end Shapewright
