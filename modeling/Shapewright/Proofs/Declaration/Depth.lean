import Mathlib.Data.List.TakeWhile
import Shapewright.Proofs.Declaration.Checks
import Shapewright.Proofs.Declaration.Nesting

/-!
# The limit on the nesting

A document nests as deep as its objects lie in each other, with an array for one level more.  A
limit that is not exceeded makes no difference to its declaration.  One that is exceeded lets no
declaration pass: it is reported, unless a seed without a name comes first in the document.

The checks of a document carry both statements.  Up to the first class that is too deep, a limit
changes none of them, and that class is there exactly if the document nests too deep.
-/

namespace Shapewright

open Shapewright.Outcome

/-- Settings with another limit on the nesting. -/
def Settings.withMaxDepth (settings : Settings) (maxDepth : Option Nat) : Settings :=
  { settings with maxDepth }

mutual

/-- How deep the objects and arrays of a value are nested; what an array holds does not count. -/
def Value.compositeDepth : Value → Nat
  | .object entries => entriesDepth entries + 1
  | .array _ => 1
  | _ => 0

/-- How deep the objects and arrays are nested in the entries of an object. -/
def Value.entriesDepth : List (Text × Value) → Nat
  | [] => 0
  | (_, v) :: rest => max v.compositeDepth (entriesDepth rest)

end

namespace Declaration

/-! ## Checks under a limit -/

/-- Whether a check stays within a limit: it opens no class that is too deep. -/
def Check.isWithin (limit : Nat) : Check → Bool
  | .depth level => level + 1 ≤ limit
  | _ => true

/-- The checks of a value before the first class that is too deep. -/
def checksWithin (limit : Nat) (v seed : Value) : List Check :=
  (checks v seed 0).takeWhile (Check.isWithin limit)

theorem Check.failure?_of_isWithin
    {check : Check} {limit : Nat}
    (settings : Settings)
    (within : check.isWithin limit = true) :
    check.failure? (settings.withMaxDepth (some limit)) =
      check.failure? (settings.withMaxDepth none) := by
  cases check with
  | depth level =>
      exact if_pos (of_decide_eq_true within)
  | typeName seed | memberName seed =>
      rfl

theorem Check.failure?_of_not_isWithin
    {check : Check} {limit : Nat}
    (settings : Settings)
    (beyond : check.isWithin limit = false) :
    check.failure? (settings.withMaxDepth (some limit)) = some (.tooDeep limit) := by
  cases check with
  | depth level =>
      exact if_neg (of_decide_eq_false beyond)
  | typeName seed | memberName seed =>
      cases beyond

/-- Without a limit, only names are at fault. -/
theorem Check.eq_unusableName_of_failure?
    {settings : Settings} {check : Check} {error : GenerateError}
    (failed : check.failure? (settings.withMaxDepth none) = some error) :
    ∃ name, error = .unusableName name := by
  cases check with
  | depth level =>
      cases failed
  | typeName seed | memberName seed =>
      simp only [Check.failure?] at failed
      split at failed
      · cases failed
      · exact ⟨_, (Option.some.inj failed).symm⟩

theorem eq_unusableName_of_firstFailure
    {settings : Settings} {list : List Check} {error : GenerateError}
    (failed : firstFailure (settings.withMaxDepth none) list = some error) :
    ∃ name, error = .unusableName name := by
  rcases List.exists_of_findSome?_eq_some failed with ⟨check, _, checkFailed⟩
  exact check.eq_unusableName_of_failure? checkFailed

/-- Under a limit, checks fail as they do without one up to the first class that is too deep. -/
theorem firstFailure_withMaxDepth
    (settings : Settings) (limit : Nat) (list : List Check) :
    firstFailure (settings.withMaxDepth (some limit)) list =
      (firstFailure (settings.withMaxDepth none) (list.takeWhile (Check.isWithin limit))).or
        (if list.all (Check.isWithin limit) then none else some (.tooDeep limit)) := by
  induction list with
  | nil =>
      rfl
  | cons check rest induction =>
      cases within : check.isWithin limit with
      | true =>
          rw [List.takeWhile_cons_of_pos within, firstFailure_cons, firstFailure_cons, induction,
            check.failure?_of_isWithin settings within, Option.or_assoc, List.all_cons, within,
            Bool.true_and]
      | false =>
          rw [List.takeWhile_cons_of_neg (by simp [within]), firstFailure_cons,
            check.failure?_of_not_isWithin settings within]
          simp [within]

mutual

/-- All classes of a value are within a limit exactly if the value is not nested too deep. -/
theorem all_isWithin_checks_iff
    (limit : Nat) (v seed : Value) (level : Nat) :
    (checks v seed level).all (Check.isWithin limit) = true ↔
      v.compositeDepth = 0 ∨ level + v.compositeDepth ≤ limit := by
  cases v with
  | object entries =>
      have entriesIff := all_isWithin_entryChecks_iff limit entries (level + 1)
      simp only [checks, List.all_cons, Check.isWithin, Bool.and_eq_true, Bool.true_and,
        entriesIff, Value.compositeDepth, decide_eq_true_eq]
      omega
  | array items =>
      have sampleWithin : (sampleChecks items).all (Check.isWithin limit) = true := by
        unfold sampleChecks
        split <;> simp [Check.isWithin]
      simp [checks, Check.isWithin, sampleWithin, Value.compositeDepth]
  | _ =>
      simp [checks, Check.isWithin, Value.compositeDepth]

theorem all_isWithin_entryChecks_iff
    (limit : Nat) (entries : List (Text × Value)) (level : Nat) :
    (entryChecks entries level).all (Check.isWithin limit) = true ↔
      Value.entriesDepth entries = 0 ∨ level + Value.entriesDepth entries ≤ limit := by
  cases entries with
  | nil =>
      simp [entryChecks, Value.entriesDepth]
  | cons entry rest =>
      rcases entry with ⟨key, v⟩
      have firstIff := all_isWithin_checks_iff limit v (.text key) level
      have restIff := all_isWithin_entryChecks_iff limit rest level
      simp only [entryChecks, List.all_append, Bool.and_eq_true, firstIff, restIff,
        Value.entriesDepth]
      omega

end

/-! ## Declarations under a limit -/

/-- Under settings that render alike, a value whose checks fail alike has one declaration. -/
theorem generate_eq_of_firstFailure_eq
    {settings other : Settings} {v seed : Value}
    (sameIndent : settings.indent = other.indent)
    (sameTypes : settings.types = other.types)
    (sameFailure :
      firstFailure settings (checks v seed 0) = firstFailure other (checks v seed 0)) :
    generate settings v seed = generate other v seed := by
  rw [← failure?_generate, ← failure?_generate] at sameFailure
  cases generated : generate settings v seed with
  | error error =>
      rw [generated] at sameFailure
      exact (failure?_eq_some_iff.mp sameFailure.symm).symm
  | ok text =>
      rw [generated] at sameFailure
      rcases failure?_eq_none_iff.mp sameFailure.symm with ⟨otherText, otherGenerated⟩
      have outlined := outline_map_renderAll generated
      have otherOutlined := outline_map_renderAll otherGenerated
      rw [sameIndent, sameTypes, otherOutlined] at outlined
      rw [otherGenerated, Option.some.inj outlined]

/-- A limit that is not exceeded makes no difference. -/
theorem generate_withMaxDepth_of_le
    {limit : Nat} {v : Value}
    (settings : Settings) (seed : Value)
    (shallow : v.compositeDepth ≤ limit) :
    generate (settings.withMaxDepth (some limit)) v seed =
      generate (settings.withMaxDepth none) v seed := by
  have within : (checks v seed 0).all (Check.isWithin limit) = true :=
    (all_isWithin_checks_iff limit v seed 0).mpr (by omega)
  have whole : (checks v seed 0).takeWhile (Check.isWithin limit) = checks v seed 0 :=
    List.takeWhile_eq_self_iff.mpr (List.all_eq_true.mp within)
  refine generate_eq_of_firstFailure_eq rfl rfl ?_
  rw [firstFailure_withMaxDepth, within, whole, if_pos rfl, Option.or_none]

/-- A limit that is exceeded is reported, unless a seed without a name comes first. -/
theorem generate_withMaxDepth_of_lt
    {limit : Nat} {v : Value}
    (settings : Settings) (seed : Value)
    (deep : limit < v.compositeDepth) :
    generate (settings.withMaxDepth (some limit)) v seed =
      .error ((firstFailure (settings.withMaxDepth none) (checksWithin limit v seed)).getD
        (.tooDeep limit)) := by
  have beyond : ¬ (checks v seed 0).all (Check.isWithin limit) = true := by
    rw [all_isWithin_checks_iff]
    omega
  rw [← failure?_eq_some_iff, failure?_generate, firstFailure_withMaxDepth, if_neg beyond,
    checksWithin]
  cases firstFailure (settings.withMaxDepth none)
    ((checks v seed 0).takeWhile (Check.isWithin limit)) <;> rfl

/-- What fails before the first class that is too deep fails without a limit, too. -/
theorem generate_of_firstFailure_checksWithin
    {settings : Settings} {limit : Nat} {v seed : Value} {error : GenerateError}
    (failed :
      firstFailure (settings.withMaxDepth none) (checksWithin limit v seed) = some error) :
    generate (settings.withMaxDepth none) v seed = .error error := by
  rw [← failure?_eq_some_iff, failure?_generate,
    ← List.takeWhile_append_dropWhile (p := Check.isWithin limit) (l := checks v seed 0),
    firstFailure_append]
  change (firstFailure _ (checksWithin limit v seed)).or _ = some error
  rw [failed, Option.some_or]

theorem compositeDepth_le_of_generate
    {settings : Settings} {limit : Nat} {v seed : Value} {text : Text}
    (success : generate (settings.withMaxDepth (some limit)) v seed = .ok text) :
    v.compositeDepth ≤ limit := by
  rcases Nat.lt_or_ge limit v.compositeDepth with deep | shallow
  · rw [generate_withMaxDepth_of_lt settings seed deep] at success
    cases success
  · exact shallow

/-! ## Classes under a limit -/

/-- Whether a class keeps within a limit; the class of items may be one level deeper. -/
def NestedClass.KeepsLimit (limit : Nat) (nested : NestedClass) : Prop :=
  nested.around + 1 ≤ limit ∨ nested.role = .item ∧ nested.around + 1 = limit + 1

theorem sampleClasses_keepLimit
    {limit around : Nat} {name : Text}
    (sample : Sample)
    (within : around ≤ limit) :
    ∀ nested ∈ sampleClasses name around sample, nested.KeepsLimit limit := by
  cases sample with
  | scalar kind =>
      simp [sampleClasses]
  | object members =>
      simp only [sampleClasses, List.forall_mem_singleton, NestedClass.KeepsLimit, true_and]
      omega

mutual

/-- The classes of a value that is not nested too deep keep within the limit. -/
theorem nestedClasses_keepLimit
    {limit around : Nat} {skeleton : Skeleton}
    (v seed : Value)
    (found : skeleton? v seed = some skeleton)
    (shallow : v.compositeDepth = 0 ∨ around + v.compositeDepth ≤ limit) :
    ∀ nested ∈ nestedClasses around skeleton, nested.KeepsLimit limit := by
  cases v with
  | object entries =>
      simp only [skeleton?, Option.bind_eq_bind, Option.bind_eq_some_iff] at found
      rcases found with ⟨name, _, skeletons, foundEntries, equal⟩
      cases equal
      rw [Value.compositeDepth] at shallow
      rw [nestedClasses, List.forall_mem_cons]
      exact ⟨Or.inl (by simp only; omega),
        allNestedClasses_keepLimit entries foundEntries (by omega)⟩
  | array items =>
      simp only [skeleton?, Option.bind_eq_bind, Option.bind_eq_some_iff] at found
      rcases found with ⟨name, _, sample, _, equal⟩
      cases equal
      rw [Value.compositeDepth] at shallow
      rw [nestedClasses, List.forall_mem_cons]
      exact ⟨Or.inl (by simp only; omega), sampleClasses_keepLimit sample (by omega)⟩
  | _ =>
      simp only [skeleton?, Option.bind_eq_bind, Option.bind_eq_some_iff] at found
      rcases found with ⟨name, _, equal⟩
      cases equal
      simp [nestedClasses]

theorem allNestedClasses_keepLimit
    {limit around : Nat} {skeletons : List Skeleton}
    (entries : List (Text × Value))
    (found : entrySkeletons? entries = some skeletons)
    (shallow : Value.entriesDepth entries = 0 ∨ around + Value.entriesDepth entries ≤ limit) :
    ∀ nested ∈ allNestedClasses around skeletons, nested.KeepsLimit limit := by
  cases entries with
  | nil =>
      cases found
      simp [allNestedClasses]
  | cons entry rest =>
      rcases entry with ⟨key, v⟩
      simp only [entrySkeletons?, Option.bind_eq_bind, Option.bind_eq_some_iff] at found
      rcases found with ⟨skeleton, foundFirst, more, foundRest, equal⟩
      cases equal
      rw [Value.entriesDepth] at shallow
      rw [allNestedClasses, List.forall_mem_append]
      exact ⟨nestedClasses_keepLimit v (.text key) foundFirst (by omega),
        allNestedClasses_keepLimit rest foundRest (by omega)⟩

end

/-! ## The limit -/

/--
The limit on the nesting is exact and makes no other difference.  A value that is nested as deep as
the limit or less has the declaration, or the error, that it has without a limit.  One that is
nested deeper has the error of the limit, or that of a seed without a name that comes before the
first class that is too deep, and this error it has without a limit, too.  So a declaration under a
limit is the one under any larger limit and under none, and the classes that are opened in it are
not nested deeper than the limit, but for those of the items of arrays, which may be one level
deeper.
-/
theorem generate_withMaxDepth
    (settings : Settings) (limit : Nat) (v seed : Value) :
    (v.compositeDepth ≤ limit →
        generate (settings.withMaxDepth (some limit)) v seed =
          generate (settings.withMaxDepth none) v seed) ∧
      (limit < v.compositeDepth →
        (∀ error,
          firstFailure (settings.withMaxDepth none) (checksWithin limit v seed) = some error →
            generate (settings.withMaxDepth (some limit)) v seed = .error error ∧
              generate (settings.withMaxDepth none) v seed = .error error) ∧
          (firstFailure (settings.withMaxDepth none) (checksWithin limit v seed) = none →
            generate (settings.withMaxDepth (some limit)) v seed = .error (.tooDeep limit))) ∧
      (∀ error, generate (settings.withMaxDepth none) v seed = .error error →
        ∃ name, error = .unusableName name) ∧
      ∀ text, generate (settings.withMaxDepth (some limit)) v seed = .ok text →
        generate (settings.withMaxDepth none) v seed = .ok text ∧
          (∀ larger, limit ≤ larger →
            generate (settings.withMaxDepth (some larger)) v seed = .ok text) ∧
          ∃ skeleton, skeleton? v seed = some skeleton ∧
            text = Line.renderAll settings.indent (skeletonLines settings.types 0 skeleton) ∧
            openedClasses (skeletonLines settings.types 0 skeleton) =
              (nestedClasses 0 skeleton).map NestedClass.header ∧
            ∀ nested ∈ nestedClasses 0 skeleton, nested.KeepsLimit limit := by
  refine ⟨generate_withMaxDepth_of_le settings seed, ?_, ?_, ?_⟩
  · intro deep
    rw [generate_withMaxDepth_of_lt settings seed deep]
    constructor
    · intro error failed
      exact ⟨by rw [failed, Option.getD_some], generate_of_firstFailure_checksWithin failed⟩
    · intro passed
      rw [passed, Option.getD_none]
  · intro error failed
    rw [← failure?_eq_some_iff, failure?_generate] at failed
    exact eq_unusableName_of_firstFailure failed
  · intro text success
    have shallow := compositeDepth_le_of_generate success
    have unlimited := generate_withMaxDepth_of_le settings seed shallow
    rw [success] at unlimited
    refine ⟨unlimited.symm, ?_, ?_⟩
    · intro larger larger_le
      rw [generate_withMaxDepth_of_le settings seed (Nat.le_trans shallow larger_le), ← unlimited]
    · have outlined := outline_map_renderAll success
      rw [outline_eq_skeleton?, Option.map_map, Option.map_eq_some_iff] at outlined
      rcases outlined with ⟨skeleton, found, textEq⟩
      exact ⟨skeleton, found, textEq.symm, openedClasses_skeletonLines settings.types 0 skeleton,
        nestedClasses_keepLimit v seed found (by omega)⟩

/-- An array may stand at the limit whatever it holds, and an object may not stand below it. -/
example :
    (generate { maxDepth := some 2 }
        (.object [("rows", .array [.object [("sku", .object [])]])]) (.text "Order")).isOk = true ∧
      generate { maxDepth := some 2 }
          (.object [("ship", .object [("to", .object [])])]) (.text "Order") =
        .error (.tooDeep 2) :=
  ⟨rfl, rfl⟩

end Declaration

end Shapewright
