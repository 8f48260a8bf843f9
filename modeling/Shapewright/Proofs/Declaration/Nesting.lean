import Shapewright.Proofs.Declaration.Skeleton

/-!
# Nested classes

The classes of a declaration, each with the number of classes around it.  A skeleton lists them: one
class for an object, one for an array, and one more inside of that for items that are objects.

In lines of code, a class is opened by a line for it, with a brace on the next one.  The classes
that are opened in the lines of a skeleton are the ones that the skeleton lists, each at the level
of the classes around it.
-/

namespace Shapewright.Declaration

/-! ## The classes of a skeleton -/

/-- What a class is declared for: an object, an array, or the items of an array. -/
inductive ClassRole where
  | object
  | wrapper
  | item
deriving DecidableEq

/-- A class within a declaration, and the number of classes around it. -/
structure NestedClass where
  role : ClassRole
  name : Text
  around : Nat

/-- The line that opens a class. -/
def NestedClass.header (nested : NestedClass) : Line :=
  ⟨nested.around, Text.ofString "public class " ++ nested.name⟩

/-- The class of the items of an array, inside of its wrapper class. -/
def sampleClasses (wrapperName : Text) (around : Nat) : Sample → List NestedClass
  | .scalar _ => []
  | .object _ => [⟨.item, wrapperName ++ Text.ofString "Item", around⟩]

mutual

/-- The classes of a skeleton within a number of classes, in the order of the declaration. -/
def nestedClasses (around : Nat) : Skeleton → List NestedClass
  | .member _ _ => []
  | .object name entries => ⟨.object, name.text, around⟩ :: allNestedClasses (around + 1) entries
  | .array name sample =>
    ⟨.wrapper, name.text, around⟩ :: sampleClasses name.text (around + 1) sample

/-- The classes of skeletons within a number of classes. -/
def allNestedClasses (around : Nat) : List Skeleton → List NestedClass
  | [] => []
  | skeleton :: rest => nestedClasses around skeleton ++ allNestedClasses around rest

end

/-! ## Opened classes -/

/-- The lines that open a class: what a line says starts as a class does, and a brace follows. -/
def openedClasses : List Line → List Line
  | line :: next :: rest =>
    if (Text.ofString "public class ").isPrefixOf line.text = true ∧ next.text = "\x7b" then
      line :: openedClasses (next :: rest)
    else openedClasses (next :: rest)
  | _ => []

/-- Whether a line says something else than an opening brace. -/
def IsNoBrace (line : Line) : Prop := line.text ≠ "\x7b"

theorem openedClasses_cons
    {next : Line}
    (line : Line) (rest : List Line)
    (noBrace : IsNoBrace next) :
    openedClasses (line :: next :: rest) = openedClasses (next :: rest) := by
  rw [openedClasses, if_neg fun both => noBrace both.2]

/-- Without a brace at its start, what stands behind lines does not matter for them. -/
theorem openedClasses_append
    {rest : List Line}
    (lines : List Line)
    (noBrace : ∀ line ∈ rest.head?, IsNoBrace line) :
    openedClasses (lines ++ rest) = openedClasses lines ++ openedClasses rest := by
  induction lines with
  | nil =>
      rfl
  | cons line more induction =>
      cases more with
      | nil =>
          cases rest with
          | nil =>
              rfl
          | cons next others =>
              exact openedClasses_cons line others (noBrace next rfl)
      | cons next others =>
          simp only [List.cons_append] at induction ⊢
          rw [openedClasses, openedClasses, induction]
          split <;> rfl

theorem openedClasses_eq_nil
    {lines : List Line}
    (noBrace : ∀ line ∈ lines, IsNoBrace line) :
    openedClasses lines = [] := by
  induction lines with
  | nil =>
      rfl
  | cons line rest induction =>
      rw [List.forall_mem_cons] at noBrace
      cases rest with
      | nil =>
          rfl
      | cons next others =>
          rw [openedClasses_cons line others (noBrace.2 next List.mem_cons_self)]
          exact induction noBrace.2

/-- An opening brace opens no class by itself. -/
theorem openedClasses_brace
    (level : Nat) (rest : List Line) :
    openedClasses (⟨level, "\x7b"⟩ :: rest) = openedClasses rest := by
  cases rest with
  | nil =>
      rfl
  | cons next others =>
      exact if_neg fun both => absurd both.1 (by simp [Text.ofString])

/-! ## The classes that are opened in lines -/

theorem isNoBrace_outlineMember
    (declaredType name : Text) (level : Nat) :
    IsNoBrace (outlineMember declaredType name level) := by
  simp [IsNoBrace, outlineMember, Text.ofString]

theorem isNoBrace_header
    (nested : NestedClass) :
    IsNoBrace nested.header := by
  simp [IsNoBrace, NestedClass.header, Text.ofString]

/-- A class is opened by its first line, and then the classes in its body. -/
theorem openedClasses_outlineClass
    (nested : NestedClass) (body : List Line) :
    openedClasses (outlineClass nested.name nested.around body) =
      nested.header :: openedClasses body := by
  have closing : ∀ line ∈ List.head? [(⟨nested.around, "\x7d"⟩ : Line)], IsNoBrace line := by
    simp [IsNoBrace, Text.ofString]
  have opens :
      (Text.ofString "public class ").isPrefixOf
        (Text.ofString "public class " ++ nested.name) = true := by
    simp
  rw [outlineClass, openedClasses, if_pos ⟨opens, rfl⟩, openedClasses_brace,
    openedClasses_append body closing]
  exact congrArg _ (List.append_nil _)

/-- The name of a class has no space, so the constructor of the class is no class itself. -/
theorem not_isPrefixOf_constructor
    (name : typeNameRule.Name) :
    ¬ (Text.ofString "public class ").isPrefixOf
      (Text.ofString "public " ++ name.text ++ Text.ofString "()") = true := by
  rw [List.isPrefixOf_iff_prefix]
  rintro ⟨rest, equal⟩
  have whole : Text.ofString "public " ++ (Text.ofString "class " ++ rest) =
      Text.ofString "public " ++ (name.text ++ Text.ofString "()") := equal
  have words := List.append_cancel_left whole
  have space : .char ' ' ∈ name.text ++ Text.ofString "()" :=
    words ▸ List.mem_append_left rest (by decide)
  rcases List.mem_append.mp space with inName | inParentheses
  · exact name.notMem_of_drops (by decide) inName
  · exact absurd inParentheses (by decide)

theorem openedClasses_collectionLines
    (name : typeNameRule.Name) (collection : Text) (level : Nat) :
    openedClasses (collectionLines name.text collection level) = [] := by
  rw [collectionLines, openedClasses,
    if_neg fun both => not_isPrefixOf_constructor name both.1, openedClasses_brace]
  refine openedClasses_eq_nil ?_
  simp [IsNoBrace, outlineMember, Text.ofString]

theorem openedClasses_memberLines
    (types : TypeNames) (level : Nat) (members : List (memberNameRule.Name × MemberKind)) :
    openedClasses (memberLines types level members) = [] := by
  refine openedClasses_eq_nil ?_
  intro line isMember
  rcases List.mem_map.mp isMember with ⟨member, _, rfl⟩
  exact isNoBrace_outlineMember _ _ level

theorem openedClasses_sampleLines
    (types : TypeNames) (name : typeNameRule.Name) (level : Nat) (sample : Sample) :
    openedClasses (sampleLines types name.text level sample) =
      (sampleClasses name.text level sample).map NestedClass.header := by
  cases sample with
  | scalar kind =>
      rfl
  | object members =>
      let item : NestedClass := ⟨.item, name.text ++ Text.ofString "Item", level⟩
      have starts : ∀ line ∈ (outlineClass item.name item.around
          (memberLines types (level + 1) members)).head?, IsNoBrace line := by
        rintro line ⟨⟩
        exact isNoBrace_header item
      rw [sampleLines, openedClasses_append _ starts, openedClasses_collectionLines,
        openedClasses_outlineClass item, openedClasses_memberLines]
      rfl

/-- The lines of skeletons do not start with a brace. -/
theorem isNoBrace_of_mem_head?
    {types : TypeNames} {level : Nat} {skeletons : List Skeleton} {line : Line}
    (starts : line ∈ (skeletonsLines types level skeletons).head?) :
    IsNoBrace line := by
  cases skeletons with
  | nil =>
      cases starts
  | cons skeleton rest =>
      cases skeleton with
      | member name kind =>
          cases starts
          exact isNoBrace_outlineMember _ _ level
      | object name entries =>
          cases starts
          exact isNoBrace_header ⟨.object, name.text, level⟩
      | array name sample =>
          cases starts
          exact isNoBrace_header ⟨.wrapper, name.text, level⟩

mutual

/-- The classes that are opened in the lines of a skeleton are those of the skeleton. -/
theorem openedClasses_skeletonLines
    (types : TypeNames) (level : Nat) (skeleton : Skeleton) :
    openedClasses (skeletonLines types level skeleton) =
      (nestedClasses level skeleton).map NestedClass.header := by
  cases skeleton with
  | member name kind =>
      rfl
  | object name entries =>
      rw [skeletonLines, openedClasses_outlineClass ⟨.object, name.text, level⟩,
        openedClasses_skeletonsLines types (level + 1) entries, nestedClasses, List.map_cons]
  | array name sample =>
      rw [skeletonLines, openedClasses_outlineClass ⟨.wrapper, name.text, level⟩,
        openedClasses_sampleLines types name (level + 1) sample, nestedClasses, List.map_cons]

theorem openedClasses_skeletonsLines
    (types : TypeNames) (level : Nat) (skeletons : List Skeleton) :
    openedClasses (skeletonsLines types level skeletons) =
      (allNestedClasses level skeletons).map NestedClass.header := by
  cases skeletons with
  | nil =>
      rfl
  | cons skeleton rest =>
      rw [skeletonsLines, openedClasses_append _ fun _ => isNoBrace_of_mem_head?,
        openedClasses_skeletonLines types level skeleton,
        openedClasses_skeletonsLines types level rest, allNestedClasses, List.map_append]

end

end Shapewright.Declaration
