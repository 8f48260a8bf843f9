import Shapewright.Proofs.Declaration.Outline
import Shapewright.Proofs.Declaration.Shape

/-!
# Skeletons

The skeleton of a value is what its declaration tells of it: the names of its classes and members,
the kinds of its members, and of an array the kind of the first item or, if that is an object, the
names and kinds of its members.

A value with an outline has a skeleton, and the outline is the one that the skeleton is written in.
-/

namespace Shapewright

/-- What a declaration tells of the items of an array. -/
inductive Sample where
  | scalar (kind : MemberKind)
  | object (members : List (memberNameRule.Name × MemberKind))

/-- What a declaration tells of a value. -/
inductive Skeleton where
  | member (name : memberNameRule.Name) (kind : MemberKind)
  | object (name : typeNameRule.Name) (entries : List Skeleton)
  | array (name : typeNameRule.Name) (sample : Sample)

/-! ## The skeleton of a value -/

/-- The names and kinds of the members of an item. -/
def sampleMembers? : List (Text × Value) → Option (List (memberNameRule.Name × MemberKind))
  | [] => some []
  | (key, v) :: rest => do
    let name ← memberNameRule.nameOf? (.text key)
    let more ← sampleMembers? rest
    some ((name, v.memberKind) :: more)

/-- The sample of the items of an array. -/
def sample? : List Value → Option Sample
  | [] => some (.scalar .other)
  | .object entries :: _ => do
    let members ← sampleMembers? entries
    some (.object members)
  | v :: _ => some (.scalar v.memberKind)

mutual

/-- The skeleton of a value that is named after a seed; there is none if a name is missing. -/
def skeleton? : Value → Value → Option Skeleton
  | .object entries, seed => do
    let name ← typeNameRule.nameOf? seed
    let skeletons ← entrySkeletons? entries
    some (.object name skeletons)
  | .array items, seed => do
    let name ← typeNameRule.nameOf? seed
    let sample ← sample? items
    some (.array name sample)
  | v, seed => do
    let name ← memberNameRule.nameOf? seed
    some (.member name v.memberKind)

/-- The skeletons of the entries of an object. -/
def entrySkeletons? : List (Text × Value) → Option (List Skeleton)
  | [] => some []
  | (key, v) :: rest => do
    let skeleton ← skeleton? v (.text key)
    let more ← entrySkeletons? rest
    some (skeleton :: more)

end

namespace Declaration

/-! ## The outline of a skeleton -/

/-- The members of an item class at a level. -/
def memberLines (types : TypeNames) (level : Nat)
    (members : List (memberNameRule.Name × MemberKind)) : List Line :=
  members.map fun member => outlineMember (types.typeOf member.2) member.1.text level

/-- The lines of a constructor that makes an empty collection, and of the collection. -/
def collectionLines (name collection : Text) (level : Nat) : List Line :=
  [⟨level, Text.ofString "public " ++ name ++ Text.ofString "()"⟩,
    ⟨level, "\x7b"⟩,
    ⟨level + 1, Text.ofString "Items = new " ++ collection ++ Text.ofString "();"⟩,
    ⟨level, "\x7d"⟩,
    ⟨level, ""⟩,
    outlineMember collection "Items" level,
    ⟨level, ""⟩]

/-- The body of a wrapper class at a level. -/
def sampleLines (types : TypeNames) (name : Text) (level : Nat) : Sample → List Line
  | .scalar kind => [outlineMember (types.collectionOf (types.typeOf kind)) "Items" level]
  | .object members =>
    collectionLines name (types.collectionOf (name ++ Text.ofString "Item")) level ++
      outlineClass (name ++ Text.ofString "Item") level (memberLines types (level + 1) members)

mutual

/-- The lines of a skeleton at a level. -/
def skeletonLines (types : TypeNames) : Nat → Skeleton → List Line
  | level, .member name kind => [outlineMember (types.typeOf kind) name.text level]
  | level, .object name entries =>
    outlineClass name.text level (skeletonsLines types (level + 1) entries)
  | level, .array name sample =>
    outlineClass name.text level (sampleLines types name.text (level + 1) sample)

/-- The lines of skeletons at a level, one after the other. -/
def skeletonsLines (types : TypeNames) : Nat → List Skeleton → List Line
  | _, [] => []
  | level, skeleton :: rest => skeletonLines types level skeleton ++ skeletonsLines types level rest

end

theorem skeletonsLines_eq_flatMap
    (types : TypeNames) (level : Nat) (skeletons : List Skeleton) :
    skeletonsLines types level skeletons = skeletons.flatMap (skeletonLines types level) := by
  induction skeletons with
  | nil =>
      rfl
  | cons skeleton rest induction =>
      rw [skeletonsLines, induction, List.flatMap_cons]

/-! ## Outlines are those of skeletons -/

theorem outlineMembers_eq
    (types : TypeNames) (level : Nat) (entries : List (Text × Value)) :
    outlineMembers types level entries =
      (sampleMembers? entries).map (memberLines types level) := by
  induction entries with
  | nil =>
      rfl
  | cons entry rest induction =>
      rcases entry with ⟨key, v⟩
      rw [outlineMembers, sampleMembers?, ← memberNameRule.nameOf?_map_text, induction,
        TypeNames.memberType_eq]
      cases memberNameRule.nameOf? (.text key) <;> cases sampleMembers? rest <;> rfl

theorem outlineItems_eq
    (types : TypeNames) (name : Text) (level : Nat) (items : List Value) :
    outlineItems types name level items = (sample? items).map (sampleLines types name level) := by
  cases items with
  | nil =>
      rfl
  | cons sample rest =>
      cases sample with
      | object entries =>
          simp only [outlineItems, sample?, outlineMembers_eq]
          cases sampleMembers? entries <;> rfl
      | _ =>
          rfl

mutual

theorem outline_eq_skeleton?
    (types : TypeNames) (v seed : Value) (level : Nat) :
    outline types v seed level = (skeleton? v seed).map (skeletonLines types level) := by
  cases v with
  | object entries =>
      rw [outline, skeleton?, ← typeNameRule.nameOf?_map_text,
        outlineEntries_eq_entrySkeletons? types entries]
      cases typeNameRule.nameOf? seed <;> cases entrySkeletons? entries <;> rfl
  | array items =>
      rw [outline, skeleton?, ← typeNameRule.nameOf?_map_text]
      simp only [outlineItems_eq]
      cases typeNameRule.nameOf? seed <;> cases sample? items <;> rfl
  | _ =>
      simp only [outline, skeleton?, ← memberNameRule.nameOf?_map_text, TypeNames.memberType_eq]
      cases memberNameRule.nameOf? seed <;> rfl

theorem outlineEntries_eq_entrySkeletons?
    (types : TypeNames) (entries : List (Text × Value)) (level : Nat) :
    outlineEntries types entries level =
      (entrySkeletons? entries).map (skeletonsLines types level) := by
  cases entries with
  | nil =>
      rfl
  | cons entry rest =>
      rcases entry with ⟨key, v⟩
      rw [outlineEntries, entrySkeletons?, outline_eq_skeleton? types v,
        outlineEntries_eq_entrySkeletons? types rest]
      cases skeleton? v (.text key) <;> cases entrySkeletons? rest <;> rfl

end

end Declaration

end Shapewright
