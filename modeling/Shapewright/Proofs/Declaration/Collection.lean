import Shapewright.Proofs.Declaration.Name
import Shapewright.Proofs.Settings.Template
import Shapewright.Proofs.Settings.Validity

/-!
# Collection types

A wrapper class declares one collection type, and this type tells what the items of the array are
declared as.  Among the lines of the class, the collection member is the only member that stands one
level inside of it, and the template of collection types tells apart what it is filled with.
-/

namespace Shapewright

open Shapewright.Outcome

namespace Declaration

/-! ## The items of an array -/

/-- The type of the items of an array, of which only the first one is looked at.  Objects have the
item class of the wrapper class. -/
def elementType (types : TypeNames) (wrapperName : Text) : List Value → Text
  | [] => types.generic
  | .object _ :: _ => wrapperName ++ itemTypeSuffix
  | sample :: _ => types.memberType sample

/-- An array and the wrapper class that is declared for it. -/
structure Wrapper (settings : Settings) where
  items : List Value
  seed : Value
  name : Text
  lines : List Text
  named : typeNameRule.apply seed = .ok name
  declared : wrapper (pad settings) settings.types items seed = .ok lines

namespace Wrapper

variable {settings : Settings}

/-- The type of the items of the array. -/
def elementType (array : Wrapper settings) : Text :=
  Declaration.elementType settings.types array.name array.items

/-- Whether the collection member, which stands one level inside of the class, is of a type. -/
def Declares (array : Wrapper settings) (collection : Text) : Prop :=
  padded (pad settings) (memberText collection itemsMember) ∈ array.lines

end Wrapper

/-! ## Members among other lines -/

section Lines

variable {settings : Settings} {declaredType other name line : Text} {body : List Text}

theorem memberText_injective
    (equal : memberText declaredType name = memberText other name) :
    declaredType = other :=
  List.append_cancel_left (List.append_cancel_right (List.append_cancel_right equal))

theorem memberText_ne_nil :
    memberText declaredType name ≠ [] :=
  List.cons_ne_nil _ _

/-- A member starts with a letter. -/
theorem ne_memberText_of_head?
    (differs : line.head? ≠ some (.char 'p')) :
    line ≠ memberText declaredType name := by
  rintro rfl
  exact differs rfl

/-- A member ends with a brace. -/
theorem append_ne_memberText
    {ending : Text} (before : Text)
    (nonempty : ending ≠ [])
    (differs : ending.getLast? ≠ some (.char '\x7d')) :
    before ++ ending ≠ memberText declaredType name := by
  intro equal
  have last := congrArg List.getLast? equal
  rw [List.getLast?_append_of_ne_nil before nonempty, memberText, List.getLast?_append] at last
  exact differs last

theorem padded_injective
    (pad : Text) :
    Function.Injective (padded pad) := by
  intro line other equal
  cases line with
  | nil =>
      cases other with
      | nil => rfl
      | cons => simp [padded] at equal
  | cons =>
      cases other with
      | nil => simp [padded] at equal
      | cons => exact List.append_cancel_left equal

theorem head?_pad_append
    (indented : 1 ≤ settings.indent) (t : Text) :
    (pad settings ++ t).head? = some (.char ' ') := by
  obtain ⟨more, indentEq⟩ := Nat.exists_eq_add_of_le' indented
  rw [pad, indentEq, List.replicate_succ]
  rfl

theorem head?_padded
    (indented : 1 ≤ settings.indent)
    (nonempty : line ≠ []) :
    (padded (pad settings) line).head? = some (.char ' ') := by
  rw [padded, if_neg (by simpa using nonempty), head?_pad_append indented]

/-- What stands one level inside of a class is in its body. -/
theorem padded_mem_classBlock_iff
    (indented : 1 ≤ settings.indent)
    (nonempty : line ≠ []) :
    padded (pad settings) line ∈ classBlock (pad settings) name body ↔ line ∈ body := by
  have blankFirst := head?_padded indented nonempty
  constructor
  · intro member
    simp only [classBlock, List.mem_cons, List.mem_append, List.not_mem_nil, or_false] at member
    rcases member with header | opening | inBody | closing
    · rw [header] at blankFirst
      cases blankFirst
    · rw [opening] at blankFirst
      cases blankFirst
    · exact (List.mem_map_of_injective (padded_injective (pad settings))).mp inBody
    · rw [closing] at blankFirst
      cases blankFirst
  · intro inBody
    have paddedBody := List.mem_map_of_mem (f := padded (pad settings)) inBody
    simp [classBlock, paddedBody]

/-- No member stands at the level of a class, unless the header of the class looks like one. -/
theorem memberText_notMem_classBlock
    (indented : 1 ≤ settings.indent)
    (header : classText name ≠ memberText declaredType other) :
    memberText declaredType other ∉ classBlock (pad settings) name body := by
  intro member
  simp only [classBlock, List.mem_cons, List.mem_append, List.not_mem_nil, or_false] at member
  rcases member with isHeader | isOpening | inBody | isClosing
  · exact header isHeader.symm
  · exact ne_memberText_of_head? (by decide) isOpening.symm
  · rcases List.mem_map.mp inBody with ⟨line, _, isPadded⟩
    refine ne_memberText_of_head? ?_ isPadded
    by_cases empty : line = []
    · simp [empty, padded]
    · rw [head?_padded indented empty]
      decide
  · exact ne_memberText_of_head? (by decide) isClosing.symm

end Lines

/-! ## Wrapper classes -/

section Wrappers

variable {settings : Settings} {name collection declaredType : Text} {lines : List Text}

theorem mem_plainWrapper_iff
    (indented : 1 ≤ settings.indent)
    (success : plainWrapper (pad settings) name collection = .ok lines) :
    padded (pad settings) (memberText declaredType itemsMember) ∈ lines ↔
      declaredType = collection := by
  simp only [plainWrapper, member_itemsMember, ok_bind] at success
  cases success
  rw [padded_mem_classBlock_iff indented memberText_ne_nil, List.mem_singleton]
  exact ⟨memberText_injective, fun equal => equal ▸ rfl⟩

theorem mem_objectWrapper_iff
    {types : TypeNames} {entries : List (Text × Value)}
    (indented : 1 ≤ settings.indent)
    (success : objectWrapper (pad settings) types name entries = .ok lines) :
    padded (pad settings) (memberText declaredType itemsMember) ∈ lines ↔
      declaredType = types.collectionOf (name ++ itemTypeSuffix) := by
  simp only [objectWrapper, member_itemsMember, ok_bind, bind_eq_ok_iff] at success
  rcases success with ⟨members, _, equal⟩
  cases equal
  rw [padded_mem_classBlock_iff indented memberText_ne_nil]
  constructor
  · intro member
    -- Of the lines in the body, the collection member alone starts and ends like a member.
    simp only [List.mem_append, List.mem_cons, List.not_mem_nil, or_false] at member
    rcases member with
      (isConstructor | isOpening | isCreation | isClosing | isEmpty | isItems | isEmpty) |
        inItemClass
    · exact absurd isConstructor.symm (append_ne_memberText _ (by decide) (by decide))
    · exact absurd isOpening.symm (ne_memberText_of_head? (by decide))
    · refine absurd isCreation.symm (ne_memberText_of_head? ?_)
      simp only [List.append_assoc, head?_pad_append indented]
      decide
    · exact absurd isClosing.symm (ne_memberText_of_head? (by decide))
    · exact absurd isEmpty memberText_ne_nil
    · exact memberText_injective isItems
    · exact absurd isEmpty memberText_ne_nil
    · refine absurd inItemClass (memberText_notMem_classBlock indented ?_)
      rw [classText, ← List.append_assoc]
      exact append_ne_memberText _ (by decide) (by decide)
  · rintro rfl
    simp

end Wrappers

namespace Wrapper

/-- A wrapper class declares one collection type, that of the items of its array.  Without an
indentation, a member of the item class could stand where the collection member does. -/
theorem declares_iff
    {settings : Settings} {collection : Text} (array : Wrapper settings)
    (indented : 1 ≤ settings.indent) :
    array.Declares collection ↔
      collection = settings.types.collectionOf array.elementType := by
  rcases array with ⟨items, seed, name, lines, named, declared⟩
  simp only [wrapper, bind_eq_ok_iff] at declared
  rcases declared with ⟨found, foundEq, declared⟩
  rw [Declaration.named, named] at foundEq
  cases foundEq
  cases items with
  | nil =>
      exact mem_plainWrapper_iff indented declared
  | cons sample rest =>
      cases sample with
      | object entries =>
          exact mem_objectWrapper_iff indented declared
      | _ =>
          exact mem_plainWrapper_iff indented declared

end Wrapper

/--
Collection types tell apart what they are collections of.

There is one way to cut a template at its placeholders, each being the first one behind those before
it, and a collection type is the pieces with the type of the items between each two, whatever braces
that type holds.  Two collection types of one valid template are equal only for items of one type.

So two arrays whose items are of different types never declare the same collection type: a wrapper
class declares one collection type, and this is the one of its items.
-/
theorem collectionOf_distinguishes
    {types : TypeNames}
    (valid : types.IsValid) :
    (∀ parts, Template.IsCut types.collection parts ↔ parts = Template.pieces types.collection) ∧
      (∀ element,
        types.collectionOf element = Text.join element (Template.pieces types.collection)) ∧
      (∀ element other,
        types.collectionOf element = types.collectionOf other → element = other) ∧
      ∀ settings : Settings, settings.types = types → 1 ≤ settings.indent →
        ∀ first second : Wrapper settings,
          (∀ collection,
            first.Declares collection ↔ collection = types.collectionOf first.elementType) ∧
          (first.elementType ≠ second.elementType →
            ∀ collection, first.Declares collection → ¬ second.Declares collection) := by
  have injective : Function.Injective types.collectionOf :=
    Template.fill_injective (Template.hasPlaceholder_iff_infix.mp valid.collection)
  refine ⟨fun parts => Template.isCut_iff, fun element => Template.fill_eq_join element _,
    fun element other equal => injective equal, ?_⟩
  rintro settings rfl indented first second
  refine ⟨fun collection => first.declares_iff indented, ?_⟩
  intro differ collection inFirst inSecond
  rw [first.declares_iff indented] at inFirst
  rw [second.declares_iff indented] at inSecond
  exact differ (injective (inFirst.symm.trans inSecond))

/-- The element stands at both placeholders, and the brace in front of the first one is text. -/
theorem collectionOf_distinguishes_doubled :
    ({ collection := "Map<\x7b\x7b\x7d,\x7b\x7d>" } : TypeNames).IsValid ∧
      ∃ first second :
          Wrapper { types := { collection := "Map<\x7b\x7b\x7d,\x7b\x7d>" } },
        first.items = [.integer 7] ∧ second.items = [.object [("sku", .null)]] ∧
          first.Declares "Map<\x7bdouble,double>" ∧
          ¬ second.Declares "Map<\x7bdouble,double>" := by
  have valid : ({ collection := "Map<\x7b\x7b\x7d,\x7b\x7d>" } : TypeNames).IsValid := by
    constructor <;> first | exact ⟨by decide, by decide⟩ | decide
  rcases collectionOf_distinguishes valid with ⟨_, _, _, distinct⟩
  let settings : Settings := { types := { collection := "Map<\x7b\x7b\x7d,\x7b\x7d>" } }
  let first : Wrapper settings := ⟨[.integer 7], .text "Rows", "Rows", _, rfl, rfl⟩
  let second : Wrapper settings :=
    ⟨[.object [("sku", .null)]], .text "Rows", "Rows", _, rfl, rfl⟩
  rcases distinct settings rfl (by decide) first second with ⟨declares, differ⟩
  have inFirst : first.Declares "Map<\x7bdouble,double>" := (declares _).mpr (by decide)
  exact ⟨valid, first, second, rfl, rfl, inFirst, differ (by decide) _ inFirst⟩

end Declaration

end Shapewright
