import Shapewright.Proofs.Declaration.Walk

/-!
# The sampled shape of a value

Two values have the same sampled shape if a declaration cannot tell them apart: it looks at the kind
of a leaf and not at the leaf, at the first item of an array and not at the others, and at the keys
and kinds of such an item and not at what is nested in it.

Values of the same sampled shape have the same declaration, or the same error.  The relation follows
the entries of objects, so the proof is an induction on its derivations, through the recursion that
the walk unfolds to.
-/

namespace Shapewright

open Shapewright.Outcome

/-! ## Kinds of members -/

/-- What is told apart where a value is declared as a member and not expanded. -/
inductive MemberKind where
  | string
  | number
  | boolean
  | other
deriving DecidableEq

/-- The kind of a value as a member. -/
def Value.memberKind : Value → MemberKind
  | .text _ => .string
  | .integer _ => .number
  | .float _ => .number
  | .boolean _ => .boolean
  | _ => .other

/-- The declared type of a kind of members. -/
def TypeNames.typeOf (types : TypeNames) : MemberKind → Text
  | .string => types.text
  | .number => types.number
  | .boolean => types.boolean
  | .other => types.generic

/-- The declared type of a member depends on its kind only. -/
theorem TypeNames.memberType_eq
    (types : TypeNames) (v : Value) :
    types.memberType v = types.typeOf v.memberKind := by
  cases v <;> rfl

/-- Whether a value is null, or a leaf outside of the JSON model. -/
def Value.isUntyped : Value → Bool
  | .null => true
  | .bytes _ => true
  | .foreign => true
  | _ => false

/-- Whether nothing is nested in a value. -/
def Value.isLeaf : Value → Bool
  | .array _ => false
  | .object _ => false
  | _ => true

theorem Value.isLeaf_of_number
    {v : Value}
    (number : v.memberKind = .number) :
    v.isLeaf = true := by
  cases v with
  | integer | float =>
      rfl
  | _ =>
      cases number

theorem Value.isLeaf_of_isUntyped
    {v : Value}
    (untyped : v.isUntyped = true) :
    v.isLeaf = true := by
  cases v with
  | null | bytes | foreign =>
      rfl
  | _ =>
      cases untyped

theorem Value.memberKind_of_isUntyped
    {v : Value}
    (untyped : v.isUntyped = true) :
    v.memberKind = .other := by
  cases v with
  | null | bytes | foreign =>
      rfl
  | _ =>
      cases untyped

/-! ## The relation -/

/-- Entries with the same keys in the same order, and at each key members of the same kind. -/
inductive SameMembers : List (Text × Value) → List (Text × Value) → Prop where
  | nil : SameMembers [] []
  | cons {v w : Value} {rest more : List (Text × Value)}
      (key : Text)
      (head : v.memberKind = w.memberKind)
      (tail : SameMembers rest more) :
      SameMembers ((key, v) :: rest) ((key, w) :: more)

/-- Whether an array is empty, or starts with null, an array or a leaf outside of the JSON model. -/
def startsUntyped : List Value → Bool
  | [] => true
  | .array _ :: _ => true
  | sample :: _ => sample.isUntyped

/-- Items that are sampled alike: neither has a type, or both start with a string, a number or a
boolean, or both start with objects of the same members. -/
inductive SameSample : List Value → List Value → Prop where
  | untyped {items others : List Value}
      (left : startsUntyped items = true)
      (right : startsUntyped others = true) :
      SameSample items others
  | scalar {v w : Value}
      (rest more : List Value)
      (typed : v.memberKind ≠ .other)
      (same : v.memberKind = w.memberKind) :
      SameSample (v :: rest) (w :: more)
  | object {entries others : List (Text × Value)}
      (rest more : List Value)
      (same : SameMembers entries others) :
      SameSample (.object entries :: rest) (.object others :: more)

mutual

/-- Values of the same sampled shape. -/
inductive SameShape : Value → Value → Prop where
  | strings (t u : Text) : SameShape (.text t) (.text u)
  | numbers {v w : Value}
      (left : v.memberKind = .number)
      (right : w.memberKind = .number) :
      SameShape v w
  | booleans (b c : Bool) : SameShape (.boolean b) (.boolean c)
  | untyped {v w : Value}
      (left : v.isUntyped = true)
      (right : w.isUntyped = true) :
      SameShape v w
  | objects {entries others : List (Text × Value)}
      (same : SameEntries entries others) :
      SameShape (.object entries) (.object others)
  | arrays {items others : List Value}
      (same : SameSample items others) :
      SameShape (.array items) (.array others)

/-- Entries with the same keys in the same order, and values of the same sampled shape. -/
inductive SameEntries : List (Text × Value) → List (Text × Value) → Prop where
  | nil : SameEntries [] []
  | cons {v w : Value} {rest more : List (Text × Value)}
      (key : Text)
      (head : SameShape v w)
      (tail : SameEntries rest more) :
      SameEntries ((key, v) :: rest) ((key, w) :: more)

end

namespace Declaration

/-! ## Wrapper classes -/

theorem itemMembers_eq_of_sameMembers
    {entries others : List (Text × Value)}
    (types : TypeNames)
    (same : SameMembers entries others) :
    itemMembers types entries = itemMembers types others := by
  induction same with
  | nil =>
      rfl
  | cons key head tail induction =>
      simp only [itemMembers, TypeNames.memberType_eq, head, induction]

/-- The wrapper class of items that are no objects depends on the kind of the first one only. -/
theorem wrapperNamed_of_startsUntyped
    {items : List Value}
    (pad : Text) (types : TypeNames) (name : Text)
    (untyped : startsUntyped items = true) :
    wrapperNamed pad types name items =
      plainWrapper pad name (types.collectionOf types.generic) := by
  cases items with
  | nil =>
      rfl
  | cons sample rest =>
      cases sample with
      | null | array | bytes | foreign =>
          rfl
      | _ =>
          cases untyped

theorem wrapperNamed_of_scalar
    {sample : Value}
    (pad : Text) (types : TypeNames) (name : Text) (rest : List Value)
    (typed : sample.memberKind ≠ .other) :
    wrapperNamed pad types name (sample :: rest) =
      plainWrapper pad name (types.collectionOf (types.typeOf sample.memberKind)) := by
  cases sample with
  | text | integer | float | boolean =>
      rfl
  | _ =>
      exact absurd rfl typed

theorem wrapperNamed_eq_of_sameSample
    {items others : List Value}
    (pad : Text) (types : TypeNames) (name : Text)
    (same : SameSample items others) :
    wrapperNamed pad types name items = wrapperNamed pad types name others := by
  cases same with
  | untyped left right =>
      rw [wrapperNamed_of_startsUntyped pad types name left,
        wrapperNamed_of_startsUntyped pad types name right]
  | scalar rest more typed same =>
      rw [wrapperNamed_of_scalar pad types name rest typed,
        wrapperNamed_of_scalar pad types name more (same ▸ typed), same]
  | object rest more same =>
      simp only [wrapperNamed, objectWrapper, itemMembers_eq_of_sameMembers types same]

/-! ## Declarations -/

/-- The declaration of a leaf depends on its kind only. -/
theorem declared_of_isLeaf
    {v : Value}
    (settings : Settings) (seed : Value) (level : Nat)
    (leaf : v.isLeaf = true) :
    declared settings v seed level =
      (member (settings.types.typeOf v.memberKind) seed >>= fun line =>
        .ok [⟨level, line⟩]) := by
  cases v with
  | array | object =>
      cases leaf
  | _ =>
      simp only [declared, flat, TypeNames.memberType_eq, bind_assoc, ok_bind, List.map_cons,
        List.map_nil]

mutual

theorem declared_eq_of_sameShape
    {v w : Value}
    (settings : Settings) (seed : Value) (level : Nat)
    (same : SameShape v w) :
    declared settings v seed level = declared settings w seed level := by
  cases same with
  | strings t u =>
      rfl
  | numbers left right =>
      rw [declared_of_isLeaf settings seed level (Value.isLeaf_of_number left),
        declared_of_isLeaf settings seed level (Value.isLeaf_of_number right), left, right]
  | booleans b c =>
      rfl
  | untyped left right =>
      rw [declared_of_isLeaf settings seed level (Value.isLeaf_of_isUntyped left),
        declared_of_isLeaf settings seed level (Value.isLeaf_of_isUntyped right),
        Value.memberKind_of_isUntyped left, Value.memberKind_of_isUntyped right]
  | objects same =>
      simp only [declared, declaredEntries_eq_of_sameEntries settings (level + 1) same]
  | arrays same =>
      simp only [declared, flat, wrapper, wrapperNamed_eq_of_sameSample _ _ _ same]

theorem declaredEntries_eq_of_sameEntries
    {entries others : List (Text × Value)}
    (settings : Settings) (level : Nat)
    (same : SameEntries entries others) :
    declaredEntries settings entries level = declaredEntries settings others level := by
  cases same with
  | nil =>
      rfl
  | cons key head tail =>
      simp only [declaredEntries, declared_eq_of_sameShape settings (.text key) level head,
        declaredEntries_eq_of_sameEntries settings level tail]

end

/-- Values of the same sampled shape have the same declaration, or the same error. -/
theorem generate_eq_of_sameShape
    {v w : Value}
    (settings : Settings) (seed : Value)
    (same : SameShape v w) :
    generate settings v seed = generate settings w seed := by
  rw [generate_eq_declared, generate_eq_declared, declared_eq_of_sameShape settings seed 0 same]

/-- Documents that differ in a number, behind the first item of an array and inside of an item. -/
theorem generate_eq_of_sameShape_order :
    SameShape
        (.object [("no", .integer 7),
          ("rows", .array [.object [("sku", .array []), ("qty", .null)], .null])])
        (.object [("no", .float .nan),
          ("rows", .array [.object [("sku", .object [("", .null)]), ("qty", .foreign)]])]) ∧
      generate { maxDepth := some 2 }
          (.object [("no", .integer 7),
            ("rows", .array [.object [("sku", .array []), ("qty", .null)], .null])])
          (.text "Order") =
        generate { maxDepth := some 2 }
          (.object [("no", .float .nan),
            ("rows", .array [.object [("sku", .object [("", .null)]), ("qty", .foreign)]])])
          (.text "Order") := by
  have sameRows :
      SameSample
        [.object [("sku", .array []), ("qty", .null)], .null]
        [.object [("sku", .object [("", .null)]), ("qty", .foreign)]] := by
    apply SameSample.object
    exact .cons _ rfl (.cons _ rfl .nil)
  have same :
      SameShape
        (.object [("no", .integer 7),
          ("rows", .array [.object [("sku", .array []), ("qty", .null)], .null])])
        (.object [("no", .float .nan),
          ("rows", .array [.object [("sku", .object [("", .null)]), ("qty", .foreign)]])]) := by
    apply SameShape.objects
    apply SameEntries.cons _ (.numbers rfl rfl)
    exact SameEntries.cons _ (.arrays sameRows) .nil
  exact ⟨same, generate_eq_of_sameShape { maxDepth := some 2 } (.text "Order") same⟩

end Declaration

end Shapewright
