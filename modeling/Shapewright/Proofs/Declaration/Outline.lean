import Shapewright.Proofs.Declaration.Name
import Shapewright.Proofs.Declaration.Walk

/-!
# Declarations as outlines

The outline of a value is a list of lines, each at its level, given by recursion on the value.  It
knows neither a stack nor the blanks that a line is padded with.

Generated text is an outline, rendered.  The walk accounts for the stack.  What is left is the
padding: the lines of a wrapper class come with the blanks of the levels inside of the class, and
such a line, rendered at the level of the class, is the bare line rendered at its own level.
-/

namespace Shapewright.Declaration

open Shapewright.Outcome

/-! ## The outline of a value -/

/-- A class at a level, around the lines of its body. -/
def outlineClass (name : Text) (level : Nat) (body : List Line) : List Line :=
  ⟨level, Text.ofString "public class " ++ name⟩ :: ⟨level, "\x7b"⟩ ::
    (body ++ [⟨level, "\x7d"⟩])

/-- A member at a level. -/
def outlineMember (declaredType name : Text) (level : Nat) : Line :=
  ⟨level, Text.ofString "public " ++ declaredType ++ Text.ofString " " ++ name ++
    Text.ofString " \x7b get; set; \x7d"⟩

/-- The members of an item class at a level. -/
def outlineMembers (types : TypeNames) (level : Nat) :
    List (Text × Value) → Option (List Line)
  | [] => some []
  | (key, v) :: rest => do
    let name ← memberNameRule.name? (.text key)
    let more ← outlineMembers types level rest
    some (outlineMember (types.memberType v) name level :: more)

/-- The body of the wrapper class of an array at a level. -/
def outlineItems (types : TypeNames) (name : Text) (level : Nat) :
    List Value → Option (List Line)
  | [] => some [outlineMember (types.collectionOf types.generic) "Items" level]
  | .object entries :: _ => do
    let itemName := name ++ Text.ofString "Item"
    let collection := types.collectionOf itemName
    let members ← outlineMembers types (level + 1) entries
    some ([⟨level, Text.ofString "public " ++ name ++ Text.ofString "()"⟩,
        ⟨level, "\x7b"⟩,
        ⟨level + 1, Text.ofString "Items = new " ++ collection ++ Text.ofString "();"⟩,
        ⟨level, "\x7d"⟩,
        ⟨level, ""⟩,
        outlineMember collection "Items" level,
        ⟨level, ""⟩] ++
      outlineClass itemName level members)
  | sample :: _ => some [outlineMember (types.collectionOf (types.memberType sample)) "Items" level]

mutual

/-- The outline of a value at a level; there is none if a name is missing. -/
def outline (types : TypeNames) : Value → Value → Nat → Option (List Line)
  | .object entries, seed, level => do
    let name ← typeNameRule.name? seed
    let body ← outlineEntries types entries (level + 1)
    some (outlineClass name level body)
  | .array items, seed, level => do
    let name ← typeNameRule.name? seed
    let body ← outlineItems types name (level + 1) items
    some (outlineClass name level body)
  | v, seed, level => do
    let name ← memberNameRule.name? seed
    some [outlineMember (types.memberType v) name level]

/-- The outline of the entries of an object at a level. -/
def outlineEntries (types : TypeNames) :
    List (Text × Value) → Nat → Option (List Line)
  | [], _ => some []
  | (key, v) :: rest, level => do
    let lines ← outline types v (.text key) level
    let more ← outlineEntries types rest level
    some (lines ++ more)

end

/-! ## Padding -/

/-- Lines of one text each, all at one level, as they are rendered. -/
def renderedAt (settings : Settings) (level : Nat) (texts : List Text) : List Text :=
  texts.map fun text => Line.render settings.indent ⟨level, text⟩

/-- Lines as they are rendered. -/
def rendered (settings : Settings) (lines : List Line) : List Text :=
  lines.map (Line.render settings.indent)

theorem renderedAt_append
    (settings : Settings) (level : Nat) (texts more : List Text) :
    renderedAt settings level (texts ++ more) =
      renderedAt settings level texts ++ renderedAt settings level more :=
  List.map_append

theorem rendered_append
    (settings : Settings) (lines more : List Line) :
    rendered settings (lines ++ more) = rendered settings lines ++ rendered settings more :=
  List.map_append

/-- The blanks before the lines of a level. -/
def blanks (indent level : Nat) : Text := List.replicate (indent * level) (.char ' ')

theorem blanks_succ
    (indent level : Nat) :
    blanks indent (level + 1) =
      blanks indent level ++ List.replicate indent (CodePoint.char ' ') := by
  rw [blanks, blanks, List.replicate_append_replicate, Nat.mul_add, Nat.mul_one]

theorem render_eq
    (indent level : Nat) {text : Text}
    (nonempty : text ≠ []) :
    Line.render indent ⟨level, text⟩ = blanks indent level ++ text := by
  cases text with
  | nil =>
      exact absurd rfl nonempty
  | cons c rest =>
      rfl

/-- A padded line is the bare line one level deeper. -/
theorem render_padded
    (settings : Settings) (level : Nat) (text : Text) :
    Line.render settings.indent ⟨level, padded (pad settings) text⟩ =
      Line.render settings.indent ⟨level + 1, text⟩ := by
  cases text with
  | nil =>
      rfl
  | cons c rest =>
      have paddedEq : padded (pad settings) (c :: rest) = pad settings ++ c :: rest := by
        rfl
      rw [paddedEq, render_eq _ _ (by simp), render_eq _ _ (by simp), blanks_succ,
        List.append_assoc, pad]

/-- A class in padded lines is the class around a body one level deeper. -/
theorem renderedAt_classBlock
    (settings : Settings) (level : Nat) (name : Text) (body : List Text) (lines : List Line)
    (bodyEq : renderedAt settings (level + 1) body = rendered settings lines) :
    renderedAt settings level (classBlock (pad settings) name body) =
      rendered settings (outlineClass name level lines) := by
  have paddedBody :
      renderedAt settings level (body.map (padded (pad settings))) =
        rendered settings lines := by
    rw [← bodyEq]
    simp only [renderedAt, List.map_map, Function.comp_def, render_padded]
  simp only [renderedAt, rendered, classBlock, outlineClass, classText, List.map_cons,
    List.map_append, List.map_nil] at paddedBody ⊢
  rw [paddedBody]

theorem memberText_eq
    (declaredType name : Text) (level : Nat) :
    (⟨level, memberText declaredType name⟩ : Line) = outlineMember declaredType name level := by
  simp [memberText, outlineMember, Text.ofString]

/-- The line of a constructor comes padded by one level. -/
theorem render_newCollection
    (settings : Settings) (level : Nat) (collection : Text) :
    Line.render settings.indent
        ⟨level, pad settings ++ itemsMember ++ Text.ofString " = new " ++ collection ++
          Text.ofString "();"⟩ =
      Line.render settings.indent
        ⟨level + 1, Text.ofString "Items = new " ++ collection ++ Text.ofString "();"⟩ := by
  rw [← render_padded]
  simp [padded, itemsMember, Text.ofString]

/-! ## Values that are no objects -/

theorem itemMembers_outline
    {settings : Settings} {entries : List (Text × Value)} {texts : List Text}
    (level : Nat)
    (success : itemMembers settings.types entries = .ok texts) :
    ∃ lines, outlineMembers settings.types level entries = some lines ∧
      renderedAt settings level texts = rendered settings lines := by
  induction entries generalizing texts with
  | nil =>
      cases success
      exact ⟨[], rfl, rfl⟩
  | cons entry rest induction =>
      rcases entry with ⟨key, v⟩
      simp only [itemMembers, bind_eq_ok_iff, member_eq_ok_iff] at success
      rcases success with ⟨_, ⟨name, nameEq, rfl⟩, more, restSuccess, equal⟩
      cases equal
      rcases induction restSuccess with ⟨lines, linesEq, renderedEq⟩
      refine ⟨outlineMember (settings.types.memberType v) name level :: lines, ?_, ?_⟩
      · simp [outlineMembers, nameEq, linesEq]
      · simp only [renderedAt, rendered, List.map_cons] at renderedEq ⊢
        rw [renderedEq, memberText_eq]

theorem plainWrapper_outline
    {settings : Settings} {name collection : Text} {texts : List Text}
    (level : Nat)
    (success : plainWrapper (pad settings) name collection = .ok texts) :
    renderedAt settings level texts =
      rendered settings (outlineClass name level
        [outlineMember collection "Items" (level + 1)]) := by
  simp only [plainWrapper, member_itemsMember, ok_bind] at success
  cases success
  apply renderedAt_classBlock
  simp only [renderedAt, rendered, List.map_cons, List.map_nil, memberText_eq]
  rfl

theorem objectWrapper_outline
    {settings : Settings} {name : Text} {entries : List (Text × Value)} {texts : List Text}
    (level : Nat) (rest : List Value)
    (success : objectWrapper (pad settings) settings.types name entries = .ok texts) :
    ∃ body, outlineItems settings.types name (level + 1) (.object entries :: rest) = some body ∧
      renderedAt settings level texts = rendered settings (outlineClass name level body) := by
  simp only [objectWrapper, member_itemsMember, ok_bind, bind_eq_ok_iff] at success
  rcases success with ⟨members, membersSuccess, equal⟩
  cases equal
  rcases itemMembers_outline (level + 1 + 1) membersSuccess with ⟨lines, linesEq, renderedEq⟩
  have itemClass :=
    renderedAt_classBlock settings (level + 1) (name ++ itemTypeSuffix) members lines renderedEq
  simp only [outlineItems, linesEq, Option.bind_eq_bind, Option.bind_some]
  refine ⟨_, rfl, ?_⟩
  apply renderedAt_classBlock
  rw [renderedAt_append, itemClass, rendered_append]
  congr 1
  simp only [renderedAt, rendered, List.map_cons, List.map_nil, render_newCollection,
    memberText_eq]
  rfl

theorem wrapper_outline
    {settings : Settings} {items : List Value} {seed : Value} {texts : List Text}
    (level : Nat)
    (success : wrapper (pad settings) settings.types items seed = .ok texts) :
    ∃ lines, outline settings.types (.array items) seed level = some lines ∧
      renderedAt settings level texts = rendered settings lines := by
  simp only [wrapper, bind_eq_ok_iff, named_eq_ok_iff] at success
  rcases success with ⟨name, nameEq, success⟩
  have wrapped :
      ∃ body, outlineItems settings.types name (level + 1) items = some body ∧
        renderedAt settings level texts = rendered settings (outlineClass name level body) := by
    cases items with
    | nil =>
        exact ⟨_, rfl, plainWrapper_outline level success⟩
    | cons sample rest =>
        cases sample with
        | object entries =>
            exact objectWrapper_outline level rest success
        | _ =>
            exact ⟨_, rfl, plainWrapper_outline level success⟩
  rcases wrapped with ⟨body, bodyEq, renderedEq⟩
  exact ⟨_, by simp [outline, nameEq, bodyEq], renderedEq⟩

theorem flat_outline
    {settings : Settings} {v seed : Value} {level : Nat} {texts : List Text}
    (notObject : ∀ entries, v ≠ .object entries)
    (success : flat settings v seed level = .ok texts) :
    ∃ lines, outline settings.types v seed level = some lines ∧
      renderedAt settings level texts = rendered settings lines := by
  cases v with
  | object entries =>
      exact absurd rfl (notObject entries)
  | array items =>
      simp only [flat, bind_eq_ok_iff] at success
      rcases success with ⟨_, _, success⟩
      exact wrapper_outline level success
  | _ =>
      simp only [flat, bind_eq_ok_iff, member_eq_ok_iff] at success
      rcases success with ⟨_, ⟨name, nameEq, rfl⟩, equal⟩
      cases equal
      refine ⟨_, by simp only [outline, nameEq]; rfl, ?_⟩
      simp only [renderedAt, rendered, List.map_cons, List.map_nil, memberText_eq]

/-! ## All values -/

theorem openLines_outline
    {settings : Settings} {seed : Value} {level : Nat} {opening : List Line}
    (success : openLines settings seed level = .ok opening) :
    ∃ name, typeNameRule.name? seed = some name ∧
      opening = [⟨level, classText name⟩, ⟨level, "\x7b"⟩] := by
  simp only [openLines, bind_eq_ok_iff, named_eq_ok_iff] at success
  rcases success with ⟨_, _, name, nameEq, equal⟩
  cases equal
  exact ⟨name, nameEq, rfl⟩

mutual

/-- The recursion that a walk unfolds to finds the outline of a value. -/
theorem declared_outline
    {settings : Settings} {lines : List Line}
    (v seed : Value) (level : Nat)
    (success : declared settings v seed level = .ok lines) :
    ∃ plain, outline settings.types v seed level = some plain ∧
      rendered settings lines = rendered settings plain := by
  cases v with
  | object entries =>
      simp only [declared, bind_eq_ok_iff] at success
      rcases success with ⟨opening, openingSuccess, body, bodySuccess, equal⟩
      cases equal
      rcases openLines_outline openingSuccess with ⟨name, nameEq, rfl⟩
      rcases declaredEntries_outline entries (level + 1) bodySuccess with
        ⟨plain, plainEq, renderedEq⟩
      refine ⟨outlineClass name level plain, ?_, ?_⟩
      · simp [outline, nameEq, plainEq]
      · simp only [rendered_append, renderedEq, outlineClass]
        simp [rendered, classText]
  | _ =>
      simp only [declared, bind_eq_ok_iff] at success
      rcases success with ⟨texts, textsSuccess, equal⟩
      cases equal
      rcases flat_outline (by simp) textsSuccess with ⟨plain, plainEq, renderedEq⟩
      refine ⟨plain, plainEq, ?_⟩
      rw [← renderedEq]
      exact List.map_map

theorem declaredEntries_outline
    {settings : Settings} {lines : List Line}
    (entries : List (Text × Value)) (level : Nat)
    (success : declaredEntries settings entries level = .ok lines) :
    ∃ plain, outlineEntries settings.types entries level = some plain ∧
      rendered settings lines = rendered settings plain := by
  cases entries with
  | nil =>
      cases success
      exact ⟨[], rfl, rfl⟩
  | cons entry rest =>
      rcases entry with ⟨key, v⟩
      simp only [declaredEntries, bind_eq_ok_iff] at success
      rcases success with ⟨first, firstSuccess, more, restSuccess, equal⟩
      cases equal
      rcases declared_outline v (.text key) level firstSuccess with ⟨plain, plainEq, firstEq⟩
      rcases declaredEntries_outline rest level restSuccess with ⟨others, othersEq, restEq⟩
      refine ⟨plain ++ others, ?_, ?_⟩
      · simp [outlineEntries, plainEq, othersEq]
      · rw [rendered_append, rendered_append, firstEq, restEq]

end

theorem outline_map_renderAll
    {settings : Settings} {v seed : Value} {text : Text}
    (success : generate settings v seed = .ok text) :
    (outline settings.types v seed 0).map (Line.renderAll settings.indent) = some text := by
  rw [generate_eq_declared, bind_eq_ok_iff] at success
  rcases success with ⟨lines, linesSuccess, equal⟩
  cases equal
  rcases declared_outline v seed 0 linesSuccess with ⟨plain, plainEq, renderedEq⟩
  rw [plainEq, Option.map_some]
  exact congrArg (fun texts => some (Text.join "\n" texts)) renderedEq.symm

/-- Generated text is the outline of the value, rendered. -/
theorem generate_eq_renderAll_outline
    {settings : Settings} {v seed : Value} {text : Text}
    (success : generate settings v seed = .ok text) :
    ∃ lines, outline settings.types v seed 0 = some lines ∧
      text = Line.renderAll settings.indent lines := by
  rcases Option.map_eq_some_iff.mp (outline_map_renderAll success) with ⟨lines, linesEq, textEq⟩
  exact ⟨lines, linesEq, textEq.symm⟩

/-- An object between two members, and an array of objects behind them. -/
theorem generate_eq_renderAll_outline_order :
    ∃ text lines,
      generate { indent := 2 }
          (.object [("no", .integer 7), ("ship to", .object [("zip", .text "N1")]),
            ("paid", .boolean true), ("rows", .array [.object [("sku-1", .null)], .foreign])])
          (.text "Order") = .ok text ∧
        outline {}
          (.object [("no", .integer 7), ("ship to", .object [("zip", .text "N1")]),
            ("paid", .boolean true), ("rows", .array [.object [("sku-1", .null)], .foreign])])
          (.text "Order") 0 = some lines ∧
        text = Line.renderAll 2 lines := by
  have success :
      generate { indent := 2 }
          (.object [("no", .integer 7), ("ship to", .object [("zip", .text "N1")]),
            ("paid", .boolean true), ("rows", .array [.object [("sku-1", .null)], .foreign])])
          (.text "Order") =
        .ok (Text.join "\n"
          ["public class Order",
            "\x7b",
            "  public double no \x7b get; set; \x7d",
            "  public class shipto",
            "  \x7b",
            "    public string zip \x7b get; set; \x7d",
            "  \x7d",
            "  public bool paid \x7b get; set; \x7d",
            "  public class rows",
            "  \x7b",
            "    public rows()",
            "    \x7b",
            "      Items = new List<rowsItem>();",
            "    \x7d",
            "",
            "    public List<rowsItem> Items \x7b get; set; \x7d",
            "",
            "    public class rowsItem",
            "    \x7b",
            "      public object sku1 \x7b get; set; \x7d",
            "    \x7d",
            "  \x7d",
            "\x7d"]) := by
    rfl
  rcases generate_eq_renderAll_outline success with ⟨lines, linesEq, textEq⟩
  exact ⟨_, lines, success, linesEq, textEq⟩

end Shapewright.Declaration
