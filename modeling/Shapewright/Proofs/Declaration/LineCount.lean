import Mathlib.Algebra.GroupWithZero.Nat
import Shapewright.Proofs.Declaration.Skeleton
import Shapewright.Proofs.Text.Split

/-!
# The lines of generated code

Generated code is cut at its line feeds.  Each declaration takes a number of lines that depends on
the kinds of the values only, and no name of a class can add to it.  The name of a member can: the
rule for member names keeps line feeds, and each of them cuts the line of its member.
-/

namespace Shapewright

namespace Declaration

open Shapewright.Outcome

/-! ## What the lines should be -/

mutual

/-- The number of lines that the declaration of a value takes. -/
def lineCount : Value → Nat
  | .object entries => lineCountEntries entries + 3
  | .array (.object entries :: _) => entries.length + 13
  | .array _ => 4
  | _ => 1

/-- The number of lines that the declarations of the entries of an object take. -/
def lineCountEntries : List (Text × Value) → Nat
  | [] => 0
  | (_, v) :: rest => lineCount v + lineCountEntries rest

end

theorem lineCount_pos
    (v : Value) :
    0 < lineCount v := by
  cases v with
  | object entries =>
      exact Nat.succ_pos _
  | array items =>
      rcases items with _ | ⟨sample, rest⟩
      · exact Nat.succ_pos 3
      · cases sample <;> exact Nat.succ_pos _
  | _ =>
      exact Nat.one_pos

/-- The number of line feeds in a seed. -/
def seedBreaks : Value → Nat
  | .text t => t.count (.char '\n')
  | _ => 0

/-- The number of line feeds in the keys of the entries of an object. -/
def keyBreaks (entries : List (Text × Value)) : Nat :=
  (entries.map fun entry => entry.1.count (.char '\n')).sum

mutual

/-- The number of line feeds in the seeds that members are named after. -/
def memberBreaks : Value → Value → Nat
  | .object entries, _ => memberBreaksEntries entries
  | .array (.object entries :: _), _ => keyBreaks entries
  | .array _, _ => 0
  | _, seed => seedBreaks seed

/-- The number of line feeds in the seeds that the members for the entries of an object are named
after. -/
def memberBreaksEntries : List (Text × Value) → Nat
  | [] => 0
  | (key, v) :: rest => memberBreaks v (.text key) + memberBreaksEntries rest

end

/-- The forms of a line of code behind its leading blanks. -/
inductive IsDeclarationLine : Text → Prop where
  | empty : IsDeclarationLine []
  | opening : IsDeclarationLine "\x7b"
  | closing : IsDeclarationLine "\x7d"
  | newCollection (declaredType : Text) :
      IsDeclarationLine (Text.ofString "Items = new " ++ declaredType ++ Text.ofString "();")
  | declared (rest : Text) : IsDeclarationLine (Text.ofString "public " ++ rest)

theorem IsDeclarationLine.dropWhile_blanks
    {t : Text} (blanks : Nat)
    (form : IsDeclarationLine t) :
    (List.replicate blanks (CodePoint.char ' ') ++ t).dropWhile (· = .char ' ') = t := by
  rw [List.dropWhile_append_of_pos (by simp)]
  cases form <;> rfl

/-! ## Names -/

theorem count_lineFeed_of_typeName
    {seed : Value} {name : Text}
    (success : typeNameRule.name? seed = some name) :
    name.count (.char '\n') = 0 := by
  rw [List.count_eq_zero]
  intro member
  have kept := (NameRule.name?_isName success).kept _ member
  exact absurd kept (by decide)

/-- The name of a member holds the line feeds of its seed. -/
theorem count_lineFeed_of_memberName
    {seed : Value} {name : Text}
    (success : memberNameRule.name? seed = some name) :
    name.count (.char '\n') = seedBreaks seed := by
  cases seed with
  | text t =>
      have filtered :
          (t.filter fun c => !memberNameRule.drops c).count (.char '\n') =
            t.count (.char '\n') :=
        List.count_filter (by decide)
      have lead : memberNameRule.lead.count (.char '\n') = 0 := by decide
      simp only [NameRule.name?, NameRule.normalize?] at success
      rw [seedBreaks, ← filtered]
      split at success
      next => cases success
      next c rest kept =>
        cases success
        rw [kept]
        split
        next => rfl
        next => rw [List.count_append, lead, Nat.zero_add]
  | _ =>
      cases success

/-! ## The lines of an outline -/

/-- Lines of the forms of code, as many as a number, with a number of line feeds in their texts. -/
structure HasLines (lines : List Line) (number breaks : Nat) : Prop where
  length : lines.length = number
  breaks : (lines.flatMap Line.text).count (.char '\n') = breaks
  form : ∀ line ∈ lines, IsDeclarationLine line.text

namespace HasLines

theorem nil : HasLines [] 0 0 where
  length := rfl
  breaks := rfl
  form := by simp

theorem cons
    {t : Text} {lines : List Line} {number breaks : Nat} (level : Nat)
    (form : IsDeclarationLine t)
    (more : HasLines lines number breaks) :
    HasLines (⟨level, t⟩ :: lines) (number + 1) (t.count (.char '\n') + breaks) where
  length := by rw [List.length_cons, more.length]
  breaks := by rw [List.flatMap_cons, List.count_append, more.breaks]
  form := List.forall_mem_cons.mpr ⟨form, more.form⟩

theorem append
    {lines others : List Line} {number otherNumber breaks otherBreaks : Nat}
    (first : HasLines lines number breaks)
    (second : HasLines others otherNumber otherBreaks) :
    HasLines (lines ++ others) (number + otherNumber) (breaks + otherBreaks) where
  length := by rw [List.length_append, first.length, second.length]
  breaks := by rw [List.flatMap_append, List.count_append, first.breaks, second.breaks]
  form := fun line member =>
    (List.mem_append.mp member).elim (first.form line) (second.form line)

end HasLines

theorem hasLines_member
    (declaredType name : Text) (level : Nat) :
    HasLines [outlineMember declaredType name level] 1
      (declaredType.count (.char '\n') + name.count (.char '\n')) where
  length := rfl
  breaks := by
    have before : (Text.ofString "public ").count (.char '\n') = 0 := by decide
    have between : (Text.ofString " ").count (.char '\n') = 0 := by decide
    have behind : (Text.ofString " \x7b get; set; \x7d").count (.char '\n') = 0 := by decide
    simp [outlineMember, before, between, behind]
  form := by
    intro line member
    rw [List.mem_singleton.mp member]
    simpa [outlineMember] using
      IsDeclarationLine.declared
        (declaredType ++ Text.ofString " " ++ name ++ Text.ofString " \x7b get; set; \x7d")

/-- The member for a seed is cut by the line feeds of its seed. -/
theorem hasLines_memberOf
    {declaredType name : Text} {seed : Value} (level : Nat)
    (uncut : declaredType.count (.char '\n') = 0)
    (nameEq : memberNameRule.name? seed = some name) :
    HasLines [outlineMember declaredType name level] 1 (seedBreaks seed) := by
  have member := hasLines_member declaredType name level
  rw [uncut, count_lineFeed_of_memberName nameEq, Nat.zero_add] at member
  exact member

/-- A class adds three lines to its body, and no line feed if there is none in its name. -/
theorem hasLines_class
    {name : Text} {number breaks : Nat} {body : List Line} (level : Nat)
    (uncut : name.count (.char '\n') = 0)
    (hasBody : HasLines body number breaks) :
    HasLines (outlineClass name level body) (number + 3) breaks := by
  have keyword : (Text.ofString "public class ").count (.char '\n') = 0 := by decide
  have header : IsDeclarationLine (Text.ofString "public class " ++ name) :=
    .declared (Text.ofString "class " ++ name)
  have headed :
      HasLines (outlineClass name level body) (number + 1 + 1 + 1)
        ((Text.ofString "public class " ++ name).count (.char '\n') + (0 + (breaks + 0))) :=
    .cons level header
      (.cons level .opening
        (hasBody.append (.cons level .closing .nil)))
  rw [List.count_append, keyword, uncut] at headed
  simpa using headed

/-! ## Default types -/

theorem count_lineFeed_memberType
    (v : Value) :
    (TypeNames.memberType {} v).count (.char '\n') = 0 := by
  rw [TypeNames.memberType_eq]
  cases v.memberKind <;> decide

theorem count_lineFeed_collectionOf
    (element : Text) :
    (TypeNames.collectionOf {} element).count (.char '\n') = element.count (.char '\n') := by
  have filled :
      TypeNames.collectionOf {} element =
        Text.ofString "List<" ++ (element ++ Text.ofString ">") := by
    rfl
  have before : (Text.ofString "List<").count (.char '\n') = 0 := by decide
  have behind : (Text.ofString ">").count (.char '\n') = 0 := by decide
  rw [filled, List.count_append, List.count_append, before, behind, Nat.zero_add, Nat.add_zero]

/-! ## All values -/

theorem hasLines_outlineMembers
    {entries : List (Text × Value)} {level : Nat} {lines : List Line}
    (success : outlineMembers {} level entries = some lines) :
    HasLines lines entries.length (keyBreaks entries) := by
  induction entries generalizing lines with
  | nil =>
      cases success
      exact .nil
  | cons entry rest induction =>
      rcases entry with ⟨key, v⟩
      simp only [outlineMembers, Option.bind_eq_bind, Option.bind_eq_some_iff] at success
      rcases success with ⟨name, nameEq, more, moreEq, equal⟩
      cases equal
      have first := hasLines_memberOf level (count_lineFeed_memberType v) nameEq
      have both := first.append (induction moreEq)
      rw [Nat.add_comm 1] at both
      exact both

/-- The collection member of a wrapper class takes one line. -/
theorem hasLines_collection
    {element : Text} (level : Nat)
    (uncut : element.count (.char '\n') = 0) :
    HasLines [outlineMember (TypeNames.collectionOf {} element) "Items" level] 1 0 := by
  have items : (Text.ofString "Items").count (.char '\n') = 0 := by decide
  have member := hasLines_member (TypeNames.collectionOf {} element) "Items" level
  rw [count_lineFeed_collectionOf, uncut, items] at member
  exact member

/-- A constructor and the collection that it makes take seven lines. -/
theorem hasLines_collectionLines
    {name element : Text} (level : Nat)
    (uncut : name.count (.char '\n') = 0)
    (elementUncut : element.count (.char '\n') = 0) :
    HasLines (collectionLines name (TypeNames.collectionOf {} element) level) 7 0 := by
  have keyword : (Text.ofString "public ").count (.char '\n') = 0 := by decide
  have parentheses : (Text.ofString "()").count (.char '\n') = 0 := by decide
  have before : (Text.ofString "Items = new ").count (.char '\n') = 0 := by decide
  have behind : (Text.ofString "();").count (.char '\n') = 0 := by decide
  have constructor :
      IsDeclarationLine (Text.ofString "public " ++ name ++ Text.ofString "()") := by
    simpa using IsDeclarationLine.declared (name ++ Text.ofString "()")
  have lines :=
    HasLines.cons level constructor
      (.cons level .opening
        (.cons (level + 1) (.newCollection (TypeNames.collectionOf {} element))
          (.cons level .closing
            (.cons level .empty
              ((hasLines_collection level elementUncut).append
                (.cons level .empty .nil))))))
  simp only [List.count_append, keyword, parentheses, before, behind, uncut,
    count_lineFeed_collectionOf, elementUncut] at lines
  exact lines

theorem hasLines_outlineItems
    {name : Text} {items : List Value} {level : Nat} {lines : List Line} (seed : Value)
    (uncut : name.count (.char '\n') = 0)
    (success : outlineItems {} name (level + 1) items = some lines) :
    HasLines (outlineClass name level lines) (lineCount (.array items))
      (memberBreaks (.array items) seed) := by
  have plain (v : Value) :
      HasLines (outlineClass name level
        [outlineMember (TypeNames.collectionOf {} (TypeNames.memberType {} v)) "Items" (level + 1)])
        4 0 :=
    hasLines_class level uncut (hasLines_collection (level + 1) (count_lineFeed_memberType v))
  cases items with
  | nil =>
      cases success
      exact plain .null
  | cons sample rest =>
      cases sample with
      | object entries =>
          simp only [outlineItems, Option.bind_eq_bind, Option.bind_eq_some_iff] at success
          rcases success with ⟨members, membersEq, equal⟩
          cases equal
          have suffix : (Text.ofString "Item").count (.char '\n') = 0 := by decide
          have itemUncut : (name ++ Text.ofString "Item").count (.char '\n') = 0 := by
            rw [List.count_append, uncut, suffix]
          have body :=
            (hasLines_collectionLines (level + 1) uncut itemUncut).append
              (hasLines_class (level + 1) itemUncut (hasLines_outlineMembers membersEq))
          have number : 7 + (entries.length + 3) + 3 = entries.length + 13 := by omega
          have wrapped := hasLines_class level uncut body
          rw [number, Nat.zero_add] at wrapped
          exact wrapped
      | _ =>
          cases success
          exact plain _

mutual

theorem hasLines_outline
    {level : Nat} {lines : List Line}
    (v seed : Value)
    (success : outline {} v seed level = some lines) :
    HasLines lines (lineCount v) (memberBreaks v seed) := by
  cases v with
  | object entries =>
      simp only [outline, Option.bind_eq_bind, Option.bind_eq_some_iff] at success
      rcases success with ⟨name, nameEq, body, bodyEq, equal⟩
      cases equal
      exact hasLines_class level (count_lineFeed_of_typeName nameEq)
        (hasLines_outlineEntries entries bodyEq)
  | array items =>
      simp only [outline, Option.bind_eq_bind, Option.bind_eq_some_iff] at success
      rcases success with ⟨name, nameEq, body, bodyEq, equal⟩
      cases equal
      exact hasLines_outlineItems seed (count_lineFeed_of_typeName nameEq) bodyEq
  | _ =>
      simp only [outline, Option.bind_eq_bind, Option.bind_eq_some_iff] at success
      rcases success with ⟨name, nameEq, equal⟩
      cases equal
      exact hasLines_memberOf level (count_lineFeed_memberType _) nameEq

theorem hasLines_outlineEntries
    {level : Nat} {lines : List Line}
    (entries : List (Text × Value))
    (success : outlineEntries {} entries level = some lines) :
    HasLines lines (lineCountEntries entries) (memberBreaksEntries entries) := by
  cases entries with
  | nil =>
      cases success
      exact .nil
  | cons entry rest =>
      rcases entry with ⟨key, v⟩
      simp only [outlineEntries, Option.bind_eq_bind, Option.bind_eq_some_iff] at success
      rcases success with ⟨first, firstEq, more, moreEq, equal⟩
      cases equal
      exact (hasLines_outline v (.text key) firstEq).append (hasLines_outlineEntries rest moreEq)

end

/-! ## Rendered lines -/

theorem render_eq_replicate
    (indent : Nat) (line : Line) :
    ∃ blanks, Line.render indent line = List.replicate blanks (.char ' ') ++ line.text := by
  rcases line with ⟨level, text⟩
  cases text with
  | nil =>
      exact ⟨0, rfl⟩
  | cons c rest =>
      exact ⟨indent * level, rfl⟩

theorem count_render
    (indent : Nat) (line : Line) :
    (Line.render indent line).count (.char '\n') = line.text.count (.char '\n') := by
  rcases render_eq_replicate indent line with ⟨blanks, equal⟩
  rw [equal, List.count_append, List.count_replicate, if_neg (by decide), Nat.zero_add]

theorem count_renderAll
    {lines : List Line} (indent : Nat)
    (nonempty : lines ≠ []) :
    (Line.renderAll indent lines).count (.char '\n') + 1 =
      (lines.flatMap Line.text).count (.char '\n') + lines.length := by
  have rendered : lines.map (Line.render indent) ≠ [] := by
    simpa using nonempty
  have padding :
      (lines.map (Line.render indent)).flatten.count (.char '\n') =
        (lines.flatMap Line.text).count (.char '\n') := by
    clear nonempty rendered
    induction lines with
    | nil =>
        rfl
    | cons line rest induction =>
        rw [List.map_cons, List.flatten_cons, List.count_append, induction, count_render,
          List.flatMap_cons, List.count_append]
  calc
    (Line.renderAll indent lines).count (.char '\n') + 1 =
        (lines.map (Line.render indent)).flatten.count (.char '\n') +
          (lines.map (Line.render indent)).length :=
      Text.count_join _ rendered
    _ = (lines.flatMap Line.text).count (.char '\n') + lines.length := by
      rw [padding, List.length_map]

/-- Lines whose texts hold no line feed are what their rendering is cut into. -/
theorem splitOn_renderAll
    {lines : List Line} (indent : Nat)
    (nonempty : lines ≠ [])
    (uncut : (lines.flatMap Line.text).count (.char '\n') = 0) :
    (Line.renderAll indent lines).splitOn (.char '\n') = lines.map (Line.render indent) := by
  have rendered : lines.map (Line.render indent) ≠ [] := by
    simpa using nonempty
  have whole :
      ∀ text ∈ lines.map (Line.render indent), text.splitOn (.char '\n') = [text] := by
    intro text member
    rcases List.mem_map.mp member with ⟨line, lineMember, rfl⟩
    apply Text.splitOn_of_count_eq_zero
    rw [count_render, List.count_eq_zero]
    intro lineFeed
    exact List.count_eq_zero.mp uncut (List.mem_flatMap.mpr ⟨line, lineMember, lineFeed⟩)
  calc
    (Line.renderAll indent lines).splitOn (.char '\n') =
        (lines.map (Line.render indent)).flatMap (Text.splitOn (.char '\n')) :=
      Text.splitOn_join _ rendered
    _ = (lines.map (Line.render indent)).flatMap (fun text => [text]) :=
      List.flatMap_congr whole
    _ = lines.map (Line.render indent) := by
      simp

/--
With the default types, generated code has a number of lines that depends on the kinds of the values
only, and one more for each line feed in a seed that a member is named after.  If there is no such
line feed, each line has one of the forms of a line of code behind its blanks.
-/
theorem length_splitOn_generate
    {settings : Settings} {v seed : Value} {text : Text}
    (defaultTypes : settings.types = {})
    (success : generate settings v seed = .ok text) :
    (text.splitOn (.char '\n')).length = lineCount v + memberBreaks v seed ∧
      (memberBreaks v seed = 0 →
        ∀ line ∈ text.splitOn (.char '\n'),
          IsDeclarationLine (line.dropWhile (· = .char ' '))) := by
  have rendered := outline_map_renderAll success
  rw [defaultTypes] at rendered
  rcases Option.map_eq_some_iff.mp rendered with ⟨lines, linesEq, rfl⟩
  have hasLines := hasLines_outline v seed linesEq
  have nonempty : lines ≠ [] := by
    rintro rfl
    exact absurd hasLines.length (Nat.ne_of_lt (lineCount_pos v))
  constructor
  · rw [Text.length_splitOn, count_renderAll settings.indent nonempty, hasLines.length,
      hasLines.breaks, Nat.add_comm]
  · intro uncut line member
    rw [splitOn_renderAll settings.indent nonempty (hasLines.breaks.trans uncut)] at member
    rcases List.mem_map.mp member with ⟨plain, plainMember, rfl⟩
    have form := hasLines.form plain plainMember
    rcases render_eq_replicate settings.indent plain with ⟨blanks, equal⟩
    rw [equal, form.dropWhile_blanks]
    exact form

/-- Line feeds in the name of a class and in a key below an item add no line. -/
theorem length_splitOn_generate_rows :
    ∃ text,
      generate { indent := 1, maxDepth := some 2 }
          (.object [("row\ns", .array [.object [("cells", .object [("\n", .null)])]]),
            ("\nto", .object [("zip", .text "\n")])])
          (.text "R") = .ok text ∧
        (text.splitOn (.char '\n')).length = 21 ∧
        ∀ line ∈ text.splitOn (.char '\n'), IsDeclarationLine (line.dropWhile (· = .char ' ')) := by
  have success :
      generate { indent := 1, maxDepth := some 2 }
          (.object [("row\ns", .array [.object [("cells", .object [("\n", .null)])]]),
            ("\nto", .object [("zip", .text "\n")])])
          (.text "R") =
        .ok (Text.join "\n"
          ["public class R",
            "\x7b",
            " public class rows",
            " \x7b",
            "  public rows()",
            "  \x7b",
            "   Items = new List<rowsItem>();",
            "  \x7d",
            "",
            "  public List<rowsItem> Items \x7b get; set; \x7d",
            "",
            "  public class rowsItem",
            "  \x7b",
            "   public object cells \x7b get; set; \x7d",
            "  \x7d",
            " \x7d",
            " public class to",
            " \x7b",
            "  public string zip \x7b get; set; \x7d",
            " \x7d",
            "\x7d"]) := by
    rfl
  rcases length_splitOn_generate rfl success with ⟨length, forms⟩
  exact ⟨_, success, length, forms (by decide)⟩

/-- A line feed in the name of a member adds a line, which may have any form. -/
theorem generate_cuts_member :
    ∃ text,
      generate {} (.object [("a\nb", .null)]) (.text "R") = .ok text ∧
        (text.splitOn (.char '\n')).length ≠ lineCount (.object [("a\nb", .null)]) ∧
        ∃ line ∈ text.splitOn (.char '\n'),
          ¬ IsDeclarationLine (line.dropWhile (· = .char ' ')) := by
  have success :
      generate {} (.object [("a\nb", .null)]) (.text "R") =
        .ok (Text.join "\n"
          ["public class R",
            "\x7b",
            "    public object a",
            "b \x7b get; set; \x7d",
            "\x7d"]) := by
    rfl
  refine ⟨_, success, by decide, "b \x7b get; set; \x7d", by decide, ?_⟩
  intro form
  generalize cut : List.dropWhile _ _ = line at form
  cases form <;> exact absurd cut (by simp [Text.ofString])

end Declaration

end Shapewright
