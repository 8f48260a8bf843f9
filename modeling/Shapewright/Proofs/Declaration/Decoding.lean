import Shapewright.Proofs.Declaration.Skeleton

/-!
# Decoding generated text

With the default type names, generated text determines the skeleton that it was generated from, even
though a member name may hold line feeds, braces and semicolons, and a class may be called `class`.

The reason is that a name never holds the code point that ends it: no name holds a space, and no
type name holds a line feed.  So a text is read from the left.  Behind the blanks of its level and
the word `public`, the next word tells a member from a class and a collection member from a
constructor, and where the lines of one skeleton end, those of the next one or a closing brace
begin.
-/

namespace Shapewright.Declaration

/-! ## Delimited words -/

/-- Two words end together if neither holds the code point that ends the other one. -/
theorem delimited_injective
    {word other rest more : Text} {delimiter ending : CodePoint}
    (left : ending ∉ word)
    (right : delimiter ∉ other)
    (equal : word ++ delimiter :: rest = other ++ ending :: more) :
    word = other ∧ delimiter = ending ∧ rest = more := by
  induction word generalizing other with
  | nil =>
      cases other with
      | nil =>
          simpa using equal
      | cons c others =>
          simp only [List.nil_append, List.cons_append, List.cons.injEq] at equal
          exact absurd (equal.1 ▸ List.mem_cons_self) right
  | cons c word induction =>
      cases other with
      | nil =>
          simp only [List.nil_append, List.cons_append, List.cons.injEq] at equal
          exact absurd (equal.1 ▸ List.mem_cons_self) left
      | cons d other =>
          simp only [List.cons_append, List.cons.injEq] at equal
          have tails :=
            induction (fun member => left (List.mem_cons_of_mem c member))
              (fun member => right (List.mem_cons_of_mem d member)) equal.2
          exact ⟨by rw [equal.1, tails.1], tails.2⟩

/-- A code that is cancelled from the left along with the value that it stands for. -/
def Cancels {α : Type} (encode : α → Text) (value : α) : Prop :=
  ∀ other rest more,
    encode value ++ rest = encode other ++ more → value = other ∧ rest = more

/-- A list of codes is cancelled up to what ends it, if no code looks like the end. -/
theorem flatMap_cancels
    {α : Type} {encode : α → Text} {values others : List α} {ending rest more : Text}
    (elements : ∀ value ∈ values, Cancels encode value)
    (distinct : ∀ value further final, encode value ++ further ≠ ending ++ final)
    (equal :
      values.flatMap encode ++ (ending ++ rest) = others.flatMap encode ++ (ending ++ more)) :
    values = others ∧ rest = more := by
  induction values generalizing others with
  | nil =>
      cases others with
      | nil =>
          exact ⟨rfl, List.append_cancel_left equal⟩
      | cons other others =>
          rw [List.flatMap_cons, List.append_assoc] at equal
          exact absurd equal.symm (distinct other _ rest)
  | cons value values induction =>
      cases others with
      | nil =>
          rw [List.flatMap_cons, List.append_assoc] at equal
          exact absurd equal (distinct value _ more)
      | cons other others =>
          simp only [List.flatMap_cons, List.append_assoc] at equal
          rcases elements value List.mem_cons_self _ _ _ equal with ⟨head, equal⟩
          rcases
              induction (fun value member => elements value (List.mem_cons_of_mem _ member))
                equal with
            ⟨tail, ends⟩
          exact ⟨by rw [head, tail], ends⟩

/-! ## Lines as text -/

/-- The text of lines, each ended by a line feed. -/
def code (indent : Nat) (lines : List Line) : Text :=
  lines.flatMap fun line => line.render indent ++ Text.ofString "\n"

theorem code_append
    (indent : Nat) (lines more : List Line) :
    code indent (lines ++ more) = code indent lines ++ code indent more :=
  List.flatMap_append

theorem code_cons
    (indent : Nat) (line : Line) (lines : List Line) :
    code indent (line :: lines) =
      line.render indent ++ (Text.ofString "\n" ++ code indent lines) := by
  rw [code, List.flatMap_cons, List.append_assoc]
  rfl

theorem renderAll_append_lineFeed
    {indent : Nat} {lines : List Line}
    (nonempty : lines ≠ []) :
    Line.renderAll indent lines ++ Text.ofString "\n" = code indent lines := by
  induction lines with
  | nil =>
      exact absurd rfl nonempty
  | cons line rest induction =>
      cases rest with
      | nil =>
          rw [code_cons]
          rfl
      | cons next others =>
          rw [code_cons, ← induction (by simp)]
          simp [Line.renderAll, Text.join]

/-- The start of a declaration: a word behind `public`, the code point that ends the word, and what
follows. -/
def opening (indent level : Nat) (word : Text) (delimiter : CodePoint) (tail : Text) : Text :=
  blanks indent level ++ (Text.ofString "public " ++ (word ++ delimiter :: tail))

/-- The end of a class. -/
def closing (indent level : Nat) : Text :=
  blanks indent level ++ Text.ofString "\x7d\n"

theorem opening_injective
    {indent level : Nat} {word other tail more : Text} {delimiter ending : CodePoint}
    (left : ending ∉ word)
    (right : delimiter ∉ other)
    (equal : opening indent level word delimiter tail = opening indent level other ending more) :
    word = other ∧ delimiter = ending ∧ tail = more :=
  delimited_injective left right (List.append_cancel_left (List.append_cancel_left equal))

/-- No declaration in a class starts like the end of the class. -/
theorem opening_ne_closing
    (indent level : Nat) (word : Text) (delimiter : CodePoint) (tail rest : Text) :
    opening indent (level + 1) word delimiter tail ≠ closing indent level ++ rest := by
  intro equal
  rw [opening, closing, blanks_succ, List.append_assoc, List.append_assoc] at equal
  have behind := List.append_cancel_left equal
  -- The brace would have to be a blank, or the first letter of `public` if there is no indentation.
  have first := congrArg List.head? behind
  cases indent <;> cases first

theorem code_outlineMember
    (indent level : Nat) (declaredType name rest : Text) :
    code indent [outlineMember declaredType name level] ++ rest =
      opening indent level declaredType (.char ' ')
        (name ++ .char ' ' :: (Text.ofString "\x7b get; set; \x7d\n" ++ rest)) := by
  rw [code_cons, outlineMember, render_eq indent level (by simp [Text.ofString])]
  simp [opening, code, Text.ofString]

theorem code_outlineClass
    (indent level : Nat) (name : Text) (body : List Line) (rest : Text) :
    code indent (outlineClass name level body) ++ rest =
      opening indent level (Text.ofString "class") (.char ' ')
        (name ++ .char '\n' :: (blanks indent level ++ (Text.ofString "\x7b\n" ++
          (code indent body ++ (closing indent level ++ rest))))) := by
  rw [outlineClass, code_cons, code_cons, code_append, code_cons,
    render_eq indent level (by simp [Text.ofString]),
    render_eq indent level (by simp [Text.ofString]),
    render_eq indent level (by simp [Text.ofString])]
  simp [opening, closing, code, Text.ofString]

/-- Classes are cancelled from the left up to their bodies. -/
theorem code_outlineClass_cancel
    {indent level : Nat} {name other rest more : Text} {body lines : List Line}
    (left : .char '\n' ∉ name)
    (right : .char '\n' ∉ other)
    (equal :
      code indent (outlineClass name level body) ++ rest =
        code indent (outlineClass other level lines) ++ more) :
    name = other ∧
      code indent body ++ (closing indent level ++ rest) =
        code indent lines ++ (closing indent level ++ more) := by
  rw [code_outlineClass, code_outlineClass] at equal
  rcases opening_injective (by decide) (by decide) equal with ⟨_, _, names⟩
  rcases delimited_injective left right names with ⟨nameEq, _, bodies⟩
  exact ⟨nameEq, List.append_cancel_left (List.append_cancel_left bodies)⟩

/-! ## The words behind `public` -/

/-- A word without a space and without a line feed. -/
def Undelimited (word : Text) : Prop := .char ' ' ∉ word ∧ .char '\n' ∉ word

instance (word : Text) : Decidable (Undelimited word) :=
  inferInstanceAs (Decidable (_ ∧ _))

theorem Undelimited.append
    {word more : Text}
    (left : Undelimited word)
    (right : Undelimited more) :
    Undelimited (word ++ more) :=
  ⟨fun member => (List.mem_append.mp member).elim left.1 right.1,
    fun member => (List.mem_append.mp member).elim left.2 right.2⟩

theorem typeName_undelimited
    (name : typeNameRule.Name) :
    Undelimited name.text :=
  ⟨name.notMem_of_drops (by decide), name.notMem_of_drops (by decide)⟩

/-- The default type of a collection of members of a kind. -/
def collectionWord (kind : MemberKind) : Text :=
  TypeNames.collectionOf {} (TypeNames.typeOf {} kind)

theorem typeOf_injective
    {kind second : MemberKind}
    (equal : TypeNames.typeOf {} kind = TypeNames.typeOf {} second) :
    kind = second := by
  revert equal
  cases kind <;> cases second <;> decide

theorem collectionWord_injective
    {kind second : MemberKind}
    (equal : collectionWord kind = collectionWord second) :
    kind = second := by
  revert equal
  cases kind <;> cases second <;> decide

theorem collectionWord_undelimited
    (kind : MemberKind) :
    Undelimited (collectionWord kind) := by
  cases kind <;> decide

/-- The words that the lines of a skeleton start with, behind `public`. -/
inductive EntryWord : Text → Prop where
  | memberType (kind : MemberKind) : EntryWord (TypeNames.typeOf {} kind)
  | classWord : EntryWord (Text.ofString "class")

/-- The words that the body of a wrapper class starts with, and the code points behind them. -/
inductive SampleWord : Text → CodePoint → Prop where
  | collection (kind : MemberKind) : SampleWord (collectionWord kind) (.char ' ')
  | constructor (name : typeNameRule.Name) :
      SampleWord (name.text ++ Text.ofString "()") (.char '\n')

theorem EntryWord.undelimited
    {word : Text}
    (entry : EntryWord word) :
    Undelimited word := by
  cases entry with
  | memberType kind =>
      cases kind <;> decide
  | classWord =>
      decide

theorem EntryWord.ne_collectionWord
    {word : Text}
    (entry : EntryWord word) (kind : MemberKind) :
    word ≠ collectionWord kind := by
  cases entry with
  | memberType second =>
      cases second <;> cases kind <;> decide
  | classWord =>
      cases kind <;> decide

theorem SampleWord.undelimited
    {word : Text} {delimiter : CodePoint}
    (sample : SampleWord word delimiter) :
    Undelimited word := by
  cases sample with
  | collection kind =>
      exact collectionWord_undelimited kind
  | constructor name =>
      exact (typeName_undelimited name).append (by decide)

/-- Collection members and constructors differ in what ends their first word. -/
theorem opening_collection_ne_constructor
    (indent level : Nat) (kind : MemberKind) (name : typeNameRule.Name) (tail more : Text) :
    opening indent level (collectionWord kind) (.char ' ') tail ≠
      opening indent level (name.text ++ Text.ofString "()") (.char '\n') more := by
  intro equal
  have words :=
    opening_injective (SampleWord.collection kind).undelimited.2
      (SampleWord.constructor name).undelimited.1 equal
  cases words.2.1

/-- The body of a wrapper class differs in its first word from every entry of an object. -/
theorem opening_entry_ne_sample
    {word first : Text} {delimiter : CodePoint}
    (indent level : Nat) (tail more : Text)
    (entry : EntryWord word)
    (sample : SampleWord first delimiter) :
    opening indent level word (.char ' ') tail ≠ opening indent level first delimiter more := by
  intro equal
  cases sample with
  | collection kind =>
      have words :=
        opening_injective entry.undelimited.1 (SampleWord.collection kind).undelimited.1 equal
      exact entry.ne_collectionWord kind words.1
  | constructor name =>
      have words :=
        opening_injective entry.undelimited.2 (SampleWord.constructor name).undelimited.1 equal
      cases words.2.1

/-! ## Members and samples -/

/-- The lines of a member, as text. -/
def memberCode (indent level : Nat) (member : memberNameRule.Name × MemberKind) : Text :=
  code indent [outlineMember (TypeNames.typeOf {} member.2) member.1.text level]

theorem memberCode_cancels
    (indent level : Nat) (member : memberNameRule.Name × MemberKind) :
    Cancels (memberCode indent level) member := by
  rcases member with ⟨name, kind⟩
  rintro ⟨secondName, secondKind⟩ rest more equal
  simp only [memberCode, code_outlineMember] at equal
  rcases opening_injective (EntryWord.memberType kind).undelimited.1
      (EntryWord.memberType secondKind).undelimited.1 equal with
    ⟨kindEq, _, names⟩
  rcases delimited_injective (name.notMem_of_drops (by decide))
      (secondName.notMem_of_drops (by decide)) names with
    ⟨nameEq, _, ends⟩
  have sameKind := typeOf_injective kindEq
  have sameName := NameRule.Name.ext nameEq
  exact ⟨by rw [sameKind, sameName], List.append_cancel_left ends⟩

theorem memberCode_ne_closing
    (indent level : Nat) (member : memberNameRule.Name × MemberKind) (rest more : Text) :
    memberCode indent (level + 1) member ++ rest ≠ closing indent level ++ more := by
  rw [memberCode, code_outlineMember]
  exact opening_ne_closing indent level _ _ _ more

/-- Members and classes differ in their first word. -/
theorem memberCode_ne_classCode
    (indent level : Nat) (member : memberNameRule.Name × MemberKind) (name : Text)
    (body : List Line) (rest more : Text) :
    memberCode indent level member ++ rest ≠
      code indent (outlineClass name level body) ++ more := by
  rw [memberCode, code_outlineMember, code_outlineClass]
  intro equal
  have words :=
    opening_injective (EntryWord.memberType member.2).undelimited.1
      EntryWord.classWord.undelimited.1 equal
  have different : TypeNames.typeOf {} member.2 ≠ Text.ofString "class" := by
    cases member.2 <;> decide
  exact different words.1

theorem code_memberLines
    (indent level : Nat) (members : List (memberNameRule.Name × MemberKind)) :
    code indent (memberLines {} level members) = members.flatMap (memberCode indent level) := by
  induction members with
  | nil =>
      rfl
  | cons member rest induction =>
      rw [List.flatMap_cons, ← induction, memberCode, ← code_append]
      rfl

theorem code_sampleLines_scalar
    (indent level : Nat) (name : Text) (kind : MemberKind) (rest : Text) :
    code indent (sampleLines {} name level (.scalar kind)) ++ rest =
      opening indent level (collectionWord kind) (.char ' ')
        (Text.ofString "Items \x7b get; set; \x7d\n" ++ rest) := by
  rw [sampleLines, code_outlineMember]
  rfl

theorem code_sampleLines_object
    (indent level : Nat) (name : Text) (members : List (memberNameRule.Name × MemberKind))
    (rest : Text) :
    ∃ tail,
      code indent (sampleLines {} name level (.object members)) ++ rest =
        opening indent level (name ++ Text.ofString "()") (.char '\n') tail := by
  rw [sampleLines, code_append, collectionLines, code_cons,
    render_eq indent level (by simp [Text.ofString])]
  simp only [opening, List.append_assoc]
  exact ⟨_, rfl⟩

theorem exists_opening_sampleLines
    (indent level : Nat) (name : typeNameRule.Name) (sample : Sample) (rest : Text) :
    ∃ word delimiter tail,
      SampleWord word delimiter ∧
        code indent (sampleLines {} name.text level sample) ++ rest =
          opening indent level word delimiter tail := by
  cases sample with
  | scalar kind =>
      exact
        ⟨_, _, _, .collection kind, code_sampleLines_scalar indent level name.text kind rest⟩
  | object members =>
      rcases code_sampleLines_object indent level name.text members rest with ⟨tail, equal⟩
      exact ⟨_, _, tail, .constructor name, equal⟩

theorem sampleLines_cancels
    (indent level : Nat) (name : typeNameRule.Name) (sample : Sample) :
    Cancels (fun sample => code indent (sampleLines {} name.text level sample)) sample := by
  intro other rest more equal
  cases sample with
  | scalar kind =>
      cases other with
      | scalar second =>
          simp only [code_sampleLines_scalar] at equal
          rcases opening_injective (collectionWord_undelimited kind).1
              (collectionWord_undelimited second).1 equal with
            ⟨kindEq, _, ends⟩
          exact ⟨by rw [collectionWord_injective kindEq], List.append_cancel_left ends⟩
      | object members =>
          rcases code_sampleLines_object indent level name.text members more with
            ⟨tail, objectCode⟩
          simp only [code_sampleLines_scalar, objectCode] at equal
          exact absurd equal (opening_collection_ne_constructor indent level kind name _ tail)
  | object members =>
      cases other with
      | scalar kind =>
          rcases code_sampleLines_object indent level name.text members rest with
            ⟨tail, objectCode⟩
          simp only [code_sampleLines_scalar, objectCode] at equal
          exact absurd equal.symm
            (opening_collection_ne_constructor indent level kind name _ tail)
      | object others =>
          -- Both wrappers have the same name, so their constructors are the same text.
          simp only [sampleLines, code_append, List.append_assoc] at equal
          have itemName : Undelimited (name.text ++ Text.ofString "Item") :=
            (typeName_undelimited name).append (by decide)
          rcases code_outlineClass_cancel itemName.2 itemName.2 (List.append_cancel_left equal) with
            ⟨_, bodies⟩
          rw [code_memberLines, code_memberLines] at bodies
          rcases flatMap_cancels (fun member _ => memberCode_cancels indent (level + 1) member)
              (memberCode_ne_closing indent level) bodies with
            ⟨membersEq, ends⟩
          exact ⟨by rw [membersEq], ends⟩

/-! ## Skeletons -/

/-- The lines of a skeleton, as text. -/
def skeletonCode (indent level : Nat) (skeleton : Skeleton) : Text :=
  code indent (skeletonLines {} level skeleton)

theorem code_skeletonsLines
    (indent level : Nat) (skeletons : List Skeleton) :
    code indent (skeletonsLines {} level skeletons) =
      skeletons.flatMap (skeletonCode indent level) := by
  rw [skeletonsLines_eq_flatMap, code, List.flatMap_assoc]
  rfl

theorem exists_opening_skeletonCode
    (indent level : Nat) (skeleton : Skeleton) (rest : Text) :
    ∃ word tail,
      EntryWord word ∧
        skeletonCode indent level skeleton ++ rest =
          opening indent level word (.char ' ') tail := by
  cases skeleton with
  | member name kind =>
      exact ⟨_, _, .memberType kind, code_outlineMember indent level _ _ rest⟩
  | object name entries =>
      exact ⟨_, _, .classWord, code_outlineClass indent level _ _ rest⟩
  | array name sample =>
      exact ⟨_, _, .classWord, code_outlineClass indent level _ _ rest⟩

theorem skeletonCode_ne_closing
    (indent level : Nat) (skeleton : Skeleton) (rest more : Text) :
    skeletonCode indent (level + 1) skeleton ++ rest ≠ closing indent level ++ more := by
  rcases exists_opening_skeletonCode indent (level + 1) skeleton rest with
    ⟨word, tail, _, equal⟩
  rw [equal]
  exact opening_ne_closing indent level _ _ _ more

/-- The body of an object's class is not the body of a wrapper class. -/
theorem skeletonsCode_ne_sampleLines
    (indent level : Nat) (skeletons : List Skeleton) (name : typeNameRule.Name) (sample : Sample)
    (rest more : Text) :
    code indent (skeletonsLines {} (level + 1) skeletons) ++ (closing indent level ++ rest) ≠
      code indent (sampleLines {} name.text (level + 1) sample) ++ more := by
  rcases exists_opening_sampleLines indent (level + 1) name sample more with
    ⟨first, delimiter, tail, isSample, sampleCode⟩
  rw [sampleCode, code_skeletonsLines]
  cases skeletons with
  | nil =>
      exact (opening_ne_closing indent level first delimiter tail rest).symm
  | cons skeleton others =>
      rw [List.flatMap_cons, List.append_assoc]
      rcases exists_opening_skeletonCode indent (level + 1) skeleton _ with
        ⟨word, entryTail, isEntry, entryCode⟩
      rw [entryCode]
      exact opening_entry_ne_sample indent (level + 1) entryTail tail isEntry isSample

mutual

/-- A text determines the skeleton that its first lines are written from, and what follows them. -/
theorem skeletonCode_cancels
    (indent level : Nat) (skeleton : Skeleton) :
    Cancels (skeletonCode indent level) skeleton := by
  intro other rest more equal
  cases skeleton with
  | member name kind =>
      cases other with
      | member secondName secondKind =>
          rcases
              memberCode_cancels indent level (name, kind) (secondName, secondKind) rest more
                equal with
            ⟨members, ends⟩
          cases members
          exact ⟨rfl, ends⟩
      | object secondName entries =>
          exact absurd equal (memberCode_ne_classCode indent level (name, kind) _ _ rest more)
      | array secondName sample =>
          exact absurd equal (memberCode_ne_classCode indent level (name, kind) _ _ rest more)
  | object name entries =>
      cases other with
      | member secondName secondKind =>
          exact absurd equal.symm
            (memberCode_ne_classCode indent level (secondName, secondKind) _ _ more rest)
      | object secondName others =>
          rcases code_outlineClass_cancel (typeName_undelimited name).2
              (typeName_undelimited secondName).2 equal with
            ⟨nameEq, bodies⟩
          rw [code_skeletonsLines, code_skeletonsLines] at bodies
          rcases flatMap_cancels (entryCodes_cancel indent (level + 1) entries)
              (skeletonCode_ne_closing indent level) bodies with
            ⟨entriesEq, ends⟩
          exact ⟨by rw [NameRule.Name.ext nameEq, entriesEq], ends⟩
      | array secondName sample =>
          rcases code_outlineClass_cancel (typeName_undelimited name).2
              (typeName_undelimited secondName).2 equal with
            ⟨_, bodies⟩
          exact absurd bodies
            (skeletonsCode_ne_sampleLines indent level entries secondName sample rest _)
  | array name sample =>
      cases other with
      | member secondName secondKind =>
          exact absurd equal.symm
            (memberCode_ne_classCode indent level (secondName, secondKind) _ _ more rest)
      | object secondName entries =>
          rcases code_outlineClass_cancel (typeName_undelimited name).2
              (typeName_undelimited secondName).2 equal with
            ⟨_, bodies⟩
          exact absurd bodies.symm
            (skeletonsCode_ne_sampleLines indent level entries name sample more _)
      | array secondName secondSample =>
          rcases code_outlineClass_cancel (typeName_undelimited name).2
              (typeName_undelimited secondName).2 equal with
            ⟨nameEq, bodies⟩
          cases NameRule.Name.ext nameEq
          rcases sampleLines_cancels indent (level + 1) name sample secondSample _ _ bodies with
            ⟨sampleEq, ends⟩
          exact ⟨by rw [sampleEq], List.append_cancel_left ends⟩

theorem entryCodes_cancel
    (indent level : Nat) (skeletons : List Skeleton) :
    ∀ skeleton ∈ skeletons, Cancels (skeletonCode indent level) skeleton := by
  cases skeletons with
  | nil =>
      intro skeleton member
      cases member
  | cons first rest =>
      intro skeleton member
      cases member with
      | head =>
          exact skeletonCode_cancels indent level first
      | tail _ member =>
          exact entryCodes_cancel indent level rest skeleton member

end

/-! ## Generated text -/

/-- Text that is generated with the default type names is the code of the value's skeleton. -/
theorem exists_skeletonCode_of_generate
    {settings : Settings} {v seed : Value} {text : Text}
    (types : settings.types = {})
    (success : generate settings v seed = .ok text) :
    ∃ skeleton, skeleton? v seed = some skeleton ∧
      text ++ Text.ofString "\n" = skeletonCode settings.indent 0 skeleton := by
  have rendered := outline_map_renderAll success
  rw [types, outline_eq_skeleton?, Option.map_map] at rendered
  rcases Option.map_eq_some_iff.mp rendered with ⟨skeleton, skeletonEq, textEq⟩
  refine ⟨skeleton, skeletonEq, ?_⟩
  rw [← textEq]
  apply renderAll_append_lineFeed
  cases skeleton <;> simp [skeletonLines, outlineClass]

/--
With the default type names, two generated texts are equal exactly when the skeletons of the values
are.
-/
theorem generate_eq_iff_skeleton_eq
    {left right : Settings} {v w seed other : Value} {text more : Text}
    (leftSuccess : generate left v seed = .ok text)
    (rightSuccess : generate right w other = .ok more)
    (leftTypes : left.types = {})
    (rightTypes : right.types = {})
    (sameIndent : left.indent = right.indent) :
    ∃ first second,
      skeleton? v seed = some first ∧ skeleton? w other = some second ∧
        (text = more ↔ first = second) := by
  rcases exists_skeletonCode_of_generate leftTypes leftSuccess with
    ⟨first, firstEq, firstCode⟩
  rcases exists_skeletonCode_of_generate rightTypes rightSuccess with
    ⟨second, secondEq, secondCode⟩
  refine ⟨first, second, firstEq, secondEq, ?_⟩
  rw [← sameIndent] at secondCode
  constructor
  · intro equal
    rw [equal, secondCode] at firstCode
    have cancelled :=
      skeletonCode_cancels left.indent 0 first second [] [] (by rw [firstCode])
    exact cancelled.1
  · intro equal
    rw [equal, ← secondCode] at firstCode
    exact List.append_cancel_right firstCode

/-- A class called `class`, with a member whose name holds a line feed and a brace. -/
theorem generate_eq_iff_skeleton_eq_braces :
    ∃ text more first second,
      generate {} (.object [("a\n\x7d", .null)]) (.text "class") = .ok text ∧
        generate { maxDepth := some 1 } (.object [("a", .null)]) (.text "class") = .ok more ∧
        skeleton? (.object [("a\n\x7d", .null)]) (.text "class") = some first ∧
        skeleton? (.object [("a", .null)]) (.text "class") = some second ∧
        (text = more ↔ first = second) := by
  have leftSuccess :
      generate {} (.object [("a\n\x7d", .null)]) (.text "class") =
        .ok (Text.join "\n"
          ["public class class",
            "\x7b",
            "    public object a",
            "\x7d \x7b get; set; \x7d",
            "\x7d"]) := by
    rfl
  have rightSuccess :
      generate { maxDepth := some 1 } (.object [("a", .null)]) (.text "class") =
        .ok (Text.join "\n"
          ["public class class",
            "\x7b",
            "    public object a \x7b get; set; \x7d",
            "\x7d"]) := by
    rfl
  rcases generate_eq_iff_skeleton_eq leftSuccess rightSuccess rfl rfl rfl with
    ⟨first, second, firstEq, secondEq, iff⟩
  exact ⟨_, _, first, second, leftSuccess, rightSuccess, firstEq, secondEq, iff⟩

end Shapewright.Declaration
