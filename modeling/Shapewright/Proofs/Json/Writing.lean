import Shapewright.Json.Writer
import Shapewright.Proofs.Json.Reading
import Shapewright.Proofs.Text.Plain

/-!
# Writing standard JSON

What is written for a standard value is one of its texts, in every layout, and so it is read back as
that value.  It is plain: all of it is ASCII, and its only control characters are line feeds, which
makes it proof against line ends that are normalized on the way.
-/

namespace Shapewright

/-! ## Digits -/

theorem Text.hex_one
    {n : Nat}
    (small : n < 0x10) :
    Text.hex 1 n = [.char n.digitChar] := by
  simp [Text.hex, Text.padLeft, Text.ofNat, Nat.toDigits_of_lt_base small]

theorem Text.hex_succ
    (length n : Nat) :
    Text.hex (length + 2) n = Text.hex (length + 1) (n / 0x10) ++ [.char (n % 0x10).digitChar] := by
  by_cases small : n < 0x10
  · simp [Text.hex, Text.padLeft, Text.ofNat, Nat.toDigits_of_lt_base small, Nat.div_eq_of_lt small,
      Nat.mod_eq_of_lt small, List.replicate_succ']
  · simp [Text.hex, Text.padLeft, Text.ofNat,
      Nat.toDigits_of_base_le (by decide) (Nat.not_lt.mp small)]

namespace Json

/-- No number is written with a needless zero. -/
theorem isDigits_toDigits
    (n : Nat) :
    IsDigits (Nat.toDigits 10 n) where
  nonempty := Nat.toDigits_ne_nil
  digit := fun _ member => Nat.isDigit_of_mem_toDigits (by decide) (by decide) member
  leading := by
    induction n using Nat.strongRecOn with
    | ind n induction =>
        by_cases small : n < 10
        · rw [Nat.toDigits_of_lt_base small]
          simp
        · have large := Nat.not_lt.mp small
          rw [Nat.toDigits_of_base_le (by decide) large]
          intro leadingZero
          -- The first digit is that of a tenth of the number, and this is no zero.
          rcases List.exists_cons_of_ne_nil (Nat.toDigits_ne_nil (n := n / 10) (b := 10)) with
            ⟨first, rest, tenth⟩
          rw [tenth] at leadingZero
          have zero := induction (n / 10) (by omega) (by rw [tenth]; exact leadingZero)
          have value := Nat.ofDigitChars_ten_toDigits (n := n / 10)
          rw [zero] at value
          change 0 = n / 10 at value
          omega

theorem spellsInteger_ofInt
    (n : Int) :
    SpellsInteger n (Text.ofInt n) := by
  cases n with
  | ofNat n =>
      have spells := SpellsInteger.natural (isDigits_toDigits n)
      rw [Nat.ofDigitChars_ten_toDigits] at spells
      exact spells
  | negSucc n =>
      have spells := SpellsInteger.negative (isDigits_toDigits (n + 1))
      rw [Nat.ofDigitChars_ten_toDigits] at spells
      exact spells

/-! ## Strings -/

theorem escapeUnit_eq
    {n : Nat}
    (small : n < 0x10000) :
    escapeUnit n =
      [.char '\\', .char 'u', .char (n / 0x1000 % 0x10).digitChar,
        .char (n / 0x100 % 0x10).digitChar, .char (n / 0x10 % 0x10).digitChar,
        .char (n % 0x10).digitChar] := by
  have top : n / 0x10 / 0x10 / 0x10 < 0x10 := by omega
  have thousands : n / 0x10 / 0x10 / 0x10 = n / 0x1000 % 0x10 := by omega
  have hundreds : n / 0x10 / 0x10 % 0x10 = n / 0x100 % 0x10 := by omega
  rw [escapeUnit, Text.hex_succ, Text.hex_succ, Text.hex_succ, Text.hex_one top, thousands,
    hundreds]
  rfl

theorem spellsUnit_escapeUnit
    {n : Nat}
    (small : n < 0x10000) :
    SpellsUnit n (escapeUnit n) := by
  rw [escapeUnit_eq small]
  exact .mk List.mem_cons_self List.mem_cons_self List.mem_cons_self List.mem_cons_self

theorem spellsChar_escape
    (c : Char) :
    SpellsChar c (escape (.char c)) := by
  unfold escape
  split
  case h_9 notQuote notBackslash _ _ _ _ _ _ =>
    have bound := toNat_lt_of_char c
    have number : (CodePoint.char c).toNat = c.toNat := rfl
    simp only [number]
    split
    next visible =>
      exact .raw visible.1 (fun same => notQuote (by rw [same]))
        (fun same => notBackslash (by rw [same]))
    next =>
      split
      next small => exact .unit small (spellsUnit_escapeUnit small)
      next large =>
        exact .pair (Nat.not_lt.mp large) (spellsUnit_escapeUnit (by omega))
          (spellsUnit_escapeUnit (by omega))
  all_goals
    next same =>
      cases same
      exact .short (by decide)

theorem spellsChars_escape
    {t : Text}
    (wellFormed : t.isWellFormed = true) :
    SpellsChars t (t.flatMap escape) := by
  induction t with
  | nil =>
      exact .nil
  | cons c rest induction =>
      simp only [Text.isWellFormed, List.all_cons, Bool.and_eq_true] at wellFormed
      cases c with
      | char c =>
          exact .cons (spellsChar_escape c) (induction wellFormed.2)
      | surrogate offset =>
          cases wellFormed.1

theorem spells_writeString
    {t : Text}
    (wellFormed : t.isWellFormed = true) :
    Spells (.text t) (writeString t) :=
  .text (spellsChars_escape wellFormed)

/-! ## Values -/

theorem isSpacing_lineStart
    (layout : Layout) (level : Nat) :
    IsSpacing (lineStart layout level) := by
  cases layout with
  | none =>
      simp [lineStart, IsSpacing]
  | some width =>
      intro c member
      simp only [lineStart, List.mem_cons, List.mem_replicate] at member
      rcases member with rfl | ⟨_, rfl⟩ <;> simp

theorem exists_colon_eq
    (layout : Layout) :
    ∃ space, IsSpacing space ∧ colon layout = .char ':' :: space := by
  cases layout with
  | none =>
      exact ⟨[], by decide, rfl⟩
  | some width =>
      exact ⟨[.char ' '], by decide, rfl⟩

section Layout

variable (layout : Layout) (level : Nat) (v : Value)

theorem writeAt_array
    (rest : List Value) :
    writeAt layout level (.array (v :: rest)) =
      .char '[' ::
        (writeItems layout (level + 1) (v :: rest) ++ lineStart layout level ++ [.char ']']) := by
  simp [writeAt]

theorem writeAt_object
    (entry : Text × Value) (rest : List (Text × Value)) :
    writeAt layout level (.object (entry :: rest)) =
      .char '\x7b' ::
        (writeEntries layout (level + 1) (entry :: rest) ++ lineStart layout level ++
          [.char '\x7d']) := by
  simp [writeAt]

theorem writeItems_cons
    (w : Value) (rest : List Value) :
    writeItems layout level (v :: w :: rest) =
      (lineStart layout level ++ (writeAt layout level v ++ [])) ++
        .char ',' :: writeItems layout level (w :: rest) := by
  simp [writeItems]

theorem writeEntries_cons
    (key : Text) (entry : Text × Value) (rest : List (Text × Value)) :
    writeEntries layout level ((key, v) :: entry :: rest) =
      (lineStart layout level ++ (writeString key ++ [])) ++
        (colon layout ++ (writeAt layout level v ++ [])) ++
          .char ',' :: writeEntries layout level (entry :: rest) := by
  simp [writeEntries]

end Layout

mutual

/-- What is written for a standard value is a text of that value. -/
theorem spells_writeAt
    (layout : Layout) (level : Nat) (v : Value)
    (standard : v.isStandard = true) :
    Spells v (writeAt layout level v) := by
  cases v with
  | null => exact .null
  | boolean b =>
      cases b with
      | true => exact .true
      | false => exact .false
  | integer n => exact .integer (spellsInteger_ofInt n)
  | float x => cases standard
  | text t => exact spells_writeString standard
  | array items =>
      cases items with
      | nil => exact @Spells.emptyArray [] (by decide)
      | cons v rest =>
          rw [writeAt_array]
          exact .array (spellsItems_writeItems layout (level + 1) (v :: rest)
            (lineStart layout level) (List.cons_ne_nil _ _) standard
            (isSpacing_lineStart layout level))
  | object entries =>
      cases entries with
      | nil => exact @Spells.emptyObject [] (by decide)
      | cons entry rest =>
          simp only [Value.isStandard, Bool.and_eq_true] at standard
          rw [writeAt_object]
          exact .object (spellsMembers_writeEntries layout (level + 1) (entry :: rest)
            (lineStart layout level) (List.cons_ne_nil _ _) standard.2
            (isSpacing_lineStart layout level))
  | bytes content => cases standard
  | foreign => cases standard

theorem spellsItems_writeItems
    (layout : Layout) (level : Nat) (items : List Value) (after : Text)
    (nonempty : items ≠ [])
    (standard : Value.areStandard items = true)
    (spacing : IsSpacing after) :
    SpellsItems items (writeItems layout level items ++ after) := by
  have line := isSpacing_lineStart layout level
  cases items with
  | nil => exact absurd rfl nonempty
  | cons v rest =>
      simp only [Value.areStandard, Bool.and_eq_true] at standard
      have spells := spells_writeAt layout level v standard.1
      cases rest with
      | nil =>
          rw [writeItems, List.append_assoc]
          exact .last (.mk line spells spacing)
      | cons w more =>
          rw [writeItems_cons, List.append_assoc, List.cons_append]
          exact .cons (.mk line spells (by decide))
            (spellsItems_writeItems layout level (w :: more) after (List.cons_ne_nil _ _)
              standard.2 spacing)

theorem spellsMembers_writeEntries
    (layout : Layout) (level : Nat) (entries : List (Text × Value)) (after : Text)
    (nonempty : entries ≠ [])
    (standard : Value.haveStandard entries = true)
    (spacing : IsSpacing after) :
    SpellsMembers entries (writeEntries layout level entries ++ after) := by
  have line := isSpacing_lineStart layout level
  have noSpace : IsSpacing [] := by decide
  rcases exists_colon_eq layout with ⟨space, spacingColon, colonEq⟩
  cases entries with
  | nil => exact absurd rfl nonempty
  | cons entry rest =>
      cases entry with
      | mk key v =>
          simp only [Value.haveStandard, Bool.and_eq_true] at standard
          have spells := spells_writeAt layout level v standard.1.2
          have keySpaced :
              SpellsSpaced (.text key) (lineStart layout level ++ (writeString key ++ [])) :=
            .mk line (spells_writeString standard.1.1) noSpace
          cases rest with
          | nil =>
              have members := SpellsMembers.last keySpaced (.mk spacingColon spells spacing)
              simpa [writeEntries, colonEq] using members
          | cons entry more =>
              have members :=
                SpellsMembers.cons keySpaced (.mk spacingColon spells noSpace)
                  (spellsMembers_writeEntries layout level (entry :: more) after
                    (List.cons_ne_nil _ _) standard.2 spacing)
              simpa [writeEntries_cons, colonEq] using members

end

/-- A standard value is read back from what is written for it. -/
theorem read_write
    (layout : Layout) {v : Value}
    (standard : v.isStandard = true)
    (shallow : v.nesting ≤ maxDepth) :
    read (write layout v) = .ok v :=
  read_of_spells (spells_writeAt layout 0 v standard) standard shallow

/-! ## Plain texts -/

theorem digitChar_isPlain :
    ∀ n < 0x10, (CodePoint.char n.digitChar).isPlain = true := by
  decide

theorem escapeUnit_isPlain
    {n : Nat}
    (small : n < 0x10000) :
    (escapeUnit n).isPlain = true := by
  have digit (m : Nat) : (CodePoint.char (m % 0x10).digitChar).isPlain = true :=
    digitChar_isPlain _ (Nat.mod_lt _ (by decide))
  simp only [escapeUnit_eq small, Text.isPlain, List.all_cons, List.all_nil, digit, Bool.and_true]
  decide

theorem escape_isPlain
    (c : Char) :
    (escape (.char c)).isPlain = true := by
  unfold escape
  split
  case h_9 =>
    have bound := toNat_lt_of_char c
    have number : (CodePoint.char c).toNat = c.toNat := rfl
    simp only [number]
    split
    next visible =>
      simp [Text.isPlain, CodePoint.isPlain, number, visible]
    next =>
      split
      next small => exact escapeUnit_isPlain small
      next large =>
        rw [Text.isPlain_append, Bool.and_eq_true]
        exact ⟨escapeUnit_isPlain (by omega), escapeUnit_isPlain (by omega)⟩
  all_goals
    next => decide

theorem ofInt_isPlain
    (n : Int) :
    (Text.ofInt n).isPlain = true := by
  have digits (m : Nat) : (Text.ofNat 10 m).isPlain = true := by
    rw [Text.isPlain, List.all_eq_true]
    intro c member
    rcases List.mem_map.mp member with ⟨digit, digitMember, rfl⟩
    have bounds :=
      toNat_of_isDigit (Nat.isDigit_of_mem_toDigits (by decide) (by decide) digitMember)
    have plain : 0x20 ≤ digit.toNat ∧ digit.toNat < 0x80 := by omega
    simp [CodePoint.isPlain, CodePoint.toNat, plain]
  cases n with
  | ofNat n => exact digits n
  | negSucc n => exact digits (n + 1)

theorem writeString_isPlain
    {t : Text}
    (wellFormed : t.isWellFormed = true) :
    (writeString t).isPlain = true := by
  have escaped : Text.isPlain (t.flatMap escape) = true := by
    rw [Text.isPlain, List.all_flatMap, List.all_eq_true]
    intro c member
    cases c with
    | char c =>
        exact escape_isPlain c
    | surrogate offset =>
        cases List.all_eq_true.mp wellFormed _ member
  rw [writeString, List.cons_append, Text.isPlain_cons, Text.isPlain_append, escaped]
  rfl

theorem lineStart_isPlain
    (layout : Layout) (level : Nat) :
    (lineStart layout level).isPlain = true := by
  cases layout with
  | none =>
      rfl
  | some width =>
      have lineFeed : (CodePoint.char '\n').isPlain = true := by decide
      have space : (CodePoint.char ' ').isPlain = true := by decide
      simp [lineStart, Text.isPlain, lineFeed, space]

theorem colon_isPlain
    (layout : Layout) :
    (colon layout).isPlain = true := by
  cases layout <;> rfl

mutual

/-- What is written for a standard value is plain. -/
theorem writeAt_isPlain
    (layout : Layout) (level : Nat) (v : Value)
    (standard : v.isStandard = true) :
    (writeAt layout level v).isPlain = true := by
  cases v with
  | null => rfl
  | boolean b => cases b <;> rfl
  | integer n => exact ofInt_isPlain n
  | float x => cases standard
  | text t => exact writeString_isPlain standard
  | array items =>
      cases items with
      | nil => rfl
      | cons v rest =>
          have plain := writeItems_isPlain layout (level + 1) (v :: rest) standard
          rw [writeAt_array]
          simp only [Text.isPlain_cons, Text.isPlain_append, plain, lineStart_isPlain]
          rfl
  | object entries =>
      cases entries with
      | nil => rfl
      | cons entry rest =>
          simp only [Value.isStandard, Bool.and_eq_true] at standard
          have plain := writeEntries_isPlain layout (level + 1) (entry :: rest) standard.2
          rw [writeAt_object]
          simp only [Text.isPlain_cons, Text.isPlain_append, plain, lineStart_isPlain]
          rfl
  | bytes content => cases standard
  | foreign => cases standard

theorem writeItems_isPlain
    (layout : Layout) (level : Nat) (items : List Value)
    (standard : Value.areStandard items = true) :
    (writeItems layout level items).isPlain = true := by
  cases items with
  | nil => rfl
  | cons v rest =>
      simp only [Value.areStandard, Bool.and_eq_true] at standard
      have plain := writeAt_isPlain layout level v standard.1
      cases rest with
      | nil =>
          simp [writeItems, plain, lineStart_isPlain]
      | cons w more =>
          have others := writeItems_isPlain layout level (w :: more) standard.2
          have comma : (CodePoint.char ',').isPlain = true := by decide
          simp [writeItems, plain, lineStart_isPlain, others, comma]

theorem writeEntries_isPlain
    (layout : Layout) (level : Nat) (entries : List (Text × Value))
    (standard : Value.haveStandard entries = true) :
    (writeEntries layout level entries).isPlain = true := by
  cases entries with
  | nil => rfl
  | cons entry rest =>
      cases entry with
      | mk key v =>
          simp only [Value.haveStandard, Bool.and_eq_true] at standard
          have plain := writeAt_isPlain layout level v standard.1.2
          have plainKey := writeString_isPlain standard.1.1
          cases rest with
          | nil =>
              simp [writeEntries, plain, lineStart_isPlain, colon_isPlain, plainKey]
          | cons entry more =>
              have others := writeEntries_isPlain layout level (entry :: more) standard.2
              have comma : (CodePoint.char ',').isPlain = true := by decide
              simp [writeEntries, plain, lineStart_isPlain, colon_isPlain, plainKey, others, comma]

end

end Json

end Shapewright
