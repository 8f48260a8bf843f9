import Shapewright.Proofs.Json.Tokens

/-!
# Reading standard JSON

The reader understands every text of a standard value: it gives the value back, with the entries of
objects in the order of the text, and leaves what follows the text.

The proof follows the grammar.  Each rule of the grammar comes with a lemma about the reader at the
start of such a text, whatever follows it up to where a value ends; the fuel that a value takes is
bounded by twice the length of its text.
-/

namespace Shapewright.Json

/-! ## The first character of a value -/

/-- The characters that a value may start with. -/
def startChars : List Char :=
  ['"', '[', '\x7b', 't', 'f', 'n', '-', '0', '1', '2', '3', '4', '5', '6', '7', '8', '9']

theorem mem_startChars_of_isDigit
    {c : Char}
    (digit : c.isDigit = true) :
    c ∈ startChars := by
  have listed : ∀ n < 0x3A, 0x30 ≤ n → Char.ofNat n ∈ startChars := by decide
  have bounds := toNat_of_isDigit digit
  rw [← Char.ofNat_toNat c]
  exact listed c.toNat (by omega) bounds.1

theorem Spells.exists_start
    {v : Value} {t : Text}
    (spells : Spells v t) :
    ∃ c ∈ startChars, ∃ rest, t = .char c :: rest := by
  cases spells with
  | null => exact ⟨'n', by decide, _, rfl⟩
  | true => exact ⟨'t', by decide, _, rfl⟩
  | false => exact ⟨'f', by decide, _, rfl⟩
  | integer spellsInteger =>
      cases spellsInteger with
      | @natural digits isDigits =>
          cases digits with
          | nil =>
              exact absurd rfl isDigits.nonempty
          | cons c rest =>
              exact ⟨c, mem_startChars_of_isDigit (isDigits.digit c List.mem_cons_self), _, rfl⟩
      | negative isDigits => exact ⟨'-', by decide, _, rfl⟩
  | text _ => exact ⟨'"', by decide, _, rfl⟩
  | emptyArray _ => exact ⟨'[', by decide, _, rfl⟩
  | array _ => exact ⟨'[', by decide, _, rfl⟩
  | emptyObject _ => exact ⟨'\x7b', by decide, _, rfl⟩
  | object _ => exact ⟨'\x7b', by decide, _, rfl⟩

/-! ## Values -/

section Rules

variable {fuel depth : Nat} {t left further rest : Text}

/-- The reader skips the spaces in front of a value. -/
theorem readValue_skipSpace
    (fuel depth : Nat) (t : Text) :
    readValue fuel depth (skipSpace t) = readValue fuel depth t := by
  cases fuel with
  | zero =>
      rfl
  | succ fuel =>
      rw [readValue.eq_def, readValue.eq_def]
      simp only [skipSpace_skipSpace]

theorem readItems_skipSpace
    (fuel depth : Nat) (t : Text) :
    readItems fuel depth (skipSpace t) = readItems fuel depth t := by
  cases fuel with
  | zero =>
      rfl
  | succ fuel =>
      rw [readItems.eq_def, readItems.eq_def]
      simp only [readValue_skipSpace]

theorem readMembers_skipSpace
    (fuel depth : Nat) (t : Text) :
    readMembers fuel depth (skipSpace t) = readMembers fuel depth t := by
  cases fuel with
  | zero =>
      rfl
  | succ fuel =>
      rw [readMembers.eq_def, readMembers.eq_def]
      simp only [readValue_skipSpace]

theorem readValue_array
    (notClosed : ∀ tail, skipSpace t ≠ .char ']' :: tail) :
    readValue (fuel + 1) (depth + 1) (.char '[' :: t) =
      (readItems fuel depth t).map fun found => (.array found.1, found.2) := by
  rw [readValue, skipSpace_cons t rfl]
  simp only
  rw [readItems_skipSpace]

theorem readValue_object
    (notClosed : ∀ tail, skipSpace t ≠ .char '\x7d' :: tail) :
    readValue (fuel + 1) (depth + 1) (.char '\x7b' :: t) =
      (readMembers fuel depth t).map fun found =>
        (.object (Value.entriesOf found.1), found.2) := by
  rw [readValue, skipSpace_cons t rfl]
  simp only
  rw [readMembers_skipSpace]

theorem readItems_last
    {v : Value}
    (reading : readValue fuel depth t = .ok (v, left))
    (closed : skipSpace left = .char ']' :: rest) :
    readItems (fuel + 1) depth t = .ok ([v], rest) := by
  rw [readItems, reading]
  simp only [closed]

theorem readItems_cons
    {v : Value}
    (reading : readValue fuel depth t = .ok (v, left))
    (separated : skipSpace left = .char ',' :: further)
    (notClosed : ∀ tail, skipSpace further ≠ .char ']' :: tail) :
    readItems (fuel + 1) depth t =
      (readItems fuel depth further).map fun found => (v :: found.1, found.2) := by
  rw [readItems, reading]
  simp only [separated]
  rw [readItems_skipSpace]

theorem readMembers_last
    {key leftKey further : Text} {v : Value}
    (readingKey : readValue fuel depth t = .ok (.text key, leftKey))
    (colon : skipSpace leftKey = .char ':' :: further)
    (reading : readValue fuel depth further = .ok (v, left))
    (closed : skipSpace left = .char '\x7d' :: rest) :
    readMembers (fuel + 1) depth t = .ok ([(key, v)], rest) := by
  rw [readMembers, readingKey]
  simp only [colon, reading, closed]

theorem readMembers_cons
    {key leftKey further more : Text} {v : Value}
    (readingKey : readValue fuel depth t = .ok (.text key, leftKey))
    (colon : skipSpace leftKey = .char ':' :: further)
    (reading : readValue fuel depth further = .ok (v, left))
    (separated : skipSpace left = .char ',' :: more)
    (notClosed : ∀ tail, skipSpace more ≠ .char '\x7d' :: tail) :
    readMembers (fuel + 1) depth t =
      (readMembers fuel depth more).map fun found => ((key, v) :: found.1, found.2) := by
  rw [readMembers, readingKey]
  simp only [colon, reading, separated]
  rw [readMembers_skipSpace]

end Rules

/-! ## Texts of values -/

theorem isSpace_of_mem_startChars
    {c : Char}
    (start : c ∈ startChars) :
    isSpace (.char c) = false := by
  have listed : startChars.all fun c => !isSpace (.char c) := by decide
  simpa using List.all_eq_true.mp listed c start

/-- A spaced text starts, behind its spaces, as a value does. -/
theorem SpellsSpaced.skipSpace_append
    {v : Value} {t : Text} (rest : Text)
    (spells : SpellsSpaced v t) :
    ∃ c ∈ startChars, ∃ tail, skipSpace (t ++ rest) = .char c :: tail := by
  cases spells with
  | @mk _ before core after spacing spellsCore _ =>
      rcases spellsCore.exists_start with ⟨c, start, tail, rfl⟩
      refine ⟨c, start, tail ++ (after ++ rest), ?_⟩
      rw [List.append_assoc, Json.skipSpace_append _ spacing, List.append_assoc, List.cons_append,
        skipSpace_cons _ (isSpace_of_mem_startChars start)]

theorem SpellsItems.skipSpace_append
    {items : List Value} {t : Text} (rest : Text)
    (spells : SpellsItems items t) :
    ∃ c ∈ startChars, ∃ tail, skipSpace (t ++ rest) = .char c :: tail := by
  cases spells with
  | last spellsLast =>
      exact spellsLast.skipSpace_append rest
  | cons spellsFirst _ =>
      rw [List.append_assoc]
      exact spellsFirst.skipSpace_append _

theorem SpellsMembers.skipSpace_append
    {members : List (Text × Value)} {t : Text} (rest : Text)
    (spells : SpellsMembers members t) :
    ∃ c ∈ startChars, ∃ tail, skipSpace (t ++ rest) = .char c :: tail := by
  cases spells with
  | last spellsKey _ =>
      rw [List.append_assoc]
      exact spellsKey.skipSpace_append _
  | cons spellsKey _ _ =>
      rw [List.append_assoc]
      exact spellsKey.skipSpace_append _

theorem put_of_notMem
    {key : Text} {v : Value} {entries : List (Text × Value)}
    (new : key ∉ entries.map (·.1)) :
    Value.put key v entries = entries ++ [(key, v)] := by
  induction entries with
  | nil =>
      rfl
  | cons entry rest induction =>
      rcases entry with ⟨other, w⟩
      simp only [List.map_cons, List.mem_cons, not_or] at new
      simp [Value.put, Ne.symm new.1, induction new.2]

/-- Members with distinct keys are the entries of their object. -/
theorem entriesOf_of_nodup
    {members : List (Text × Value)}
    (distinct : (members.map (·.1)).Nodup) :
    Value.entriesOf members = members := by
  have step : ∀ entries,
      ((entries ++ members).map (·.1)).Nodup →
        members.foldl (fun entries member => Value.put member.1 member.2 entries) entries =
          entries ++ members := by
    induction members with
    | nil =>
        intro entries _
        simp
    | cons member rest induction =>
        intro entries allDistinct
        have new : member.1 ∉ entries.map (·.1) := by
          intro present
          rw [List.map_append, List.nodup_append] at allDistinct
          exact allDistinct.2.2 member.1 present member.1 (by simp) rfl
        rw [List.foldl_cons, put_of_notMem new,
          induction (List.nodup_cons.mp distinct).2 _ (by simpa using allDistinct)]
        simp
  exact step [] distinct

/-- A digit starts a number, and so does a minus that is not followed as in `-Infinity`. -/
theorem readValue_number
    {c : CodePoint} {t : Text} (fuel depth : Nat)
    (number : c.isAsciiDigit = true ∨ c = .char '-' ∧ ∀ tail, t ≠ .char 'I' :: tail) :
    readValue (fuel + 1) depth (c :: t) = readNumber (c :: t) := by
  have started : (c = .char '-' || c.isAsciiDigit) = true := by
    rcases number with digit | minus
    · simp [digit]
    · simp [minus.1]
  have notSpace : isSpace c = false := by
    cases space : isSpace c with
    | false => rfl
    | true =>
        simp only [isSpace, Bool.or_eq_true, decide_eq_true_eq] at space
        rcases space with ((rfl | rfl) | rfl) | rfl <;> exact absurd started (by decide)
  rw [readValue.eq_def, skipSpace_cons t notSpace]
  simp only
  split
  case h_9 rest same =>
    cases same
    rcases number with digit | minus
    · exact absurd digit (by decide)
    · exact absurd rfl (minus.2 rest)
  case h_10 same =>
    cases same
    exact if_pos started
  case h_11 same =>
    cases same
  all_goals
    next same =>
      cases same
      exact absurd started (by decide)

/-- An integer is read where a value is expected. -/
theorem readValue_of_spellsInteger
    {n : Int} {t rest : Text} (fuel depth : Nat)
    (spells : SpellsInteger n t)
    (short : (Nat.toDigits 10 n.natAbs).length ≤ 4300)
    (ends : EndsValue rest) :
    readValue (fuel + 1) depth (t ++ rest) = .ok (.integer n, rest) := by
  rw [← readNumber_of_spellsInteger spells short ends]
  cases spells with
  | natural isDigits =>
      rcases List.exists_cons_of_ne_nil isDigits.nonempty with ⟨c, others, rfl⟩
      have digit := asciiDigit?_of_isDigit (isDigits.digit c List.mem_cons_self)
      exact readValue_number fuel depth (.inl (by simp [CodePoint.isAsciiDigit, digit]))
  | negative isDigits =>
      rcases List.exists_cons_of_ne_nil isDigits.nonempty with ⟨c, others, rfl⟩
      refine readValue_number fuel depth (.inr ⟨rfl, fun tail same => ?_⟩)
      cases same
      exact absurd (isDigits.digit 'I' List.mem_cons_self) (by decide)

/-- What starts as a value does is no closing bracket. -/
theorem notClosed_of_start
    {t : Text}
    (start : ∃ c ∈ startChars, ∃ tail, skipSpace t = .char c :: tail)
    (tail : Text) :
    skipSpace t ≠ .char ']' :: tail ∧ skipSpace t ≠ .char '\x7d' :: tail := by
  rcases start with ⟨c, listed, found, eq⟩
  rw [eq]
  constructor <;>
    intro same <;>
    cases same <;>
    exact absurd listed (by decide)

mutual

/-- A value is read from each of its texts, and what follows the text is left. -/
theorem readValue_of_spells
    {v : Value} {t : Text} (fuel depth : Nat) (rest : Text)
    (spells : Spells v t)
    (standard : v.isStandard = true)
    (shallow : v.nesting ≤ depth)
    (enough : 2 * t.length ≤ fuel)
    (ends : EndsValue rest) :
    readValue fuel depth (t ++ rest) = .ok (v, rest) := by
  cases fuel with
  | zero =>
      -- No value has an empty text.
      rcases spells.exists_start with ⟨c, _, tail, rfl⟩
      simp at enough
  | succ fuel =>
      cases spells with
      | null => rfl
      | true => rfl
      | false => rfl
      | integer spellsInteger =>
          exact readValue_of_spellsInteger fuel depth spellsInteger
            (of_decide_eq_true standard) ends
      | text spellsChars =>
          rw [List.cons_append, List.append_assoc, readValue, skipSpace_cons _ rfl]
          simp only [List.cons_append, List.nil_append]
          rw [readString_of_spellsChars rest spellsChars]
          rfl
      | emptyArray spacing =>
          rcases Nat.exists_eq_succ_of_ne_zero (Nat.ne_zero_of_lt shallow) with ⟨depth, rfl⟩
          rw [List.cons_append, List.append_assoc, readValue, skipSpace_cons _ rfl]
          simp only [skipSpace_append _ spacing]
          rfl
      | @array items text spellsItems =>
          rcases Nat.exists_eq_succ_of_ne_zero (Nat.ne_zero_of_lt shallow) with ⟨depth, rfl⟩
          -- The two brackets pay for the steps from the array to its items.
          have bound : 2 * text.length < fuel := by simp at enough; omega
          have notClosed := notClosed_of_start (spellsItems.skipSpace_append (.char ']' :: rest))
          rw [List.cons_append, List.append_assoc, List.singleton_append,
            readValue_array fun tail => (notClosed tail).1,
            readItems_of_spellsItems fuel depth rest spellsItems standard
              (Nat.le_of_succ_le_succ shallow) bound]
          rfl
      | emptyObject spacing =>
          rcases Nat.exists_eq_succ_of_ne_zero (Nat.ne_zero_of_lt shallow) with ⟨depth, rfl⟩
          rw [List.cons_append, List.append_assoc, readValue, skipSpace_cons _ rfl]
          simp only [skipSpace_append _ spacing]
          rfl
      | @object members text spellsMembers =>
          rcases Nat.exists_eq_succ_of_ne_zero (Nat.ne_zero_of_lt shallow) with ⟨depth, rfl⟩
          have bound : 2 * text.length < fuel := by simp at enough; omega
          simp only [Value.isStandard, Bool.and_eq_true, decide_eq_true_eq] at standard
          have notClosed :=
            notClosed_of_start (spellsMembers.skipSpace_append (.char '\x7d' :: rest))
          have reading :=
            readMembers_of_spellsMembers fuel depth rest spellsMembers standard.2
              (Nat.le_of_succ_le_succ shallow) bound
          rw [List.cons_append, List.append_assoc, List.singleton_append,
            readValue_object fun tail => (notClosed tail).2, reading]
          simp only [Except.map, entriesOf_of_nodup standard.1]

/-- A value between spaces is read from each of its texts, and what follows is left up to spaces. -/
theorem readValue_of_spellsSpaced
    {v : Value} {t : Text} (fuel depth : Nat) (rest : Text)
    (spells : SpellsSpaced v t)
    (standard : v.isStandard = true)
    (shallow : v.nesting ≤ depth)
    (enough : 2 * t.length ≤ fuel)
    (ends : EndsValue rest) :
    ∃ left, readValue fuel depth (t ++ rest) = .ok (v, left) ∧ skipSpace left = skipSpace rest := by
  cases spells with
  | @mk _ before core after spacingBefore spellsCore spacingAfter =>
      have bound : 2 * core.length ≤ fuel := by simp at enough; omega
      refine ⟨after ++ rest, ?_, skipSpace_append rest spacingAfter⟩
      rw [List.append_assoc, List.append_assoc, ← readValue_skipSpace,
        skipSpace_append _ spacingBefore, readValue_skipSpace]
      exact readValue_of_spells fuel depth (after ++ rest) spellsCore standard shallow bound
        (endsValue_append spacingAfter ends)

theorem readItems_of_spellsItems
    {items : List Value} {t : Text} (fuel depth : Nat) (rest : Text)
    (spells : SpellsItems items t)
    (standard : Value.areStandard items = true)
    (shallow : Value.nestingItems items ≤ depth)
    (enough : 2 * t.length < fuel) :
    readItems fuel depth (t ++ .char ']' :: rest) = .ok (items, rest) := by
  cases fuel with
  | zero => cases enough
  | succ fuel =>
      cases spells with
      | last spellsLast =>
          simp only [Value.areStandard, Bool.and_true] at standard
          rcases readValue_of_spellsSpaced fuel depth (.char ']' :: rest) spellsLast standard
            (Nat.le_trans (Nat.le_max_left _ _) shallow) (Nat.le_of_lt_succ enough)
            (by simp [EndsValue]) with ⟨left, reading, leftEq⟩
          exact readItems_last reading (leftEq.trans (skipSpace_cons _ rfl))
      | @cons _ more text moreText spellsFirst spellsMore =>
          simp only [Value.areStandard, Bool.and_eq_true] at standard
          simp only [List.length_append, List.length_cons] at enough
          rcases readValue_of_spellsSpaced fuel depth
            (.char ',' :: (moreText ++ .char ']' :: rest)) spellsFirst standard.1
            (Nat.le_trans (Nat.le_max_left _ _) shallow) (by omega)
            (by simp [EndsValue]) with ⟨left, reading, leftEq⟩
          rw [List.append_assoc, List.cons_append]
          rw [readItems_cons reading (leftEq.trans (skipSpace_cons _ rfl))
              fun tail => (notClosed_of_start (spellsMore.skipSpace_append _) tail).1,
            readItems_of_spellsItems fuel depth rest spellsMore standard.2
              (Nat.le_trans (Nat.le_max_right _ _) shallow) (by omega)]
          rfl

theorem readMembers_of_spellsMembers
    {members : List (Text × Value)} {t : Text} (fuel depth : Nat) (rest : Text)
    (spells : SpellsMembers members t)
    (standard : Value.haveStandard members = true)
    (shallow : Value.nestingEntries members ≤ depth)
    (enough : 2 * t.length < fuel) :
    readMembers fuel depth (t ++ .char '\x7d' :: rest) = .ok (members, rest) := by
  cases fuel with
  | zero => cases enough
  | succ fuel =>
      cases spells with
      | @last key v keyText text spellsKey spellsLast =>
          simp only [Value.haveStandard, Bool.and_true, Bool.and_eq_true] at standard
          simp only [List.length_append, List.length_cons] at enough
          rcases readValue_of_spellsSpaced fuel depth
            (.char ':' :: (text ++ .char '\x7d' :: rest)) spellsKey standard.1
            (Nat.zero_le _) (by omega) (by simp [EndsValue]) with ⟨leftKey, readingKey, leftKeyEq⟩
          rcases readValue_of_spellsSpaced fuel depth (.char '\x7d' :: rest) spellsLast standard.2
            (Nat.le_trans (Nat.le_max_left _ _) shallow) (by omega)
            (by simp [EndsValue]) with ⟨left, reading, leftEq⟩
          rw [List.append_assoc, List.cons_append]
          exact readMembers_last readingKey (leftKeyEq.trans (skipSpace_cons _ rfl)) reading
            (leftEq.trans (skipSpace_cons _ rfl))
      | @cons key v more keyText text moreText spellsKey spellsFirst spellsMore =>
          simp only [Value.haveStandard, Bool.and_eq_true] at standard
          simp only [List.length_append, List.length_cons] at enough
          rcases readValue_of_spellsSpaced fuel depth
            (.char ':' :: (text ++ .char ',' :: (moreText ++ .char '\x7d' :: rest))) spellsKey
            standard.1.1 (Nat.zero_le _) (by omega)
            (by simp [EndsValue]) with ⟨leftKey, readingKey, leftKeyEq⟩
          rcases readValue_of_spellsSpaced fuel depth
            (.char ',' :: (moreText ++ .char '\x7d' :: rest)) spellsFirst standard.1.2
            (Nat.le_trans (Nat.le_max_left _ _) shallow) (by omega)
            (by simp [EndsValue]) with ⟨left, reading, leftEq⟩
          rw [List.append_assoc, List.cons_append, List.append_assoc, List.cons_append]
          rw [readMembers_cons readingKey (leftKeyEq.trans (skipSpace_cons _ rfl)) reading
              (leftEq.trans (skipSpace_cons _ rfl))
              fun tail => (notClosed_of_start (spellsMore.skipSpace_append _) tail).2,
            readMembers_of_spellsMembers fuel depth rest spellsMore standard.2
              (Nat.le_trans (Nat.le_max_right _ _) shallow) (by omega)]
          rfl

end

/-- A text of a standard value stands for that value. -/
theorem read_of_spells
    {v : Value} {t : Text}
    (spells : Spells v t)
    (standard : v.isStandard = true)
    (shallow : v.nesting ≤ maxDepth) :
    read t = .ok v := by
  have reading :=
    readValue_of_spells (2 * t.length + 2) maxDepth [] spells standard shallow
      (Nat.le_add_right _ _) (by simp [EndsValue])
  rw [List.append_nil] at reading
  simp [read, readWithin, reading, skipSpace]

end Shapewright.Json
