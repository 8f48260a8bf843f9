import Shapewright.Proofs.Json.Standard
import Shapewright.Proofs.Yaml.Tokens

/-!
# The tokens of written mappings

The tokens of what is written for a mapping are those of its entries, between the start and the
end of a block.  The proof goes along the writer, entry by entry.  A nested block is closed only
where the next entry is reached, so what an entry does to the blocks is stated for the blocks that
are left at the column of the entry.
-/

namespace Shapewright.Yaml

open Shapewright.Outcome

/-! ## Values that are kept in YAML -/

/-- The values that are written as scalars; a number with more digits would not be read. -/
inductive IsScalar : Value → Prop where
  | null : IsScalar .null
  | boolean (b : Bool) : IsScalar (.boolean b)
  | integer {n : Int} : (Nat.toDigits 10 n.natAbs).length ≤ 4300 → IsScalar (.integer n)
  | text (t : Text) : IsScalar (.text t)

mutual

/-- The values that YAML texts are written for: scalars, and mappings of them. -/
inductive IsStorable : Value → Prop where
  | scalar {v : Value} : IsScalar v → IsStorable v
  | object {entries : List (Text × Value)} :
      entries ≠ [] → (entries.map (·.1)).Nodup → AreStorable entries → IsStorable (.object entries)

/-- The entries of mappings that YAML texts are written for. -/
inductive AreStorable : List (Text × Value) → Prop where
  | nil : AreStorable []
  | cons {key : Text} {v : Value} {rest : List (Text × Value)} :
      IsKey key → IsStorable v → AreStorable rest → AreStorable ((key, v) :: rest)

end

theorem areStorable_iff
    {entries : List (Text × Value)} :
    AreStorable entries ↔ ∀ entry ∈ entries, IsKey entry.1 ∧ IsStorable entry.2 := by
  induction entries with
  | nil => exact ⟨fun _ => by simp, fun _ => .nil⟩
  | cons entry rest induction =>
      rw [List.forall_mem_cons, ← induction]
      constructor
      · intro stored
        cases stored with
        | cons isKey storable others => exact ⟨⟨isKey, storable⟩, others⟩
      · rintro ⟨⟨isKey, storable⟩, others⟩
        exact .cons isKey storable others

/-- The content of the scalar that a value is written as. -/
def scalarContent : Value → Text
  | .boolean b => Text.ofString (if b then "true" else "false")
  | .integer n => Text.ofInt n
  | .text t => t
  | _ => "null"

/-- Whether the scalar that a value is written as has no quotes. -/
def isPlainScalar : Value → Bool
  | .text t => Plain.allows t
  | _ => true

mutual

/-- The tokens of a value. -/
def valueTokens : Value → List Token
  | .object entries => .blockMappingStart :: (entriesTokens entries ++ [.blockEnd])
  | v => [.scalar (scalarContent v) (isPlainScalar v)]

/-- The tokens of the entries of a mapping. -/
def entriesTokens : List (Text × Value) → List Token
  | [] => []
  | (key, v) :: rest =>
    .key :: .scalar key true :: .value :: (valueTokens v ++ entriesTokens rest)

end

theorem valueTokens_of_isScalar
    {v : Value}
    (isScalar : IsScalar v) :
    valueTokens v = [.scalar (scalarContent v) (isPlainScalar v)] := by
  cases isScalar <;> rfl

/-! ## What is written -/

theorem Plain.write_of_notMem
    {t : Text} (indent column : Nat) (afterSpace : Bool)
    (noSpace : ∀ c ∈ t, c ≠ .char ' ') :
    Plain.write indent column afterSpace t = t := by
  induction t generalizing column afterSpace with
  | nil => rfl
  | cons c rest induction =>
      rw [write_cons _ _ _ (noSpace c List.mem_cons_self),
        induction _ _ fun d member => noSpace d (List.mem_cons_of_mem c member)]

theorem isScalarText_of_stands
    {t : Text} (width : Nat)
    (stands : Plain.Stands t)
    (noSpace : ∀ c ∈ t, c ≠ .char ' ') :
    IsScalarText width t true t := by
  have written := @IsScalarText.plain width t 0 stands
  rwa [Plain.write_of_notMem width 0 false noSpace] at written

theorem isScalarText_writeText
    (width column : Nat) (t : Text) :
    IsScalarText width t (Plain.allows t) (writeText width column t) := by
  rw [writeText]
  split
  next allowed =>
    rw [allowed]
    exact .plain column (Plain.stands_of_allows allowed).1
  next notPlain =>
    rw [Bool.not_eq_true _ |>.mp notPlain]
    split
    next allowed =>
      simp only [SingleQuoted.allows, Bool.and_eq_true, List.all_eq_true] at allowed
      refine .single (column + 1) ?_ (by simpa using allowed.2)
      intro c member
      simpa [isPrintable] using allowed.1 c member
    next => exact .double t (column + 1)

example : writeText 2 6 "yes" = Text.ofString "'yes'" := by decide +kernel

example : writeText 2 6 "a: #\t" = Text.ofString "\"a: #\\t\"" := by decide +kernel

theorem isScalarText_word
    {word : Text} (width : Nat)
    (listed : word ∈ ["null", "true", "false"].map Text.ofString) :
    IsScalarText width word true word := by
  have words :
      ∀ word ∈ ["null", "true", "false"].map Text.ofString,
        (word ≠ [] ∧ Plain.startsLikeSeparator word = false ∧
            Plain.hasLeadingIndicator word = false) ∧
          ∀ c ∈ word,
            isPrintable c = true ∧ c ≠ .char ' ' ∧ c ≠ .char ':' ∧ c ≠ .char '#' := by
    decide
  rcases words word listed with ⟨⟨nonempty, notSeparator, leading⟩, characters⟩
  exact isScalarText_of_stands width (stands_of_word nonempty characters notSeparator leading)
    fun c member => (characters c member).2.1

/-- A value without parts is written as a scalar behind a space. -/
theorem writeValue_of_isScalar
    {v : Value} (level column : Nat)
    (isScalar : IsScalar v) :
    ∃ written,
      writeValue level column v = .char ' ' :: (written ++ [.char '\n']) ∧
        IsScalarText (indentWidth * (level + 1)) (scalarContent v) (isPlainScalar v) written := by
  cases isScalar with
  | null => exact ⟨Text.ofString "null", rfl, isScalarText_word _ (by decide)⟩
  | boolean b =>
      cases b with
      | false => exact ⟨Text.ofString "false", rfl, isScalarText_word _ (by decide)⟩
      | true => exact ⟨Text.ofString "true", rfl, isScalarText_word _ (by decide)⟩
  | @integer n short =>
      exact ⟨Text.ofInt n, rfl,
        isScalarText_of_stands _ (stands_ofInt short).1 (noSpace_ofInt n)⟩
  | text t => exact ⟨_, rfl, isScalarText_writeText _ (column + 1) t⟩

theorem writeEntries_cons
    (level : Nat) (key : Text) (v : Value) (rest : List (Text × Value)) :
    writeEntries level ((key, v) :: rest) =
      List.replicate (2 * level) (.char ' ') ++
        (key ++ .char ':' ::
          (writeValue level (2 * level + key.length + 1) v ++ writeEntries level rest)) := by
  rw [writeEntries]
  simp [indentWidth]

theorem writeValue_object
    {entries : List (Text × Value)} (level column : Nat)
    (nonempty : entries ≠ []) :
    writeValue level column (.object entries) = .char '\n' :: writeEntries (level + 1) entries := by
  rcases List.exists_cons_of_ne_nil nonempty with ⟨entry, rest, rfl⟩
  rfl

/-- What is written for a value ends the word of its key. -/
theorem endsWord_writeValue
    {v : Value} (level column : Nat) (rest : Text)
    (storable : IsStorable v) :
    endsWord (writeValue level column v ++ rest) = true := by
  cases storable with
  | scalar isScalar =>
      rcases writeValue_of_isScalar level column isScalar with ⟨written, eq, _⟩
      rw [eq]
      rfl
  | object nonempty =>
      rw [writeValue_object level column nonempty]
      rfl

theorem isWritten_key
    {key : Text}
    (isKey : IsKey key) :
    isWritten key = true := by
  have listed : ∀ c ∈ keyCharacters, isPrintable c = true := by decide
  rw [isWritten, List.all_eq_true]
  intro c member
  simp [listed c (isKey.characters c member)]

theorem IsScalarText.isWritten
    {width : Nat} {content written : Text} {plain : Bool}
    (scalar : IsScalarText width content plain written) :
    Yaml.isWritten written = true := by
  have quote (c : Char) (listed : c = '\'' ∨ c = '"') : isPrintable (.char c) = true := by
    rcases listed with rfl | rfl <;> rfl
  cases scalar with
  | plain column stands => exact Plain.isWritten_write width column false stands.printable
  | single column held =>
      simp [SingleQuoted.isWritten_write width column none held, quote]
  | double column =>
      simp [DoubleQuoted.isWritten_write content width column true true, quote]

mutual

theorem isWritten_writeValue
    {v : Value} (level column : Nat)
    (storable : IsStorable v) :
    isWritten (writeValue level column v) = true := by
  match v, storable with
  | _, .scalar isScalar =>
      rcases writeValue_of_isScalar level column isScalar with ⟨written, eq, scalar⟩
      simp only [eq, isWritten_cons, isWritten_append, scalar.isWritten]
      rfl
  | .object entries, .object nonempty _ stored =>
      rw [writeValue_object level column nonempty, isWritten_cons,
        isWritten_writeEntries (level + 1) stored]
      rfl

/-- What is written consists of line feeds and printable ASCII characters. -/
theorem isWritten_writeEntries
    {entries : List (Text × Value)} (level : Nat)
    (stored : AreStorable entries) :
    isWritten (writeEntries level entries) = true := by
  match entries, stored with
  | [], .nil => rfl
  | (key, v) :: rest, .cons isKey storable others =>
      simp only [writeEntries_cons, isWritten_append, isWritten_cons, isWritten_spaces,
        isWritten_key isKey, isWritten_writeValue level _ storable,
        isWritten_writeEntries level others]
      rfl

end

/-! ## Reading what is written -/

/-- From a stream the next entry is reached in a number of steps or less, and leaves the given
blocks at a column. -/
def Reaches (limit : Nat) (s : TokenStream) (column : Nat) (after : Blocks) (rest : Text)
    (n : Nat) : Prop :=
  ∃ steps p keyAllowed b,
    steps ≤ limit ∧ Steps steps s (stream p keyAllowed b) ∧ b.atColumn column = after ∧
      Arrives p keyAllowed rest n

theorem Reaches.of_steps
    {steps limit column n : Nat} {s t : TokenStream} {after : Blocks} {rest : Text}
    (first : Steps steps s t)
    (reaches : Reaches limit t column after rest n) :
    Reaches (steps + limit) s column after rest n := by
  rcases reaches with ⟨more, p, keyAllowed, b, bound, second, blocksEq, arrives⟩
  exact ⟨steps + more, p, keyAllowed, b, by omega, first.trans second, blocksEq, arrives⟩

theorem Reaches.weaken
    {limit larger column n : Nat} {s : TokenStream} {after : Blocks} {rest : Text}
    (reaches : Reaches limit s column after rest n)
    (bound : limit ≤ larger) :
    Reaches larger s column after rest n := by
  rcases reaches with ⟨steps, p, keyAllowed, b, inLimit, reached⟩
  exact ⟨steps, p, keyAllowed, b, Nat.le_trans inLimit bound, reached⟩

namespace Blocks

theorem openMapping_of_eq
    {b : Blocks} {column : Nat}
    (indentEq : b.indent = column) :
    b.openMapping column = b :=
  if_neg (by omega)

theorem indent_openMapping
    {b : Blocks} {column : Nat}
    (closed : b.indent ≤ column) :
    (b.openMapping column).indent = column := by
  rw [openMapping]
  split
  · rfl
  · omega

/-- A nested block is closed at the column of the block around it. -/
theorem atColumn_openMapping
    {b : Blocks} {outer : Int} {inner : Nat} (tokens : List Token)
    (indentEq : b.indent = outer)
    (nested : outer < inner) :
    ((b.openMapping inner).append tokens).atColumn outer =
      b.append (.blockMappingStart :: (tokens ++ [.blockEnd])) := by
  have opens : b.indent < inner := by omega
  have kept : (b.append (.blockMappingStart :: (tokens ++ [.blockEnd]))).indent ≤ outer :=
    Int.le_of_eq indentEq
  have closing :
      ((b.openMapping inner).append tokens).atColumn outer =
        (b.append (.blockMappingStart :: (tokens ++ [.blockEnd]))).atColumn outer := by
    rw [openMapping, if_pos opens, atColumn, append, closeTo, if_pos nested, atColumn, append]
    simp
  rw [closing, atColumn_of_le kept]

end Blocks

/-- The text that reading goes on with at entries, and its column: the first of them, or what
follows them. -/
def entriesStart (level : Nat) (rest : Text) (n : Nat) : List (Text × Value) → Text × Nat
  | [] => (rest, n)
  | (key, v) :: more =>
    (key ++ .char ':' ::
      (writeValue level (2 * level + key.length + 1) v ++
        (writeEntries level more ++ (List.replicate n (.char ' ') ++ rest))),
      2 * level)

theorem writeEntries_eq_entriesStart
    (level : Nat) (rest : Text) (n : Nat) (entries : List (Text × Value)) :
    writeEntries level entries ++ (List.replicate n (.char ' ') ++ rest) =
      List.replicate (entriesStart level rest n entries).2 (.char ' ') ++
        (entriesStart level rest n entries).1 := by
  cases entries with
  | nil => rfl
  | cons entry more =>
      rw [writeEntries_cons]
      simp [entriesStart]

theorem startsEntry_entriesStart
    {rest : Text} {entries : List (Text × Value)} (level n : Nat)
    (stored : AreStorable entries)
    (starts : StartsEntry rest) :
    StartsEntry (entriesStart level rest n entries).1 := by
  cases stored with
  | nil => exact starts
  | cons isKey => exact isKey.startsEntry _

theorem entriesStart_le
    {n level : Nat} (rest : Text) (entries : List (Text × Value))
    (outside : n ≤ 2 * level) :
    (entriesStart level rest n entries).2 ≤ 2 * level := by
  cases entries with
  | nil => exact outside
  | cons entry more => exact Nat.le_refl _

/-- Reading a value of an entry adds its tokens, and goes on to the next entry. -/
def ReadsValue (v : Value) : Prop :=
  ∀ (level column : Nat) (p : Position) (b : Blocks) (rest : Text) (n : Nat),
    level + v.nesting ≤ 38 →
    p.rest = writeValue level column v ++ (List.replicate n (.char ' ') ++ rest) →
    StartsEntry rest →
    n ≤ 2 * level →
    b.indent = (2 * level : Nat) →
    2 * level ≤ p.column →
      Reaches (writeValue level column v).length (stream p false b) (2 * level)
        (b.append (valueTokens v)) rest n

/-- Reading entries of an open block adds their tokens, and goes on to what follows them. -/
def ReadsEntries (entries : List (Text × Value)) : Prop :=
  ∀ (level : Nat) (p : Position) (keyAllowed : Bool) (b : Blocks) (rest : Text) (n : Nat),
    level + Value.nestingEntries entries ≤ 38 →
    Arrives p keyAllowed (entriesStart level rest n entries).1
      (entriesStart level rest n entries).2 →
    StartsEntry rest →
    n ≤ 2 * level →
    (b.atColumn (2 * level : Nat)).indent = (2 * level : Nat) →
      Reaches (writeEntries level entries).length (stream p keyAllowed b) (2 * level)
        ((b.atColumn (2 * level : Nat)).append (entriesTokens entries)) rest n

theorem readsValue_scalar
    {v : Value}
    (isScalar : IsScalar v) :
    ReadsValue v := by
  intro level column p b rest n shallow textEq starts outside indentEq inside
  rcases writeValue_of_isScalar level column isScalar with ⟨written, eq, scalar⟩
  rw [eq] at textEq ⊢
  simp only [List.cons_append, List.append_assoc, List.nil_append] at textEq
  have width : indentWidth * (level + 1) = 2 * level + 1 + 1 := by
    rw [indentWidth]
    omega
  have narrow : 2 * level + 1 + 2 ≤ foldColumn := by
    rw [foldColumn]
    omega
  rw [width] at scalar
  rcases advance_scalar textEq scalar starts outside indentEq (Nat.le_succ _) narrow inside with
    ⟨q, keyAllowed, takes, arrives⟩
  rw [valueTokens_of_isScalar isScalar]
  exact ⟨1, q, keyAllowed, _, by simp, .step rfl takes (.refl _),
    Blocks.atColumn_of_le (Int.le_of_eq indentEq), arrives⟩

/-- Reading the entries of a block opens it, unless it is open. -/
theorem reaches_block
    {key rest : Text} {v : Value} {more : List (Text × Value)} {p : Position} {keyAllowed : Bool}
    {b : Blocks} {n level : Nat}
    (isKey : IsKey key)
    (storable : IsStorable v)
    (others : AreStorable more)
    (readsValue : ReadsValue v)
    (readsMore : ReadsEntries more)
    (shallow : level + Value.nestingEntries ((key, v) :: more) ≤ 38)
    (arrives :
      Arrives p keyAllowed (entriesStart level rest n ((key, v) :: more)).1 (2 * level))
    (starts : StartsEntry rest)
    (outside : n ≤ 2 * level)
    (closed : (b.atColumn (2 * level : Nat)).indent ≤ (2 * level : Nat)) :
    Reaches (writeEntries level ((key, v) :: more)).length (stream p keyAllowed b) (2 * level)
      (((b.atColumn (2 * level : Nat)).openMapping (2 * level)).append
        (entriesTokens ((key, v) :: more)))
      rest n := by
  rw [Value.nestingEntries] at shallow
  have indentEq := Blocks.indent_openMapping closed
  rcases steps_key arrives isKey (endsWord_writeValue level _ _ storable) closed with
    ⟨q, takesKey, textEq, inside⟩
  generalize (b.atColumn (2 * level : Nat)).openMapping (2 * level) = block at indentEq takesKey ⊢
  rw [writeEntries_eq_entriesStart] at textEq
  rcases readsValue level _ q (block.append [.key, .scalar key true, .value]) _ _ (by omega) textEq
      (startsEntry_entriesStart level n others starts) (entriesStart_le rest more outside) indentEq
      inside with
    ⟨steps, next, allowed, after, bound, takesValue, blocksEq, arrivesNext⟩
  have stillOpen : (after.atColumn (2 * level : Nat)).indent = (2 * level : Nat) := by
    rwa [blocksEq]
  have reaches :=
    Reaches.of_steps (takesKey.trans takesValue)
      (readsMore level next allowed after rest n (by omega) arrivesNext starts outside stillOpen)
  rw [blocksEq, Blocks.append_append, Blocks.append_append] at reaches
  rw [entriesTokens]
  refine reaches.weaken ?_
  have keyLength := List.length_pos_of_ne_nil isKey.nonempty
  rw [writeEntries_cons]
  simp only [List.length_append, List.length_cons]
  omega

theorem readsEntries_nil : ReadsEntries [] :=
  fun _ p keyAllowed b _ _ _ arrives _ _ _ =>
    ⟨0, p, keyAllowed, b, Nat.le_refl 0, .refl _, rfl, arrives⟩

theorem readsValue_object
    {key : Text} {v : Value} {more : List (Text × Value)}
    (isKey : IsKey key)
    (storable : IsStorable v)
    (others : AreStorable more)
    (readsValue : ReadsValue v)
    (readsMore : ReadsEntries more) :
    ReadsValue (.object ((key, v) :: more)) := by
  intro level column p b rest n shallow textEq starts outside indentEq inside
  rw [writeValue_object level column (List.cons_ne_nil _ _)] at textEq ⊢
  rw [List.cons_append, writeEntries_eq_entriesStart] at textEq
  rw [Value.nesting] at shallow
  have arrives := @arrives_of_lineFeed p false _ _ textEq (isKey.startsEntry _).startsToken
  have kept : b.atColumn (2 * (level + 1) : Nat) = b := Blocks.atColumn_of_le (by omega)
  have closed : (b.atColumn (2 * (level + 1) : Nat)).indent ≤ (2 * (level + 1) : Nat) := by
    rw [kept]
    omega
  rcases reaches_block isKey storable others readsValue readsMore (by omega) arrives starts
      (by omega) closed with
    ⟨steps, q, keyAllowed, after, bound, taken, blocksEq, arrivesNext⟩
  refine ⟨steps, q, keyAllowed, after, Nat.le_succ_of_le bound, taken, ?_, arrivesNext⟩
  have ordered : ((2 * level : Nat) : Int) ≤ (2 * (level + 1) : Nat) := by omega
  rw [← Blocks.atColumn_atColumn after ordered, blocksEq, kept, valueTokens]
  exact Blocks.atColumn_openMapping _ indentEq (by omega)

theorem readsEntries_cons
    {key : Text} {v : Value} {more : List (Text × Value)}
    (isKey : IsKey key)
    (storable : IsStorable v)
    (others : AreStorable more)
    (readsValue : ReadsValue v)
    (readsMore : ReadsEntries more) :
    ReadsEntries ((key, v) :: more) := by
  intro level p keyAllowed b rest n shallow arrives starts outside opened
  have reaches :=
    reaches_block isKey storable others readsValue readsMore shallow arrives starts outside
      (Int.le_of_eq opened)
  rwa [Blocks.openMapping_of_eq opened] at reaches

mutual

theorem readsValue_of_isStorable
    {v : Value}
    (storable : IsStorable v) :
    ReadsValue v := by
  match v, storable with
  | _, .scalar isScalar => exact readsValue_scalar isScalar
  | .object ((key, v) :: more), .object _ _ (.cons isKey storable others) =>
      exact readsValue_object isKey storable others (readsValue_of_isStorable storable)
        (readsEntries_of_areStorable others)

theorem readsEntries_of_areStorable
    {entries : List (Text × Value)}
    (stored : AreStorable entries) :
    ReadsEntries entries := by
  match entries, stored with
  | [], .nil => exact readsEntries_nil
  | (key, v) :: more, .cons isKey storable others =>
      exact readsEntries_cons isKey storable others (readsValue_of_isStorable storable)
        (readsEntries_of_areStorable others)

end

/-- The tokens of what is written for a mapping. -/
theorem tokensOf_writeEntries
    {entries : List (Text × Value)}
    (nonempty : entries ≠ [])
    (stored : AreStorable entries)
    (shallow : Value.nestingEntries entries ≤ 38) :
    tokensOf (writeEntries 0 entries) = valueTokens (.object entries) ++ [.streamEnd] := by
  have textEq := writeEntries_eq_entriesStart 0 [] 0 entries
  have starts := startsEntry_entriesStart 0 0 stored (by nofun : StartsEntry [])
  cases stored with
  | nil => exact absurd rfl nonempty
  | @cons key v more isKey storable others =>
      have textEq :
          writeEntries 0 ((key, v) :: more) = (entriesStart 0 [] 0 ((key, v) :: more)).1 := by
        simpa [entriesStart] using textEq
      generalize written : writeEntries 0 ((key, v) :: more) = t at textEq
      have noMark : t.head? ≠ some (.char '\uFEFF') := by
        intro mark
        rw [← textEq] at starts
        exact absurd (starts _ mark) (by decide)
      have arrives := @arrives_here ⟨t, 0, 0, 0⟩ (by rw [textEq]; exact starts.startsToken)
      rw [textEq] at arrives
      rcases reaches_block (b := ⟨[], -1, []⟩) isKey storable others
          (readsValue_of_isStorable storable) (readsEntries_of_areStorable others) (by omega)
          arrives (by nofun) (Nat.le_refl 0) (by decide) with
        ⟨steps, q, keyAllowed, after, bound, taken, blocksEq, arrivesEnd⟩
      rcases @advance_end q keyAllowed true after arrivesEnd.skipped arrivesEnd.restEq with
        ⟨last, ends, finished, tokensEq⟩
      have closedEq :
          after.atColumn (-1) =
            Blocks.append ⟨[], -1, []⟩ (valueTokens (.object ((key, v) :: more))) := by
        rw [← Blocks.atColumn_atColumn after (by decide : -1 ≤ ((2 * 0 : Nat) : Int)), blocksEq,
          valueTokens]
        exact Blocks.atColumn_openMapping _ rfl (by decide)
      have all := taken.trans (.step rfl ends (.refl last))
      have fuel : t.length + 2 = (t.length - steps + 1) + (steps + 1) := by
        rw [written] at bound
        omega
      have start : TokenStream.start t = stream ⟨t, 0, 0, 0⟩ true ⟨[], -1, []⟩ := rfl
      rw [tokensOf, if_neg noMark, start, fuel, textEq, collect_of_steps _ all, TokenStream.collect,
        if_pos finished, tokensEq, closedEq, Blocks.append]
      simp

end Shapewright.Yaml
