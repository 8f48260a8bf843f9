import Shapewright.Proofs.Yaml.Scalar
import Shapewright.Proofs.Yaml.TokenStream

/-!
# Keys and scalars of written entries

The steps that reading takes at the two halves of an entry: at its key with the colon, and at the
scalar that is its value.  A scalar is followed by a line break and the spaces before the next
entry, which is indented no further; a plain scalar ends for that reason, a quoted one at its quote.
-/

namespace Shapewright.Yaml

open Shapewright.Outcome

/-! ## Keys -/

/-- The characters of keys. -/
def keyCharacters : Text := Text.ofString "abcdefghijklmnopqrstuvwxyz_"

/-- A key of settings: a word that is read as a text. -/
structure IsKey (key : Text) : Prop where
  nonempty : key ≠ []
  characters : ∀ c ∈ key, c ∈ keyCharacters
  length : key.length ≤ 1024
  resolved : resolvePlain key = .text

/-- The start of an entry, or the end of the text. -/
def StartsEntry (t : Text) : Prop := ∀ c ∈ t.head?, c ∈ keyCharacters

theorem IsKey.startsEntry
    {key : Text} (rest : Text)
    (isKey : IsKey key) :
    StartsEntry (key ++ rest) := by
  rcases List.exists_cons_of_ne_nil isKey.nonempty with ⟨c, more, rfl⟩
  rintro d member
  cases member
  exact isKey.characters c List.mem_cons_self

theorem StartsEntry.startsToken
    {t : Text}
    (starts : StartsEntry t) :
    StartsToken t := by
  have listed : ∀ c ∈ keyCharacters, isPrintable c = true ∧ c ≠ .char ' ' ∧ c ≠ .char '#' := by
    decide
  exact fun c member => listed c (starts c member)

theorem startsPlain_key
    {c : CodePoint} (rest : Text)
    (keyCharacter : c ∈ keyCharacters) :
    StartsPlain (c :: rest) := by
  have listed :
      ∀ c ∈ keyCharacters, (isPrintable c = true ∧ c ≠ .char ' ') ∧
        (c ≠ .char '-' ∧ c ≠ .char '.') ∧
          startsWithOneOf "#,[]\x7b\x7d&*!|>'\"%@\x60" [c] = false ∧
            startsWithOneOf "?:-" [c] = false := by
    decide
  rcases listed c keyCharacter with
    ⟨⟨printable, notSpace⟩, ⟨notHyphen, notPoint⟩, notIndicator, notBlock⟩
  refine ⟨⟨c, rest, rfl, printable, notSpace⟩, ?_, ?_⟩
  · simp [Plain.startsLikeSeparator, Text.ofString, notHyphen, notPoint]
  · rw [Plain.hasLeadingIndicator, notIndicator, notBlock]
    rfl

theorem endsPlain_key
    {c : CodePoint} (rest : Text)
    (keyCharacter : c ∈ keyCharacters) :
    endsPlain false c rest = false := by
  have listed :
      ∀ c ∈ keyCharacters, isSpaceOrTab c = false ∧ isBreak c = false ∧ c ≠ .char ':' := by
    decide
  rcases listed c keyCharacter with ⟨notBlank, notBreak, notColon⟩
  simp [endsPlain, notBlank, notBreak, notColon]

/-- A key is a plain scalar up to its colon. -/
theorem plainScan_key
    {key rest : Text} (indent fuel : Nat)
    (isKey : IsKey key)
    (ended : endsWord rest = true) :
    plainScan false indent (fuel + 1) (key ++ .char ':' :: rest) =
      ⟨key, .char ':' :: rest, false⟩ := by
  have run :
      ∀ u : Text, (∀ c ∈ u, c ∈ keyCharacters) →
        continueRun indent fuel (u ++ .char ':' :: rest) = ⟨u, .char ':' :: rest, false⟩ := by
    intro u characters
    induction u with
    | nil =>
        have colon : endsPlain false (.char ':') rest = true := by
          simp [endsPlain, ended]
        have stops : plainRun false (.char ':' :: rest) = ([], .char ':' :: rest) := by
          simp [plainRun, colon]
        have gap : plainGap (.char ':' :: rest) = ⟨[], .char ':' :: rest, false, 0⟩ :=
          plainGap_spaces 0 ⟨.char ':', rest, rfl, by decide, rfl⟩
        simp [continueRun, stops, gap]
    | cons c more induction =>
        rw [List.cons_append,
          continueRun_cons indent fuel (endsPlain_key _ (characters c List.mem_cons_self)),
          induction fun d member => characters d (List.mem_cons_of_mem c member)]
  rw [← run key isKey.characters]
  rcases List.exists_cons_of_ne_nil isKey.nonempty with ⟨c, more, rfl⟩
  have first := isKey.characters c List.mem_cons_self
  refine plainScan_cons indent fuel ?_ (endsPlain_key _ first)
  rintro rfl
  exact absurd first (by decide)

/-! ## Line ends behind scalars -/

theorem plainBreaks_entry
    {rest : Text}
    (atLineStart : Bool) (column : Nat)
    (starts : StartsEntry rest) :
    plainBreaks atLineStart column rest = (some [], column, rest) := by
  cases rest with
  | nil => rfl
  | cons c more =>
      have listed :
          ∀ c ∈ keyCharacters, c ≠ .char ' ' ∧ breakOf? c = none ∧ c ≠ .char '-' ∧
            c ≠ .char '.' := by
        decide
      rcases listed c (starts c rfl) with ⟨notSpace, notBreak, notHyphen, notPoint⟩
      have notSeparator : atSeparator (c :: more) = false := by
        simp [atSeparator, Text.ofString, notHyphen, notPoint]
      simp [plainBreaks, notSeparator, notSpace, notBreak]

/-- A plain scalar ends before an entry that is indented no further than the block around it. -/
theorem endsPlain_lineFeed
    {rest : Text} {n indent : Nat}
    (starts : StartsEntry rest)
    (indented : n < indent) :
    EndsPlain indent (.char '\n' :: (List.replicate n (.char ' ') ++ rest)) rest := by
  have breaks :
      plainBreaks true 0 (List.replicate n (.char ' ') ++ rest) = (some [], n, rest) := by
    cases n with
    | zero => exact plainBreaks_entry true 0 starts
    | succ n =>
        rw [plainBreaks_spaces, Nat.zero_add]
        exact plainBreaks_entry false (n + 1) starts
  have gap :
      plainGap (.char '\n' :: (List.replicate n (.char ' ') ++ rest)) =
        ⟨[.char ' '], rest, true, n⟩ := by
    have lineFeed :
        (CodePoint.char '\n' :: (List.replicate n (.char ' ') ++ rest)).span (· = .char ' ') =
          ([], .char '\n' :: (List.replicate n (.char ' ') ++ rest)) := by
      rw [List.span_eq_takeWhile_dropWhile]
      rfl
    rw [plainGap, lineFeed]
    simp only
    rw [show breakOf? (.char '\n') = some (.char '\n') from rfl]
    simp only [breaks]
    rfl
  exact ⟨rfl, rfl, by rw [gap], by rw [gap], by rwa [gap]⟩

/-! ## Scalars -/

/-- The texts of a scalar in lines that are indented by a width, with whether it is plain. -/
inductive IsScalarText (width : Nat) : Text → Bool → Text → Prop where
  | plain {t : Text} (column : Nat) :
      Plain.Stands t → IsScalarText width t true (Plain.write width column false t)
  | single {t : Text} (column : Nat) :
      SingleQuoted.IsHeld t → SingleQuoted.hasSpaceAtBreak t = false →
        IsScalarText width t false
          (.char '\'' :: SingleQuoted.write width column none t ++ [.char '\''])
  | double (t : Text) (column : Nat) :
      IsScalarText width t false
        (.char '"' :: DoubleQuoted.write width column true true t ++ [.char '"'])

theorem readQuoted_single
    {t rest : Text} {width column : Nat}
    (held : SingleQuoted.IsHeld t)
    (noSpace : SingleQuoted.hasSpaceAtBreak t = false)
    (closed : startsWith '\'' rest = false) :
    TokenStream.readQuoted
        (.char '\'' :: (SingleQuoted.write (width + 1) column none t ++ .char '\'' :: rest)) =
      .ok (.scalar t false, rest) := by
  have reads :=
    SingleQuoted.readsBack_write width column none held noSpace (by simp) closed _
      (Nat.le_succ _)
  have quote (u : Text) : startsWithOneOf "'" (.char '\'' :: u) = true := rfl
  rw [TokenStream.readQuoted]
  simp only [quote, if_true, List.length_cons, List.drop_succ_cons, List.drop_zero, reads]
  rfl

theorem readQuoted_double
    {rest : Text} {width column : Nat} (t : Text)
    (narrow : width + 2 ≤ foldColumn) :
    TokenStream.readQuoted
        (.char '"' :: (DoubleQuoted.write (width + 1) column true true t ++ .char '"' :: rest)) =
      .ok (.scalar t false, rest) := by
  have reads :=
    @DoubleQuoted.readsBack_write t rest width column true true narrow _ (Nat.le_succ _)
  have quote (u : Text) : startsWithOneOf "'" (.char '"' :: u) = false := rfl
  rw [TokenStream.readQuoted]
  simp only [quote, Bool.false_eq_true, if_false, List.length_cons, List.drop_succ_cons,
    List.drop_zero, reads]
  rfl

theorem startsPlain_write
    {t after : Text} (width column : Nat)
    (stands : Plain.Stands t) :
    StartsPlain (Plain.write width column false t ++ .char '\n' :: after) := by
  refine ⟨?_, stands.startsLikeSeparator_write width column after,
    stands.hasLeadingIndicator_write width column _⟩
  rcases stands.exists_cons with ⟨c, rest, rfl, printable, notSpace⟩
  rw [Plain.write_cons _ _ _ notSpace]
  exact ⟨c, _, rfl, printable, notSpace⟩

section Value

variable {p : Position} {b : Blocks} {content rest : Text} {n width column : Nat}

/-- A step takes a plain scalar that is the value of an entry, with the line break behind it. -/
theorem advance_plainScalar
    (writtenColumn : Nat)
    (textEq :
      p.rest =
        .char ' ' :: (Plain.write (width + 1) writtenColumn false content ++
          .char '\n' :: (List.replicate n (.char ' ') ++ rest)))
    (stands : Plain.Stands content)
    (starts : StartsEntry rest)
    (outside : n ≤ column)
    (indentEq : b.indent = column)
    (further : column ≤ width)
    (inside : column ≤ p.column) :
    ∃ q keyAllowed,
      (stream p false b).advance = .ok (stream q keyAllowed (b.push (.scalar content true))) ∧
        Arrives q keyAllowed rest n := by
  have indent : (b.indent + 1).toNat = column.succ := by omega
  rcases moveTo_behindSpace textEq with ⟨here, behind⟩
  have enough :
      content.length ≤
        (Plain.write (width + 1) writtenColumn false content ++
          CodePoint.char '\n' :: (List.replicate n (CodePoint.char ' ') ++ rest)).length := by
    rw [List.length_append]
    exact Nat.le_add_right_of_le (Plain.length_le_write content (width + 1) writtenColumn false)
  have scanned :=
    Plain.plainScan_write writtenColumn _ stands (Nat.succ_le_succ further) enough
      (endsPlain_lineFeed starts (Nat.lt_succ_of_le outside))
  rw [← indent] at scanned
  exact ⟨_, true,
    advance_plain textEq (startsPlain_write (width + 1) writtenColumn stands)
      (by rw [behind, indentEq]; omega) scanned,
    arrives_behindLineFeed here starts.startsToken⟩

/-- A step takes a quoted scalar that is the value of an entry. -/
theorem advance_quotedScalar
    {quote : Char} {written : Text}
    (textEq :
      p.rest =
        .char ' ' :: .char quote :: (written ++ .char quote ::
          .char '\n' :: (List.replicate n (.char ' ') ++ rest)))
    (isQuote : quote = '\'' ∨ quote = '"')
    (reading :
      TokenStream.readQuoted
          (.char quote :: (written ++ .char quote ::
            .char '\n' :: (List.replicate n (.char ' ') ++ rest))) =
        .ok (.scalar content false, .char '\n' :: (List.replicate n (.char ' ') ++ rest)))
    (starts : StartsEntry rest)
    (indentEq : b.indent = column)
    (inside : column ≤ p.column) :
    ∃ q keyAllowed,
      (stream p false b).advance = .ok (stream q keyAllowed (b.push (.scalar content false))) ∧
        Arrives q keyAllowed rest n := by
  rcases moveTo_behindSpace textEq with ⟨here, behind⟩
  refine ⟨_, false,
    advance_quoted textEq isQuote (by rw [behind, indentEq]; omega) reading, ?_⟩
  apply arrives_of_lineFeed _ starts.startsToken
  apply Position.moveTo_rest (u := .char quote :: (written ++ [.char quote]))
  rw [here]
  simp

/-- A step takes a scalar that is the value of an entry, and the next entry is reached from where it
ends. -/
theorem advance_scalar
    {written : Text} {plain : Bool}
    (textEq :
      p.rest =
        .char ' ' :: (written ++ .char '\n' :: (List.replicate n (.char ' ') ++ rest)))
    (scalar : IsScalarText (width + 1) content plain written)
    (starts : StartsEntry rest)
    (outside : n ≤ column)
    (indentEq : b.indent = column)
    (further : column ≤ width)
    (narrow : width + 2 ≤ foldColumn)
    (inside : column ≤ p.column) :
    ∃ q keyAllowed,
      (stream p false b).advance = .ok (stream q keyAllowed (b.push (.scalar content plain))) ∧
        Arrives q keyAllowed rest n := by
  cases scalar with
  | plain writtenColumn stands =>
      exact advance_plainScalar writtenColumn textEq stands starts outside indentEq further inside
  | single writtenColumn held noSpace =>
      simp only [List.cons_append, List.append_assoc, List.nil_append] at textEq
      exact advance_quotedScalar textEq (.inl rfl) (readQuoted_single held noSpace rfl) starts
        indentEq inside
  | double writtenColumn =>
      simp only [List.cons_append, List.append_assoc, List.nil_append] at textEq
      exact advance_quotedScalar textEq (.inr rfl) (readQuoted_double content narrow) starts
        indentEq inside

end Value

/-- Two steps take a key and its colon, with the start of the block if the key is its first one. -/
theorem steps_key
    {p : Position} {keyAllowed : Bool} {b : Blocks} {key rest : Text} {column : Nat}
    (arrives : Arrives p keyAllowed (key ++ .char ':' :: rest) column)
    (isKey : IsKey key)
    (ended : endsWord rest = true)
    (closed : (b.atColumn column).indent ≤ column) :
    ∃ q : Position,
      Steps 2 (stream p keyAllowed b)
          (stream q false
            (((b.atColumn column).openMapping column).append
              [.key, .scalar key true, .value])) ∧
        q.rest = rest ∧ column ≤ q.column := by
  rcases arrives with ⟨skipped, restEq, columnEq⟩
  have printable : ∀ c ∈ key, isPrintable c = true := by
    have listed : ∀ c ∈ keyCharacters, isPrintable c = true := by decide
    exact fun c member => listed c (isKey.characters c member)
  have starts : StartsPlain (key ++ .char ':' :: rest) := by
    rcases List.exists_cons_of_ne_nil isKey.nonempty with ⟨c, more, rfl⟩
    exact startsPlain_key _ (isKey.characters c List.mem_cons_self)
  have takesKey :=
    advance_keyScalar (b := b) skipped restEq starts fun indent =>
      plainScan_key indent _ isKey ended
  generalize p.moveTo (key ++ .char ':' :: rest) = start at restEq columnEq takesKey
  subst columnEq
  have atColon := Position.moveTo_rest restEq
  rcases Position.moveTo_of_isPrintable restEq printable with ⟨sameLine, index, column⟩
  generalize start.moveTo (.char ':' :: rest) = colon at atColon sameLine index column takesKey
  have length := isKey.length
  have takesColon :=
    @advance_colon start colon (b.atColumn start.column) key rest atColon ended sameLine (by omega)
      (by omega)
  have colonPrintable : ∀ c ∈ [CodePoint.char ':'], isPrintable c = true := by decide
  have behind := Position.moveTo_of_isPrintable (u := [.char ':']) atColon colonPrintable
  refine ⟨colon.moveTo rest, .step rfl takesKey (.step rfl takesColon (.refl _)),
    Position.moveTo_rest (u := [.char ':']) atColon, ?_⟩
  rw [behind.2.2]
  omega

end Shapewright.Yaml
