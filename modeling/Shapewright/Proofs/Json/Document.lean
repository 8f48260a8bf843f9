import Shapewright.Handler
import Shapewright.Proofs.Json.Reading
import Shapewright.Proofs.Text.Blank

/-!
# Standard documents

Every JSON text of a standard value, with any blanks around it, is a document that holds just that
value.  What is generated from the text is what is generated from the value.
-/

namespace Shapewright

namespace Value

/-! ## Standard values are finite -/

theorem children_areStandard
    {v : Value}
    (standard : v.isStandard = true) :
    areStandard v.children = true := by
  cases v with
  | array items =>
      exact standard
  | object entries =>
      simp only [isStandard, Bool.and_eq_true] at standard
      rw [areStandard_iff]
      intro w member
      rcases List.mem_map.mp member with ⟨entry, entryMember, rfl⟩
      exact (haveStandard_iff.mp standard.2 entry entryMember).2
  | _ =>
      rfl

theorem nonFinite?_of_isStandard
    {v : Value}
    (standard : v.isStandard = true) :
    nonFinite? v = none := by
  cases v with
  | float x =>
      cases standard
  | _ =>
      rfl

/-- A search keeps a stack of standard values standard, and so it finds nothing. -/
theorem searchNonFinite_of_areStandard
    {stack : List Value} (fuel : Nat)
    (standard : areStandard stack = true) :
    searchNonFinite fuel stack = none := by
  induction fuel generalizing stack with
  | zero =>
      rfl
  | succ fuel induction =>
      cases stack with
      | nil =>
          rfl
      | cons v rest =>
          simp only [areStandard, Bool.and_eq_true] at standard
          have pushed : areStandard (v.children.reverse ++ rest) = true := by
            rw [areStandard_iff]
            intro w member
            rcases List.mem_append.mp member with child | waiting
            · exact areStandard_iff.mp (children_areStandard standard.1) w
                (List.mem_reverse.mp child)
            · exact areStandard_iff.mp standard.2 w waiting
          simp only [searchNonFinite, nonFinite?_of_isStandard standard.1]
          exact induction pushed

theorem findNonFinite_of_isStandard
    {v : Value}
    (standard : v.isStandard = true) :
    v.findNonFinite = none :=
  searchNonFinite_of_areStandard v.count (by simp [areStandard, standard])

end Value

namespace Json

/-! ## Blanks around a document -/

theorem isBlank_of_mem_startChars
    {c : Char}
    (start : c ∈ startChars) :
    (CodePoint.char c).isBlank = false := by
  have listed : startChars.all fun c => !(CodePoint.char c).isBlank := by decide
  simpa using List.all_eq_true.mp listed c start

theorem isBlank_of_isSpacing
    {space : Text} {c : CodePoint}
    (spacing : IsSpacing space)
    (member : c ∈ space) :
    c.isBlank = true := by
  have blank :
      ∀ d ∈ [CodePoint.char ' ', .char '\t', .char '\r', .char '\n'], d.isBlank = true := by
    decide
  exact blank c (spacing c member)

/-- A text whose last code point is no blank. -/
def EndsVisibly (t : Text) : Prop :=
  ∃ front last, t = front ++ [last] ∧ last.isBlank = false

theorem EndsVisibly.cons
    {t : Text} (c : CodePoint)
    (ends : EndsVisibly t) :
    EndsVisibly (c :: t) := by
  rcases ends with ⟨front, last, rfl, visible⟩
  exact ⟨c :: front, last, rfl, visible⟩

theorem IsDigits.endsVisibly
    {digits : List Char}
    (isDigits : IsDigits digits) :
    EndsVisibly (digits.map .char) := by
  refine ⟨digits.dropLast.map .char, .char (digits.getLast isDigits.nonempty), ?_, ?_⟩
  · rw [← List.map_singleton, ← List.map_append, List.dropLast_append_getLast]
  · exact isBlank_of_mem_startChars
      (mem_startChars_of_isDigit (isDigits.digit _ (List.getLast_mem _)))

theorem Spells.endsVisibly
    {v : Value} {t : Text}
    (spells : Spells v t) :
    EndsVisibly t := by
  cases spells with
  | null => exact ⟨Text.ofString "nul", .char 'l', rfl, by decide⟩
  | true => exact ⟨Text.ofString "tru", .char 'e', rfl, by decide⟩
  | false => exact ⟨Text.ofString "fals", .char 'e', rfl, by decide⟩
  | integer spellsInteger =>
      cases spellsInteger with
      | natural isDigits => exact isDigits.endsVisibly
      | negative isDigits => exact isDigits.endsVisibly.cons _
  | text _ => exact .cons _ ⟨_, .char '"', rfl, by decide⟩
  | emptyArray _ => exact .cons _ ⟨_, .char ']', rfl, by decide⟩
  | array _ => exact .cons _ ⟨_, .char ']', rfl, by decide⟩
  | emptyObject _ => exact .cons _ ⟨_, .char '\x7d', rfl, by decide⟩
  | object _ => exact .cons _ ⟨_, .char '\x7d', rfl, by decide⟩

theorem Spells.trimBlanks_eq
    {v : Value} {t : Text}
    (spells : Spells v t) :
    t.trimBlanks = t := by
  rcases spells.exists_start with ⟨first, start, rest, starts⟩
  rcases spells.endsVisibly with ⟨front, last, ends, visible⟩
  exact Text.trim_of_kept_ends starts ends (isBlank_of_mem_startChars start) visible

/-! ## Documents -/

/-- A JSON text of a standard value is read back to that value, key order included, whatever blanks
are around it; what is generated from the text is generated from the value. -/
theorem parse_of_spellsSpaced
    {document : Value} {before t after : Text}
    (standard : document.isStandard = true)
    (shallow : document.nesting ≤ 1024)
    (spells : SpellsSpaced document t)
    (blankBefore : ∀ c ∈ before, c.isBlank = true)
    (blankAfter : ∀ c ∈ after, c.isBlank = true) :
    parse (before ++ (t ++ after)) = .ok document ∧
      ∀ settings seed,
        generateFromText settings (before ++ (t ++ after)) seed =
          (Declaration.generate settings document seed).mapError .generate := by
  have parsed : parse (before ++ (t ++ after)) = .ok document := by
    cases spells with
    | @mk _ spaceBefore core spaceAfter spacingBefore spellsCore spacingAfter =>
        -- The spaces of the text are blanks, too, and are trimmed with the padding.
        have payload :
            (before ++ ((spaceBefore ++ (core ++ spaceAfter)) ++ after)).trimBlanks = core := by
          calc
            _ = (spaceBefore ++ (core ++ spaceAfter)).trimBlanks :=
              Text.trim_padded _ blankBefore blankAfter
            _ = core.trimBlanks :=
              Text.trim_padded _ (fun _ => isBlank_of_isSpacing spacingBefore)
                (fun _ => isBlank_of_isSpacing spacingAfter)
            _ = core := spellsCore.trimBlanks_eq
        have notEmpty : core.isEmpty = false := by
          rcases spellsCore.exists_start with ⟨_, _, _, rfl⟩
          rfl
        simp only [parse, payload, notEmpty, read_of_spells spellsCore standard shallow,
          Value.findNonFinite_of_isStandard standard, Bool.false_eq_true, if_false]
  refine ⟨parsed, fun settings seed => ?_⟩
  rw [generateFromText, parsed]
  rfl

/-- A small document whose key holds a character above U+FFFF. -/
def escapedDocument : Value :=
  .object [([.char 'k', .char '😀'], .array [.integer (-7), .boolean true])]

/-- A text of the document, with the character of its key as the escapes of a surrogate pair. -/
def escapedText : Text :=
  Text.ofString "\t\x7b\"k\\uD83d\\uDE00\" :[-7,\r\n true]\x7d"

theorem escapedText_spells :
    SpellsSpaced escapedDocument escapedText := by
  have noSpace : IsSpacing [] := by decide
  have oneSpace : IsSpacing [.char ' '] := by decide
  have key :
      SpellsSpaced (.text [.char 'k', .char '😀'])
        (Text.ofString "\"k\\uD83d\\uDE00\" ") := by
    have letter : SpellsChar 'k' [.char 'k'] := .raw (by decide) (by decide) (by decide)
    have high : SpellsUnit 0xD83D (Text.ofString "\\uD83d") :=
      .mk (by decide) (by decide) (by decide) (by decide)
    have low : SpellsUnit 0xDE00 (Text.ofString "\\uDE00") :=
      .mk (by decide) (by decide) (by decide) (by decide)
    have face : SpellsChar '😀' (Text.ofString "\\uD83d\\uDE00") :=
      @SpellsChar.pair '😀' _ _ (by decide) high low
    exact .mk noSpace (.text (.cons letter (.cons face .nil))) oneSpace
  have seven : SpellsInteger (-7) (Text.ofString "-7") :=
    @SpellsInteger.negative ['7'] ⟨by decide, by simp, by decide⟩
  have items :
      SpellsItems [.integer (-7), .boolean true] (Text.ofString "-7,\r\n true") :=
    .cons (.mk noSpace (.integer seven) noSpace)
      (.last (@SpellsSpaced.mk _ (Text.ofString "\r\n ") _ _ (by decide) .true noSpace))
  have array :
      SpellsSpaced (.array [.integer (-7), .boolean true])
        (Text.ofString "[-7,\r\n true]") :=
    .mk noSpace (.array items) noSpace
  exact @SpellsSpaced.mk _ [.char '\t'] _ _ (by decide) (.object (.last key array)) noSpace

/-- A blank that is no JSON space and an information separator around the text change nothing. -/
theorem parse_of_spellsSpaced_escapedText :
    parse ([.char '\u00a0'] ++ (escapedText ++ [.char '\x1c'])) = .ok escapedDocument ∧
      ∀ settings seed,
        generateFromText settings ([.char '\u00a0'] ++ (escapedText ++ [.char '\x1c'])) seed =
          (Declaration.generate settings escapedDocument seed).mapError .generate :=
  parse_of_spellsSpaced (by decide +kernel) (by decide +kernel) escapedText_spells
    (by decide +kernel) (by decide +kernel)

end Json

end Shapewright
