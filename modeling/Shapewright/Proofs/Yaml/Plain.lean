import Mathlib.Data.List.TakeDrop
import Shapewright.Proofs.Yaml.Character
import Shapewright.Yaml.Plain
import Shapewright.Yaml.Writer

/-!
# Plain scalars are read back

A text that may stand without quotes is read back from what is written for it, whatever lines it
has been folded into.  The reader takes a scalar run by run, while the writer goes from one code
point to the next; `continueRun` is the reader in the middle of a run, and the proof follows the
writer.
-/

namespace Shapewright.Yaml

/-! ## The reader in the middle of a run -/

/-- The rest of a run, the gap behind it, and the runs that follow. -/
def continueRun (indent fuel : Nat) (t : Text) : PlainScan :=
  let (run, rest) := plainRun false t
  let gap := plainGap rest
  if gap.chunk.isEmpty || startsWithOneOf "#" gap.rest || (gap.crossesLine && gap.column < indent)
  then ⟨run, gap.rest, gap.crossesLine⟩
  else
    let next := plainScan false indent fuel gap.rest
    if next.content.isEmpty then ⟨run, gap.rest, gap.crossesLine⟩
    else ⟨run ++ gap.chunk ++ next.content, next.rest, next.endsAtLineStart⟩

theorem plainScan_cons
    {c : CodePoint} {rest : Text} (indent fuel : Nat)
    (notComment : c ≠ .char '#')
    (goesOn : endsPlain false c rest = false) :
    plainScan false indent (fuel + 1) (c :: rest) = continueRun indent fuel (c :: rest) := by
  have notHash : startsWithOneOf "#" (c :: rest) = false := by
    simpa [startsWithOneOf, Text.ofString] using notComment
  have run : (plainRun false (c :: rest)).1.isEmpty = false := by
    simp [plainRun, goesOn]
  simp [plainScan, continueRun, notHash, run]

theorem continueRun_cons
    {c : CodePoint} {rest : Text} (indent fuel : Nat)
    (goesOn : endsPlain false c rest = false) :
    continueRun indent fuel (c :: rest) =
      { continueRun indent fuel rest with
        content := c :: (continueRun indent fuel rest).content } := by
  have run :
      plainRun false (c :: rest) = (c :: (plainRun false rest).1, (plainRun false rest).2) := by
    simp [plainRun, goesOn]
  rw [continueRun, run, continueRun]
  simp only
  split
  · rfl
  · split
    · rfl
    · simp

/-- A gap that the scalar goes on behind. -/
theorem continueRun_gap
    {t : Text} {indent fuel : Nat} {gap : PlainGap} {next : PlainScan}
    (ended : plainRun false t = ([], t))
    (gapEq : plainGap t = gap)
    (chunk : gap.chunk ≠ [])
    (notComment : startsWithOneOf "#" gap.rest = false)
    (indented : gap.crossesLine = true → indent ≤ gap.column)
    (nextEq : plainScan false indent fuel gap.rest = next)
    (goesOn : next.content ≠ []) :
    continueRun indent fuel t =
      ⟨gap.chunk ++ next.content, next.rest, next.endsAtLineStart⟩ := by
  have notLess : (gap.crossesLine && decide (gap.column < indent)) = false := by
    cases crosses : gap.crossesLine with
    | false => rfl
    | true => simpa using indented crosses
  simp [continueRun, ended, gapEq, chunk, notComment, notLess, nextEq, goesOn]

/-! ## Gaps -/

/-- A text that goes on in its line: it starts neither with a space nor with a line break. -/
def GoesOn (t : Text) : Prop :=
  ∃ c rest, t = c :: rest ∧ c ≠ .char ' ' ∧ breakOf? c = none

theorem span_spaces
    {t : Text} (n : Nat)
    (notSpace : ∀ c ∈ t.head?, c ≠ .char ' ') :
    (List.replicate n (CodePoint.char ' ') ++ t).span (· = .char ' ') =
      (List.replicate n (.char ' '), t) := by
  rw [List.span_eq_takeWhile_dropWhile]
  have spaces : ∀ c ∈ List.replicate n (CodePoint.char ' '), decide (c = .char ' ') = true := by
    intro c member
    rw [List.eq_of_mem_replicate member]
    rfl
  rw [List.takeWhile_append_of_pos spaces, List.dropWhile_append_of_pos spaces]
  cases t with
  | nil => simp
  | cons c rest => simp [notSpace c rfl]

theorem plainBreaks_spaces
    (atLineStart : Bool) (column n : Nat) (t : Text) :
    plainBreaks atLineStart column (List.replicate (n + 1) (.char ' ') ++ t) =
      plainBreaks false (column + (n + 1)) t := by
  have notSeparator (rest : Text) : atSeparator (.char ' ' :: rest) = false := by
    simp [atSeparator, Text.ofString]
  induction n generalizing atLineStart column with
  | zero => simp [plainBreaks, notSeparator]
  | succ n induction =>
      rw [List.replicate_succ, List.cons_append, plainBreaks, notSeparator, Bool.and_false,
        if_neg (by decide), if_pos rfl, induction]
      congr 1
      omega

theorem plainBreaks_goesOn
    {t : Text} (column : Nat)
    (goesOn : GoesOn t) :
    plainBreaks false column t = (some [], column, t) := by
  rcases goesOn with ⟨c, rest, rfl, notSpace, notBreak⟩
  simp [plainBreaks, notSpace, notBreak]

theorem plainGap_spaces
    {t : Text} (n : Nat)
    (goesOn : GoesOn t) :
    plainGap (List.replicate n (.char ' ') ++ t) = ⟨List.replicate n (.char ' '), t, false, 0⟩ := by
  rcases goesOn with ⟨c, rest, rfl, notSpace, notBreak⟩
  rw [plainGap, span_spaces n (by simpa using notSpace)]
  simp [notBreak]

/-- A single folded line break is a space again. -/
theorem plainGap_newLine
    {t : Text} (indent : Nat)
    (goesOn : GoesOn t) :
    plainGap (newLine (indent + 1) ++ t) = ⟨[.char ' '], t, true, indent + 1⟩ := by
  have span :=
    span_spaces 0
      (by simp [newLine] : ∀ c ∈ (newLine (indent + 1) ++ t).head?, c ≠ CodePoint.char ' ')
  rw [List.replicate_zero, List.nil_append] at span
  rw [plainGap, span]
  simp only [newLine, List.cons_append]
  rw [show breakOf? (.char '\n') = some (.char '\n') from rfl]
  simp only [plainBreaks_spaces, plainBreaks_goesOn _ goesOn, Nat.zero_add]
  rfl

/-! ## What ends a scalar -/

/-- A text that a plain scalar ends before; the reader goes on with `rest`. -/
structure EndsPlain (indent : Nat) (t rest : Text) : Prop where
  ended : plainRun false t = ([], t)
  word : endsWord t = true
  rest : (plainGap t).rest = rest
  crossesLine : (plainGap t).crossesLine = true
  column : (plainGap t).column < indent

theorem EndsPlain.continueRun_eq
    {indent : Nat} {t rest : Text} (fuel : Nat)
    (ends : EndsPlain indent t rest) :
    continueRun indent fuel t = ⟨[], rest, true⟩ := by
  simp [continueRun, ends.ended, ends.rest, ends.crossesLine, ends.column]

namespace Plain

theorem endsWord_singleton
    {c : CodePoint}
    (printable : isPrintable c = true)
    (notSpace : c ≠ .char ' ') :
    endsWord [c] = false := by
  simp [endsWord, isSpaceOrTab_of_isPrintable printable notSpace, isBreak_of_isPrintable printable]

theorem hasInnerIndicator_weaken
    {t : Text} (afterBlank : Bool)
    (none : hasInnerIndicator afterBlank t = false) :
    hasInnerIndicator false t = false := by
  cases t with
  | nil => rfl
  | cons c rest =>
      simp only [hasInnerIndicator, Bool.or_eq_false_iff] at none ⊢
      exact ⟨⟨none.1.1, Bool.and_false _⟩, none.2⟩

theorem hasInnerIndicator_spaces
    {t : Text} {afterBlank : Bool} (n : Nat)
    (none : hasInnerIndicator afterBlank (List.replicate (n + 1) (.char ' ') ++ t) = false) :
    hasInnerIndicator true t = false := by
  induction n generalizing afterBlank with
  | zero =>
      rw [List.replicate_one, List.singleton_append, hasInnerIndicator,
        Bool.or_eq_false_iff] at none
      exact none.2
  | succ n induction =>
      rw [List.replicate_succ, List.cons_append, hasInnerIndicator, Bool.or_eq_false_iff] at none
      exact induction none.2

/-! ## What is written -/

theorem write_cons
    {c : CodePoint} {afterSpace : Bool} (indent column : Nat) (rest : Text)
    (notSpace : c ≠ .char ' ') :
    write indent column afterSpace (c :: rest) = c :: write indent (column + 1) false rest := by
  simp [write, notSpace]

theorem write_afterSpace
    {t : Text} (indent column n : Nat)
    (goesOn : GoesOn t) :
    ∃ further,
      write indent column true (List.replicate n (.char ' ') ++ t) =
        List.replicate n (.char ' ') ++ write indent further false t := by
  induction n generalizing column with
  | zero =>
      rcases goesOn with ⟨c, rest, rfl, notSpace, _⟩
      refine ⟨column, ?_⟩
      rw [List.replicate_zero, List.nil_append, List.nil_append, write_cons _ _ _ notSpace,
        write_cons _ _ _ notSpace]
  | succ n induction =>
      rcases induction (column + 1) with ⟨further, eq⟩
      refine ⟨further, ?_⟩
      rw [List.replicate_succ, List.cons_append, write]
      simpa using eq

/-- Spaces are written as they are, or one alone as a line break. -/
theorem write_spaces
    {t : Text} (indent column n : Nat)
    (goesOn : GoesOn t) :
    ∃ gap further,
      write indent column false (List.replicate (n + 1) (.char ' ') ++ t) =
          gap ++ write indent further false t ∧
        (gap = List.replicate (n + 1) (.char ' ') ∨ n = 0 ∧ gap = newLine indent) := by
  rw [List.replicate_succ, List.cons_append, write]
  split
  next folded =>
    have single : n = 0 := by
      cases n with
      | zero => rfl
      | succ n => simp [startsWith, List.replicate_succ] at folded
    subst single
    exact ⟨newLine indent, indent, rfl, .inr ⟨rfl, rfl⟩⟩
  · rcases write_afterSpace indent (column + 1) n goesOn with ⟨further, eq⟩
    exact ⟨_, further, by simp [eq], .inl rfl⟩

theorem exists_spaces
    {t : Text}
    (last : (CodePoint.char ' ' :: t).getLast? ≠ some (.char ' ')) :
    ∃ n c rest, t = List.replicate n (.char ' ') ++ c :: rest ∧ c ≠ .char ' ' := by
  induction t with
  | nil => exact absurd rfl last
  | cons c rest induction =>
      by_cases space : c = .char ' '
      · subst space
        rw [List.getLast?_cons_cons] at last
        rcases induction last with ⟨n, d, more, rfl, notSpace⟩
        exact ⟨n + 1, d, more, rfl, notSpace⟩
      · exact ⟨0, c, rest, rfl, space⟩

/-- What follows a code point that no word ends at is written behind it as it is. -/
theorem endsWord_write
    {t : Text} (indent column : Nat) (after : Text)
    (goesOn : endsWord t = false) :
    endsWord (write indent column false t ++ after) = false := by
  cases t with
  | nil => cases goesOn
  | cons c rest =>
      have notSpace : c ≠ .char ' ' := by
        rintro rfl
        cases goesOn
      rw [write_cons _ _ _ notSpace]
      exact goesOn

theorem endsPlain_write
    {c : CodePoint} {rest : Text} {afterBlank : Bool} (indent column : Nat) (after : Text)
    (printable : isPrintable c = true)
    (notSpace : c ≠ .char ' ')
    (inner : hasInnerIndicator afterBlank (c :: rest) = false) :
    endsPlain false c (write indent column false rest ++ after) = false := by
  have colon : (c = .char ':' && endsWord (write indent column false rest ++ after)) = false := by
    by_cases isColon : c = .char ':'
    · simp only [hasInnerIndicator, isColon, decide_true, Bool.true_and, Bool.or_eq_false_iff]
        at inner
      rw [endsWord_write indent column after inner.1.1, Bool.and_false]
    · simp [isColon]
  simp only [endsPlain, isSpaceOrTab_of_isPrintable printable notSpace,
    isBreak_of_isPrintable printable, Bool.false_and, Bool.or_false]
  exact colon

/-- A run of spaces is read back from what is written for it. -/
theorem plainGap_write
    {t : Text} {width n : Nat} {gap : Text}
    (goesOn : GoesOn t)
    (written : gap = List.replicate (n + 1) (.char ' ') ∨ n = 0 ∧ gap = newLine (width + 1)) :
    ∃ crossesLine column,
      plainGap (gap ++ t) = ⟨List.replicate (n + 1) (.char ' '), t, crossesLine, column⟩ ∧
        (crossesLine = true → column = width + 1) ∧
          plainRun false (gap ++ t) = ([], gap ++ t) := by
  rcases written with rfl | ⟨rfl, rfl⟩
  · exact ⟨false, 0, plainGap_spaces (n + 1) goesOn, by simp, rfl⟩
  · exact ⟨true, width + 1, plainGap_newLine width goesOn, fun _ => rfl, rfl⟩

/-- A scalar goes on behind spaces if a run is read back there. -/
theorem continueRun_write_spaces
    {c : CodePoint} {more after rest : Text} {width indent fuel n : Nat} (column : Nat)
    (printable : isPrintable c = true)
    (notSpace : c ≠ .char ' ')
    (inner : hasInnerIndicator true (c :: more) = false)
    (indented : indent ≤ width + 1)
    (run : ∀ further,
      continueRun indent fuel (write (width + 1) further false (c :: more) ++ after) =
        ⟨c :: more, rest, true⟩) :
    continueRun indent (fuel + 1)
        (write (width + 1) column false (List.replicate (n + 1) (.char ' ') ++ c :: more) ++
          after) =
      ⟨List.replicate (n + 1) (.char ' ') ++ c :: more, rest, true⟩ := by
  have notComment : c ≠ .char '#' := by
    rintro rfl
    simp [hasInnerIndicator] at inner
  have notBreak := breakOf?_of_isPrintable printable
  rcases write_spaces (width + 1) column n ⟨c, more, rfl, notSpace, notBreak⟩ with
    ⟨gap, further, eq, written⟩
  have runEq := run further
  rw [eq, List.append_assoc]
  rw [write_cons _ _ _ notSpace, List.cons_append] at runEq ⊢
  have next :=
    (plainScan_cons indent fuel notComment
      (endsPlain_write (width + 1) (further + 1) after printable notSpace inner)).trans runEq
  rcases plainGap_write ⟨c, _, rfl, notSpace, notBreak⟩ written with
    ⟨crossesLine, reached, gapEq, crossed, ended⟩
  refine continueRun_gap ended gapEq (by simp) ?_ ?_ next (by simp)
  · simpa [startsWithOneOf, Text.ofString] using notComment
  · intro crosses
    rw [crossed crosses]
    exact indented

/-- In the middle of a run, the rest of a text is read back from what is written for it. -/
theorem continueRun_write
    {t after rest : Text} {width indent : Nat} (column fuel : Nat)
    (printable : ∀ c ∈ t, isPrintable c = true)
    (last : t.getLast? ≠ some (.char ' '))
    (inner : hasInnerIndicator false t = false)
    (indented : indent ≤ width + 1)
    (enough : t.length ≤ fuel)
    (ends : EndsPlain indent after rest) :
    continueRun indent fuel (write (width + 1) column false t ++ after) = ⟨t, rest, true⟩ := by
  match t with
  | [] => exact ends.continueRun_eq fuel
  | c :: more =>
      by_cases space : c = .char ' '
      · subst space
        rcases Nat.exists_eq_succ_of_ne_zero (Nat.ne_zero_of_lt enough) with ⟨fuel, rfl⟩
        rcases exists_spaces last with ⟨n, d, tail, rfl, notSpace⟩
        rw [← List.cons_append, ← List.replicate_succ] at printable last inner enough ⊢
        have printableTail := (List.forall_mem_append.mp printable).2
        have innerTail := hasInnerIndicator_spaces n inner
        have lastTail : (d :: tail).getLast? ≠ some (.char ' ') := by
          intro same
          rw [List.getLast?_append, same] at last
          exact last rfl
        rw [List.length_append, List.length_replicate] at enough
        exact continueRun_write_spaces column (printableTail d List.mem_cons_self) notSpace
          innerTail indented fun further =>
            continueRun_write further fuel printableTail lastTail
              (hasInnerIndicator_weaken true innerTail) indented (by omega) ends
      · have cPrintable := printable c List.mem_cons_self
        have innerMore : hasInnerIndicator false more = false := by
          have both := inner
          rw [hasInnerIndicator, Bool.or_eq_false_iff, endsWord_singleton cPrintable space] at both
          exact both.2
        have lastMore : more.getLast? ≠ some (.char ' ') := by
          cases more with
          | nil => simp
          | cons d tail => rwa [List.getLast?_cons_cons] at last
        rw [write_cons _ _ _ space, List.cons_append,
          continueRun_cons indent fuel (endsPlain_write _ _ after cPrintable space inner),
          continueRun_write (column + 1) fuel
            (fun d member => printable d (List.mem_cons_of_mem c member)) lastMore innerMore
            indented (Nat.le_of_succ_le enough) ends]
termination_by t.length

/-! ## Whole scalars -/

/-- A text that may stand without quotes, be it read as a text or as another value. -/
structure Stands (t : Text) : Prop where
  nonempty : t ≠ []
  printable : ∀ c ∈ t, isPrintable c = true
  first : startsWith ' ' t = false
  last : t.getLast? ≠ some (.char ' ')
  notSeparator : startsLikeSeparator t = false
  leading : hasLeadingIndicator t = false
  inner : hasInnerIndicator false (t.drop 1) = false

theorem stands_of_allows
    {t : Text}
    (allowed : allows t = true) :
    Stands t ∧ resolvePlain t = .text := by
  simp only [allows, isPrintableAscii, Bool.and_eq_true, beq_iff_eq, bne_iff_ne, Bool.not_eq_true',
    List.all_eq_true] at allowed
  rcases allowed with ⟨⟨⟨⟨⟨⟨resolved, printable⟩, first⟩, last⟩, notSeparator⟩, leading⟩, inner⟩
  refine ⟨⟨?_, ?_, first, last, notSeparator, leading, ?_⟩, resolved⟩
  · rintro rfl
    exact absurd resolved (by decide)
  · intro c member
    simpa [isPrintable] using printable c member
  · cases t with
    | nil => rfl
    | cons c rest => exact hasInnerIndicator_weaken _ inner

theorem Stands.inner_eq
    {t : Text}
    (stands : Stands t) :
    hasInnerIndicator false t = false := by
  have inner := stands.inner
  have leading := stands.leading
  cases t with
  | nil => rfl
  | cons c rest =>
      have printable := stands.printable c List.mem_cons_self
      have notSpace : c ≠ .char ' ' := by
        rintro rfl
        exact absurd stands.first (by simp [startsWith])
      have colon : (c = .char ':' && endsWord rest) = false := by
        by_cases isColon : c = .char ':'
        · subst isColon
          rw [hasLeadingIndicator, Bool.or_eq_false_iff] at leading
          exact leading.2
        · simp [isColon]
      simp only [hasInnerIndicator, endsWord_singleton printable notSpace, colon]
      simpa using inner

theorem Stands.exists_cons
    {t : Text}
    (stands : Stands t) :
    ∃ c rest, t = c :: rest ∧ isPrintable c = true ∧ c ≠ .char ' ' := by
  rcases List.exists_cons_of_ne_nil stands.nonempty with ⟨c, rest, rfl⟩
  refine ⟨c, rest, rfl, stands.printable c List.mem_cons_self, ?_⟩
  rintro rfl
  exact absurd stands.first (by simp [startsWith])

theorem isWritten_write
    {t : Text} (indent column : Nat) (afterSpace : Bool)
    (printable : ∀ c ∈ t, isPrintable c = true) :
    isWritten (write indent column afterSpace t) = true := by
  induction t generalizing column afterSpace with
  | nil => rfl
  | cons c rest induction =>
      have writtenRest (column : Nat) (afterSpace : Bool) :=
        induction column afterSpace fun d member => printable d (List.mem_cons_of_mem c member)
      rw [write]
      split
      · simp [newLine, writtenRest]
      · simp [writtenRest, printable c List.mem_cons_self]

theorem length_le_write
    (t : Text) (indent column : Nat) (afterSpace : Bool) :
    t.length ≤ (write indent column afterSpace t).length := by
  induction t generalizing column afterSpace with
  | nil => exact Nat.zero_le _
  | cons c rest induction =>
      rw [write]
      split
      · have shorter := induction indent false
        simp only [newLine, List.length_append, List.length_cons]
        omega
      · exact Nat.succ_le_succ (induction _ _)

theorem take_write
    {t after : Text} {indent column : Nat} {c : CodePoint} (n : Nat)
    (notSpace : c ≠ .char ' ')
    (notLineFeed : c ≠ .char '\n')
    (run : (write indent column false t ++ .char '\n' :: after).take n = List.replicate n c) :
    t.take n = List.replicate n c := by
  induction n generalizing t column with
  | zero => rfl
  | succ n induction =>
      cases t with
      | nil => exact absurd (List.cons.inj run).1.symm notLineFeed
      | cons d rest =>
          by_cases space : d = .char ' '
          · subst space
            rw [write] at run
            split at run
            · exact absurd (List.cons.inj run).1.symm notLineFeed
            · exact absurd (List.cons.inj run).1.symm notSpace
          · rw [write_cons _ _ _ space] at run
            rcases List.cons.inj run with ⟨rfl, tail⟩
            rw [List.take_succ_cons, induction tail, List.replicate_succ]

/-- What is written does not look like a separator of documents. -/
theorem Stands.startsLikeSeparator_write
    {t : Text} (indent column : Nat) (after : Text)
    (stands : Stands t) :
    startsLikeSeparator (write indent column false t ++ .char '\n' :: after) = false := by
  have notSeparator := stands.notSeparator
  simp only [startsLikeSeparator, Bool.or_eq_false_iff, beq_eq_false_iff_ne, ne_eq] at *
  constructor
  · intro hyphens
    exact notSeparator.1 (take_write 3 (c := .char '-') (by decide) (by decide) hyphens)
  · intro points
    exact notSeparator.2 (take_write 3 (c := .char '.') (by decide) (by decide) points)

theorem Stands.hasLeadingIndicator_write
    {t : Text} (indent column : Nat) (after : Text)
    (stands : Stands t) :
    hasLeadingIndicator (write indent column false t ++ after) = false := by
  have leading := stands.leading
  rcases stands.exists_cons with ⟨c, rest, rfl, _, notSpace⟩
  rw [hasLeadingIndicator, Bool.or_eq_false_iff] at leading
  rw [write_cons _ _ _ notSpace, List.cons_append, hasLeadingIndicator, leading.1, Bool.false_or]
  cases ended : endsWord rest with
  | true =>
      rw [ended, Bool.and_true] at leading
      rw [leading.2, Bool.false_and]
  | false => rw [endsWord_write indent (column + 1) after ended, Bool.and_false]

/-- A text is read back from what is written for it without quotes. -/
theorem plainScan_write
    {t after rest : Text} {width indent : Nat} (column fuel : Nat)
    (stands : Stands t)
    (indented : indent ≤ width + 1)
    (enough : t.length ≤ fuel)
    (ends : EndsPlain indent after rest) :
    plainScan false indent (fuel + 1) (write (width + 1) column false t ++ after) =
      ⟨t, rest, true⟩ := by
  rw [← continueRun_write column fuel stands.printable stands.last stands.inner_eq indented enough
    ends]
  have leading := stands.leading
  rcases stands.exists_cons with ⟨c, more, rfl, printable, notSpace⟩
  have notComment : c ≠ .char '#' := by
    rintro rfl
    simp [hasLeadingIndicator, startsWithOneOf, Text.ofString] at leading
  rw [write_cons _ _ _ notSpace, List.cons_append]
  exact plainScan_cons indent fuel notComment
    (endsPlain_write _ _ after printable notSpace stands.inner_eq)

end Plain

end Shapewright.Yaml
