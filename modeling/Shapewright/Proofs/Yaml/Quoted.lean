import Shapewright.Proofs.Outcome
import Shapewright.Proofs.Yaml.Plain
import Shapewright.Yaml.Quoted

/-!
# Quoted scalars are read back

What is written between single quotes for a text is read back as that text.  The readers take the
blanks between two words at once, so what they do is stated for enough fuel, whatever its amount.
-/

namespace Shapewright.Yaml

open Shapewright.Outcome

/-- A reader gives `t` for the start of `u` and leaves `rest`. -/
def ReadsBack (read : Nat → Text → Except Error (Text × Text)) (u t rest : Text) : Prop :=
  ∀ fuel, u.length ≤ fuel → read fuel u = .ok (t, rest)

/-! ## Blanks -/

/-- A reader takes the blank part at a space, a tab or a line break as a whole. -/
def TakesGaps (read : Nat → Text → Except Error (Text × Text)) : Prop :=
  ∀ fuel c rest, (isSpaceOrTab c || isBreak c) = true →
    read (fuel + 1) (c :: rest) = do
      let (gap, rest) ← quotedGap (c :: rest)
      let (content, rest) ← read fuel rest
      .ok (gap ++ content, rest)

/-- Behind spaces and tabs, the line goes on. -/
def StaysInLine (t : Text) : Prop :=
  ∃ c rest, t.dropWhile isSpaceOrTab = c :: rest ∧ breakOf? c = none

theorem quotedGap_of_staysInLine
    {t : Text}
    (stays : StaysInLine t) :
    quotedGap t = .ok (t.takeWhile isSpaceOrTab, t.dropWhile isSpaceOrTab) := by
  rcases stays with ⟨c, rest, eq, notBreak⟩
  rw [quotedGap, List.span_eq_takeWhile_dropWhile, eq]
  simp [notBreak]

theorem StaysInLine.space
    {t : Text}
    (stays : StaysInLine t) :
    StaysInLine (.char ' ' :: t) :=
  stays

theorem staysInLine_cons
    {c : CodePoint} (rest : Text)
    (notBlank : isSpaceOrTab c = false)
    (notBreak : breakOf? c = none) :
    StaysInLine (c :: rest) :=
  ⟨c, rest, by simp [notBlank], notBreak⟩

section Gaps

variable {read : Nat → Text → Except Error (Text × Text)}

/-- A space that is no part of a line break stands for itself. -/
theorem readsBack_space
    {u t rest : Text}
    (takesGaps : TakesGaps read)
    (stays : StaysInLine u)
    (reads : ReadsBack read u t rest) :
    ReadsBack read (.char ' ' :: u) (.char ' ' :: t) rest := by
  intro fuel enough
  rcases Nat.exists_eq_succ_of_ne_zero (Nat.ne_zero_of_lt enough) with ⟨fuel, rfl⟩
  rw [takesGaps fuel (.char ' ') u rfl, quotedGap_of_staysInLine stays.space, ok_bind]
  have enoughRest : u.length ≤ fuel := Nat.le_of_succ_le_succ enough
  cases u with
  | nil =>
      rcases stays with ⟨c, more, eq, _⟩
      cases eq
  | cons d more =>
      cases blank : isSpaceOrTab d with
      | true =>
          -- The reader takes this space together with the blanks behind it.
          have readsMore := reads (fuel + 1) (Nat.le_succ_of_le enoughRest)
          rw [takesGaps fuel d more (by simp [blank]), quotedGap_of_staysInLine stays, ok_bind]
            at readsMore
          rcases bind_eq_ok_iff.mp readsMore with ⟨⟨content, left⟩, readsContent, same⟩
          cases same
          have dropped :
              (CodePoint.char ' ' :: d :: more).dropWhile isSpaceOrTab =
                (d :: more).dropWhile isSpaceOrTab :=
            rfl
          have taken :
              (CodePoint.char ' ' :: d :: more).takeWhile isSpaceOrTab =
                .char ' ' :: (d :: more).takeWhile isSpaceOrTab :=
            rfl
          simp only at readsContent ⊢
          rw [dropped, taken, readsContent]
          rfl
      | false =>
          have dropped :
              (CodePoint.char ' ' :: d :: more).dropWhile isSpaceOrTab = d :: more := by
            change (d :: more).dropWhile isSpaceOrTab = d :: more
            simp [blank]
          have taken :
              (CodePoint.char ' ' :: d :: more).takeWhile isSpaceOrTab = [.char ' '] := by
            change .char ' ' :: (d :: more).takeWhile isSpaceOrTab = [.char ' ']
            simp [blank]
          simp only
          rw [dropped, taken, reads fuel enoughRest]
          rfl

end Gaps

/-! ## Line breaks -/

theorem not_atSeparator
    {c : CodePoint} (rest : Text)
    (blank : c = .char ' ' ∨ c = .char '\n') :
    atSeparator (c :: rest) = false := by
  rcases blank with rfl | rfl <;>
    simp [atSeparator, Text.ofString]

theorem quotedBreaks_goesOn
    {c : CodePoint} (rest : Text)
    (notBlank : isSpaceOrTab c = false)
    (notBreak : breakOf? c = none) :
    quotedBreaks false (c :: rest) = .ok ([], c :: rest) := by
  simp [quotedBreaks, notBlank, notBreak]

theorem quotedBreaks_space
    (atLineStart : Bool) (rest : Text) :
    quotedBreaks atLineStart (.char ' ' :: rest) = quotedBreaks false rest := by
  rw [quotedBreaks, not_atSeparator _ (.inl rfl), Bool.and_false, if_neg (by decide)]
  rfl

theorem quotedBreaks_spaces
    {c : CodePoint} (atLineStart : Bool) (n : Nat) (rest : Text)
    (notBlank : isSpaceOrTab c = false)
    (notBreak : breakOf? c = none) :
    quotedBreaks atLineStart (List.replicate (n + 1) (.char ' ') ++ c :: rest) =
      .ok ([], c :: rest) := by
  induction n generalizing atLineStart with
  | zero =>
      rw [List.replicate_one, List.singleton_append, quotedBreaks_space]
      exact quotedBreaks_goesOn rest notBlank notBreak
  | succ n induction =>
      rw [List.replicate_succ, List.cons_append, quotedBreaks_space]
      exact induction false

theorem quotedBreaks_lineFeed
    (atLineStart : Bool) (rest : Text) :
    quotedBreaks atLineStart (.char '\n' :: rest) =
      (quotedBreaks true rest).map fun (breaks, rest) => (.char '\n' :: breaks, rest) := by
  rw [quotedBreaks, not_atSeparator _ (.inr rfl), Bool.and_false, if_neg (by decide),
    if_neg (by decide)]
  rfl

theorem quotedBreaks_suffix
    {atLineStart : Bool} {t breaks rest : Text}
    (found : quotedBreaks atLineStart t = .ok (breaks, rest)) :
    rest <:+ t := by
  induction t generalizing atLineStart breaks with
  | nil =>
      cases found
      exact List.suffix_refl _
  | cons c more induction =>
      rw [quotedBreaks] at found
      split at found
      · cases found
      · split at found
        · exact (induction found).trans (List.suffix_cons c more)
        · split at found
          · rcases map_eq_ok_iff.mp found with ⟨⟨_, left⟩, foundMore, same⟩
            cases same
            exact (induction foundMore).trans (List.suffix_cons c more)
          · cases found
            exact List.suffix_refl _

theorem quotedGap_lineFeed
    {t breaks rest : Text}
    (found : quotedBreaks true t = .ok (breaks, rest)) :
    quotedGap (.char '\n' :: t) = .ok (foldBreaks (.char '\n') breaks, rest) := by
  have span :
      (CodePoint.char '\n' :: t).span isSpaceOrTab = ([], .char '\n' :: t) := by
    rw [List.span_eq_takeWhile_dropWhile]
    rfl
  rw [quotedGap, span]
  simp only
  rw [show breakOf? (.char '\n') = some (.char '\n') from rfl]
  simp only [found]
  rfl

/-- Line breaks are read as what they fold to, if the text goes on behind them. -/
theorem readsBack_lineFeed
    {read : Nat → Text → Except Error (Text × Text)} {u v breaks t rest : Text}
    (takesGaps : TakesGaps read)
    (found : quotedBreaks true u = .ok (breaks, v))
    (shorter : v.length ≤ u.length)
    (reads : ReadsBack read v t rest) :
    ReadsBack read (.char '\n' :: u) (foldBreaks (.char '\n') breaks ++ t) rest := by
  intro fuel enough
  rcases Nat.exists_eq_succ_of_ne_zero (Nat.ne_zero_of_lt enough) with ⟨fuel, rfl⟩
  rw [takesGaps fuel (.char '\n') u rfl, quotedGap_lineFeed found, ok_bind]
  simp only
  rw [reads fuel (Nat.le_trans shorter (Nat.le_of_succ_le_succ enough))]
  rfl

/-! ## Single quotes -/

theorem takesGaps_singleQuoted : TakesGaps singleQuoted := by
  intro fuel c rest blank
  have notQuote : c ≠ .char '\'' := by
    rintro rfl
    exact absurd blank (by decide)
  rw [singleQuoted, if_pos blank]
  all_goals
    intros
    simp_all

theorem readsBack_singleQuoted_cons
    {c : CodePoint} {u t rest : Text}
    (printable : isPrintable c = true)
    (notSpace : c ≠ .char ' ')
    (notQuote : c ≠ .char '\'')
    (reads : ReadsBack singleQuoted u t rest) :
    ReadsBack singleQuoted (c :: u) (c :: t) rest := by
  intro fuel enough
  rcases Nat.exists_eq_succ_of_ne_zero (Nat.ne_zero_of_lt enough) with ⟨fuel, rfl⟩
  rw [singleQuoted, if_neg, reads fuel (Nat.le_of_succ_le_succ enough)]
  · rfl
  · simp [isSpaceOrTab_of_isPrintable printable notSpace, isBreak_of_isPrintable printable]
  all_goals
    intros
    simp_all

/-- A quote is written twice. -/
theorem readsBack_singleQuoted_quote
    {u t rest : Text}
    (reads : ReadsBack singleQuoted u t rest) :
    ReadsBack singleQuoted (.char '\'' :: .char '\'' :: u) (.char '\'' :: t) rest := by
  intro fuel enough
  rcases Nat.exists_eq_succ_of_ne_zero (Nat.ne_zero_of_lt enough) with ⟨fuel, rfl⟩
  have enoughRest : u.length ≤ fuel := by
    simp only [List.length_cons] at enough
    omega
  rw [singleQuoted, reads fuel enoughRest]
  rfl

/-- The closing quote is not followed by another one. -/
theorem readsBack_singleQuoted_end
    {rest : Text}
    (closed : startsWith '\'' rest = false) :
    ReadsBack singleQuoted (.char '\'' :: rest) [] rest := by
  intro fuel enough
  rcases Nat.exists_eq_succ_of_ne_zero (Nat.ne_zero_of_lt enough) with ⟨fuel, rfl⟩
  rw [singleQuoted]
  intro more same
  rw [same] at closed
  exact absurd closed (by simp [startsWith])

namespace SingleQuoted

theorem hasSpaceAtBreak_cons
    {c : CodePoint} {t : Text}
    (none : hasSpaceAtBreak (c :: t) = false) :
    hasSpaceAtBreak t = false ∧ (c = .char ' ' → startsWith '\n' t = false) ∧
      (c = .char '\n' → startsWith ' ' t = false) := by
  cases t with
  | nil => simp [hasSpaceAtBreak, startsWith]
  | cons d rest =>
      rw [hasSpaceAtBreak.eq_def] at none
      split at none
      · cases none
      · cases none
      next notBefore notBehind same =>
        cases same
        refine ⟨none, ?_, ?_⟩
        · rintro rfl
          simpa [startsWith] using fun same : d = .char '\n' => notBefore rest rfl (by rw [same])
        · rintro rfl
          simpa [startsWith] using fun same : d = .char ' ' => notBehind rest rfl (by rw [same])
      next same => cases same

theorem hasSpaceAtBreak_lineFeeds
    {t : Text} (n : Nat)
    (none : hasSpaceAtBreak (List.replicate n (.char '\n') ++ t) = false) :
    hasSpaceAtBreak t = false := by
  induction n with
  | zero => exact none
  | succ n induction => exact induction (hasSpaceAtBreak_cons none).1

/-- The code points that stand for themselves between single quotes, if they are no quotes. -/
def IsHeld (t : Text) : Prop := ∀ c ∈ t, c = .char '\n' ∨ isPrintable c = true

theorem staysInLine_write
    {t : Text} (indent column : Nat) (rest : Text)
    (held : IsHeld t)
    (noSpace : hasSpaceAtBreak (.char ' ' :: t) = false) :
    StaysInLine (write indent column (some (.char ' ')) t ++ .char '\'' :: rest) := by
  induction t generalizing column with
  | nil => exact staysInLine_cons rest rfl rfl
  | cons c more induction =>
      rcases hasSpaceAtBreak_cons noSpace with ⟨noSpaceMore, notLineFeed, _⟩
      by_cases space : c = .char ' '
      · subst space
        rw [write]
        simpa using (induction (column + 1) (fun d member => held d (List.mem_cons_of_mem _ member))
          noSpaceMore).space
      · have notBreak : c ≠ .char '\n' := by
          rintro rfl
          simpa [startsWith] using notLineFeed rfl
        have printable : isPrintable c = true :=
          (held c List.mem_cons_self).resolve_left notBreak
        have stays (tail : Text) : StaysInLine (c :: tail) :=
          staysInLine_cons tail (isSpaceOrTab_of_isPrintable printable space)
            (breakOf?_of_isPrintable printable)
        by_cases quote : c = .char '\''
        · subst quote
          rw [write]
          exact stays _
        · rw [write]
          simpa [quote, space, notBreak] using stays _

theorem write_starts
    {t : Text} (indent column : Nat) (previous : Option CodePoint) (rest : Text)
    (held : IsHeld t)
    (notSpace : startsWith ' ' t = false)
    (notLineFeed : startsWith '\n' t = false) :
    ∃ c more, write indent column previous t ++ .char '\'' :: rest = c :: more ∧
      isSpaceOrTab c = false ∧ breakOf? c = none := by
  cases t with
  | nil => exact ⟨.char '\'', rest, rfl, rfl, rfl⟩
  | cons c more =>
      have space : c ≠ .char ' ' := by
        rintro rfl
        exact absurd notSpace (by simp [startsWith])
      have notBreak : c ≠ .char '\n' := by
        rintro rfl
        exact absurd notLineFeed (by simp [startsWith])
      have printable : isPrintable c = true := (held c List.mem_cons_self).resolve_left notBreak
      refine ⟨c, ?_, ?_, isSpaceOrTab_of_isPrintable printable space,
        breakOf?_of_isPrintable printable⟩
      · exact (write indent column previous (c :: more) ++ .char '\'' :: rest).tail
      · by_cases quote : c = .char '\''
        · subst quote
          rw [write]
          rfl
        · rw [write]
          simp [quote, space, notBreak]

theorem isWritten_write
    {t : Text} (indent column : Nat) (previous : Option CodePoint)
    (held : IsHeld t) :
    isWritten (write indent column previous t) = true := by
  induction t generalizing column previous with
  | nil => rfl
  | cons c rest induction =>
      have writtenRest (column : Nat) (previous : Option CodePoint) :=
        induction column previous fun d member => held d (List.mem_cons_of_mem c member)
      have first : (decide (c = .char '\n') || isPrintable c) = true := by
        simpa using held c List.mem_cons_self
      rw [write]
      split
      · simp [writtenRest, show isWritten (Text.ofString "''") = true from rfl]
      · split
        · simp [newLine, writtenRest]
        · split
          · split <;> split <;> simp [writtenRest, first]
          · simp [writtenRest, first]

/-- Behind a line feed of a text, the reader takes the line feeds that follow it and the blanks in
front of the next word. -/
theorem quotedBreaks_write
    {t : Text} (width : Nat) (rest : Text)
    (held : IsHeld t)
    (noSpace : hasSpaceAtBreak (.char '\n' :: t) = false) :
    ∃ n more, t = List.replicate n (.char '\n') ++ more ∧ startsWith '\n' more = false ∧
      quotedBreaks true
          ((if startsWith '\n' t then [] else List.replicate (width + 1) (.char ' ')) ++
            (write (width + 1) (width + 1) (some (.char '\n')) t ++ .char '\'' :: rest)) =
        .ok (List.replicate n (.char '\n'),
          write (width + 1) (width + 1) (some (.char '\n')) more ++ .char '\'' :: rest) := by
  induction t with
  | nil =>
      refine ⟨0, [], rfl, rfl, ?_⟩
      exact quotedBreaks_spaces true width rest rfl rfl
  | cons c tail induction =>
      rcases hasSpaceAtBreak_cons noSpace with ⟨noSpaceTail, _, notSpace⟩
      by_cases lineFeed : c = .char '\n'
      · subst lineFeed
        rcases induction (fun d member => held d (List.mem_cons_of_mem _ member)) noSpaceTail with
          ⟨n, more, rfl, ended, found⟩
        refine ⟨n + 1, more, rfl, ended, ?_⟩
        have starts :
            startsWith '\n' (.char '\n' :: (List.replicate n (.char '\n') ++ more)) = true := by
          simp [startsWith]
        rw [starts, if_pos rfl, List.nil_append, write, if_neg (by decide), if_neg (by simp),
          if_pos rfl, if_pos (by decide), List.append_assoc, List.append_assoc,
          List.singleton_append, quotedBreaks_lineFeed, found]
        rfl
      · have notStart : startsWith '\n' (c :: tail) = false := by
          simpa [startsWith] using lineFeed
        refine ⟨0, c :: tail, rfl, notStart, ?_⟩
        rcases write_starts (width + 1) (width + 1) (some (.char '\n')) rest held (notSpace rfl)
          notStart with ⟨d, others, eq, notBlank, notBreak⟩
        rw [notStart, eq]
        exact quotedBreaks_spaces true width others notBlank notBreak

/-- A text is read back from what is written for it between single quotes. -/
theorem readsBack_write
    {t rest : Text} (width column : Nat) (previous : Option CodePoint)
    (held : IsHeld t)
    (noSpace : hasSpaceAtBreak t = false)
    (notRun : previous = some (.char '\n') → startsWith '\n' t = false)
    (closed : startsWith '\'' rest = false) :
    ReadsBack singleQuoted (write (width + 1) column previous t ++ .char '\'' :: rest) t rest := by
  match t with
  | [] => exact readsBack_singleQuoted_end closed
  | c :: tail =>
      have heldTail : IsHeld tail := fun d member => held d (List.mem_cons_of_mem c member)
      rcases hasSpaceAtBreak_cons noSpace with ⟨noSpaceTail, notLineFeed, _⟩
      by_cases quote : c = .char '\''
      · subst quote
        rw [write, if_pos rfl, List.append_assoc]
        exact readsBack_singleQuoted_quote
          (readsBack_write width (column + 2) _ heldTail noSpaceTail (by simp) closed)
      by_cases lineFeed : c = .char '\n'
      · subst lineFeed
        have notAfterBreak : (previous == some (.char '\n')) = false := by
          rw [beq_eq_false_iff_ne]
          intro same
          exact absurd (notRun same) (by simp [startsWith])
        rcases quotedBreaks_write width rest heldTail noSpace with ⟨n, more, eq, ended, found⟩
        have heldMore : IsHeld more := by
          intro d member
          exact heldTail d (by rw [eq]; exact List.mem_append_right _ member)
        have noSpaceMore := hasSpaceAtBreak_lineFeeds n (eq ▸ noSpaceTail)
        have shorter : more.length < tail.length + 1 := by
          rw [eq, List.length_append]
          omega
        have reads :=
          readsBack_write width (width + 1) (some (.char '\n')) heldMore noSpaceMore
            (fun _ => ended) closed
        -- The first line feed is written twice, and folding takes one of the two away.
        have foundAll := (quotedBreaks_lineFeed true _).trans (congrArg _ found)
        rw [write, if_neg (by decide), if_neg (by simp), if_pos rfl, notAfterBreak,
          if_neg (by decide), List.append_assoc, List.append_assoc]
        have readsAll :=
          readsBack_lineFeed takesGaps_singleQuoted foundAll
            (quotedBreaks_suffix foundAll).length_le reads
        have unfolded :
            foldBreaks (.char '\n') (.char '\n' :: List.replicate n (.char '\n')) ++ more =
              .char '\n' :: tail := by
          rw [eq]
          rfl
        rw [← unfolded]
        exact readsAll
      by_cases space : c = .char ' '
      · subst space
        rw [write, if_neg quote]
        split
        next folded =>
          simp only [Bool.and_eq_true, Bool.not_eq_true'] at folded
          rcases write_starts (width + 1) (width + 1) (some (.char ' ')) rest heldTail
            folded.1.1.1.2 (notLineFeed rfl) with ⟨d, more, eq, notBlank, notBreak⟩
          have reads :=
            readsBack_write width (width + 1) (some (.char ' ')) heldTail noSpaceTail (by simp)
              closed
          rw [List.append_assoc]
          rw [eq] at reads ⊢
          have found := quotedBreaks_spaces true width more notBlank notBreak
          exact readsBack_lineFeed takesGaps_singleQuoted found
            (quotedBreaks_suffix found).length_le reads
        · rw [List.cons_append]
          exact readsBack_space takesGaps_singleQuoted
            (staysInLine_write (width + 1) (column + 1) rest heldTail noSpace)
            (readsBack_write width (column + 1) _ heldTail noSpaceTail (by simp) closed)
      · have printable : isPrintable c = true := (held c List.mem_cons_self).resolve_left lineFeed
        rw [write, if_neg quote, if_neg (by simp [space]), if_neg lineFeed, List.cons_append]
        exact readsBack_singleQuoted_cons printable space quote
          (readsBack_write width (column + 1) _ heldTail noSpaceTail
            (fun same => absurd (Option.some.inj same) lineFeed) closed)
termination_by t.length

end SingleQuoted

end Shapewright.Yaml
