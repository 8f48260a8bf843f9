import Mathlib.Algebra.Group.Nat.Defs
import Shapewright.Proofs.Json.Writing
import Shapewright.Proofs.Yaml.Quoted

/-!
# Scalars in double quotes are read back

What is written between double quotes for a text is read back as that text.  Every escape stands for
the code point that it was written for, and an escaped line break for nothing.
-/

namespace Shapewright.Yaml

open Shapewright.Outcome

/-! ## Escapes -/

theorem readHex_succ
    (n count : Nat) (t : Text) :
    readHex n (count + 1) t = readHex n count t >>= fun (m, rest) => readHex m 1 rest := by
  induction count generalizing n t with
  | zero => rfl
  | succ count induction =>
      cases t with
      | nil => rfl
      | cons c rest =>
          rw [readHex, readHex]
          cases c.hexDigit? with
          | none => rfl
          | some digit => exact induction (n * 16 + digit) rest

theorem hexDigit?_toUpper
    {n : Nat}
    (small : n < 0x10) :
    (CodePoint.char n.digitChar.toUpper).hexDigit? = some n :=
  Json.hexDigit?_of_mem_hexForms small (by simp [Json.hexForms])

namespace DoubleQuoted

/-- A number is read back from its upper-case digits. -/
theorem readHex_upperHex
    {n : Nat} (length : Nat) (rest : Text)
    (small : n < 0x10 ^ (length + 1)) :
    readHex 0 (length + 1) (upperHex (length + 1) n ++ rest) = .ok (n, rest) := by
  induction length generalizing n rest with
  | zero =>
      have digit : n < 0x10 := small
      rw [upperHex, Text.hex_one digit]
      simp [readHex, hexDigit?_toUpper digit]
  | succ length induction =>
      have digit : n % 0x10 < 0x10 := Nat.mod_lt n (by decide)
      have front : n / 0x10 < 0x10 ^ (length + 1) := by
        rw [Nat.div_lt_iff_lt_mul (by decide)]
        exact small
      have digits :
          upperHex (length + 2) n =
            upperHex (length + 1) (n / 0x10) ++ [.char (n % 0x10).digitChar.toUpper] := by
        rw [upperHex, Text.hex_succ, List.map_append]
        rfl
      rw [readHex_succ, digits, List.append_assoc, induction _ front, ok_bind]
      simp [readHex, hexDigit?_toUpper digit]
      omega

theorem toNat_lt
    (c : CodePoint) :
    c.toNat < 0x110000 := by
  cases c with
  | char c => exact Json.toNat_lt_of_char c
  | surrogate offset =>
      have small := offset.isLt
      simp only [CodePoint.toNat]
      omega

theorem codePointOf_toNat
    (c : CodePoint) :
    codePointOf c.toNat = .ok c := by
  rw [codePointOf, if_pos (toNat_lt c)]
  cases c with
  | char c => exact congrArg Except.ok (CodePoint.ofNat_toNat_char c)
  | surrogate offset => exact congrArg Except.ok (Json.ofNat_surrogate offset.isLt)

/-- A code point is read back from the digits behind the letter of a numeric escape. -/
theorem readEscape_upperHex
    {letter c : CodePoint} {length : Nat} (rest : Text)
    (numeric : escapeOf? letter = none)
    (lengthEq : escapeLength? letter = some (length + 1))
    (small : c.toNat < 0x10 ^ (length + 1)) :
    readEscape (letter :: (upperHex (length + 1) c.toNat ++ rest)) = .ok ([c], rest) := by
  simp only [readEscape, numeric, lengthEq, readHex_upperHex length rest small, ok_bind,
    codePointOf_toNat]

/-- An escape that is written for a code point is read back as that code point. -/
theorem escape?_reads
    {c : CodePoint} {escape : Text}
    (found : escape? c = some escape) :
    ∃ e, escape = .char '\\' :: e ∧ ∀ rest, readEscape (e ++ rest) = .ok ([c], rest) := by
  unfold escape? at found
  split at found
  case h_16 =>
    have bound : c.toNat < 0x10 ^ 8 := Nat.lt_trans (toNat_lt c) (by decide)
    dsimp only at found
    split at found
    · cases found
    · split at found
      next small =>
        cases found
        exact ⟨_, rfl, fun rest => readEscape_upperHex rest rfl rfl (Nat.lt_succ_of_le small)⟩
      · split at found
        next small =>
          cases found
          exact ⟨_, rfl, fun rest => readEscape_upperHex rest rfl rfl (Nat.lt_succ_of_le small)⟩
        · cases found
          exact ⟨_, rfl, fun rest => readEscape_upperHex rest rfl rfl bound⟩
  all_goals
    cases found
    exact ⟨_, rfl, fun rest => rfl⟩

theorem isPrintable_of_escape?
    {c : CodePoint}
    (none : escape? c = none) :
    isPrintable c = true ∧ c ≠ .char '"' ∧ c ≠ .char '\\' := by
  refine ⟨?_, ?_, ?_⟩
  · unfold escape? at none
    split at none
    case h_16 =>
      dsimp only at none
      split at none
      next visible => simpa [isPrintable] using visible
      next =>
        split at none
        · cases none
        · split at none <;> cases none
    all_goals cases none
  · rintro rfl
    cases none
  · rintro rfl
    cases none

/-! ## Double quotes -/

theorem takesGaps_doubleQuoted : TakesGaps doubleQuoted := by
  intro fuel c rest blank
  have notQuote : c ≠ .char '"' := by
    rintro rfl
    exact absurd blank (by decide)
  have notBackslash : c ≠ .char '\\' := by
    rintro rfl
    exact absurd blank (by decide)
  rw [doubleQuoted, if_pos blank]
  all_goals
    intros
    simp_all

theorem readsBack_cons
    {c : CodePoint} {u t rest : Text}
    (unescaped : escape? c = none)
    (notSpace : c ≠ .char ' ')
    (reads : ReadsBack doubleQuoted u t rest) :
    ReadsBack doubleQuoted (c :: u) (c :: t) rest := by
  rcases isPrintable_of_escape? unescaped with ⟨printable, notQuote, notBackslash⟩
  intro fuel enough
  rcases Nat.exists_eq_succ_of_ne_zero (Nat.ne_zero_of_lt enough) with ⟨fuel, rfl⟩
  rw [doubleQuoted, if_neg, reads fuel (Nat.le_of_succ_le_succ enough)]
  · rfl
  · simp [isSpaceOrTab_of_isPrintable printable notSpace, isBreak_of_isPrintable printable]
  all_goals
    intros
    simp_all

theorem readsBack_end
    (rest : Text) :
    ReadsBack doubleQuoted (.char '"' :: rest) [] rest := by
  intro fuel enough
  rcases Nat.exists_eq_succ_of_ne_zero (Nat.ne_zero_of_lt enough) with ⟨fuel, rfl⟩
  rfl

theorem readsBack_backslash
    {e u s t rest : Text}
    (escape : readEscape (e ++ u) = .ok (s, u))
    (reads : ReadsBack doubleQuoted u t rest) :
    ReadsBack doubleQuoted (.char '\\' :: (e ++ u)) (s ++ t) rest := by
  intro fuel enough
  rcases Nat.exists_eq_succ_of_ne_zero (Nat.ne_zero_of_lt enough) with ⟨fuel, rfl⟩
  have enoughRest : u.length ≤ fuel := by
    rw [List.length_cons, List.length_append] at enough
    omega
  rw [doubleQuoted, escape, ok_bind]
  simp only
  rw [reads fuel enoughRest]
  rfl

theorem readsBack_escape
    {c : CodePoint} {escape u t rest : Text}
    (found : escape? c = some escape)
    (reads : ReadsBack doubleQuoted u t rest) :
    ReadsBack doubleQuoted (escape ++ u) (c :: t) rest := by
  rcases escape?_reads found with ⟨e, rfl, readEscape⟩
  exact readsBack_backslash (readEscape u) reads

/-- A line break behind a backslash adds nothing. -/
theorem readsBack_newLine
    {c : CodePoint} {more t rest : Text} (width : Nat)
    (notBlank : isSpaceOrTab c = false)
    (notBreak : breakOf? c = none)
    (reads : ReadsBack doubleQuoted (c :: more) t rest) :
    ReadsBack doubleQuoted (.char '\\' :: (newLine (width + 1) ++ c :: more)) t rest := by
  have broken : readEscape (newLine (width + 1) ++ c :: more) = .ok ([], c :: more) :=
    quotedBreaks_spaces true width more notBlank notBreak
  have readsBroken := readsBack_backslash broken reads
  exact readsBroken

/-- Behind a line break a space is escaped, and another code point stands for itself. -/
theorem readsBack_breakLine
    {c : CodePoint} {u t rest : Text} (width : Nat)
    (unescaped : escape? c = none)
    (reads : ReadsBack doubleQuoted u t rest) :
    ReadsBack doubleQuoted (breakLine (width + 1) (c = .char ' ') ++ c :: u) (c :: t) rest := by
  have printable := (isPrintable_of_escape? unescaped).1
  by_cases space : c = .char ' '
  · subst space
    have escaped : ReadsBack doubleQuoted (.char '\\' :: .char ' ' :: u) (.char ' ' :: t) rest :=
      readsBack_backslash (e := [.char ' ']) rfl reads
    simpa [breakLine] using readsBack_newLine width rfl rfl escaped
  · simpa [breakLine, space] using
      readsBack_newLine width (isSpaceOrTab_of_isPrintable printable space)
        (breakOf?_of_isPrintable printable) (readsBack_cons unescaped space reads)

theorem exists_of_escape?
    {c : CodePoint} {escape : Text}
    (found : escape? c = some escape) :
    ∃ e, escape = .char '\\' :: e := by
  rcases escape?_reads found with ⟨e, eq, _⟩
  exact ⟨e, eq⟩

theorem staysInLine_write
    {t : Text} (indent column : Nat) (atStart afterEscape : Bool) (rest : Text) :
    StaysInLine (write indent column atStart afterEscape t ++ .char '"' :: rest) := by
  induction t generalizing column atStart afterEscape with
  | nil => exact staysInLine_cons rest rfl rfl
  | cons c more induction =>
      cases found : escape? c with
      | some escape =>
          rcases exists_of_escape? found with ⟨e, rfl⟩
          rw [write]
          simp only [found]
          split <;>
            exact staysInLine_cons _ rfl rfl
      | none =>
          have printable := (isPrintable_of_escape? found).1
          rw [write]
          simp only [found]
          split
          · exact staysInLine_cons _ rfl rfl
          · by_cases space : c = .char ' '
            · subst space
              exact (induction (column + 1) false false).space
            · exact staysInLine_cons _ (isSpaceOrTab_of_isPrintable printable space)
                (breakOf?_of_isPrintable printable)

theorem isWritten_upperHex
    {n : Nat} (length : Nat)
    (small : n < 0x10 ^ (length + 1)) :
    isWritten (upperHex (length + 1) n) = true := by
  have digit : ∀ n < 0x10, isPrintable (.char n.digitChar.toUpper) = true := by decide
  induction length generalizing n with
  | zero =>
      have isDigit : n < 0x10 := small
      rw [upperHex, Text.hex_one isDigit]
      simp [digit n isDigit]
  | succ length induction =>
      have front : n / 0x10 < 0x10 ^ (length + 1) := by
        rw [Nat.div_lt_iff_lt_mul (by decide)]
        exact small
      have writtenFront := induction front
      rw [upperHex] at writtenFront
      rw [upperHex, Text.hex_succ, List.map_append, isWritten_append, writtenFront]
      simp [digit (n % 0x10) (Nat.mod_lt n (by decide))]

theorem isWritten_escape
    {c : CodePoint} {escape : Text}
    (found : escape? c = some escape) :
    isWritten escape = true := by
  unfold escape? at found
  split at found
  case h_16 =>
    have bound : c.toNat < 0x10 ^ 8 := Nat.lt_trans (toNat_lt c) (by decide)
    dsimp only at found
    split at found
    · cases found
    · split at found
      next small =>
        cases found
        exact isWritten_upperHex 1 (Nat.lt_succ_of_le small)
      · split at found
        next small =>
          cases found
          exact isWritten_upperHex 3 (Nat.lt_succ_of_le small)
        · cases found
          exact isWritten_upperHex 7 bound
  all_goals
    cases found
    rfl

theorem isWritten_breakLine
    (indent : Nat) (beforeSpace : Bool) :
    isWritten (breakLine indent beforeSpace) = true := by
  have backslash : isPrintable (.char '\\') = true := rfl
  cases beforeSpace <;> simp [breakLine, newLine, backslash]

theorem isWritten_write
    (t : Text) (indent column : Nat) (atStart afterEscape : Bool) :
    isWritten (write indent column atStart afterEscape t) = true := by
  induction t generalizing column atStart afterEscape with
  | nil => rfl
  | cons c rest induction =>
      cases found : escape? c with
      | some escape =>
          rw [write]
          simp only [found]
          split <;> simp [induction, isWritten_escape found, isWritten_breakLine]
      | none =>
          rw [write]
          simp only [found]
          split <;>
            simp [induction, isWritten_breakLine, (isPrintable_of_escape? found).1]

/-- What starts a line is read back if it is read back elsewhere, and likewise what is behind its
first code point. -/
theorem readsBack_broken
    {c : CodePoint} {tail rest : Text} {width : Nat}
    (narrow : width + 2 ≤ foldColumn)
    (reads : ∀ column,
      ReadsBack doubleQuoted (write (width + 1) column false true (c :: tail) ++ .char '"' :: rest)
        (c :: tail) rest)
    (readsTail : ∀ column,
      ReadsBack doubleQuoted (write (width + 1) column false false tail ++ .char '"' :: rest)
        tail rest) :
    ReadsBack doubleQuoted
      (breakLine (width + 1) (startsWith ' ' (c :: tail)) ++
        (write (width + 1) (breakColumn (width + 1) (startsWith ' ' (c :: tail))) false true
          (c :: tail) ++ .char '"' :: rest))
      (c :: tail) rest := by
  have starts : startsWith ' ' (c :: tail) = decide (c = .char ' ') := by
    simp [startsWith, beq_eq_decide]
  rw [starts]
  cases found : escape? c with
  | some escape =>
      have notSpace : c ≠ .char ' ' := by
        rintro rfl
        cases found
      rcases exists_of_escape? found with ⟨e, rfl⟩
      have written (column : Nat) :
          ∃ more, write (width + 1) column false true (c :: tail) ++ .char '"' :: rest =
            .char '\\' :: more := by
        rw [write]
        simp only [found]
        split <;> exact ⟨_, rfl⟩
      rcases written (breakColumn (width + 1) (c = .char ' ')) with ⟨more, eq⟩
      have readsMore := reads (breakColumn (width + 1) (c = .char ' '))
      rw [eq] at readsMore ⊢
      simpa [breakLine, notSpace] using readsBack_newLine width rfl rfl readsMore
  | none =>
      have notFolded : ¬foldColumn < breakColumn (width + 1) (c = .char ' ') := by
        unfold breakColumn
        split <;> omega
      have written :
          write (width + 1) (breakColumn (width + 1) (c = .char ' ')) false true (c :: tail) =
            c :: write (width + 1) (breakColumn (width + 1) (c = .char ' ') + 1) false false
              tail := by
        rw [write]
        simp [found, notFolded]
      rw [written, List.cons_append]
      exact readsBack_breakLine width found (readsTail _)

/-- A text is read back from what is written for it between double quotes. -/
theorem readsBack_write
    {t rest : Text} {width : Nat} (column : Nat) (atStart afterEscape : Bool)
    (narrow : width + 2 ≤ foldColumn) :
    ReadsBack doubleQuoted
      (write (width + 1) column atStart afterEscape t ++ .char '"' :: rest) t rest := by
  match t with
  | [] => exact readsBack_end rest
  | c :: tail =>
      cases found : escape? c with
      | some escape =>
          rw [write]
          simp only [found]
          split
          next folded =>
            rw [List.append_assoc, List.append_assoc]
            refine readsBack_escape found ?_
            match tail with
            | [] => simp at folded
            | d :: more =>
                exact readsBack_broken narrow
                  (fun column => readsBack_write column false true narrow)
                  (fun column => readsBack_write column false false narrow)
          · rw [List.append_assoc]
            exact readsBack_escape found (readsBack_write _ false true narrow)
      | none =>
          rw [write]
          simp only [found]
          split
          · rw [List.append_assoc, List.cons_append]
            exact readsBack_breakLine width found (readsBack_write _ false false narrow)
          · rw [List.cons_append]
            have reads := @readsBack_write tail rest width (column + 1) false false narrow
            by_cases space : c = .char ' '
            · subst space
              exact readsBack_space takesGaps_doubleQuoted
                (staysInLine_write (width + 1) (column + 1) false false rest) reads
            · exact readsBack_cons found space reads
termination_by t.length

end DoubleQuoted

end Shapewright.Yaml
