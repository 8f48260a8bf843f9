import Mathlib.Data.List.TakeWhile
import Shapewright.Json.Document
import Shapewright.Proofs.Json.Finite
import Shapewright.Proofs.Json.Grammar
import Shapewright.Proofs.Json.Reading
import Shapewright.Proofs.Outcome

/-!
# What the reader accepts

Whatever the reader takes for a value is derived for that value in the lenient grammar, and the
value of a document has no numbers but finite ones.

A number, a string or a word is read as far as it goes.  What only looks like the end of a number,
such as the letter of an exponent without digits, is left, and then the value does not end there:
the reader goes on with a space, a separator or a closing bracket, or fails.
-/

namespace Shapewright.Json

open Shapewright.Outcome

/-! ## Numbers -/

theorem spanDigits_eq
    {t digits rest : Text}
    (spanned : spanDigits t = (digits, rest)) :
    t = digits ++ rest ∧ AreDigits digits := by
  rw [spanDigits, List.span_eq_takeWhile_dropWhile, Prod.mk.injEq] at spanned
  rcases spanned with ⟨rfl, rfl⟩
  exact ⟨List.takeWhile_append_dropWhile.symm, fun c member => List.mem_takeWhile_imp member⟩

/-- The sign of an exponent, and what follows it. -/
def splitExponentSign : Text → Text × Text
  | .char '-' :: rest => (Text.ofString "-", rest)
  | .char '+' :: rest => (Text.ofString "+", rest)
  | rest => ([], rest)

theorem splitExponentSign_eq
    {t sign unsigned : Text}
    (split : splitExponentSign t = (sign, unsigned)) :
    t = sign ++ unsigned ∧
      (sign = [] ∨ sign = Text.ofString "+" ∨ sign = Text.ofString "-") := by
  unfold splitExponentSign at split
  split at split <;>
    rcases split with ⟨rfl, rfl⟩ <;>
    simp [Text.ofString]

theorem readExponent_of_letter
    {letter : Char} {tail sign unsigned digits rest : Text}
    (isLetter : letter = 'e' ∨ letter = 'E')
    (signed : splitExponentSign tail = (sign, unsigned))
    (spanned : spanDigits unsigned = (digits, rest)) :
    readExponent (.char letter :: tail) =
      if digits = [] then (0, .char letter :: tail)
      else
        (ExponentForm.value ⟨letter, sign, digits⟩, rest) := by
  rcases isLetter with rfl | rfl <;>
    unfold readExponent <;>
    unfold splitExponentSign at signed <;>
    split at signed <;>
    rcases signed with ⟨rfl, rfl⟩ <;>
    cases digits <;>
    simp_all [ExponentForm.value, Text.ofString]


/-- An exponent is read as far as it goes; what only looks like one is left. -/
theorem readExponent_eq
    {t rest : Text} {e : Int}
    (reading : readExponent t = (e, rest)) :
    (e = 0 ∧ rest = t) ∨
      ∃ form : ExponentForm, form.IsExponent ∧ t = form.text ++ rest ∧ e = form.value := by
  by_cases lettered : ∃ letter tail, (letter = 'e' ∨ letter = 'E') ∧ t = .char letter :: tail
  · rcases lettered with ⟨letter, tail, isLetter, rfl⟩
    rcases signed : splitExponentSign tail with ⟨sign, unsigned⟩
    rcases spanned : spanDigits unsigned with ⟨digits, left⟩
    rw [readExponent_of_letter isLetter signed spanned] at reading
    split at reading
    · cases reading
      exact .inl ⟨rfl, rfl⟩
    next nonempty =>
      cases reading
      rcases splitExponentSign_eq signed with ⟨rfl, isSign⟩
      rcases spanDigits_eq spanned with ⟨rfl, areDigits⟩
      refine .inr ⟨⟨letter, sign, digits⟩, ⟨isLetter, isSign, nonempty, areDigits⟩, ?_, rfl⟩
      simp [ExponentForm.text]
  · left
    unfold readExponent at reading
    split at reading
    · exact absurd ⟨_, _, .inl rfl, rfl⟩ lettered
    · exact absurd ⟨_, _, .inr rfl, rfl⟩ lettered
    · cases reading
      exact ⟨rfl, rfl⟩

theorem splitSign_eq
    {t unsigned : Text} {negative : Bool}
    (split : splitSign t = (negative, unsigned)) :
    t = (if negative then [.char '-'] else []) ++ unsigned := by
  unfold splitSign at split
  split at split <;>
    rcases split with ⟨rfl, rfl⟩ <;>
    simp

/-- The digits of a fraction, and what follows them. -/
def splitFraction : Text → Option Text × Text
  | .char '.' :: rest => ((some (spanDigits rest).1), (spanDigits rest).2)
  | rest => (none, rest)

theorem splitFraction_eq
    {t rest : Text} {fraction : Option Text}
    (split : splitFraction t = (fraction, rest)) :
    t = fraction.elim [] (.char '.' :: ·) ++ rest ∧ ∀ digits ∈ fraction, AreDigits digits := by
  unfold splitFraction at split
  split at split
  next tail =>
    rcases spanned : spanDigits tail with ⟨digits, left⟩
    simp only [spanned] at split
    cases split
    rcases spanDigits_eq spanned with ⟨rfl, areDigits⟩
    simpa using areDigits
  · cases split
    simp

theorem readFloat_of_split
    {t unsigned whole afterWhole afterFraction : Text} {negative : Bool} {fraction : Option Text}
    (sign : splitSign t = (negative, unsigned))
    (spanned : spanDigits unsigned = (whole, afterWhole))
    (split : splitFraction afterWhole = (fraction, afterFraction)) :
    readFloat t =
      if whole ++ fraction.getD [] = [] then (.signedZero false, t)
      else
        (.ofDecimal negative (Text.digitsValue (whole ++ fraction.getD []))
          ((readExponent afterFraction).1 - (fraction.getD []).length),
            (readExponent afterFraction).2) := by
  unfold splitSign at sign
  unfold splitFraction at split
  unfold readFloat
  split at sign <;>
    cases sign <;>
    simp only [spanned] <;>
    split at split <;>
    cases split <;>
    simp_all


/-- The first character of a number. -/
def StartsNumber (t : Text) : Prop :=
  ∃ c ∈ t.head?, c = .char '-' ∨ c.isAsciiDigit = true

theorem StartsNumber.not_endsValue
    {t : Text}
    (starts : StartsNumber t) :
    ¬EndsValue t := by
  rintro ends
  rcases starts with ⟨c, member, minus | digit⟩
  · exact absurd (minus ▸ ends c member) (by decide)
  · cases t with
    | nil => cases member
    | cons d tail =>
        cases member
        rw [ends.not_number.1] at digit
        cases digit

theorem StartsNumber.whole_ne_nil
    {t unsigned whole rest : Text}
    (starts : StartsNumber t)
    (sign : splitSign t = (false, unsigned))
    (spanned : spanDigits unsigned = (whole, rest)) :
    whole ≠ [] := by
  rintro rfl
  rcases starts with ⟨c, member, started⟩
  cases t with
  | nil => cases member
  | cons d tail =>
      cases member
      unfold splitSign at sign
      split at sign
      · cases sign
      next notMinus =>
        cases sign
        rcases started with rfl | digit
        · exact absurd rfl (notMinus tail)
        · simp [spanDigits, List.span_eq_takeWhile_dropWhile, digit] at spanned

/-- A number with a fraction or an exponent is read as far as it goes. -/
theorem readFloat_eq
    {t unsigned whole afterWhole rest : Text} {negative : Bool} {x : Binary64}
    (starts : StartsNumber t)
    (sign : splitSign t = (negative, unsigned))
    (spanned : spanDigits unsigned = (whole, afterWhole))
    (marked : ∃ c ∈ afterWhole.head?, c = .char '.' ∨ c = .char 'e' ∨ c = .char 'E')
    (reading : readFloat t = (x, rest))
    (ends : EndsValue rest) :
    ∃ form : NumberForm, form.IsLenient ∧ t = form.text ++ rest ∧ .float x = form.value := by
  rcases split : splitFraction afterWhole with ⟨fraction, afterFraction⟩
  rcases readingExponent : readExponent afterFraction with ⟨e, left⟩
  rcases spanDigits_eq spanned with ⟨rfl, wholeDigits⟩
  rcases splitFraction_eq split with ⟨afterWholeEq, fractionDigits⟩
  have signed := splitSign_eq sign
  rw [readFloat_of_split sign spanned split, readingExponent] at reading
  split at reading
  · cases reading
    exact absurd ends starts.not_endsValue
  next hasDigit =>
    cases reading
    have start : negative = true ∨ whole ≠ [] := by
      cases negative with
      | true => exact .inl rfl
      | false => exact .inr (starts.whole_ne_nil sign spanned)
    rcases readExponent_eq readingExponent with ⟨rfl, rfl⟩ | ⟨form, isExponent, rfl, rfl⟩
    · -- Without an exponent there is a fraction, since the number ends here.
      have point : fraction ≠ none := by
        rintro rfl
        simp only [Option.elim_none, List.nil_append] at afterWholeEq
        rcases marked with ⟨c, member, mark⟩
        rw [afterWholeEq] at member
        have listed := ends c member
        rcases mark with rfl | rfl | rfl <;> exact absurd listed (by decide)
      rcases Option.ne_none_iff_exists'.mp point with ⟨digits, rfl⟩
      refine ⟨⟨negative, whole, some digits, none⟩,
        ⟨⟨wholeDigits, fractionDigits, by simp⟩, start, fun _ => hasDigit⟩, ?_, rfl⟩
      rw [signed, afterWholeEq]
      simp [NumberForm.text]
    · refine ⟨⟨negative, whole, fraction, some form⟩,
        ⟨⟨wholeDigits, fractionDigits, by simpa using isExponent⟩, start, fun _ => hasDigit⟩,
        ?_, ?_⟩
      · rw [signed, afterWholeEq]
        simp [NumberForm.text]
      · cases fraction <;> rfl

/-- A number is read as far as it goes, if the value ends there. -/
theorem readNumber_eq
    {t rest : Text} {v : Value}
    (starts : StartsNumber t)
    (reading : readNumber t = .ok (v, rest))
    (ends : EndsValue rest) :
    ∃ form : NumberForm, form.IsLenient ∧ t = form.text ++ rest ∧ v = form.value := by
  rcases sign : splitSign t with ⟨negative, unsigned⟩
  rcases spanned : spanDigits unsigned with ⟨whole, afterWhole⟩
  unfold readNumber at reading
  split at reading
  next foundSign remaining split =>
    change splitSign t = _ at split
    rw [sign] at split
    cases split
    simp only [spanned] at reading
    split at reading
    iterate 3
      simp only [Except.ok.injEq, Prod.mk.injEq] at reading
      rcases reading with ⟨rfl, rfl⟩
      exact readFloat_eq starts sign spanned ⟨_, rfl, by simp⟩ rfl ends
    next =>
      split at reading
      · cases reading
      · cases reading
        rcases spanDigits_eq spanned with ⟨rfl, areDigits⟩
        refine
          ⟨⟨negative, whole, none, none⟩, ⟨⟨areDigits, by simp, by simp⟩, ?_, by simp⟩, ?_, rfl⟩
        · cases negative with
          | true => exact .inl rfl
          | false => exact .inr (starts.whole_ne_nil sign spanned)
        · rw [splitSign_eq sign]
          simp [NumberForm.text]


/-! ## Strings and words -/

theorem simpleEscape?_eq
    {c d : CodePoint}
    (escape : simpleEscape? c = some d) :
    ∃ form ∈ shortEscapes, c = .char form.1 ∧ d = .char form.2 := by
  unfold simpleEscape? at escape
  split at escape <;>
    cases escape <;>
    decide

/-- No escape goes over the closing quote. -/
theorem Grammar.DerivesContent.lowSurrogateEscape?_append
    {s body : Text} (rest : Text)
    (content : Grammar.lenient.DerivesContent s body) :
    lowSurrogateEscape? (body ++ .char '"' :: rest) = lowSurrogateEscape? body := by
  cases content with
  | nil => rfl
  | raw isRaw _ =>
      rw [List.cons_append, lowSurrogateEscape?, lowSurrogateEscape?] <;>
        (intros; simp_all [Grammar.lenient])
  | short listed _ =>
      have letters : ∀ form ∈ shortEscapes, form.1 ≠ 'u' := by decide
      have notUnit := letters _ listed
      rw [List.cons_append, lowSurrogateEscape?, lowSurrogateEscape?] <;>
        simp_all
  | unit _ _ => rfl

/-- What is read up to the closing quote is the content of a string. -/
theorem readString_eq
    {t s rest : Text}
    (reading : readString t = .ok (s, rest)) :
    ∃ body, t = body ++ .char '"' :: rest ∧ Grammar.lenient.DerivesContent s body := by
  fun_induction readString t generalizing s rest with
  | case1 | case2 | case4 | case5 | case6 | case8 | case10 => cases reading
  | case3 tail =>
      cases reading
      exact ⟨[], rfl, .nil⟩
  | case7 a b c d tail n quad induction =>
      rcases map_eq_ok_iff.mp reading with ⟨⟨more, left⟩, readingTail, same⟩
      cases same
      rcases induction readingTail with ⟨body, rfl, content⟩
      rw [content.lowSurrogateEscape?_append]
      exact ⟨_, rfl, .unit quad content⟩
  | case9 c tail _ _ _ d escape induction =>
      rcases map_eq_ok_iff.mp reading with ⟨⟨more, left⟩, readingTail, same⟩
      cases same
      rcases induction readingTail with ⟨body, rfl, content⟩
      rcases simpleEscape?_eq escape with ⟨form, listed, rfl, rfl⟩
      exact ⟨_, rfl, .short listed content⟩
  | case11 c tail notNull notQuote notLone _ _ _ notEscape induction =>
      rcases map_eq_ok_iff.mp reading with ⟨⟨more, left⟩, readingTail, same⟩
      cases same
      have notBackslash : c ≠ .char '\\' := by
        rintro rfl
        cases tail with
        | nil => exact notLone rfl rfl
        | cons d others => exact notEscape d others rfl rfl
      rcases induction readingTail with ⟨body, rfl, content⟩
      exact ⟨_, rfl, .raw ⟨notNull, notQuote, notBackslash⟩ content⟩


theorem expect_eq
    {literal : Literal} {word t rest : Text}
    (reading : expect literal word t = .ok rest) :
    t = word ++ rest := by
  induction word generalizing t with
  | nil =>
      cases reading
      rfl
  | cons c more induction =>
      cases t with
      | nil => cases reading
      | cons d tail =>
          rw [expect] at reading
          split at reading
          next same =>
            rw [same, induction reading, List.cons_append]
          · cases reading

/-! ## Values -/

theorem skipSpace_eq
    (t : Text) :
    ∃ space, IsSpacing space ∧ t = space ++ skipSpace t := by
  refine ⟨t.takeWhile isSpace, fun c member => ?_, List.takeWhile_append_dropWhile.symm⟩
  have space := List.mem_takeWhile_imp member
  simp only [isSpace, Bool.or_eq_true, decide_eq_true_eq] at space
  simp only [List.mem_cons, List.not_mem_nil, or_false]
  rcases space with ((tab | cr) | lf) | sp <;> simp_all

/-- A value that the reader takes is behind spaces. -/
def ReadsAs (v : Value) (t rest : Text) : Prop :=
  ∃ space core, IsSpacing space ∧ t = space ++ (core ++ rest) ∧ Grammar.lenient.Derives v core

theorem ReadsAs.of_skipSpace
    {v : Value} {t rest : Text} (core : Text)
    (skipped : skipSpace t = core ++ rest)
    (derives : Grammar.lenient.Derives v core) :
    ReadsAs v t rest := by
  rcases skipSpace_eq t with ⟨space, spacing, eq⟩
  exact ⟨space, core, spacing, by rw [← skipped]; exact eq, derives⟩

/-- Behind a value come spaces, too. -/
theorem ReadsAs.derivesSpaced
    {v : Value} {t left rest : Text} {c : CodePoint}
    (reads : ReadsAs v t left)
    (next : skipSpace left = c :: rest) :
    ∃ u, t = u ++ c :: rest ∧ Grammar.lenient.DerivesSpaced v u := by
  rcases reads with ⟨before, core, spacing, rfl, derives⟩
  rcases skipSpace_eq left with ⟨after, spacingAfter, eq⟩
  rw [next] at eq
  exact ⟨before ++ (core ++ after), by simp [eq], .mk spacing derives spacingAfter⟩

theorem endsValue_of_skipSpace
    {t rest : Text} {c : CodePoint}
    (next : skipSpace t = c :: rest)
    (ends : EndsValue (c :: rest)) :
    EndsValue t := by
  rcases skipSpace_eq t with ⟨space, spacing, eq⟩
  rw [eq, next]
  exact endsValue_append spacing ends

theorem readLiteral_readsAs
    {literal : Literal} {t tail rest : Text} {v : Value} {c : CodePoint}
    (skipped : skipSpace t = c :: tail)
    (first : literal.spelling = c :: literal.spelling.drop 1)
    (reading : readLiteral literal tail = .ok (v, rest)) :
    ReadsAs v t rest := by
  rcases map_eq_ok_iff.mp reading with ⟨left, expected, same⟩
  cases same
  refine .of_skipSpace literal.spelling ?_ (.literal trivial)
  rw [skipped, expect_eq expected, first]
  rfl

mutual

theorem readValue_readsAs
    {fuel depth : Nat} {t rest : Text} {v : Value}
    (reading : readValue fuel depth t = .ok (v, rest))
    (ends : EndsValue rest) :
    ReadsAs v t rest := by
  cases fuel with
  | zero => cases reading
  | succ fuel =>
      rw [readValue.eq_def] at reading
      simp only at reading
      split at reading
      next tail skipped =>
        rcases map_eq_ok_iff.mp reading with ⟨⟨s, left⟩, readingString, same⟩
        cases same
        rcases readString_eq readingString with ⟨body, rfl, content⟩
        exact .of_skipSpace _ (skipped.trans (by simp)) (.text content)
      next tail skipped =>
        cases depth with
        | zero => cases reading
        | succ depth =>
            simp only at reading
            rcases skipSpace_eq tail with ⟨space, spacing, eq⟩
            split at reading
            next closed =>
              cases reading
              rw [closed] at eq
              exact .of_skipSpace _ (skipped.trans (by simp [eq])) (.emptyArray spacing)
            · rw [readItems_skipSpace] at reading
              rcases map_eq_ok_iff.mp reading with ⟨⟨items, left⟩, readingItems, same⟩
              cases same
              rcases readItems_eq readingItems with ⟨body, rfl, derives⟩
              exact .of_skipSpace _ (skipped.trans (by simp)) (.array derives)
      next tail skipped =>
        cases depth with
        | zero => cases reading
        | succ depth =>
            simp only at reading
            rcases skipSpace_eq tail with ⟨space, spacing, eq⟩
            split at reading
            next closed =>
              cases reading
              rw [closed] at eq
              exact .of_skipSpace _ (skipped.trans (by simp [eq])) (.emptyObject spacing)
            · rw [readMembers_skipSpace] at reading
              rcases map_eq_ok_iff.mp reading with ⟨⟨members, left⟩, readingMembers, same⟩
              cases same
              rcases readMembers_eq readingMembers with ⟨body, rfl, derives⟩
              exact .of_skipSpace _ (skipped.trans (by simp)) (.object derives)
      next tail skipped => exact readLiteral_readsAs skipped rfl reading
      next tail skipped => exact readLiteral_readsAs skipped rfl reading
      next tail skipped => exact readLiteral_readsAs skipped rfl reading
      next tail skipped => exact readLiteral_readsAs skipped rfl reading
      next tail skipped => exact readLiteral_readsAs skipped rfl reading
      next tail skipped =>
        rcases map_eq_ok_iff.mp reading with ⟨left, expected, same⟩
        cases same
        rw [expect_eq expected] at skipped
        exact .of_skipSpace Literal.minusInfinity.spelling skipped (.literal trivial)
      next c tail _ _ _ _ _ _ _ _ _ skipped =>
        split at reading
        next started =>
          have starts : StartsNumber (c :: tail) := ⟨c, rfl, by simpa using started⟩
          rcases readNumber_eq starts reading ends with ⟨form, isLenient, eq, rfl⟩
          exact .of_skipSpace _ (skipped.trans eq) (.number isLenient)
        · cases reading
      · cases reading

theorem readItems_eq
    {fuel depth : Nat} {t rest : Text} {items : List Value}
    (reading : readItems fuel depth t = .ok (items, rest)) :
    ∃ body, t = body ++ .char ']' :: rest ∧ Grammar.lenient.DerivesItems items body := by
  cases fuel with
  | zero => cases reading
  | succ fuel =>
      rw [readItems.eq_def] at reading
      simp only at reading
      split at reading
      · cases reading
      next v left readingFirst =>
        split at reading
        next tail closed =>
          cases reading
          have reads :=
            readValue_readsAs readingFirst (endsValue_of_skipSpace closed (by simp [EndsValue]))
          rcases reads.derivesSpaced closed with ⟨u, rfl, derives⟩
          exact ⟨u, rfl, .last derives⟩
        next tail separated =>
          split at reading
          · cases reading
          · rw [readItems_skipSpace] at reading
            rcases map_eq_ok_iff.mp reading with ⟨⟨more, remaining⟩, readingMore, same⟩
            cases same
            have reads :=
              readValue_readsAs readingFirst
                (endsValue_of_skipSpace separated (by simp [EndsValue]))
            rcases reads.derivesSpaced separated with ⟨u, rfl, derives⟩
            rcases readItems_eq readingMore with ⟨body, rfl, derivesMore⟩
            exact ⟨_, by simp, .cons derives derivesMore⟩
        · cases reading

theorem readMembers_eq
    {fuel depth : Nat} {t rest : Text} {members : List (Text × Value)}
    (reading : readMembers fuel depth t = .ok (members, rest)) :
    ∃ body, t = body ++ .char '\x7d' :: rest ∧ Grammar.lenient.DerivesMembers members body := by
  cases fuel with
  | zero => cases reading
  | succ fuel =>
      rw [readMembers.eq_def] at reading
      simp only at reading
      split at reading
      · cases reading
      next key leftKey readingKey =>
        split at reading
        next afterColon colon =>
          have readsKey :=
            readValue_readsAs readingKey (endsValue_of_skipSpace colon (by simp [EndsValue]))
          rcases readsKey.derivesSpaced colon with ⟨k, rfl, derivesKey⟩
          split at reading
          · cases reading
          next v left readingFirst =>
            split at reading
            next tail closed =>
              cases reading
              have reads :=
                readValue_readsAs readingFirst
                  (endsValue_of_skipSpace closed (by simp [EndsValue]))
              rcases reads.derivesSpaced closed with ⟨u, rfl, derives⟩
              exact ⟨_, by simp, .last derivesKey derives⟩
            next tail separated =>
              split at reading
              · cases reading
              · rw [readMembers_skipSpace] at reading
                rcases map_eq_ok_iff.mp reading with ⟨⟨more, remaining⟩, readingMore, same⟩
                cases same
                have reads :=
                  readValue_readsAs readingFirst
                    (endsValue_of_skipSpace separated (by simp [EndsValue]))
                rcases reads.derivesSpaced separated with ⟨u, rfl, derives⟩
                rcases readMembers_eq readingMore with ⟨body, rfl, derivesMore⟩
                exact ⟨_, by simp, .cons derivesKey derives derivesMore⟩
            · cases reading
        · cases reading
      · cases reading

end

/-! ## Documents -/

theorem read_derivesSpaced
    {t : Text} {v : Value}
    (reading : read t = .ok v) :
    Grammar.lenient.DerivesSpaced v t := by
  rw [read, readWithin] at reading
  split at reading
  · cases reading
  next found left readingValue =>
    split at reading
    next ended =>
      cases reading
      rcases skipSpace_eq left with ⟨after, spacingAfter, eq⟩
      rw [List.isEmpty_iff.mp ended, List.append_nil] at eq
      have ends : EndsValue left := by
        rw [eq, ← List.append_nil after]
        exact endsValue_append spacingAfter (by simp [EndsValue])
      rcases readValue_readsAs readingValue ends with ⟨before, core, spacing, rfl, derives⟩
      rw [eq]
      exact .mk spacing derives spacingAfter
    · cases reading

/-- A standard number that starts with a zero goes on with a point or with an exponent. -/
theorem NumberForm.IsStandard.text_ne_leadingZero
    {form : NumberForm}
    (standard : form.IsStandard) :
    form.text ≠ Text.ofString "01" := by
  rcases form with ⟨negative, whole, fraction, exponent⟩
  intro same
  cases negative with
  | true => cases same
  | false =>
      cases whole with
      | nil => exact standard.nonempty rfl
      | cons c more =>
          rcases List.cons.inj same with ⟨rfl, rest⟩
          cases standard.leading rfl
          cases fraction with
          | some digits => cases rest
          | none =>
              cases exponent with
              | none => cases rest
              | some e =>
                  have letter : CodePoint.char e.letter = .char '1' := (List.cons.inj rest).1
                  rcases (standard.exponent e rfl).letter with lower | upper
                  · rw [lower] at letter
                    cases letter
                  · rw [upper] at letter
                    cases letter

/-- Every text is either derivable, up to the blanks around it, in the lenient grammar for a value
with finite numbers only, which is the value of the document; or it is refused. -/
theorem parse_derivesSpaced_or_error
    (t : Text) :
    (∃ v, parse t = .ok v ∧ Grammar.lenient.DerivesSpaced v t.trimBlanks ∧
        v.nonFiniteNumbers = []) ∨
      ∃ error, parse t = .error error := by
  rcases parsed : parse t with error | v
  · exact .inr ⟨error, rfl⟩
  · left
    rw [parse] at parsed
    split at parsed
    · cases parsed
    · split at parsed
      · cases parsed
      next found reading =>
        split at parsed
        · cases parsed
        next finite =>
          cases parsed
          exact ⟨v, rfl, read_derivesSpaced reading, Value.findNonFinite_eq_none_iff.mp finite⟩

/-- A needless zero is read over, though no standard text of a value has one. -/
theorem parse_leadingZero :
    parse (Text.ofString "01") = .ok (.integer 1) ∧
      ¬∃ v, Grammar.standard.DerivesSpaced v (Text.ofString "01") := by
  refine ⟨rfl, ?_⟩
  rintro ⟨v, derives⟩
  generalize same : Text.ofString "01" = t at derives
  rcases derives with @⟨_, before, core, after, spacing, derives, spacingAfter⟩
  -- Neither end of the text is a space.
  have noBefore : before = [] := by
    cases before with
    | nil => rfl
    | cons c more =>
        have starts : .char '0' = c := (List.cons.inj same).1
        exact absurd (spacing c List.mem_cons_self) (starts ▸ by decide)
  subst noBefore
  have noAfter : after = [] := by
    rcases List.eq_nil_or_concat after with rfl | ⟨front, last, rfl⟩
    · rfl
    · have ends : last = .char '1' := by
        have reversed := congrArg List.getLast? same
        simpa [Text.ofString] using reversed.symm
      rw [ends] at spacingAfter
      exact absurd (spacingAfter (.char '1') (by simp)) (by decide)
  subst noAfter
  rw [List.nil_append, List.append_nil] at same
  cases derives with
  | literal isLiteral =>
      rcases isLiteral with rfl | rfl | rfl <;> cases same
  | number standard => exact standard.text_ne_leadingZero same.symm
  | text _ => cases same
  | emptyArray _ => cases same
  | array _ => cases same
  | emptyObject _ => cases same
  | object _ => cases same

end Shapewright.Json
