import Shapewright.Proofs.Json.Acceptance

/-!
# What the reader has to accept

Every text that the lenient grammar derives for a value is read to that value, unless the reader
stops at a limit of its own: too many containers are open at one place, or an integer has too many
digits.  There is no other reason to refuse such a text.

The proof follows the grammar.  A number and a string are read up to where they end, and each rule
for values comes with a lemma about the reader, whose parts may stop at a limit, too.
-/

namespace Shapewright.Json

open Shapewright.Outcome

/-! ## Limits -/

/-- Whether an error is about a limit of the reader and not about the text. -/
def ReadError.IsLimit : ReadError → Prop
  | .tooDeep => True
  | .tooManyDigits _ => True
  | _ => False

/-- A reading has a result, unless it stops at a limit of the reader. -/
def Gives {α : Type} (outcome : Except ReadError α) (result : α) : Prop :=
  outcome = .ok result ∨ ∃ error, outcome = .error error ∧ error.IsLimit

theorem Gives.map
    {α β : Type} {outcome : Except ReadError α} {result : α} (change : α → β)
    (gives : Gives outcome result) :
    Gives (outcome.map change) (change result) := by
  rcases gives with rfl | ⟨error, rfl, limit⟩
  · exact .inl rfl
  · exact .inr ⟨error, rfl, limit⟩

/-! ## Numbers -/

/-- An exponent is read up to where the value ends. -/
theorem readExponent_text
    {form : ExponentForm} {rest : Text}
    (isExponent : form.IsExponent)
    (ends : EndsValue rest) :
    readExponent (form.text ++ rest) = (form.value, rest) := by
  have signed :
      splitExponentSign (form.sign ++ (form.digits ++ rest)) =
        (form.sign, form.digits ++ rest) := by
    rcases isExponent.sign with unsigned | plus | minus
    · rw [unsigned]
      rcases List.exists_cons_of_ne_nil isExponent.nonempty with ⟨c, others, digitsEq⟩
      have digit := isExponent.digits c (digitsEq ▸ List.mem_cons_self)
      rw [digitsEq]
      unfold splitExponentSign
      split
      next same =>
        cases same
        exact absurd digit (by decide)
      next same =>
        cases same
        exact absurd digit (by decide)
      next => rfl
    · rw [plus]
      rfl
    · rw [minus]
      rfl
  rw [ExponentForm.text, List.cons_append, List.append_assoc,
    readExponent_of_letter isExponent.letter signed
      (spanDigits_append isExponent.digits ends.endsDigits),
    if_neg isExponent.nonempty]

/-- No exponent is found where a value ends. -/
theorem readExponent_of_endsValue
    {t : Text}
    (ends : EndsValue t) :
    readExponent t = (0, t) := by
  unfold readExponent
  split
  next => exact absurd rfl ends.not_number.2.2.1
  next => exact absurd rfl ends.not_number.2.2.2
  next => rfl

/-- The exponent of a number, if it has one, and what follows it. -/
theorem readExponent_elim
    {exponent : Option ExponentForm} {rest : Text}
    (isExponent : ∀ form ∈ exponent, form.IsExponent)
    (ends : EndsValue rest) :
    readExponent (exponent.elim [] ExponentForm.text ++ rest) =
      (exponent.elim 0 ExponentForm.value, rest) := by
  cases exponent with
  | none => exact readExponent_of_endsValue ends
  | some form => exact readExponent_text (isExponent form rfl) ends

/-- Neither a digit nor a point comes first in what follows the fraction of a number. -/
theorem not_digit_of_exponent
    {exponent : Option ExponentForm} {rest : Text} {c : CodePoint}
    (isExponent : ∀ form ∈ exponent, form.IsExponent)
    (ends : EndsValue rest)
    (first : c ∈ (exponent.elim [] ExponentForm.text ++ rest).head?) :
    c.isAsciiDigit = false ∧ c ≠ .char '.' := by
  cases exponent with
  | none =>
      cases rest with
      | nil => cases first
      | cons d more =>
          cases first
          exact ⟨ends.not_number.1, ends.not_number.2.1⟩
  | some form =>
      cases first
      rcases (isExponent form rfl).letter with lower | upper
      · rw [lower]
        decide
      · rw [upper]
        decide

theorem splitFraction_elim
    {fraction : Option Text} {rest : Text}
    (areDigits : ∀ digits ∈ fraction, AreDigits digits)
    (ends : ∀ c ∈ rest.head?, c.isAsciiDigit = false ∧ c ≠ .char '.') :
    splitFraction (fraction.elim [] (.char '.' :: ·) ++ rest) = (fraction, rest) := by
  cases fraction with
  | none =>
      unfold splitFraction
      split
      next same =>
        rw [Option.elim_none, List.nil_append] at same
        exact absurd rfl (ends _ (by rw [same]; rfl)).2
      next => rfl
  | some digits =>
      have spanned := spanDigits_append (areDigits digits rfl) fun c first => (ends c first).1
      simp [splitFraction, spanned]

theorem gives_readNumber_integer
    {negative : Bool} {t unsigned digits rest : Text}
    (sign : splitSign t = (negative, unsigned))
    (spanned : spanDigits unsigned = (digits, rest))
    (ends : EndsValue rest) :
    Gives (readNumber t)
      (.integer (if negative then -(Text.digitsValue digits : Int) else Text.digitsValue digits),
        rest) := by
  rw [readNumber_of_splitSign sign spanned ends]
  split
  · exact .inr ⟨_, rfl, trivial⟩
  · exact .inl rfl

/-- With a point or the letter of an exponent behind the digits, a number is read as a float. -/
theorem readNumber_of_mark
    {negative : Bool} {t unsigned whole afterWhole rest : Text} {x : Binary64}
    (sign : splitSign t = (negative, unsigned))
    (spanned : spanDigits unsigned = (whole, afterWhole))
    (marked : ∃ c ∈ afterWhole.head?, c = .char '.' ∨ c = .char 'e' ∨ c = .char 'E')
    (float : readFloat t = (x, rest)) :
    readNumber t = .ok (.float x, rest) := by
  rcases marked with ⟨c, first, mark⟩
  cases afterWhole with
  | nil => cases first
  | cons d tail =>
      cases first
      unfold readNumber
      split
      next found remaining split =>
        change splitSign t = _ at split
        rw [sign] at split
        cases split
        rcases mark with rfl | rfl | rfl <;> simp only [spanned, float]

/-- A lenient number is read up to where the value ends. -/
theorem gives_readNumber
    {form : NumberForm} {rest : Text}
    (lenient : form.IsLenient)
    (ends : EndsValue rest) :
    Gives (readNumber (form.text ++ rest)) (form.value, rest) := by
  have afterFraction : ∀ c ∈ (form.exponent.elim [] ExponentForm.text ++ rest).head?,
      c.isAsciiDigit = false ∧ c ≠ .char '.' :=
    fun c => not_digit_of_exponent lenient.exponent ends
  have split := splitFraction_elim lenient.fraction afterFraction
  have signed :
      splitSign (form.text ++ rest) =
        (form.negative, form.whole ++ (form.fraction.elim [] (.char '.' :: ·) ++
          (form.exponent.elim [] ExponentForm.text ++ rest))) := by
    simp only [NumberForm.text, List.append_assoc]
    cases sign : form.negative with
    | true => rfl
    | false =>
        -- Without a minus, the number starts with a digit.
        rcases lenient.start with negative | nonempty
        · rw [sign] at negative
          cases negative
        · rcases List.exists_cons_of_ne_nil nonempty with ⟨c, others, wholeEq⟩
          have digit := lenient.whole c (wholeEq ▸ List.mem_cons_self)
          rw [wholeEq]
          refine splitSign_of_ne _ fun minus => ?_
          rw [minus] at digit
          exact absurd digit (by decide)
  have spanned :
      spanDigits (form.whole ++ (form.fraction.elim [] (.char '.' :: ·) ++
          (form.exponent.elim [] ExponentForm.text ++ rest))) =
        (form.whole, form.fraction.elim [] (.char '.' :: ·) ++
          (form.exponent.elim [] ExponentForm.text ++ rest)) := by
    refine spanDigits_append lenient.whole fun c first => ?_
    cases fraction : form.fraction with
    | none =>
        rw [fraction] at first
        exact (afterFraction c first).1
    | some digits =>
        rw [fraction] at first
        cases first
        decide
  by_cases plain : form.fraction = none ∧ form.exponent = none
  · rcases plain with ⟨fraction, exponent⟩
    rw [fraction, exponent] at signed spanned
    simpa [NumberForm.value, fraction, exponent] using
      gives_readNumber_integer signed spanned ends
  · have marked :
        ∃ c ∈ (form.fraction.elim [] (.char '.' :: ·) ++
            (form.exponent.elim [] ExponentForm.text ++ rest)).head?,
          c = .char '.' ∨ c = .char 'e' ∨ c = .char 'E' := by
      cases fraction : form.fraction with
      | some digits => exact ⟨_, rfl, .inl rfl⟩
      | none =>
          cases exponent : form.exponent with
          | none => exact absurd ⟨fraction, exponent⟩ plain
          | some e =>
              refine ⟨_, rfl, .inr ?_⟩
              rcases (lenient.exponent e exponent).letter with lower | upper
              · exact .inl (congrArg _ lower)
              · exact .inr (congrArg _ upper)
    have hasDigit : form.whole ++ form.fraction.getD [] ≠ [] :=
      lenient.digit (not_and_or.mp plain)
    have float := readFloat_of_split signed spanned split
    rw [readExponent_elim lenient.exponent ends, if_neg hasDigit] at float
    have value :
        form.value =
          .float (.ofDecimal form.negative
            (Text.digitsValue (form.whole ++ form.fraction.getD []))
            (form.exponent.elim 0 ExponentForm.value - (form.fraction.getD []).length)) := by
      unfold NumberForm.value
      split
      next fraction exponent => exact absurd ⟨fraction, exponent⟩ plain
      next => rfl
    rw [value]
    exact .inl (readNumber_of_mark signed spanned marked float)

/-! ## Strings and words -/

/-- A string is read up to its closing quote. -/
theorem readString_of_derivesContent
    {s t : Text} (rest : Text)
    (content : Grammar.lenient.DerivesContent s t) :
    readString (t ++ .char '"' :: rest) = .ok (s, rest) := by
  induction content with
  | nil =>
      rfl
  | raw isRaw _ induction =>
      rcases isRaw with ⟨notNull, notQuote, notBackslash⟩
      rw [List.cons_append, readString] <;> simp_all
      rfl
  | @short letter c s t listed _ induction =>
      have escaped :
          readString (.char '\\' :: .char letter :: (t ++ .char '"' :: rest)) =
            (readString (t ++ .char '"' :: rest)).map fun found =>
              (.char c :: found.1, found.2) := by
        simp only [shortEscapes, List.mem_cons, Prod.mk.injEq, List.not_mem_nil, or_false] at listed
        rcases listed with ⟨rfl, rfl⟩ | ⟨rfl, rfl⟩ | ⟨rfl, rfl⟩ | ⟨rfl, rfl⟩ | ⟨rfl, rfl⟩ |
          ⟨rfl, rfl⟩ | ⟨rfl, rfl⟩ | ⟨rfl, rfl⟩ <;>
          rfl
      rw [List.cons_append, List.cons_append, escaped, induction]
      rfl
  | unit quad more induction =>
      simp only [List.cons_append]
      rw [readString, quad]
      simp only [more.lowSurrogateEscape?_append, induction]
      rfl

/-- A word is read up to its end. -/
theorem readValue_spelling
    (literal : Literal) (fuel depth : Nat) (rest : Text) :
    readValue (fuel + 1) depth (literal.spelling ++ rest) = .ok (literal.value, rest) := by
  cases literal <;> rfl

/-! ## The first character of a value -/

/-- A text that a value may start: it starts neither with a space nor with what closes an array or
an object. -/
def StartsValue (t : Text) : Prop :=
  ∃ c ∈ t.head?, isSpace c = false ∧ c ≠ .char ']' ∧ c ≠ .char '\x7d'

theorem StartsValue.append
    {t : Text} (rest : Text)
    (starts : StartsValue t) :
    StartsValue (t ++ rest) := by
  rcases starts with ⟨c, first, start⟩
  cases t with
  | nil => cases first
  | cons d tail => exact ⟨c, first, start⟩

theorem StartsValue.skipSpace_eq
    {t : Text}
    (starts : StartsValue t) :
    skipSpace t = t := by
  rcases starts with ⟨c, first, notSpace, _⟩
  cases t with
  | nil => cases first
  | cons d tail =>
      cases first
      exact skipSpace_cons tail notSpace

theorem StartsValue.notClosed
    {t : Text}
    (starts : StartsValue t)
    (tail : Text) :
    t ≠ .char ']' :: tail ∧ t ≠ .char '\x7d' :: tail := by
  rcases starts with ⟨c, first, _, notBracket, notBrace⟩
  constructor <;>
    rintro rfl <;>
    cases first
  · exact notBracket rfl
  · exact notBrace rfl

theorem startsValue_of_isAsciiDigit
    {c : CodePoint} {t : Text}
    (digit : c.isAsciiDigit = true) :
    StartsValue (c :: t) := by
  refine ⟨c, rfl, ?_, ?_, ?_⟩
  · cases space : isSpace c with
    | false => rfl
    | true =>
        simp only [isSpace, Bool.or_eq_true, decide_eq_true_eq] at space
        rcases space with ((rfl | rfl) | rfl) | rfl <;> exact absurd digit (by decide)
  · rintro rfl
    exact absurd digit (by decide)
  · rintro rfl
    exact absurd digit (by decide)

/-- A number without a minus starts with a digit of its integer part. -/
theorem NumberForm.IsLenient.exists_digit
    {form : NumberForm}
    (lenient : form.IsLenient)
    (unsigned : form.negative = false) :
    ∃ c ∈ form.text.head?, c.isAsciiDigit = true := by
  rcases lenient.start with negative | nonempty
  · rw [unsigned] at negative
    cases negative
  · rcases List.exists_cons_of_ne_nil nonempty with ⟨c, others, wholeEq⟩
    refine ⟨c, ?_, lenient.whole c (wholeEq ▸ List.mem_cons_self)⟩
    simp [NumberForm.text, unsigned, wholeEq]

theorem Grammar.Derives.startsValue
    {v : Value} {t : Text}
    (derives : Grammar.lenient.Derives v t) :
    StartsValue t := by
  cases derives with
  | @literal literal _ => cases literal <;> exact ⟨_, rfl, by decide⟩
  | @number form lenient =>
      cases sign : form.negative with
      | true => exact ⟨.char '-', by simp [NumberForm.text, sign], by decide⟩
      | false =>
          rcases NumberForm.IsLenient.exists_digit lenient sign with ⟨c, first, digit⟩
          cases textEq : form.text with
          | nil =>
              rw [textEq] at first
              cases first
          | cons d tail =>
              rw [textEq] at first
              cases first
              exact startsValue_of_isAsciiDigit digit
  | text _ => exact ⟨_, rfl, by decide⟩
  | emptyArray _ => exact ⟨_, rfl, by decide⟩
  | array _ => exact ⟨_, rfl, by decide⟩
  | emptyObject _ => exact ⟨_, rfl, by decide⟩
  | object _ => exact ⟨_, rfl, by decide⟩

theorem Grammar.DerivesSpaced.startsValue
    {v : Value} {t : Text} (rest : Text)
    (derives : Grammar.lenient.DerivesSpaced v t) :
    StartsValue (skipSpace (t ++ rest)) := by
  cases derives with
  | @mk _ before core after spacing derivesCore _ =>
      have starts := (derivesCore.startsValue.append after).append rest
      rw [List.append_assoc, Json.skipSpace_append _ spacing, starts.skipSpace_eq]
      exact starts

theorem Grammar.DerivesItems.startsValue
    {items : List Value} {t : Text} (rest : Text)
    (derives : Grammar.lenient.DerivesItems items t) :
    StartsValue (skipSpace (t ++ rest)) := by
  cases derives with
  | last derivesLast => exact derivesLast.startsValue rest
  | cons derivesFirst _ =>
      rw [List.append_assoc]
      exact derivesFirst.startsValue _

theorem Grammar.DerivesMembers.startsValue
    {members : List (Text × Value)} {t : Text} (rest : Text)
    (derives : Grammar.lenient.DerivesMembers members t) :
    StartsValue (skipSpace (t ++ rest)) := by
  cases derives with
  | last derivesKey _ =>
      rw [List.append_assoc]
      exact derivesKey.startsValue _
  | cons derivesKey _ _ =>
      rw [List.append_assoc]
      exact derivesKey.startsValue _

/-! ## Rules -/

section Rules

variable {fuel depth : Nat} {t left further rest : Text}

/-- A lenient number is read where a value is expected. -/
theorem gives_readValue_number
    {form : NumberForm} (fuel depth : Nat)
    (lenient : form.IsLenient)
    (ends : EndsValue rest) :
    Gives (readValue (fuel + 1) depth (form.text ++ rest)) (form.value, rest) := by
  have reads :
      readValue (fuel + 1) depth (form.text ++ rest) = readNumber (form.text ++ rest) := by
    cases sign : form.negative with
    | false =>
        rcases lenient.exists_digit sign with ⟨c, first, digit⟩
        cases textEq : form.text with
        | nil =>
            rw [textEq] at first
            cases first
        | cons d tail =>
            rw [textEq] at first
            cases first
            exact readValue_number fuel depth (.inl digit)
    | true =>
        rw [NumberForm.text, sign, if_pos rfl, List.append_assoc, List.cons_append, List.nil_append]
        refine readValue_number fuel depth (.inr ⟨rfl, fun tail same => ?_⟩)
        -- What follows the minus is a digit, a point, the letter of an exponent or the end.
        have first : (form.whole ++ ((form.fraction.elim [] (.char '.' :: ·)) ++
            (form.exponent.elim [] ExponentForm.text)) ++ rest).head? = some (.char 'I') := by
          rw [same]
          rfl
        cases wholeEq : form.whole with
        | cons c others =>
            have digit := lenient.whole c (wholeEq ▸ List.mem_cons_self)
            rw [wholeEq] at first
            cases first
            exact absurd digit (by decide)
        | nil =>
            cases fractionEq : form.fraction with
            | some digits =>
                rw [wholeEq, fractionEq] at first
                cases first
            | none =>
                cases exponentEq : form.exponent with
                | some e =>
                    exact lenient.digit (.inr (by simp [exponentEq]))
                      (by simp [wholeEq, fractionEq])
                | none =>
                    rw [wholeEq, fractionEq, exponentEq] at first
                    exact absurd (ends (.char 'I') first) (by decide)
  rw [reads]
  exact gives_readNumber lenient ends

theorem gives_readValue_array
    {items : List Value}
    (notClosed : ∀ tail, skipSpace t ≠ .char ']' :: tail)
    (reading : Gives (readItems fuel depth t) (items, rest)) :
    Gives (readValue (fuel + 1) (depth + 1) (.char '[' :: t)) (.array items, rest) := by
  rw [readValue_array notClosed]
  exact reading.map _

theorem gives_readValue_object
    {members : List (Text × Value)}
    (notClosed : ∀ tail, skipSpace t ≠ .char '\x7d' :: tail)
    (reading : Gives (readMembers fuel depth t) (members, rest)) :
    Gives (readValue (fuel + 1) (depth + 1) (.char '\x7b' :: t))
      (.object (Value.entriesOf members), rest) := by
  rw [readValue_object notClosed]
  exact reading.map _

theorem gives_readItems_last
    {v : Value}
    (reading : Gives (readValue fuel depth t) (v, left))
    (closed : skipSpace left = .char ']' :: rest) :
    Gives (readItems (fuel + 1) depth t) ([v], rest) := by
  rcases reading with reading | ⟨error, reading, limit⟩
  · exact .inl (readItems_last reading closed)
  · exact .inr ⟨error, by rw [readItems, reading], limit⟩

theorem gives_readItems_cons
    {v : Value} {items : List Value}
    (reading : Gives (readValue fuel depth t) (v, left))
    (separated : skipSpace left = .char ',' :: further)
    (notClosed : ∀ tail, skipSpace further ≠ .char ']' :: tail)
    (readingRest : Gives (readItems fuel depth further) (items, rest)) :
    Gives (readItems (fuel + 1) depth t) (v :: items, rest) := by
  rcases reading with reading | ⟨error, reading, limit⟩
  · rw [readItems_cons reading separated notClosed]
    exact readingRest.map _
  · exact .inr ⟨error, by rw [readItems, reading], limit⟩

theorem gives_readMembers_last
    {key leftKey : Text} {v : Value}
    (readingKey : Gives (readValue fuel depth t) (.text key, leftKey))
    (colon : skipSpace leftKey = .char ':' :: further)
    (reading : Gives (readValue fuel depth further) (v, left))
    (closed : skipSpace left = .char '\x7d' :: rest) :
    Gives (readMembers (fuel + 1) depth t) ([(key, v)], rest) := by
  rcases readingKey with readingKey | ⟨error, readingKey, limit⟩
  · rcases reading with reading | ⟨error, reading, limit⟩
    · exact .inl (readMembers_last readingKey colon reading closed)
    · refine .inr ⟨error, ?_, limit⟩
      rw [readMembers, readingKey]
      simp only [colon, reading]
  · exact .inr ⟨error, by rw [readMembers, readingKey], limit⟩

theorem gives_readMembers_cons
    {key leftKey more : Text} {v : Value} {members : List (Text × Value)}
    (readingKey : Gives (readValue fuel depth t) (.text key, leftKey))
    (colon : skipSpace leftKey = .char ':' :: further)
    (reading : Gives (readValue fuel depth further) (v, left))
    (separated : skipSpace left = .char ',' :: more)
    (notClosed : ∀ tail, skipSpace more ≠ .char '\x7d' :: tail)
    (readingRest : Gives (readMembers fuel depth more) (members, rest)) :
    Gives (readMembers (fuel + 1) depth t) ((key, v) :: members, rest) := by
  rcases readingKey with readingKey | ⟨error, readingKey, limit⟩
  · rcases reading with reading | ⟨error, reading, limit⟩
    · rw [readMembers_cons readingKey colon reading separated notClosed]
      exact readingRest.map _
    · refine .inr ⟨error, ?_, limit⟩
      rw [readMembers, readingKey]
      simp only [colon, reading]
  · exact .inr ⟨error, by rw [readMembers, readingKey], limit⟩

end Rules

/-! ## Texts of values -/

mutual

/-- A value is read from each of its lenient texts, and what follows the text is left. -/
theorem gives_readValue
    {v : Value} {t : Text} (fuel depth : Nat) (rest : Text)
    (derives : Grammar.lenient.Derives v t)
    (enough : 2 * t.length ≤ fuel)
    (ends : EndsValue rest) :
    Gives (readValue fuel depth (t ++ rest)) (v, rest) := by
  cases fuel with
  | zero =>
      -- No value has an empty text.
      rcases derives.startsValue with ⟨c, first, _⟩
      cases t with
      | nil => cases first
      | cons d tail => simp at enough
  | succ fuel =>
      cases derives with
      | @literal literal _ => exact .inl (readValue_spelling literal fuel depth rest)
      | number lenient => exact gives_readValue_number fuel depth lenient ends
      | text content =>
          rw [List.cons_append, List.append_assoc, readValue, skipSpace_cons _ rfl]
          simp only [List.cons_append, List.nil_append]
          rw [readString_of_derivesContent rest content]
          exact .inl rfl
      | emptyArray spacing =>
          rw [List.cons_append, List.append_assoc, readValue, skipSpace_cons _ rfl]
          cases depth with
          | zero => exact .inr ⟨_, rfl, trivial⟩
          | succ depth =>
              simp only [skipSpace_append _ spacing]
              exact .inl rfl
      | @array items text derivesItems =>
          rw [List.cons_append, List.append_assoc]
          cases depth with
          | zero => exact .inr ⟨_, rfl, trivial⟩
          | succ depth =>
              -- The two brackets pay for the steps from the array to its items.
              have bound : 2 * text.length < fuel := by simp at enough; omega
              have starts := derivesItems.startsValue (.char ']' :: rest)
              exact gives_readValue_array (fun tail => (starts.notClosed tail).1)
                (gives_readItems fuel depth rest derivesItems bound)
      | emptyObject spacing =>
          rw [List.cons_append, List.append_assoc, readValue, skipSpace_cons _ rfl]
          cases depth with
          | zero => exact .inr ⟨_, rfl, trivial⟩
          | succ depth =>
              simp only [skipSpace_append _ spacing]
              exact .inl rfl
      | @object members text derivesMembers =>
          rw [List.cons_append, List.append_assoc]
          cases depth with
          | zero => exact .inr ⟨_, rfl, trivial⟩
          | succ depth =>
              have bound : 2 * text.length < fuel := by simp at enough; omega
              have starts := derivesMembers.startsValue (.char '\x7d' :: rest)
              exact gives_readValue_object (fun tail => (starts.notClosed tail).2)
                (gives_readMembers fuel depth rest derivesMembers bound)

/-- A value between spaces is read from each of its lenient texts, and what follows is left up to
spaces. -/
theorem gives_readValue_spaced
    {v : Value} {t : Text} (fuel depth : Nat) (rest : Text)
    (derives : Grammar.lenient.DerivesSpaced v t)
    (enough : 2 * t.length ≤ fuel)
    (ends : EndsValue rest) :
    ∃ left,
      Gives (readValue fuel depth (t ++ rest)) (v, left) ∧ skipSpace left = skipSpace rest := by
  cases derives with
  | @mk _ before core after spacingBefore derivesCore spacingAfter =>
      have bound : 2 * core.length ≤ fuel := by simp at enough; omega
      refine ⟨after ++ rest, ?_, skipSpace_append rest spacingAfter⟩
      rw [List.append_assoc, List.append_assoc, ← readValue_skipSpace,
        skipSpace_append _ spacingBefore, readValue_skipSpace]
      exact gives_readValue fuel depth (after ++ rest) derivesCore bound
        (endsValue_append spacingAfter ends)

theorem gives_readItems
    {items : List Value} {t : Text} (fuel depth : Nat) (rest : Text)
    (derives : Grammar.lenient.DerivesItems items t)
    (enough : 2 * t.length < fuel) :
    Gives (readItems fuel depth (t ++ .char ']' :: rest)) (items, rest) := by
  cases fuel with
  | zero => cases enough
  | succ fuel =>
      cases derives with
      | last derivesLast =>
          rcases gives_readValue_spaced fuel depth (.char ']' :: rest) derivesLast
            (Nat.le_of_lt_succ enough) (by simp [EndsValue]) with ⟨left, reading, leftEq⟩
          exact gives_readItems_last reading (leftEq.trans (skipSpace_cons _ rfl))
      | @cons _ more text moreText derivesFirst derivesMore =>
          simp only [List.length_append, List.length_cons] at enough
          rcases gives_readValue_spaced fuel depth
            (.char ',' :: (moreText ++ .char ']' :: rest)) derivesFirst (by omega)
            (by simp [EndsValue]) with ⟨left, reading, leftEq⟩
          rw [List.append_assoc, List.cons_append]
          exact gives_readItems_cons reading (leftEq.trans (skipSpace_cons _ rfl))
            (fun tail => ((derivesMore.startsValue _).notClosed tail).1)
            (gives_readItems fuel depth rest derivesMore (by omega))

theorem gives_readMembers
    {members : List (Text × Value)} {t : Text} (fuel depth : Nat) (rest : Text)
    (derives : Grammar.lenient.DerivesMembers members t)
    (enough : 2 * t.length < fuel) :
    Gives (readMembers fuel depth (t ++ .char '\x7d' :: rest)) (members, rest) := by
  cases fuel with
  | zero => cases enough
  | succ fuel =>
      cases derives with
      | @last key v keyText text derivesKey derivesLast =>
          simp only [List.length_append, List.length_cons] at enough
          rcases gives_readValue_spaced fuel depth
            (.char ':' :: (text ++ .char '\x7d' :: rest)) derivesKey (by omega)
            (by simp [EndsValue]) with ⟨leftKey, readingKey, leftKeyEq⟩
          rcases gives_readValue_spaced fuel depth (.char '\x7d' :: rest) derivesLast (by omega)
            (by simp [EndsValue]) with ⟨left, reading, leftEq⟩
          rw [List.append_assoc, List.cons_append]
          exact gives_readMembers_last readingKey (leftKeyEq.trans (skipSpace_cons _ rfl)) reading
            (leftEq.trans (skipSpace_cons _ rfl))
      | @cons key v more keyText text moreText derivesKey derivesFirst derivesMore =>
          simp only [List.length_append, List.length_cons] at enough
          rcases gives_readValue_spaced fuel depth
            (.char ':' :: (text ++ .char ',' :: (moreText ++ .char '\x7d' :: rest))) derivesKey
            (by omega) (by simp [EndsValue]) with ⟨leftKey, readingKey, leftKeyEq⟩
          rcases gives_readValue_spaced fuel depth
            (.char ',' :: (moreText ++ .char '\x7d' :: rest)) derivesFirst (by omega)
            (by simp [EndsValue]) with ⟨left, reading, leftEq⟩
          rw [List.append_assoc, List.cons_append, List.append_assoc, List.cons_append]
          exact gives_readMembers_cons readingKey (leftKeyEq.trans (skipSpace_cons _ rfl)) reading
            (leftEq.trans (skipSpace_cons _ rfl))
            (fun tail => ((derivesMore.startsValue _).notClosed tail).2)
            (gives_readMembers fuel depth rest derivesMore (by omega))

end

/-- Every text that the lenient grammar derives for a value is read to that value, unless the reader
stops at a limit. -/
theorem gives_read
    {v : Value} {t : Text}
    (derives : Grammar.lenient.DerivesSpaced v t) :
    Gives (read t) v := by
  rcases gives_readValue_spaced (2 * t.length + 2) maxDepth [] derives (Nat.le_add_right _ _)
    (by simp [EndsValue]) with ⟨left, reading, leftEq⟩
  rw [List.append_nil] at reading
  rcases reading with reading | ⟨error, reading, limit⟩
  · have ended : (skipSpace left).isEmpty = true := by rw [leftEq]; rfl
    left
    simp only [read, readWithin, reading, ended]
    rfl
  · exact .inr ⟨error, by simp [read, readWithin, reading], limit⟩

end Shapewright.Json
