import Mathlib.Data.List.Infix
import Shapewright.Proofs.Yaml.Apart
import Shapewright.Proofs.Yaml.TokenStream

/-!
# Errors of reading tokens

A text that is no stream of tokens is malformed, unless an escape between double quotes names a
number that is far too large for a code point.  That can only be one of eight digits.
-/

namespace Shapewright.Yaml

open Shapewright.Outcome

/-- Whether a text holds an escape of eight hexadecimal digits for a number of `0x80000000` or
more. -/
def HasLargeEscape (t : Text) : Prop :=
  ∃ digits values, (.char '\\' :: .char 'U' :: digits) <:+: t ∧ digits.length = 8 ∧
    digits.mapM CodePoint.hexDigit? = some values ∧ 0x80000000 ≤ numberOf 16 values

theorem HasLargeEscape.mono
    {s t : Text}
    (large : HasLargeEscape s)
    (part : s <:+ t) :
    HasLargeEscape t := by
  rcases large with ⟨digits, values, found, isLarge⟩
  exact ⟨digits, values, found.trans part.isInfix, isLarge⟩

/-- The errors that may end the reading of the tokens of a text. -/
inductive CanBreak (t : Text) : Error → Prop where
  | malformed : CanBreak t .malformed
  | escape : HasLargeEscape t → CanBreak t .escapeTooLarge

theorem CanBreak.mono
    {s t : Text} {error : Error}
    (canBreak : CanBreak s error)
    (part : s <:+ t) :
    CanBreak t error := by
  cases canBreak with
  | malformed => exact .malformed
  | escape large => exact .escape (large.mono part)

theorem canBreak_of_not_isApart
    {α : Type} {outcome : Except Error α} {t : Text} {error : Error}
    (regular : ¬IsApart outcome)
    (failed : outcome = .error error) :
    CanBreak t error := by
  rw [eq_malformed_of_not_isApart regular failed]
  exact .malformed

/-! ## Names, tags and directives -/

theorem not_isApart_readName
    (t : Text) :
    ¬IsApart (readName t) := by
  unfold readName
  split <;> simp

theorem not_isApart_readAnchorName
    (t : Text) :
    ¬IsApart (readAnchorName t) := by
  refine not_isApart_bind (not_isApart_readName t) fun (name, rest) => ?_
  dsimp only
  split <;> simp

theorem not_isApart_readHandle
    (t : Text) :
    ¬IsApart (readHandle t) := by
  unfold readHandle
  split
  next =>
    split
    next => simp
    next => split <;> simp
  next => simp

theorem not_isApart_percentBytes
    (t : Text) :
    ¬IsApart (percentBytes t) := by
  induction t using percentBytes.induct with
  | case1 a b rest high low highEq lowEq induction =>
      simpa [percentBytes, highEq, lowEq] using induction
  | case2 => simp_all [percentBytes]
  | case3 => simp_all [percentBytes]
  | case4 => simp_all [percentBytes]

theorem not_isApart_readSuffix
    (fuel : Nat) (t : Text) :
    ¬IsApart (readSuffix fuel t) := by
  induction fuel generalizing t with
  | zero => simp [readSuffix]
  | succ fuel induction =>
      cases t with
      | nil => simp [readSuffix]
      | cons c rest =>
          rw [readSuffix]
          split
          next =>
            refine not_isApart_bind (not_isApart_percentBytes _) fun (bytes, rest) => ?_
            dsimp only
            split
            next => simp
            next => exact not_isApart_bind (induction _) fun _ => not_isApart_ok _
          next =>
            split
            next => simpa using induction rest
            next => simp

theorem not_isApart_readTagSuffix
    (t : Text) :
    ¬IsApart (readTagSuffix t) := by
  refine not_isApart_bind (not_isApart_readSuffix _ t) fun (suffix, rest) => ?_
  dsimp only
  split <;> simp

theorem not_isApart_readVersionNumber
    (t : Text) :
    ¬IsApart (readVersionNumber t) := by
  unfold readVersionNumber
  split
  next => simp
  next => split <;> simp

/-- What is scanned at the start of a text is a token and no error, or the text breaks there. -/
def ScansWell (t : Text) : Scanned → Prop
  | .ok (token, _) => ∀ error, token ≠ .broken error
  | .error error => CanBreak t error

theorem scansWell_malformed
    (t : Text) :
    ScansWell t (.error .malformed) :=
  CanBreak.malformed

theorem scansWell_bind
    {α : Type} {t : Text} {outcome : Except Error α} {next : α → Scanned}
    (first : ¬IsApart outcome)
    (second : ∀ a, ScansWell t (next a)) :
    ScansWell t (outcome >>= next) := by
  cases outcome with
  | ok a => exact second a
  | error error => exact canBreak_of_not_isApart first rfl

theorem scansWell_map
    {α : Type} {t : Text} {outcome : Except Error α} {change : α → Token × Text}
    (regular : ¬IsApart outcome)
    (sound : ∀ a error, (change a).1 ≠ .broken error) :
    ScansWell t (outcome.map change) := by
  cases outcome with
  | ok a => exact sound a
  | error error => exact canBreak_of_not_isApart regular rfl

/-- A token that has been scanned is kept, whatever is asked of what follows it. -/
theorem ScansWell.bind
    {t : Text} {scanned : Scanned} {next : Token × Text → Scanned}
    (first : ScansWell t scanned)
    (second : ∀ token rest, (∀ error, token ≠ .broken error) → ScansWell t (next (token, rest))) :
    ScansWell t (scanned >>= next) := by
  cases scanned with
  | ok answer => exact second answer.1 answer.2 first
  | error error => exact first

theorem scansWell_readTag
    (t : Text) :
    ScansWell t (readTag t) := by
  unfold readTag
  extract_lets finish
  have finishes : ∀ token rest, (∀ error, token ≠ .broken error) →
      ScansWell t (finish (token, rest)) := by
    intro token rest sound
    simp only [finish]
    split
    next => exact sound
    next => exact scansWell_malformed t
  split
  next =>
    refine scansWell_bind (not_isApart_readTagSuffix _) fun (suffix, rest) => ?_
    dsimp only
    split
    next => exact finishes _ _ nofun
    next => exact scansWell_malformed t
  next =>
    split
    next => exact finishes _ _ nofun
    next =>
      split
      next =>
        refine scansWell_bind (not_isApart_readHandle t) fun (handle, rest) => ?_
        exact scansWell_bind (not_isApart_readTagSuffix rest) fun _ => finishes _ _ nofun
      next => exact scansWell_bind (not_isApart_readTagSuffix _) fun _ => finishes _ _ nofun

theorem scansWell_readReference
    {token : Text → Token} (t : Text)
    (sound : ∀ name error, token name ≠ .broken error) :
    ScansWell t (TokenStream.readReference token t) :=
  scansWell_map (not_isApart_readAnchorName _) fun (name, _) => sound name

theorem scansWell_readVersion
    (t : Text) {s : Text} :
    ScansWell s (readVersion t) := by
  refine scansWell_bind (not_isApart_readVersionNumber _) fun (major, rest) => ?_
  dsimp only
  split
  next =>
    refine scansWell_bind (not_isApart_readVersionNumber _) fun (minor, rest) => ?_
    dsimp only
    split
    next => exact nofun
    next => exact scansWell_malformed s
  next => exact scansWell_malformed s

theorem scansWell_readTagDefinition
    (t : Text) {s : Text} :
    ScansWell s (readTagDefinition t) := by
  refine scansWell_bind (not_isApart_readHandle _) fun (handle, rest) => ?_
  dsimp only
  split
  next =>
    refine scansWell_bind (not_isApart_readTagSuffix _) fun (expansion, rest) => ?_
    dsimp only
    split
    next => exact nofun
    next => exact scansWell_malformed s
  next => exact scansWell_malformed s

theorem not_isApart_finishDirective
    (t : Text) :
    ¬IsApart (finishDirective t) := by
  unfold finishDirective
  dsimp only
  split <;> split <;> simp

theorem scansWell_readDirective
    (t : Text) {s : Text} :
    ScansWell s (readDirective t) := by
  refine scansWell_bind (not_isApart_readName t) fun (name, rest) => ?_
  dsimp -zeta only
  split
  next => exact scansWell_malformed s
  next =>
    extract_lets finish
    have finishes : ∀ token rest, (∀ error, token ≠ .broken error) →
        ScansWell s (finish (token, rest)) := fun token rest sound =>
      scansWell_bind (not_isApart_finishDirective rest) fun _ => sound
    split
    next => exact (scansWell_readVersion rest).bind finishes
    next =>
      split
      next => exact (scansWell_readTagDefinition rest).bind finishes
      next => exact finishes _ _ nofun

/-! ## Scalars -/

theorem not_isApart_incrementOf
    (t : Text) :
    ¬IsApart (incrementOf t) := by
  unfold incrementOf
  split
  next => simp
  next => split <;> simp

theorem not_isApart_finishLine
    (t : Text) :
    ¬IsApart (finishLine t) := by
  unfold finishLine
  dsimp only
  split
  next => simp
  next => split <;> simp

theorem not_isApart_readHeader
    (t : Text) :
    ¬IsApart (readHeader t) := by
  unfold readHeader
  extract_lets finish
  have finishes : ∀ answer, ¬IsApart (finish answer) := by
    intro answer
    simp only [finish]
    split <;> simp
  split
  next =>
    exact not_isApart_bind (not_isApart_incrementOf _) fun (increment, rest) =>
      finishes (⟨_, increment⟩, rest)
  next =>
    refine not_isApart_bind (not_isApart_incrementOf _) fun (increment, rest) => ?_
    dsimp only
    split
    next => exact finishes (⟨_, some _⟩, _)
    next => exact finishes (⟨.clip, _⟩, rest)

theorem not_isApart_blockScalar
    (folded : Bool) (parent : Nat) (t : Text) :
    ¬IsApart (blockScalar folded parent t) :=
  not_isApart_bind (not_isApart_readHeader t) fun _ =>
    not_isApart_bind (not_isApart_finishLine _) fun _ => not_isApart_ok _

theorem not_isApart_quotedBreaks
    (atLineStart : Bool) (t : Text) :
    ¬IsApart (quotedBreaks atLineStart t) := by
  induction t generalizing atLineStart with
  | nil => simp [quotedBreaks]
  | cons c rest induction =>
      rw [quotedBreaks]
      split
      next => simp
      next =>
        split
        next => exact induction false
        next =>
          split
          next => simpa using induction true
          next => simp

theorem not_isApart_quotedGap
    (t : Text) :
    ¬IsApart (quotedGap t) := by
  unfold quotedGap
  dsimp only
  split
  next => simp
  next =>
    split
    next => simp
    next => simpa using not_isApart_quotedBreaks true _

theorem not_isApart_singleQuoted
    (fuel : Nat) (t : Text) :
    ¬IsApart (singleQuoted fuel t) := by
  fun_induction singleQuoted fuel t with
  | case1 => simp
  | case2 => simp
  | case3 _ _ induction => simpa using induction
  | case4 => simp
  | case5 _ _ _ _ _ _ induction =>
      exact not_isApart_bind (not_isApart_quotedGap _) fun (_, rest) =>
        not_isApart_bind (induction rest) fun _ => not_isApart_ok _
  | case6 _ _ _ _ _ _ induction => simpa using induction

/-! ## Escapes -/

/-- What is read at the start of a text within double quotes leaves a part of the text, or the text
breaks there. -/
def QuotesWell {α : Type} (t : Text) : Except Error (α × Text) → Prop
  | .ok (_, rest) => rest <:+ t
  | .error error => CanBreak t error

section QuotesWell

variable {α β : Type} {t : Text}

theorem QuotesWell.mono
    {s : Text} {outcome : Except Error (α × Text)}
    (quotesWell : QuotesWell s outcome)
    (part : s <:+ t) :
    QuotesWell t outcome := by
  cases outcome with
  | ok answer => exact quotesWell.trans part
  | error error => exact CanBreak.mono quotesWell part

theorem QuotesWell.bind
    {outcome : Except Error (α × Text)} {next : α × Text → Except Error (β × Text)}
    (first : QuotesWell t outcome)
    (second : ∀ a rest, QuotesWell rest (next (a, rest))) :
    QuotesWell t (outcome >>= next) := by
  cases outcome with
  | ok answer => exact (second answer.1 answer.2).mono first
  | error error => exact first

theorem QuotesWell.map
    {outcome : Except Error (α × Text)} {change : α → β}
    (first : QuotesWell t outcome) :
    QuotesWell t (outcome.map fun (a, rest) => (change a, rest)) := by
  cases outcome with
  | ok answer => exact first
  | error error => exact first

theorem quotesWell_of_not_isApart
    {outcome : Except Error (α × Text)}
    (regular : ¬IsApart outcome)
    (leaves : ∀ a rest, outcome = .ok (a, rest) → rest <:+ t) :
    QuotesWell t outcome := by
  cases outcome with
  | ok answer => exact leaves answer.1 answer.2 rfl
  | error error => exact canBreak_of_not_isApart regular rfl

theorem quotesWell_quotedBreaks
    {atLineStart : Bool} :
    QuotesWell t (quotedBreaks atLineStart t) :=
  quotesWell_of_not_isApart (not_isApart_quotedBreaks _ _) fun _ _ => quotedBreaks_suffix

theorem quotesWell_quotedGap :
    QuotesWell t (quotedGap t) := by
  have behindSpaces : (t.span isSpaceOrTab).2 <:+ t := by
    rw [List.span_eq_takeWhile_dropWhile]
    exact List.dropWhile_suffix _
  unfold quotedGap
  dsimp only
  split
  next => exact CanBreak.malformed
  next c rest restEq =>
    split
    next => exact behindSpaces
    next =>
      rw [restEq] at behindSpaces
      exact quotesWell_quotedBreaks.map.mono ((List.suffix_cons c rest).trans behindSpaces)

end QuotesWell

theorem readHex_eq_ok
    {n m count : Nat} {t rest : Text}
    (reading : readHex n count t = .ok (m, rest)) :
    ∃ digits values, t = digits ++ rest ∧ digits.length = count ∧
      digits.mapM CodePoint.hexDigit? = some values ∧
        m = values.foldl (fun n d => n * 16 + d) n := by
  fun_induction readHex n count t with
  | case1 n t =>
      cases reading
      exact ⟨[], [], rfl, rfl, rfl, rfl⟩
  | case2 => cases reading
  | case3 n count c more digit digitEq induction =>
      rcases induction reading with ⟨digits, values, rfl, length, valuesEq, number⟩
      refine ⟨c :: digits, digit :: values, rfl, congrArg Nat.succ length, ?_, number⟩
      simp [List.mapM_cons, digitEq, valuesEq]
  | case4 => cases reading

theorem not_isApart_readHex
    (n count : Nat) (t : Text) :
    ¬IsApart (readHex n count t) := by
  fun_induction readHex n count t with
  | case3 _ _ _ _ _ _ induction => exact induction
  | _ => simp

theorem hexDigit?_lt
    {c : CodePoint} {digit : Nat}
    (digitEq : c.hexDigit? = some digit) :
    digit < 16 := by
  simp only [CodePoint.hexDigit?] at digitEq
  grind

theorem foldl_hexDigits_lt
    {n : Nat} {digits : Text} {values : List Nat}
    (valuesEq : digits.mapM CodePoint.hexDigit? = some values) :
    values.foldl (fun n d => n * 16 + d) n < (n + 1) * 16 ^ digits.length := by
  induction digits generalizing n values with
  | nil =>
      cases valuesEq
      simp
  | cons c rest induction =>
      simp only [List.mapM_cons, Option.bind_eq_bind, Option.bind_eq_some_iff,
        Option.pure_def, Option.some.injEq] at valuesEq
      rcases valuesEq with ⟨digit, digitEq, others, othersEq, rfl⟩
      calc others.foldl (fun n d => n * 16 + d) (n * 16 + digit)
          < (n * 16 + digit + 1) * 16 ^ rest.length := induction othersEq
        _ ≤ ((n + 1) * 16) * 16 ^ rest.length :=
            Nat.mul_le_mul_right _ (by have := hexDigit?_lt digitEq; omega)
        _ = (n + 1) * 16 ^ (rest.length + 1) := by rw [Nat.pow_succ', Nat.mul_assoc]

theorem codePointOf_eq_error
    {n : Nat} {error : Error}
    (failed : codePointOf n = .error error) :
    error = .malformed ∨ error = .escapeTooLarge ∧ 0x80000000 ≤ n := by
  unfold codePointOf at failed
  split at failed
  next => cases failed
  next =>
    split at failed
    next => exact .inl (Except.error.inj failed).symm
    next large => exact .inr ⟨(Except.error.inj failed).symm, Nat.le_of_not_lt large⟩

/-- Only an escape of eight digits can be too large. -/
theorem escapeLength?_of_large
    {c : CodePoint} {length n : Nat}
    (lengthEq : escapeLength? c = some length)
    (small : n < 16 ^ length)
    (large : 0x80000000 ≤ n) :
    c = .char 'U' ∧ length = 8 := by
  unfold escapeLength? at lengthEq
  split at lengthEq
  next => cases lengthEq; omega
  next => cases lengthEq; omega
  next => exact ⟨rfl, (Option.some.inj lengthEq).symm⟩
  next => cases lengthEq

theorem quotesWell_readEscape
    (t : Text) :
    QuotesWell (.char '\\' :: t) (readEscape t) := by
  cases t with
  | nil => exact CanBreak.malformed
  | cons c rest =>
      have behind : rest <:+ .char '\\' :: c :: rest := ⟨[.char '\\', c], rfl⟩
      rw [readEscape]
      split
      next => exact behind
      next =>
        split
        next length lengthEq =>
          cases reading : readHex 0 length rest with
          | error error =>
              exact canBreak_of_not_isApart (not_isApart_readHex 0 length rest) reading
          | ok answer =>
              rcases answer with ⟨n, left⟩
              rcases readHex_eq_ok reading with
                ⟨digits, values, rfl, digitsLength, valuesEq, number⟩
              have small : n < 16 ^ length := by
                rw [number, ← digitsLength]
                simpa using foldl_hexDigits_lt (n := 0) valuesEq
              simp only [ok_bind]
              cases named : codePointOf n with
              | ok c => exact (List.suffix_append digits left).trans behind
              | error error =>
                  rw [error_bind]
                  rcases codePointOf_eq_error named with rfl | ⟨rfl, large⟩
                  · exact CanBreak.malformed
                  · rcases escapeLength?_of_large lengthEq small large with ⟨rfl, rfl⟩
                    rw [number] at large
                    exact CanBreak.escape
                      ⟨digits, values, ⟨[], left, rfl⟩, digitsLength, valuesEq, large⟩
        next =>
          split
          next => exact quotesWell_quotedBreaks.mono behind
          next => exact CanBreak.malformed

theorem quotesWell_doubleQuoted
    (fuel : Nat) (t : Text) :
    QuotesWell t (doubleQuoted fuel t) := by
  fun_induction doubleQuoted fuel t with
  | case1 => exact CanBreak.malformed
  | case2 => exact CanBreak.malformed
  | case3 _ rest => exact List.suffix_cons _ rest
  | case4 _ _ induction =>
      exact (quotesWell_readEscape _).bind fun escaped rest => (induction rest).map
  | case5 _ _ _ _ _ _ induction =>
      exact quotesWell_quotedGap.bind fun gap rest => (induction rest).map
  | case6 _ _ _ _ _ _ induction => exact induction.map.mono (List.suffix_cons _ _)

theorem scansWell_readQuoted
    (t : Text) :
    ScansWell t (TokenStream.readQuoted t) := by
  unfold TokenStream.readQuoted
  dsimp only
  split
  next => exact scansWell_map (not_isApart_singleQuoted _ _) fun _ => nofun
  next =>
    have reads := (quotesWell_doubleQuoted t.length (t.drop 1)).mono (List.drop_suffix 1 t)
    cases reading : doubleQuoted t.length (t.drop 1) with
    | ok answer => exact nofun
    | error error =>
        rw [reading] at reads
        exact reads

/-! ## The stream -/

namespace TokenStream

/-- A stream is behind another one: it is not further from the end, and has added no error to the
tokens. -/
structure IsBehind (s after : TokenStream) : Prop where
  rest : after.position.rest <:+ s.position.rest
  tokens : ∀ error, .broken error ∈ after.tokens → .broken error ∈ s.tokens

/-- How a step ends: behind its start, or with an error of what is ahead of it. -/
def StepsWell (s : TokenStream) : Except Error TokenStream → Prop
  | .ok after => s.IsBehind after
  | .error error => CanBreak s.position.rest error

section Steps

variable {s : TokenStream}

/-- A stream at the same place with the same tokens. -/
theorem isBehind_same
    {after : TokenStream}
    (position : after.position = s.position)
    (tokens : after.tokens = s.tokens) :
    s.IsBehind after where
  rest := by rw [position]
  tokens error member := by rwa [tokens] at member

theorem IsBehind.trans
    {middle after : TokenStream}
    (first : s.IsBehind middle)
    (second : middle.IsBehind after) :
    s.IsBehind after where
  rest := second.rest.trans first.rest
  tokens error member := first.tokens error (second.tokens error member)

theorem isBehind_push
    {token : Token}
    (sound : ∀ error, token ≠ .broken error) :
    s.IsBehind (s.push token) where
  rest := List.suffix_refl _
  tokens error member := (List.mem_cons.mp member).resolve_left (sound error ·.symm)

theorem isBehind_insert
    {token : Token} (before : Nat)
    (sound : ∀ error, token ≠ .broken error) :
    s.IsBehind (s.insert before token) where
  rest := List.suffix_refl _
  tokens error member := by
    rcases List.mem_append.mp member with front | back
    · exact List.mem_of_mem_take front
    · exact List.mem_of_mem_drop ((List.mem_cons.mp back).resolve_left (sound error ·.symm))

theorem suffix_next
    (p : Position) :
    p.next.rest <:+ p.rest := by
  cases restEq : p.rest with
  | nil => simp [Position.next, restEq]
  | cons c rest =>
      rw [Position.next_rest restEq]
      exact List.suffix_cons c rest

theorem suffix_skip
    (p : Position) (count : Nat) :
    (p.skip count).rest <:+ p.rest := by
  induction count generalizing p with
  | zero => exact List.suffix_refl _
  | succ count induction => exact (induction p.next).trans (suffix_next p)

theorem isBehind_moveTo
    {rest : Text} :
    s.IsBehind (s.moveTo rest) where
  rest := suffix_skip s.position _
  tokens _ member := member

/-- A token is added to a stream that is the same so far, and the stream goes on. -/
theorem stepsWell_push
    {same : TokenStream} {token : Token} {rest : Text}
    (position : same.position = s.position)
    (tokens : same.tokens = s.tokens)
    (sound : ∀ error, token ≠ .broken error) :
    s.StepsWell (.ok ((same.push token).moveTo rest)) :=
  ((isBehind_same position tokens).trans (isBehind_push sound)).trans isBehind_moveTo

theorem stepsWell_malformed :
    s.StepsWell (.error .malformed) :=
  CanBreak.malformed

theorem IsBehind.stepsWell
    {middle : TokenStream} {step : Except Error TokenStream}
    (first : s.IsBehind middle)
    (second : middle.StepsWell step) :
    s.StepsWell step := by
  cases step with
  | ok after => exact first.trans second
  | error error => exact CanBreak.mono second first.rest

theorem stepsWell_bind
    {step : Except Error TokenStream} {next : TokenStream → Except Error TokenStream}
    (first : s.StepsWell step)
    (second : ∀ after : TokenStream, after.StepsWell (next after)) :
    s.StepsWell (step >>= next) := by
  cases step with
  | ok after => exact IsBehind.stepsWell first (second after)
  | error error => exact first

/-- A token is scanned where the stream is. -/
theorem stepsWell_scanned_bind
    {scanned : Scanned} {next : Token × Text → Except Error TokenStream}
    (scansWell : ScansWell s.position.rest scanned)
    (second : ∀ token rest, (∀ error, token ≠ .broken error) → s.StepsWell (next (token, rest))) :
    s.StepsWell (scanned >>= next) := by
  cases scanned with
  | ok answer => exact second answer.1 answer.2 scansWell
  | error error => exact scansWell

theorem stepsWell_regular_bind
    {α : Type} {outcome : Except Error α} {next : α → Except Error TokenStream}
    (regular : ¬IsApart outcome)
    (second : ∀ a, s.StepsWell (next a)) :
    s.StepsWell (outcome >>= next) := by
  cases outcome with
  | ok a => exact second a
  | error error => exact canBreak_of_not_isApart regular rfl

theorem stepsWell_ite
    {condition : Prop} [Decidable condition] {step other : Except Error TokenStream}
    (first : s.StepsWell step)
    (second : s.StepsWell other) :
    s.StepsWell (if condition then step else other) := by
  split
  next => exact first
  next => exact second

theorem stepsWell_dropStale :
    s.StepsWell s.dropStale := by
  unfold dropStale
  split
  next => exact stepsWell_malformed
  next => exact isBehind_same rfl rfl

theorem stepsWell_dropCandidate
    {same : TokenStream}
    (position : same.position = s.position)
    (tokens : same.tokens = s.tokens) :
    s.StepsWell same.dropCandidate := by
  unfold dropCandidate
  split
  next =>
    split
    next => exact stepsWell_malformed
    next => exact isBehind_same position tokens
  next => exact isBehind_same position tokens

theorem stepsWell_markCandidate :
    s.StepsWell s.markCandidate := by
  unfold markCandidate
  split
  next => exact stepsWell_bind (stepsWell_dropCandidate rfl rfl) fun _ => isBehind_same rfl rfl
  next => exact isBehind_same rfl rfl

theorem isBehind_closeBlocks
    (column : Int) (outer : List Int) :
    s.IsBehind (closeBlocks column s outer) := by
  induction outer generalizing s with
  | nil => exact isBehind_same rfl rfl
  | cons indent outer induction =>
      rw [closeBlocks]
      split
      next =>
        have same : s.IsBehind { s with indent, outer } := isBehind_same rfl rfl
        refine (same.trans (isBehind_push ?_)).trans induction
        simp
      next => exact isBehind_same rfl rfl

theorem isBehind_unwind
    (column : Int) :
    s.IsBehind (s.unwind column) := by
  unfold unwind
  split
  next => exact isBehind_same rfl rfl
  next => exact isBehind_closeBlocks column s.outer

/-- Outside of flow collections a block is opened, and its start is added if there is one to
open. -/
theorem isBehind_openBlock
    {column : Nat} {start : TokenStream → TokenStream}
    (starts : ∀ s : TokenStream, s.IsBehind (start s)) :
    s.IsBehind (
      if s.inFlow then s
      else
        match s.openBlock column with
        | (s, true) => start s
        | (s, false) => s) := by
  split
  next => exact isBehind_same rfl rfl
  next =>
    unfold openBlock
    by_cases further : s.indent < column
    · have same : s.IsBehind { s with indent := column, outer := s.indent :: s.outer } :=
        isBehind_same rfl rfl
      simp only [further, if_true]
      exact same.trans (starts _)
    · simp only [further, if_false]
      exact isBehind_same rfl rfl

theorem stepsWell_fetchEnd :
    s.StepsWell s.fetchEnd := by
  refine (isBehind_unwind (-1)).stepsWell
    (stepsWell_bind (stepsWell_dropCandidate rfl rfl) fun after => ?_)
  have pushes : after.IsBehind (after.push .streamEnd) := isBehind_push nofun
  exact pushes.trans (isBehind_same rfl rfl)

theorem stepsWell_fetchDirective :
    s.StepsWell s.fetchDirective := by
  refine (isBehind_unwind (-1)).stepsWell
    (stepsWell_bind (stepsWell_dropCandidate rfl rfl) fun after => ?_)
  exact stepsWell_scanned_bind (scansWell_readDirective _) fun _ _ sound =>
    stepsWell_push rfl rfl sound

theorem stepsWell_fetchSeparator
    {token : Token}
    (sound : ∀ error, token ≠ .broken error) :
    s.StepsWell (s.fetchSeparator token) :=
  (isBehind_unwind (-1)).stepsWell
    (stepsWell_bind (stepsWell_dropCandidate rfl rfl) fun _ => stepsWell_push rfl rfl sound)

theorem stepsWell_fetchFlowStart
    {token : Token}
    (sound : ∀ error, token ≠ .broken error) :
    s.StepsWell (s.fetchFlowStart token) :=
  stepsWell_bind stepsWell_markCandidate fun _ => stepsWell_push rfl rfl sound

theorem stepsWell_fetchFlowEnd
    {token : Token}
    (sound : ∀ error, token ≠ .broken error) :
    s.StepsWell (s.fetchFlowEnd token) := by
  refine stepsWell_bind (stepsWell_dropCandidate rfl rfl) fun after => ?_
  split
  next => exact stepsWell_malformed
  next => exact stepsWell_push rfl rfl sound

theorem stepsWell_fetchFlowEntry :
    s.StepsWell s.fetchFlowEntry :=
  stepsWell_bind (stepsWell_dropCandidate rfl rfl) fun _ => stepsWell_push rfl rfl nofun

theorem stepsWell_fetchBlockEntry :
    s.StepsWell s.fetchBlockEntry := by
  unfold fetchBlockEntry
  split
  next => exact stepsWell_malformed
  next =>
    extract_lets opened
    have opens : s.IsBehind opened := isBehind_openBlock fun _ => isBehind_push nofun
    exact opens.stepsWell
      (stepsWell_bind (stepsWell_dropCandidate rfl rfl) fun _ => stepsWell_push rfl rfl nofun)

theorem stepsWell_fetchKey :
    s.StepsWell s.fetchKey := by
  unfold fetchKey
  split
  next => exact stepsWell_malformed
  next =>
    extract_lets opened
    have opens : s.IsBehind opened := isBehind_openBlock fun _ => isBehind_push nofun
    exact opens.stepsWell
      (stepsWell_bind (stepsWell_dropCandidate rfl rfl) fun _ => stepsWell_push rfl rfl nofun)

theorem isBehind_confirmKey
    {k : KeyCandidate} :
    s.IsBehind (s.confirmKey k) := by
  unfold confirmKey
  extract_lets confirmed opened
  have forgets : s.IsBehind s.forgetCandidate := isBehind_same rfl rfl
  have confirms : s.forgetCandidate.IsBehind confirmed := isBehind_insert _ nofun
  have opens : confirmed.IsBehind opened := isBehind_openBlock fun _ => isBehind_insert _ nofun
  exact ((forgets.trans confirms).trans opens).trans (isBehind_same rfl rfl)

theorem stepsWell_fetchValue :
    s.StepsWell s.fetchValue := by
  unfold fetchValue
  extract_lets finish opened
  have finishes : ∀ after : TokenStream, after.StepsWell (finish after) := fun _ =>
    stepsWell_push rfl rfl nofun
  split
  next => exact isBehind_confirmKey.stepsWell (finishes _)
  next =>
    split
    next => exact stepsWell_malformed
    next =>
      have opens : s.IsBehind opened := isBehind_openBlock fun _ => isBehind_push nofun
      exact opens.stepsWell (stepsWell_bind (stepsWell_dropCandidate rfl rfl) finishes)

theorem stepsWell_fetchCandidate
    {read : Text → Scanned}
    (scansWell : ∀ t, ScansWell t (read t)) :
    s.StepsWell (s.fetchCandidate read) :=
  stepsWell_bind stepsWell_markCandidate fun _ =>
    stepsWell_scanned_bind (scansWell _) fun _ _ sound => stepsWell_push rfl rfl sound

theorem stepsWell_fetchBlockScalar
    (folded : Bool) :
    s.StepsWell (s.fetchBlockScalar folded) :=
  stepsWell_bind (stepsWell_dropCandidate rfl rfl) fun _ =>
    stepsWell_regular_bind (not_isApart_blockScalar _ _ _) fun _ => stepsWell_push rfl rfl nofun

theorem stepsWell_fetchPlain :
    s.StepsWell s.fetchPlain :=
  stepsWell_bind stepsWell_markCandidate fun _ => stepsWell_push rfl rfl nofun

theorem stepsWell_fetchToken :
    s.StepsWell s.fetchToken := by
  unfold fetchToken
  split
  next => exact stepsWell_fetchEnd
  next =>
    dsimp only
    refine stepsWell_ite stepsWell_fetchDirective ?_
    refine stepsWell_ite (stepsWell_fetchSeparator nofun) ?_
    refine stepsWell_ite (stepsWell_fetchSeparator nofun) ?_
    refine stepsWell_ite (stepsWell_fetchFlowStart nofun) ?_
    refine stepsWell_ite (stepsWell_fetchFlowStart nofun) ?_
    refine stepsWell_ite (stepsWell_fetchFlowEnd nofun) ?_
    refine stepsWell_ite (stepsWell_fetchFlowEnd nofun) ?_
    refine stepsWell_ite stepsWell_fetchFlowEntry ?_
    refine stepsWell_ite stepsWell_fetchBlockEntry ?_
    refine stepsWell_ite stepsWell_fetchKey ?_
    refine stepsWell_ite stepsWell_fetchValue ?_
    refine stepsWell_ite (stepsWell_fetchCandidate fun t => scansWell_readReference t nofun) ?_
    refine stepsWell_ite (stepsWell_fetchCandidate fun t => scansWell_readReference t nofun) ?_
    refine stepsWell_ite (stepsWell_fetchCandidate scansWell_readTag) ?_
    refine stepsWell_ite (stepsWell_fetchBlockScalar false) ?_
    refine stepsWell_ite (stepsWell_fetchBlockScalar true) ?_
    refine stepsWell_ite (stepsWell_fetchCandidate scansWell_readQuoted) ?_
    exact stepsWell_ite stepsWell_fetchPlain stepsWell_malformed

theorem stepsWell_advance :
    s.StepsWell s.advance := by
  have skips : ∀ rest keyAllowed, s.IsBehind ({ s with keyAllowed }.moveTo rest) := by
    intro rest keyAllowed
    have same : s.IsBehind { s with keyAllowed } := isBehind_same rfl rfl
    exact same.trans isBehind_moveTo
  exact (skips _ _).stepsWell (stepsWell_bind stepsWell_dropStale fun _ =>
    (isBehind_unwind _).stepsWell stepsWell_fetchToken)

/-- What breaks the tokens that are read from a stream on is ahead of the stream. -/
theorem broken_mem_collect
    {fuel : Nat} {error : Error}
    (broken : .broken error ∈ s.collect fuel) :
    .broken error ∈ s.tokens ∨ CanBreak s.position.rest error := by
  induction fuel generalizing s with
  | zero =>
      rw [collect, List.mem_reverse, List.mem_cons, Token.broken.injEq] at broken
      rcases broken with rfl | already
      · exact .inr .malformed
      · exact .inl already
  | succ fuel induction =>
      rw [collect] at broken
      split at broken
      next => exact .inl (List.mem_reverse.mp broken)
      next =>
        have stepsWell := stepsWell_advance (s := s)
        split at broken
        next after advances =>
          rw [advances] at stepsWell
          exact (induction broken).imp (stepsWell.tokens error) fun canBreak =>
            canBreak.mono stepsWell.rest
        next other fails =>
          rw [fails] at stepsWell
          rcases List.mem_append.mp broken with already | last
          · exact .inl (List.mem_reverse.mp (List.mem_of_mem_take already))
          · cases List.mem_singleton.mp last
            exact .inr stepsWell

end Steps

end TokenStream

/-- The tokens of a text are broken because it is malformed or holds an escape that is too large. -/
theorem canBreak_of_mem_tokensOf
    {t : Text} {error : Error}
    (broken : .broken error ∈ tokensOf t) :
    CanBreak t error := by
  have starts : ∀ s : TokenStream, s.tokens = [] → s.position.rest <:+ t →
      .broken error ∈ s.collect (t.length + 2) →
        CanBreak t error := by
    intro s noTokens part broken
    rcases TokenStream.broken_mem_collect broken with already | canBreak
    · rw [noTokens] at already
      cases already
    · exact canBreak.mono part
  unfold tokensOf at broken
  dsimp only at broken
  split at broken
  next => exact starts _ rfl (TokenStream.suffix_next _) broken
  next => exact starts _ rfl (List.suffix_refl t) broken

end Shapewright.Yaml
