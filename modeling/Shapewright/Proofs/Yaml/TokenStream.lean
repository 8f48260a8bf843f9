import Shapewright.Proofs.Outcome
import Shapewright.Proofs.Yaml.DoubleQuoted
import Shapewright.Yaml.TokenStream

/-!
# Reading one token

Between two tokens of a block a stream is given by its place, whether a key may start there, and its
blocks: the tokens so far with the columns of the blocks that are open.  This module says what one
step does to such a stream at a scalar, at a key, at the colon behind a key, and at the end.

Of a place only its text and its column count from one entry to the next, and behind a line break
the column is the number of spaces that follow.
-/

namespace Shapewright.Yaml

open Shapewright.Outcome

/-! ## Places -/

namespace Position

theorem skip_add
    (m n : Nat) (p : Position) :
    skip (m + n) p = skip n (skip m p) := by
  induction m generalizing p with
  | zero => rw [Nat.zero_add]; rfl
  | succ m induction =>
      rw [Nat.succ_add]
      exact induction p.next

theorem next_rest
    {p : Position} {c : CodePoint} {rest : Text}
    (restEq : p.rest = c :: rest) :
    p.next.rest = rest := by
  rw [next, restEq]
  simp only
  split
  · rfl
  · split <;> rfl

theorem skip_rest
    {p : Position} {u rest : Text}
    (restEq : p.rest = u ++ rest) :
    (skip u.length p).rest = rest := by
  induction u generalizing p with
  | nil => exact restEq
  | cons c more induction => exact induction (next_rest restEq)

theorem moveTo_eq_skip
    {p : Position} {u rest : Text}
    (restEq : p.rest = u ++ rest) :
    p.moveTo rest = skip u.length p := by
  rw [moveTo, restEq, List.length_append, Nat.add_sub_cancel]

theorem moveTo_rest
    {p : Position} {u rest : Text}
    (restEq : p.rest = u ++ rest) :
    (p.moveTo rest).rest = rest := by
  rw [moveTo_eq_skip restEq]
  exact skip_rest restEq

@[simp]
theorem moveTo_self
    (p : Position) :
    p.moveTo p.rest = p := by
  rw [moveTo, Nat.sub_self]
  rfl

/-- Printable characters stay in the line and take a column each. -/
theorem skip_of_isPrintable
    {p : Position} {u rest : Text}
    (restEq : p.rest = u ++ rest)
    (printable : ∀ c ∈ u, isPrintable c = true) :
    (skip u.length p).line = p.line ∧ (skip u.length p).index = p.index + u.length ∧
      (skip u.length p).column = p.column + u.length := by
  induction u generalizing p with
  | nil => exact ⟨rfl, rfl, rfl⟩
  | cons c more induction =>
      have cPrintable := printable c List.mem_cons_self
      have notMark : c ≠ .char '\uFEFF' := by
        rintro rfl
        exact absurd cPrintable (by decide)
      have step : p.next = ⟨more ++ rest, p.index + 1, p.line, p.column + 1⟩ := by
        rw [next, restEq]
        simp [isBreak_of_isPrintable cPrintable, notMark]
      have goesOn := induction (p := p.next) (by rw [step])
        fun d member => printable d (List.mem_cons_of_mem c member)
      rw [step] at goesOn
      simp only at goesOn
      rw [List.length_cons, skip, step, goesOn.1, goesOn.2.1, goesOn.2.2]
      refine ⟨rfl, ?_, ?_⟩ <;> omega

theorem moveTo_of_isPrintable
    {p : Position} {u rest : Text}
    (restEq : p.rest = u ++ rest)
    (printable : ∀ c ∈ u, isPrintable c = true) :
    (p.moveTo rest).line = p.line ∧ (p.moveTo rest).index = p.index + u.length ∧
      (p.moveTo rest).column = p.column + u.length := by
  rw [moveTo_eq_skip restEq]
  exact skip_of_isPrintable restEq printable

/-- Behind a line break the column is the number of spaces. -/
theorem moveTo_column_of_lineFeed
    {p : Position} {u rest : Text} {n : Nat}
    (restEq : p.rest = u ++ .char '\n' :: (List.replicate n (.char ' ') ++ rest)) :
    (p.moveTo rest).column = n := by
  have consumed : p.rest = (u ++ .char '\n' :: List.replicate n (.char ' ')) ++ rest := by
    rw [restEq]
    simp
  have length :
      (u ++ CodePoint.char '\n' :: List.replicate n (.char ' ')).length = u.length + (1 + n) := by
    simp
    omega
  have lineEnd := skip_rest restEq
  have lineStart :
      skip 1 (skip u.length p) =
        ⟨List.replicate n (.char ' ') ++ rest, (skip u.length p).index + 1,
          (skip u.length p).line + 1, 0⟩ := by
    rw [skip, skip, next, lineEnd]
    rfl
  have spaces :=
    skip_of_isPrintable (p := skip 1 (skip u.length p)) (u := List.replicate n (.char ' '))
      (by rw [lineStart]) (by intro c member; rw [List.eq_of_mem_replicate member]; rfl)
  rw [moveTo_eq_skip consumed, length, skip_add, skip_add]
  rw [List.length_replicate, lineStart] at spaces
  rw [lineStart]
  exact spaces.2.2.trans (Nat.zero_add n)

end Position

/-! ## Blocks -/

/-- The tokens so far, the last one first, with the columns of the blocks that are open. -/
structure Blocks where
  tokens : List Token
  indent : Int
  outer : List Int

namespace Blocks

/-- Adds a token. -/
def push (b : Blocks) (token : Token) : Blocks := { b with tokens := token :: b.tokens }

/-- Adds tokens. -/
def append (b : Blocks) (tokens : List Token) : Blocks :=
  { b with tokens := tokens.reverse ++ b.tokens }

/-- Closes the blocks that are indented further than a column. -/
def closeTo (column : Int) (tokens : List Token) (indent : Int) : List Int → Blocks
  | [] => ⟨tokens, indent, []⟩
  | next :: outer =>
    if column < indent then closeTo column (.blockEnd :: tokens) next outer
    else ⟨tokens, indent, next :: outer⟩

/-- The blocks that are left at a column. -/
def atColumn (column : Int) (b : Blocks) : Blocks := closeTo column b.tokens b.indent b.outer

/-- Opens the block of a mapping at a column that is indented further than the innermost one. -/
def openMapping (column : Nat) (b : Blocks) : Blocks :=
  if b.indent < column then ⟨.blockMappingStart :: b.tokens, column, b.indent :: b.outer⟩ else b

@[simp]
theorem append_nil
    (b : Blocks) :
    b.append [] = b :=
  rfl

theorem append_append
    (b : Blocks) (first second : List Token) :
    (b.append first).append second = b.append (first ++ second) := by
  simp [append]

theorem atColumn_of_le
    {column : Int} {b : Blocks}
    (inside : b.indent ≤ column) :
    b.atColumn column = b := by
  rcases b with ⟨tokens, indent, _ | ⟨next, outer⟩⟩
  · rfl
  · exact if_neg (Int.not_lt.mpr inside)

theorem atColumn_atColumn
    {low high : Int} (b : Blocks)
    (ordered : low ≤ high) :
    (b.atColumn high).atColumn low = b.atColumn low := by
  rcases b with ⟨tokens, indent, outer⟩
  induction outer generalizing tokens indent with
  | nil => rfl
  | cons next outer induction =>
      by_cases closes : high < indent
      · have closesLow : low < indent := Int.lt_of_le_of_lt ordered closes
        have high_eq :
            atColumn high ⟨tokens, indent, next :: outer⟩ =
              atColumn high ⟨.blockEnd :: tokens, next, outer⟩ :=
          if_pos closes
        have low_eq :
            atColumn low ⟨tokens, indent, next :: outer⟩ =
              atColumn low ⟨.blockEnd :: tokens, next, outer⟩ :=
          if_pos closesLow
        rw [high_eq, low_eq]
        exact induction _ _
      · have kept :
            atColumn high ⟨tokens, indent, next :: outer⟩ = ⟨tokens, indent, next :: outer⟩ :=
          if_neg closes
        rw [kept]

end Blocks

/-- A stream between two tokens of a block. -/
def stream (p : Position) (keyAllowed : Bool) (b : Blocks) : TokenStream where
  position := p
  tokens := b.tokens
  tokenCount := b.tokens.length
  indent := b.indent
  outer := b.outer
  flowDepth := 0
  keyAllowed := keyAllowed
  candidates := []
  finished := false

theorem unwind_stream
    (column : Int) (p : Position) (keyAllowed : Bool) (b : Blocks) :
    (stream p keyAllowed b).unwind column = stream p keyAllowed (b.atColumn column) := by
  have closes (tokens : List Token) (indent : Int) (outer : List Int) :
      TokenStream.closeBlocks column (stream p keyAllowed ⟨tokens, indent, outer⟩) outer =
        stream p keyAllowed (Blocks.closeTo column tokens indent outer) := by
    induction outer generalizing tokens indent with
    | nil => rfl
    | cons next outer induction =>
        rw [TokenStream.closeBlocks, Blocks.closeTo]
        by_cases closing : column < indent
        · rw [if_pos closing]
          exact (if_pos closing).trans (induction (.blockEnd :: tokens) next)
        · rw [if_neg closing]
          exact if_neg closing
  exact closes b.tokens b.indent b.outer

theorem advance_eq
    {s : TokenStream} {rest : Text} {allowed : Bool}
    (skipped :
      TokenStream.skipToToken (s.position.rest.length + 1) s.inFlow s.keyAllowed s.position.rest =
        (rest, allowed)) :
    s.advance =
      (TokenStream.moveTo { s with keyAllowed := allowed } rest).dropStale >>= fun s =>
        (s.unwind s.position.column).fetchToken := by
  rw [TokenStream.advance]
  simp only [skipped]

/-- A step goes to the next token, closes the blocks that end there, and takes the token. -/
theorem advance_stream
    {p : Position} {keyAllowed allowed : Bool} {rest : Text} (b : Blocks)
    (skipped :
      TokenStream.skipToToken (p.rest.length + 1) false keyAllowed p.rest = (rest, allowed)) :
    (stream p keyAllowed b).advance =
      (stream (p.moveTo rest) allowed (b.atColumn (p.moveTo rest).column)).fetchToken := by
  rw [advance_eq (s := stream p keyAllowed b) skipped, ← unwind_stream]
  rfl

/-! ## Going to the next token -/

/-- A text at which a token starts, or the end. -/
def StartsToken (t : Text) : Prop :=
  ∀ c ∈ t.head?, isPrintable c = true ∧ c ≠ .char ' ' ∧ c ≠ .char '#'

theorem skipSpaces_spaces
    {t : Text} (n : Nat)
    (starts : StartsToken t) :
    skipSpaces (List.replicate n (.char ' ') ++ t) = t := by
  have spaces : ∀ c ∈ List.replicate n (CodePoint.char ' '), decide (c = .char ' ') = true := by
    intro c member
    rw [List.eq_of_mem_replicate member]
    rfl
  rw [skipSpaces, List.dropWhile_append_of_pos spaces]
  cases t with
  | nil => rfl
  | cons c rest => simp [(starts c rfl).2.1]

theorem skipToToken_spaces
    {t : Text} (fuel n : Nat) (keyAllowed : Bool)
    (starts : StartsToken t) :
    TokenStream.skipToToken (fuel + 1) false keyAllowed (List.replicate n (.char ' ') ++ t) =
      (t, keyAllowed) := by
  have notComment : startsWithOneOf "#" t = false := by
    cases t with
    | nil => rfl
    | cons c rest => simpa [startsWithOneOf, Text.ofString] using (starts c rfl).2.2
  rw [TokenStream.skipToToken]
  simp only [skipSpaces_spaces n starts, notComment, Bool.false_eq_true, if_false]
  cases t with
  | nil => rfl
  | cons c rest => simp [isBreak_of_isPrintable (starts c rfl).1]

/-- A line break allows a key. -/
theorem skipToToken_lineFeed
    {t : Text} (fuel n : Nat) (keyAllowed : Bool)
    (starts : StartsToken t) :
    TokenStream.skipToToken (fuel + 2) false keyAllowed
        (.char '\n' :: (List.replicate n (.char ' ') ++ t)) =
      (t, true) := by
  have lineFeed (rest : Text) : skipSpaces (.char '\n' :: rest) = .char '\n' :: rest := rfl
  have notComment (rest : Text) : startsWithOneOf "#" (.char '\n' :: rest) = false := by
    simp [startsWithOneOf, Text.ofString]
  rw [TokenStream.skipToToken]
  simp only [lineFeed, notComment, Bool.false_eq_true, if_false]
  rw [show isBreak (.char '\n') = true from rfl, if_pos rfl, Bool.not_false, Bool.or_true]
  exact skipToToken_spaces fuel n true starts

/-! ## Scalars -/

/-- A text that a plain scalar starts at. -/
structure StartsPlain (t : Text) : Prop where
  starts : ∃ c rest, t = c :: rest ∧ isPrintable c = true ∧ c ≠ .char ' '
  notSeparator : Plain.startsLikeSeparator t = false
  leading : Plain.hasLeadingIndicator t = false

theorem StartsPlain.startsToken
    {t : Text}
    (starts : StartsPlain t) :
    StartsToken t := by
  intro d member
  rcases starts with ⟨⟨c, rest, rfl, printable, notSpace⟩, _, leading⟩
  cases member
  refine ⟨printable, notSpace, ?_⟩
  rintro rfl
  simp [Plain.hasLeadingIndicator, startsWithOneOf, Text.ofString] at leading

theorem fetchToken_plain
    {p : Position} {keyAllowed : Bool} {b : Blocks}
    (starts : StartsPlain p.rest) :
    (stream p keyAllowed b).fetchToken = (stream p keyAllowed b).fetchPlain := by
  rcases starts with ⟨⟨c, rest, eq, printable, notSpace⟩, notSeparator, leading⟩
  rw [eq] at notSeparator leading
  have position : (stream p keyAllowed b).position = p := rfl
  have inFlow : (stream p keyAllowed b).inFlow = false := rfl
  have atSeparatorEq : atSeparator (c :: rest) = false := by
    rw [Plain.startsLikeSeparator] at notSeparator
    rw [atSeparator, notSeparator, Bool.false_and]
  have block (d : CodePoint) (listed : d = .char '?' ∨ d = .char ':' ∨ d = .char '-') :
      (decide (c = d) && endsWord rest) = false := by
    by_cases same : c = d
    · subst same
      rw [Plain.hasLeadingIndicator, Bool.or_eq_false_iff] at leading
      have found : startsWithOneOf "?:-" [c] = true := by
        rcases listed with rfl | rfl | rfl <;> rfl
      rw [found, Bool.true_and] at leading
      rw [leading.2, Bool.and_false]
    · simp [same]
  rw [Plain.hasLeadingIndicator, Bool.or_eq_false_iff] at leading
  have notIndicator := leading.1
  simp only [startsWithOneOf, Text.ofString, String.reduceToList, List.map_cons, List.map_nil,
    List.contains_eq_mem, List.mem_cons, List.not_mem_nil, or_false, not_or,
    decide_eq_false_iff_not] at notIndicator
  have plain : TokenStream.startsPlain false c rest = true := by
    by_cases listed : c = .char '?' ∨ c = .char ':' ∨ c = .char '-'
    · have goesOn : endsWord rest = false := by
        have both := block c listed
        rwa [decide_eq_true rfl, Bool.true_and] at both
      have mark : (decide (c = .char '-') || startsWithOneOf "?:" [c]) = true := by
        rcases listed with rfl | rfl | rfl <;> rfl
      rw [TokenStream.startsPlain, goesOn, Bool.not_false, Bool.true_and, Bool.true_and, mark,
        Bool.or_true]
    · rw [not_or, not_or] at listed
      have unmarked :
          startsWithOneOf "-?:,[]\x7b\x7d#&*!|>'\"%@\x60" [c] = false := by
        simp [startsWithOneOf, Text.ofString, notIndicator, listed]
      rw [TokenStream.startsPlain, isSpaceOrTab_of_isPrintable printable notSpace,
        isBreak_of_isPrintable printable, unmarked]
      rfl
  rw [TokenStream.fetchToken, position, eq]
  simp only [inFlow, atSeparatorEq, notIndicator, block (.char '-') (by simp),
    block (.char '?') (by simp), block (.char ':') (by simp), plain, decide_false,
    Bool.and_false, Bool.false_and, Bool.false_or, Bool.false_eq_true, if_false, if_true,
    Bool.or_self]

theorem fetchPlain_stream
    {p : Position} {b : Blocks} {scan : PlainScan}
    (scanned :
      plainScan false (b.indent + 1).toNat (p.rest.length + 1) p.rest = scan) :
    (stream p false b).fetchPlain =
      .ok (stream (p.moveTo scan.rest) scan.endsAtLineStart
        (b.push (.scalar scan.content true))) := by
  rw [← scanned]
  rfl

theorem moveTo_behindSpace
    {p : Position} {t : Text}
    (textEq : p.rest = .char ' ' :: t) :
    (p.moveTo t).rest = t ∧ (p.moveTo t).column = p.column + 1 :=
  ⟨Position.moveTo_rest (u := [.char ' ']) textEq,
    (Position.moveTo_of_isPrintable (u := [.char ' ']) textEq (by decide)).2.2⟩

theorem skipToToken_space
    {p : Position} {t : Text} (keyAllowed : Bool)
    (textEq : p.rest = .char ' ' :: t)
    (starts : StartsToken t) :
    TokenStream.skipToToken (p.rest.length + 1) false keyAllowed p.rest = (t, keyAllowed) := by
  rw [textEq]
  exact skipToToken_spaces _ 1 keyAllowed starts

/-- A step takes a plain scalar that is no key, with the line break behind it. -/
theorem advance_plain
    {p : Position} {b : Blocks} {t content rest : Text}
    (textEq : p.rest = .char ' ' :: t)
    (starts : StartsPlain t)
    (inside : b.indent ≤ (p.moveTo t).column)
    (scanned :
      plainScan false (b.indent + 1).toNat (t.length + 1) t = ⟨content, rest, true⟩) :
    (stream p false b).advance =
      .ok (stream ((p.moveTo t).moveTo rest) true (b.push (.scalar content true))) := by
  have restEq := (moveTo_behindSpace textEq).1
  rw [advance_stream b (skipToToken_space false textEq starts.startsToken),
    Blocks.atColumn_of_le inside, fetchToken_plain (by rwa [restEq])]
  exact fetchPlain_stream (by rw [restEq, scanned])

theorem fetchToken_quoted
    {p : Position} {b : Blocks} {quote : Char} {t content rest : Text}
    (textEq : p.rest = .char quote :: t)
    (isQuote : quote = '\'' ∨ quote = '"')
    (reading : TokenStream.readQuoted (.char quote :: t) = .ok (.scalar content false, rest)) :
    (stream p false b).fetchToken =
      .ok (stream (p.moveTo rest) false (b.push (.scalar content false))) := by
  have position : (stream p false b).position = p := rfl
  have candidate :
      (stream p false b).fetchToken =
        (stream p false b).fetchCandidate TokenStream.readQuoted := by
    rw [TokenStream.fetchToken, position, textEq]
    rcases isQuote with rfl | rfl <;> simp [atSeparator, Text.ofString]
  have marked : (stream p false b).markCandidate = .ok (stream p false b) := rfl
  rw [candidate, TokenStream.fetchCandidate, marked, ok_bind, position, textEq, reading]
  rfl

/-- A step takes a quoted scalar that is no key. -/
theorem advance_quoted
    {p : Position} {b : Blocks} {quote : Char} {t content rest : Text}
    (textEq : p.rest = .char ' ' :: .char quote :: t)
    (isQuote : quote = '\'' ∨ quote = '"')
    (inside : b.indent ≤ (p.moveTo (.char quote :: t)).column)
    (reading : TokenStream.readQuoted (.char quote :: t) = .ok (.scalar content false, rest)) :
    (stream p false b).advance =
      .ok (stream ((p.moveTo (.char quote :: t)).moveTo rest) false
        (b.push (.scalar content false))) := by
  have starts : StartsToken (.char quote :: t) := by
    rintro c member
    cases member
    rcases isQuote with rfl | rfl <;> decide
  rw [advance_stream b (skipToToken_space false textEq starts), Blocks.atColumn_of_le inside]
  exact fetchToken_quoted (moveTo_behindSpace textEq).1 isQuote reading

/-! ## Keys -/

/-- The stream behind a scalar that may turn out to be a key; `p` is where the scalar starts, and
`q` is where it ends. -/
def keyStream (p q : Position) (b : Blocks) (content : Text) : TokenStream :=
  { stream q false (b.push (.scalar content true)) with
    candidates := [(0, ⟨b.tokens.length, p.index, p.line, p.column, b.indent == p.column⟩)] }

theorem fetchPlain_key
    {p : Position} {b : Blocks} {scan : PlainScan}
    (scanned :
      plainScan false (b.indent + 1).toNat (p.rest.length + 1) p.rest = scan)
    (inLine : scan.endsAtLineStart = false) :
    (stream p true b).fetchPlain = .ok (keyStream p (p.moveTo scan.rest) b scan.content) := by
  rw [keyStream, ← inLine, ← scanned]
  rfl

/-- A step takes a plain scalar where a key may start, up to a colon. -/
theorem advance_keyScalar
    {p : Position} {keyAllowed : Bool} {b : Blocks} {t content rest : Text}
    (skipped :
      TokenStream.skipToToken (p.rest.length + 1) false keyAllowed p.rest = (t, true))
    (restEq : (p.moveTo t).rest = t)
    (starts : StartsPlain t)
    (scanned :
      ∀ indent, plainScan false indent (t.length + 1) t = ⟨content, rest, false⟩) :
    (stream p keyAllowed b).advance =
      .ok (keyStream (p.moveTo t) ((p.moveTo t).moveTo rest) (b.atColumn (p.moveTo t).column)
        content) := by
  rw [advance_stream b skipped, fetchToken_plain (by rwa [restEq])]
  exact fetchPlain_key (by rw [restEq, scanned]) rfl

theorem dropStale_key
    {p q : Position} {b : Blocks} {content : Text}
    (sameLine : q.line = p.line)
    (near : q.index ≤ p.index + 1024) :
    (keyStream p q b content).dropStale = .ok (keyStream p q b content) := by
  have notFar : ¬1024 < q.index - p.index := by omega
  simp [TokenStream.dropStale, KeyCandidate.isStale, keyStream, stream, sameLine, notFar]

theorem unwind_key
    {p q : Position} {b : Blocks} {content : Text} {column : Int}
    (inside : b.indent ≤ column) :
    (keyStream p q b content).unwind column = keyStream p q b content := by
  rcases b with ⟨tokens, indent, _ | ⟨next, outer⟩⟩
  · rfl
  · exact if_neg (Int.not_lt.mpr inside)

theorem fetchToken_colon
    {s : TokenStream} {rest : Text}
    (textEq : s.position.rest = .char ':' :: rest)
    (inFlow : s.inFlow = false)
    (ended : endsWord rest = true) :
    s.fetchToken = s.fetchValue := by
  rw [TokenStream.fetchToken, textEq]
  simp [inFlow, ended]

theorem insert_stream
    (q : Position) (keyAllowed : Bool) (front tokens : List Token) (indent : Int) (outer : List Int)
    (token : Token) :
    (stream q keyAllowed ⟨front ++ tokens, indent, outer⟩).insert tokens.length token =
      stream q keyAllowed ⟨front ++ token :: tokens, indent, outer⟩ := by
  have later : (front ++ tokens).length - tokens.length = front.length := by
    rw [List.length_append, Nat.add_sub_cancel]
  simp only [TokenStream.insert, stream, later, List.take_left, List.drop_left,
    TokenStream.mk.injEq, true_and, and_true]
  simp only [List.length_append, List.length_cons]
  omega

theorem confirmKey_stream
    (p q : Position) (b : Blocks) (content : Text) :
    (keyStream p q b content).confirmKey
        ⟨b.tokens.length, p.index, p.line, p.column, b.indent == p.column⟩ =
      stream q false ((b.openMapping p.column).append [.key, .scalar content true]) := by
  have forgotten :
      (keyStream p q b content).forgetCandidate =
        stream q false ⟨[.scalar content true] ++ b.tokens, b.indent, b.outer⟩ :=
    rfl
  have inFlow (b : Blocks) : (stream q false b).inFlow = false := rfl
  have openBlock (b : Blocks) (column : Nat) :
      (stream q false b).openBlock column =
        if b.indent < column then
          (stream q false ⟨b.tokens, column, b.indent :: b.outer⟩, true)
        else (stream q false b, false) :=
    rfl
  simp only [TokenStream.confirmKey, forgotten, insert_stream, inFlow, openBlock,
    Bool.false_eq_true, if_false]
  by_cases opens : b.indent < p.column
  · have inserted :=
      insert_stream q false [.scalar content true, .key] b.tokens p.column (b.indent :: b.outer)
        .blockMappingStart
    rw [Blocks.openMapping, if_pos opens, if_pos opens]
    exact congrArg (fun s : TokenStream => { s with keyAllowed := false }) inserted
  · rw [Blocks.openMapping, if_neg opens, if_neg opens]
    rfl

/-- A key candidate becomes a key: its tokens are put in front of it. -/
theorem fetchValue_key
    {p q : Position} {b : Blocks} {content rest : Text}
    (textEq : q.rest = .char ':' :: rest) :
    (keyStream p q b content).fetchValue =
      .ok (stream (q.moveTo rest) false
        ((b.openMapping p.column).append [.key, .scalar content true, .value])) := by
  have candidate :
      (keyStream p q b content).candidate? =
        some ⟨b.tokens.length, p.index, p.line, p.column, b.indent == p.column⟩ :=
    rfl
  rw [TokenStream.fetchValue, candidate]
  simp only [confirmKey_stream, pure_bind]
  have colon : q.rest.drop 1 = rest := by
    rw [textEq]
    rfl
  rw [← colon]
  rfl

/-- A step takes the colon behind a key, opens the block of the key if it is indented further than
the block around it, and puts the token of the key in front of it. -/
theorem advance_colon
    {p q : Position} {b : Blocks} {content rest : Text}
    (textEq : q.rest = .char ':' :: rest)
    (ended : endsWord rest = true)
    (sameLine : q.line = p.line)
    (near : q.index ≤ p.index + 1024)
    (inside : b.indent ≤ q.column) :
    (keyStream p q b content).advance =
      .ok (stream (q.moveTo rest) false
        ((b.openMapping p.column).append [.key, .scalar content true, .value])) := by
  have starts : StartsToken (.char ':' :: rest) := by
    rintro c member
    cases member
    decide
  have skipped :
      TokenStream.skipToToken (q.rest.length + 1) false false q.rest = (q.rest, false) := by
    rw [textEq]
    exact skipToToken_spaces _ 0 false starts
  have inFlow : (keyStream p q b content).inFlow = false := rfl
  have position : (keyStream p q b content).position = q := rfl
  have moved :
      TokenStream.moveTo { keyStream p q b content with keyAllowed := false } q.rest =
        keyStream p q b content := by
    simp [TokenStream.moveTo, keyStream, stream]
  rw [advance_eq (s := keyStream p q b content) skipped, moved, dropStale_key sameLine near,
    ok_bind, position, unwind_key inside, fetchToken_colon textEq inFlow ended,
    fetchValue_key textEq]

/-! ## The end -/

/-- The last step closes all blocks. -/
theorem advance_end
    {p : Position} {keyAllowed allowed : Bool} {b : Blocks}
    (skipped :
      TokenStream.skipToToken (p.rest.length + 1) false keyAllowed p.rest = ([], allowed))
    (restEq : (p.moveTo []).rest = []) :
    ∃ s,
      (stream p keyAllowed b).advance = .ok s ∧ s.finished = true ∧
        s.tokens = .streamEnd :: (b.atColumn (-1)).tokens := by
  have fetched (b : Blocks) :
      (stream (p.moveTo []) allowed b).fetchToken =
        (stream (p.moveTo []) allowed b).fetchEnd := by
    have position : (stream (p.moveTo []) allowed b).position = p.moveTo [] := rfl
    rw [TokenStream.fetchToken, position, restEq]
  have outermost : (-1 : Int) ≤ (p.moveTo []).column := by omega
  rw [advance_stream b skipped, fetched, TokenStream.fetchEnd, unwind_stream,
    Blocks.atColumn_atColumn b outermost]
  exact ⟨_, rfl, rfl, rfl⟩

/-! ## Many steps -/

/-- A number of steps from one stream to another. -/
inductive Steps : Nat → TokenStream → TokenStream → Prop where
  | refl (s : TokenStream) : Steps 0 s s
  | step {n : Nat} {s t u : TokenStream} :
      s.finished = false → s.advance = .ok t → Steps n t u → Steps (n + 1) s u

theorem Steps.trans
    {m n : Nat} {s t u : TokenStream}
    (first : Steps m s t)
    (second : Steps n t u) :
    Steps (m + n) s u := by
  induction first with
  | refl s => rwa [Nat.zero_add]
  | step unfinished advanced _ induction =>
      rw [Nat.succ_add]
      exact .step unfinished advanced (induction second)

theorem collect_of_steps
    {n : Nat} {s t : TokenStream} (fuel : Nat)
    (steps : Steps n s t) :
    s.collect (fuel + n) = t.collect fuel := by
  induction steps with
  | refl s => rfl
  | step unfinished advanced _ induction =>
      rw [← Nat.add_assoc, TokenStream.collect, unfinished, if_neg (by decide), advanced]
      exact induction

/-- A place that the next token is reached from: the token, at which a key may start, and its
column. -/
structure Arrives (p : Position) (keyAllowed : Bool) (rest : Text) (column : Nat) : Prop where
  skipped : TokenStream.skipToToken (p.rest.length + 1) false keyAllowed p.rest = (rest, true)
  restEq : (p.moveTo rest).rest = rest
  columnEq : (p.moveTo rest).column = column

theorem arrives_here
    {p : Position}
    (starts : StartsToken p.rest) :
    Arrives p true p.rest p.column where
  skipped := skipToToken_spaces p.rest.length 0 true starts
  restEq := by rw [Position.moveTo_self]
  columnEq := by rw [Position.moveTo_self]

theorem arrives_of_lineFeed
    {p : Position} {keyAllowed : Bool} {rest : Text} {n : Nat}
    (textEq : p.rest = .char '\n' :: (List.replicate n (.char ' ') ++ rest))
    (starts : StartsToken rest) :
    Arrives p keyAllowed rest n where
  skipped := by
    rw [textEq]
    exact skipToToken_lineFeed _ n keyAllowed starts
  restEq := by
    apply Position.moveTo_rest (u := .char '\n' :: List.replicate n (.char ' '))
    rw [textEq]
    rfl
  columnEq := Position.moveTo_column_of_lineFeed (u := []) textEq

theorem arrives_behindLineFeed
    {p : Position} {u rest : Text} {n : Nat}
    (textEq : p.rest = u ++ .char '\n' :: (List.replicate n (.char ' ') ++ rest))
    (starts : StartsToken rest) :
    Arrives (p.moveTo rest) true rest n := by
  have consumed : p.rest = (u ++ .char '\n' :: List.replicate n (.char ' ')) ++ rest := by
    rw [textEq]
    simp
  have restEq := Position.moveTo_rest consumed
  have arrives := arrives_here (restEq.symm ▸ starts)
  rwa [restEq, Position.moveTo_column_of_lineFeed textEq] at arrives

end Shapewright.Yaml
