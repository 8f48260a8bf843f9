import Shapewright.Yaml.Block
import Shapewright.Yaml.Property
import Shapewright.Yaml.Quoted

/-!
# The tokens of a text

Tokens are read from left to right with their positions.  Outside of flow collections the
indentation opens and closes blocks.  A scalar, an alias, or a flow collection may turn out to be a
key when a colon follows it on the same line; then a key token is put in front of it, and the start
of a block if it is indented further than the block around it.
-/

namespace Shapewright.Yaml

/-- A place in a text: what follows it, and how many code points, lines and columns precede it. -/
structure Position where
  rest : Text
  index : Nat
  line : Nat
  column : Nat

namespace Position

/-- The place behind the next code point.  A byte order mark takes no column. -/
def next (p : Position) : Position :=
  match p.rest with
  | [] => p
  | c :: rest =>
    if isBreak c then ⟨rest, p.index + 1, p.line + 1, 0⟩
    else if c = .char '\uFEFF' then ⟨rest, p.index + 1, p.line, p.column⟩
    else ⟨rest, p.index + 1, p.line, p.column + 1⟩

/-- The place behind a number of code points. -/
def skip : Nat → Position → Position
  | 0, p => p
  | n + 1, p => skip n p.next

/-- The place that a later part of the text starts at. -/
def moveTo (p : Position) (rest : Text) : Position := p.skip (p.rest.length - rest.length)

end Position

/-- A token that may turn out to be a key: the number of tokens before it, its place, and whether it
has to be a key because it starts a line of a block. -/
structure KeyCandidate where
  tokenCount : Nat
  index : Nat
  line : Nat
  column : Nat
  required : Bool

/-- Whether a candidate is on another line than a place or too far in front of it to be a key. -/
def KeyCandidate.isStale (p : Position) (k : KeyCandidate) : Bool :=
  k.line != p.line || 1024 < p.index - k.index

/-- How far the tokens of a text have been read. -/
structure TokenStream where
  position : Position
  /-- The tokens so far, the last one first. -/
  tokens : List Token
  tokenCount : Nat
  /-- The column of the innermost block, or -1 outside of blocks. -/
  indent : Int
  /-- The columns of the blocks around the innermost one. -/
  outer : List Int
  /-- How many flow collections are open. -/
  flowDepth : Nat
  /-- Whether a key may start here. -/
  keyAllowed : Bool
  /-- The last key candidate of each open flow collection and of the blocks around them. -/
  candidates : List (Nat × KeyCandidate)
  finished : Bool

namespace TokenStream

/-- The start of a text. -/
def start (t : Text) : TokenStream where
  position := ⟨t, 0, 0, 0⟩
  tokens := []
  tokenCount := 0
  indent := -1
  outer := []
  flowDepth := 0
  keyAllowed := true
  candidates := []
  finished := false

/-- Adds a token. -/
def push (s : TokenStream) (token : Token) : TokenStream :=
  { s with tokens := token :: s.tokens, tokenCount := s.tokenCount + 1 }

/-- Puts a token behind the first `before` ones. -/
def insert (s : TokenStream) (before : Nat) (token : Token) : TokenStream :=
  let later := s.tokenCount - before
  { s with
    tokens := s.tokens.take later ++ token :: s.tokens.drop later
    tokenCount := s.tokenCount + 1 }

/-- Goes to a later place of the text. -/
def moveTo (s : TokenStream) (rest : Text) : TokenStream :=
  { s with position := s.position.moveTo rest }

/-- Whether the text is in a flow collection. -/
def inFlow (s : TokenStream) : Bool := s.flowDepth != 0

/-- The place of the next token: behind blanks, comments and line breaks.  A line break outside of
flow collections allows a key. -/
def skipToToken (fuel : Nat) (inFlow keyAllowed : Bool) (t : Text) : Text × Bool :=
  match fuel with
  | 0 => (t, keyAllowed)
  | fuel + 1 =>
    let t := skipSpaces t
    let t := if startsWithOneOf "#" t then t.dropWhile (fun c => !isBreak c) else t
    match t with
    | [] => (t, keyAllowed)
    | c :: rest =>
      if isBreak c then skipToToken fuel inFlow (keyAllowed || !inFlow) rest else (t, keyAllowed)

/-- Forgets the key candidates that are on another line or too far back to be keys; one that has to
be a key is an error then. -/
def dropStale (s : TokenStream) : Except Error TokenStream :=
  if s.candidates.any (fun (_, k) => k.isStale s.position && k.required) then .error .malformed
  else .ok { s with candidates := s.candidates.filter (fun (_, k) => !k.isStale s.position) }

/-- The key candidate of the innermost collection. -/
def candidate? (s : TokenStream) : Option KeyCandidate :=
  (s.candidates.find? (fun (depth, _) => depth == s.flowDepth)).map (·.2)

/-- Forgets the key candidate of the innermost collection. -/
def forgetCandidate (s : TokenStream) : TokenStream :=
  { s with candidates := s.candidates.filter (fun (depth, _) => depth != s.flowDepth) }

/-- Gives up the key candidate of the innermost collection; one that has to be a key is an error
then. -/
def dropCandidate (s : TokenStream) : Except Error TokenStream :=
  match s.candidate? with
  | some k => if k.required then .error .malformed else .ok s.forgetCandidate
  | none => .ok s

/-- Makes the next token a key candidate, if a key may start here. -/
def markCandidate (s : TokenStream) : Except Error TokenStream :=
  if s.keyAllowed then do
    let required := !s.inFlow && s.indent == s.position.column
    let s ← s.dropCandidate
    let k : KeyCandidate :=
      ⟨s.tokenCount, s.position.index, s.position.line, s.position.column, required⟩
    .ok { s with candidates := (s.flowDepth, k) :: s.candidates }
  else .ok s

/-- Closes the blocks that are indented further than a column, from the innermost one on. -/
def closeBlocks (column : Int) (s : TokenStream) : List Int → TokenStream
  | [] => s
  | indent :: outer =>
    if column < s.indent then closeBlocks column ({ s with indent, outer }.push .blockEnd) outer
    else s

/-- Closes the blocks that are indented further than a column, unless in a flow collection. -/
def unwind (column : Int) (s : TokenStream) : TokenStream :=
  if s.inFlow then s else closeBlocks column s s.outer

/-- Opens a block at a column that is indented further than the innermost one; answers whether it
did. -/
def openBlock (column : Nat) (s : TokenStream) : TokenStream × Bool :=
  if s.indent < column then ({ s with indent := column, outer := s.indent :: s.outer }, true)
  else (s, false)

/-- The end of the text. -/
def fetchEnd (s : TokenStream) : Except Error TokenStream := do
  let s ← (s.unwind (-1)).dropCandidate
  .ok { s.push .streamEnd with keyAllowed := false, candidates := [], finished := true }

/-- A directive. -/
def fetchDirective (s : TokenStream) : Except Error TokenStream := do
  let s ← (s.unwind (-1)).dropCandidate
  let (token, rest) ← readDirective (s.position.rest.drop 1)
  .ok ({ s with keyAllowed := false }.push token |>.moveTo rest)

/-- The mark at the start or end of a document. -/
def fetchSeparator (token : Token) (s : TokenStream) : Except Error TokenStream := do
  let s ← (s.unwind (-1)).dropCandidate
  .ok ({ s with keyAllowed := false }.push token |>.moveTo (s.position.rest.drop 3))

/-- The opening bracket of a flow collection. -/
def fetchFlowStart (token : Token) (s : TokenStream) : Except Error TokenStream := do
  let s ← s.markCandidate
  .ok ({ s with flowDepth := s.flowDepth + 1, keyAllowed := true }.push token
    |>.moveTo (s.position.rest.drop 1))

/-- The closing bracket of a flow collection. -/
def fetchFlowEnd (token : Token) (s : TokenStream) : Except Error TokenStream := do
  let s ← s.dropCandidate
  match s.flowDepth with
  | 0 => .error .malformed
  | depth + 1 =>
    .ok ({ s with flowDepth := depth, keyAllowed := false }.push token
      |>.moveTo (s.position.rest.drop 1))

/-- The comma between entries of a flow collection. -/
def fetchFlowEntry (s : TokenStream) : Except Error TokenStream := do
  let s ← { s with keyAllowed := true }.dropCandidate
  .ok (s.push .flowEntry |>.moveTo (s.position.rest.drop 1))

/-- The hyphen in front of an entry of a block sequence. -/
def fetchBlockEntry (s : TokenStream) : Except Error TokenStream := do
  if !s.inFlow && !s.keyAllowed then .error .malformed
  else do
    let s :=
      if s.inFlow then s
      else
        match s.openBlock s.position.column with
        | (s, true) => s.push .blockSequenceStart
        | (s, false) => s
    let s ← { s with keyAllowed := true }.dropCandidate
    .ok (s.push .blockEntry |>.moveTo (s.position.rest.drop 1))

/-- The question mark in front of a key. -/
def fetchKey (s : TokenStream) : Except Error TokenStream := do
  if !s.inFlow && !s.keyAllowed then .error .malformed
  else do
    let s :=
      if s.inFlow then s
      else
        match s.openBlock s.position.column with
        | (s, true) => s.push .blockMappingStart
        | (s, false) => s
    let s ← { s with keyAllowed := !s.inFlow }.dropCandidate
    .ok (s.push .key |>.moveTo (s.position.rest.drop 1))

/-- Turns a key candidate into a key: the key token, and the start of its block if it is indented
further than the block around it, are put in front of it. -/
def confirmKey (k : KeyCandidate) (s : TokenStream) : TokenStream :=
  let s := s.forgetCandidate.insert k.tokenCount .key
  let s :=
    if s.inFlow then s
    else
      match s.openBlock k.column with
      | (s, true) => s.insert k.tokenCount .blockMappingStart
      | (s, false) => s
  { s with keyAllowed := false }

/-- The colon in front of a value. -/
def fetchValue (s : TokenStream) : Except Error TokenStream := do
  let s ←
    match s.candidate? with
    | some k => pure (s.confirmKey k)
    | none =>
      if !s.inFlow && !s.keyAllowed then throw .malformed
      else do
        let s :=
          if s.inFlow then s
          else
            match s.openBlock s.position.column with
            | (s, true) => s.push .blockMappingStart
            | (s, false) => s
        { s with keyAllowed := !s.inFlow }.dropCandidate
  .ok (s.push .value |>.moveTo (s.position.rest.drop 1))

/-- A token that may be a key, once it has been read. -/
def fetchCandidate (read : Text → Scanned) (s : TokenStream) : Except Error TokenStream := do
  let s ← s.markCandidate
  let (token, rest) ← read s.position.rest
  .ok ({ s with keyAllowed := false }.push token |>.moveTo rest)

/-- A block scalar. -/
def fetchBlockScalar (folded : Bool) (s : TokenStream) : Except Error TokenStream := do
  let s ← { s with keyAllowed := true }.dropCandidate
  let (content, rest) ← blockScalar folded (s.indent + 1).toNat (s.position.rest.drop 1)
  .ok (s.push (.scalar content false) |>.moveTo rest)

/-- A plain scalar. -/
def fetchPlain (s : TokenStream) : Except Error TokenStream := do
  let s ← s.markCandidate
  let t := s.position.rest
  let scan := plainScan s.inFlow (s.indent + 1).toNat (t.length + 1) t
  .ok ({ s with keyAllowed := scan.endsAtLineStart }.push (.scalar scan.content true)
    |>.moveTo scan.rest)

/-- Reads an anchor or an alias behind its mark. -/
def readReference (token : Text → Token) (t : Text) : Scanned :=
  (readAnchorName (t.drop 1)).map fun (name, rest) => (token name, rest)

/-- Reads a scalar in quotes. -/
def readQuoted (t : Text) : Scanned :=
  let content :=
    if startsWithOneOf "'" t then singleQuoted t.length (t.drop 1)
    else doubleQuoted t.length (t.drop 1)
  content.map fun (content, rest) => (.scalar content false, rest)

/-- Whether a plain scalar may start with `c` before `rest`. -/
def startsPlain (inFlow : Bool) (c : CodePoint) (rest : Text) : Bool :=
  !(isSpaceOrTab c || isBreak c || startsWithOneOf "-?:,[]\x7b\x7d#&*!|>'\"%@\x60" [c]) ||
    (!endsWord rest && (c = .char '-' || (!inFlow && startsWithOneOf "?:" [c])))

/-- The next token, at whose first code point the stream is, and what comes with it. -/
def fetchToken (s : TokenStream) : Except Error TokenStream :=
  match s.position.rest with
  | [] => s.fetchEnd
  | c :: rest =>
    let atSeparator := s.position.column == 0 && atSeparator (c :: rest)
    if c = .char '%' && s.position.column == 0 then s.fetchDirective
    else if c = .char '-' && atSeparator then s.fetchSeparator .documentStart
    else if c = .char '.' && atSeparator then s.fetchSeparator .documentEnd
    else if c = .char '[' then s.fetchFlowStart .flowSequenceStart
    else if c = .char '\x7b' then s.fetchFlowStart .flowMappingStart
    else if c = .char ']' then s.fetchFlowEnd .flowSequenceEnd
    else if c = .char '\x7d' then s.fetchFlowEnd .flowMappingEnd
    else if c = .char ',' then s.fetchFlowEntry
    else if c = .char '-' && endsWord rest then s.fetchBlockEntry
    else if c = .char '?' && (s.inFlow || endsWord rest) then s.fetchKey
    else if c = .char ':' && (s.inFlow || endsWord rest) then s.fetchValue
    else if c = .char '*' then s.fetchCandidate (readReference .alias)
    else if c = .char '&' then s.fetchCandidate (readReference .anchor)
    else if c = .char '!' then s.fetchCandidate readTag
    else if c = .char '|' && !s.inFlow then s.fetchBlockScalar false
    else if c = .char '>' && !s.inFlow then s.fetchBlockScalar true
    else if c = .char '\'' || c = .char '"' then s.fetchCandidate readQuoted
    else if startsPlain s.inFlow c rest then s.fetchPlain
    else .error .malformed

/-- Reads on to the next token and takes it. -/
def advance (s : TokenStream) : Except Error TokenStream := do
  let t := s.position.rest
  let (rest, keyAllowed) := skipToToken (t.length + 1) s.inFlow s.keyAllowed t
  let s ← ({ s with keyAllowed }.moveTo rest).dropStale
  (s.unwind s.position.column).fetchToken

/-- The number of tokens in front of the first one that may still turn out to be a key. -/
def settledCount (s : TokenStream) : Nat :=
  let candidates := s.candidates.filter fun (_, k) => !k.isStale s.position
  (candidates.map fun (_, k) => k.tokenCount).foldl min s.tokenCount

/-- The tokens from the stream on, up to the end or the first error; `fuel` bounds their number.  A
token that may still turn out to be a key is not there before it is settled, so the error takes its
place. -/
def collect (fuel : Nat) (s : TokenStream) : List Token :=
  match fuel with
  | 0 => (Token.broken .malformed :: s.tokens).reverse
  | fuel + 1 =>
    if s.finished then s.tokens.reverse
    else
      match s.advance with
      | .ok s => collect fuel s
      | .error error => s.tokens.reverse.take s.settledCount ++ [.broken error]

end TokenStream

/-- The tokens of a text; a byte order mark at its start is no part of it. -/
def tokensOf (t : Text) : List Token :=
  let s := TokenStream.start t
  let s := if t.head? = some (.char '\uFEFF') then { s with position := s.position.next } else s
  s.collect (t.length + 2)

end Shapewright.Yaml
