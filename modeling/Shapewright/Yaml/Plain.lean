import Shapewright.Yaml.Character

/-!
# Plain scalars

A plain scalar stands without quotes.  It ends before a comment, before a colon at the end of a
word, and in a flow collection before a character that structures it.  Over several lines it goes on
while the lines are indented, and its line ends are folded.
-/

namespace Shapewright.Yaml

/-- Whether a plain scalar ends before the text that starts with `c` and goes on with `rest`. -/
def endsPlain (inFlow : Bool) (c : CodePoint) (rest : Text) : Bool :=
  isSpaceOrTab c || isBreak c ||
    (c = .char ':' && (endsWord rest || (inFlow && startsWithOneOf ",[]\x7b\x7d" rest))) ||
    (inFlow && startsWithOneOf ",?[]\x7b\x7d" [c])

/-- The start of a text up to the next space or the end of the scalar, and what follows it. -/
def plainRun (inFlow : Bool) : Text → Text × Text
  | [] => ([], [])
  | c :: rest =>
    if endsPlain inFlow c rest then ([], c :: rest)
    else
      let (run, rest') := plainRun inFlow rest
      (c :: run, rest')

/-- The blank part between two runs of a plain scalar: what it adds to the scalar, what follows it,
whether it holds a line break, and the column behind it if it does. -/
structure PlainGap where
  chunk : Text
  rest : Text
  crossesLine : Bool
  column : Nat

/-- The line breaks of a gap behind its first one, with the column reached, and what follows.
Nothing is answered for the breaks if a document separator ends the gap. -/
def plainBreaks (atLineStart : Bool) (column : Nat) : Text → Option Text × Nat × Text
  | [] => (some [], column, [])
  | c :: rest =>
    if atLineStart && atSeparator (c :: rest) then (none, column, c :: rest)
    else if c = .char ' ' then plainBreaks false (column + 1) rest
    else
      match breakOf? c with
      | some b =>
        let (breaks, column, rest) := plainBreaks true 0 rest
        (breaks.map (b :: ·), column, rest)
      | none => (some [], column, c :: rest)

/-- What a first line break and the breaks after it fold to: a single line feed is a space, and the
first of several line feeds vanishes. -/
def foldBreaks (first : CodePoint) (breaks : Text) : Text :=
  if first != .char '\n' then first :: breaks
  else if breaks.isEmpty then [.char ' ']
  else breaks

/-- The gap at the start of a text. -/
def plainGap (t : Text) : PlainGap :=
  let (spaces, rest) := t.span (· = .char ' ')
  match rest with
  | [] => ⟨spaces, rest, false, 0⟩
  | c :: rest' =>
    match breakOf? c with
    | none => ⟨spaces, rest, false, 0⟩
    | some first =>
      match plainBreaks true 0 rest' with
      | (some breaks, column, rest) => ⟨foldBreaks first breaks, rest, true, column⟩
      | (none, column, rest) => ⟨[], rest, true, column⟩

/-- A plain scalar: its content, what follows it, and whether it ended at the start of a line. -/
structure PlainScan where
  content : Text
  rest : Text
  endsAtLineStart : Bool

/-- The plain scalar at the start of a text.  A line that goes on with it starts at the column
`indent` or later; `fuel` bounds the number of runs. -/
def plainScan (inFlow : Bool) (indent : Nat) (fuel : Nat) (t : Text) : PlainScan :=
  match fuel with
  | 0 => ⟨[], t, false⟩
  | fuel + 1 =>
    if startsWithOneOf "#" t then ⟨[], t, false⟩
    else
      let (run, rest) := plainRun inFlow t
      if run.isEmpty then ⟨[], t, false⟩
      else
        let gap := plainGap rest
        if gap.chunk.isEmpty || startsWithOneOf "#" gap.rest ||
            (!inFlow && gap.crossesLine && gap.column < indent) then
          ⟨run, gap.rest, gap.crossesLine⟩
        else
          let next := plainScan inFlow indent fuel gap.rest
          if next.content.isEmpty then ⟨run, gap.rest, gap.crossesLine⟩
          else ⟨run ++ gap.chunk ++ next.content, next.rest, next.endsAtLineStart⟩

end Shapewright.Yaml
