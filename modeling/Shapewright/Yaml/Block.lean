import Shapewright.Text.Digit
import Shapewright.Yaml.Error
import Shapewright.Yaml.Character

/-!
# Block scalars

A block scalar holds the indented lines below its header.  The header may say how far they are
indented and what becomes of the line breaks at their end.  A literal scalar keeps the line breaks,
a folded one joins lines that do not start with a blank.
-/

namespace Shapewright.Yaml

/-- What becomes of the line breaks at the end of a block scalar. -/
inductive Chomping where
  | strip
  | clip
  | keep
deriving DecidableEq

/-- The header of a block scalar. -/
structure BlockHeader where
  chomping : Chomping
  increment : Option Nat

/-- The chomping indicator at the start of a text, and what follows it. -/
def chompingOf? : Text → Option (Chomping × Text)
  | .char '+' :: rest => some (.keep, rest)
  | .char '-' :: rest => some (.strip, rest)
  | _ => none

/-- The indentation indicator at the start of a text, if there is one, and what follows it. -/
def incrementOf (t : Text) : Except Error (Option Nat × Text) :=
  match t with
  | [] => .ok (none, t)
  | c :: rest =>
    match c.asciiDigit? with
    | some 0 => .error .malformed
    | some n => .ok (some n, rest)
    | none => .ok (none, t)

/-- The header at the start of a text, and what follows its indicators. -/
def readHeader (t : Text) : Except Error (BlockHeader × Text) := do
  let (header, rest) ←
    match chompingOf? t with
    | some (chomping, rest) => do
      let (increment, rest) ← incrementOf rest
      pure (BlockHeader.mk chomping increment, rest)
    | none => do
      let (increment, rest) ← incrementOf t
      match increment, chompingOf? rest with
      | some n, some (chomping, rest) => pure (BlockHeader.mk chomping (some n), rest)
      | increment, _ => pure (BlockHeader.mk .clip increment, rest)
  if endsField rest then .ok (header, rest) else .error .malformed

/-- What follows the blanks and the comment at the end of a line, and the line break. -/
def finishLine (t : Text) : Except Error Text :=
  let t := t.dropWhile (· = .char ' ')
  let t := if startsWithOneOf "#" t then t.dropWhile (fun c => !isBreak c) else t
  match t with
  | [] => .ok []
  | c :: rest => if isBreak c then .ok rest else .error .malformed

/-- The empty lines at the start of a block scalar whose indentation is not given: their breaks, the
furthest column that a space of theirs ends at, the column reached, and what follows. -/
def leadingLines (column furthest : Nat) : Text → Text × Nat × Nat × Text
  | [] => ([], furthest, column, [])
  | c :: rest =>
    if c = .char ' ' then leadingLines (column + 1) (max furthest (column + 1)) rest
    else
      match breakOf? c with
      | some b =>
        let (breaks, furthest, column, rest) := leadingLines 0 furthest rest
        (b :: breaks, furthest, column, rest)
      | none => ([], furthest, column, c :: rest)

/-- The empty lines between lines of a block scalar: their breaks, the column reached, and what
follows.  No more spaces are passed than the indentation has. -/
def emptyLines (indent column : Nat) : Text → Text × Nat × Text
  | [] => ([], column, [])
  | c :: rest =>
    if c = .char ' ' && column < indent then emptyLines indent (column + 1) rest
    else
      match breakOf? c with
      | some b =>
        let (breaks, column, rest) := emptyLines indent 0 rest
        (b :: breaks, column, rest)
      | none => ([], column, c :: rest)

/-- Whether a line starts with a space or a tab. -/
def startsBlank : Text → Bool
  | [] => false
  | c :: _ => isSpaceOrTab c

/-- The lines of a block scalar from the empty lines `breaks` on: its content, what follows it, its
last line break and the breaks after that.  `fuel` bounds the number of lines. -/
def blockLines (folded : Bool) (indent fuel : Nat) (breaks : Text) (column : Nat) (t : Text) :
    Text × Text × Text × Text :=
  match fuel with
  | 0 => ([], t, [], breaks)
  | fuel + 1 =>
    if column != indent || t.isEmpty then ([], t, [], breaks)
    else
      let (line, rest) := t.span (fun c => !isBreak c)
      let (lineBreak, rest) : Text × Text :=
        match rest with
        | [] => ([], [])
        | c :: rest => ((breakOf? c).toList, rest)
      let (more, column, rest) := emptyLines indent 0 rest
      if column == indent && !rest.isEmpty then
        let joint : Text :=
          if folded && lineBreak == [.char '\n'] && !startsBlank t && !startsBlank rest then
            if more.isEmpty then [.char ' '] else []
          else lineBreak
        let (content, rest, last, trailing) := blockLines folded indent fuel more column rest
        (breaks ++ line ++ joint ++ content, rest, last, trailing)
      else (breaks ++ line, rest, lineBreak, more)

/-- The block scalar at the start of a text, behind its first character, and what follows it.
`parent` is the column from which the lines have to be indented. -/
def blockScalar (folded : Bool) (parent : Nat) (t : Text) : Except Error (Text × Text) := do
  let (header, rest) ← readHeader t
  let rest ← finishLine rest
  let least := max 1 parent
  let (breaks, indent, column, rest) : Text × Nat × Nat × Text :=
    match header.increment with
    | none =>
      let (breaks, furthest, column, rest) := leadingLines 0 0 rest
      (breaks, max least furthest, column, rest)
    | some increment =>
      let indent := least + increment - 1
      let (breaks, column, rest) := emptyLines indent 0 rest
      (breaks, indent, column, rest)
  let (content, rest, last, trailing) :=
    blockLines folded indent (rest.length + 1) breaks column rest
  let tail :=
    match header.chomping with
    | .strip => []
    | .clip => last
    | .keep => last ++ trailing
  .ok (content ++ tail, rest)

end Shapewright.Yaml
