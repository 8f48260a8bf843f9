import Shapewright.Value.Basic
import Shapewright.Yaml.Character
import Shapewright.Yaml.Node

/-!
# Writing YAML

Mappings of scalars and mappings, one entry a line, in ASCII.  A text is written plain if it reads
back as itself that way, else in single quotes if they can hold it, else in double quotes with
escapes.  Lines that have become long are folded at single spaces.
-/

namespace Shapewright.Yaml

/-- The column behind which a line is folded. -/
def foldColumn : Nat := 80

/-- How far a nested mapping is indented. -/
def indentWidth : Nat := 2

/-- A line break before an indented line. -/
def newLine (indent : Nat) : Text := .char '\n' :: List.replicate indent (.char ' ')

/-- Whether a text starts with a character. -/
def startsWith (c : Char) (t : Text) : Bool := t.head? == some (.char c)

namespace Plain

/-- Whether a text would be taken for something else by its first code point. -/
def hasLeadingIndicator : Text → Bool
  | [] => false
  | c :: rest =>
    startsWithOneOf "#,[]\x7b\x7d&*!|>'\"%@\x60" [c] ||
      (startsWithOneOf "?:-" [c] && endsWord rest)

/-- Whether a text behind its first code point holds a colon at the end of a word or a hash at the
start of one. -/
def hasInnerIndicator (afterBlank : Bool) : Text → Bool
  | [] => false
  | c :: rest =>
    (c = .char ':' && endsWord rest) || (c = .char '#' && afterBlank) ||
      hasInnerIndicator (endsWord [c]) rest

/-- Whether a text starts like a document separator. -/
def startsLikeSeparator (t : Text) : Bool :=
  t.take 3 == Text.ofString "---" || t.take 3 == Text.ofString "..."

/-- Whether all code points of a text are printable ASCII. -/
def isPrintableAscii (t : Text) : Bool := t.all (fun c => 0x20 ≤ c.toNat && c.toNat ≤ 0x7E)

/-- Whether a text can be written without quotes and reads back as a text. -/
def allows (t : Text) : Bool :=
  resolvePlain t == .text && isPrintableAscii t && !startsWith ' ' t &&
    t.getLast? != some (.char ' ') && !startsLikeSeparator t && !hasLeadingIndicator t &&
    !(match t with
      | [] => false
      | c :: rest => hasInnerIndicator (endsWord [c]) rest)

/-- A text without quotes from a column on. -/
def write (indent column : Nat) (afterSpace : Bool) : Text → Text
  | [] => []
  | c :: rest =>
    if c = .char ' ' && !afterSpace && !startsWith ' ' rest && foldColumn < column then
      newLine indent ++ write indent indent false rest
    else c :: write indent (column + 1) (c = .char ' ') rest

end Plain

namespace SingleQuoted

/-- Whether a space stands next to a line break. -/
def hasSpaceAtBreak : Text → Bool
  | .char ' ' :: .char '\n' :: _ => true
  | .char '\n' :: .char ' ' :: _ => true
  | _ :: rest => hasSpaceAtBreak rest
  | [] => false

/-- Whether a text can be written in single quotes. -/
def allows (t : Text) : Bool :=
  t.all (fun c => c = .char '\n' || (0x20 ≤ c.toNat && c.toNat ≤ 0x7E)) && !hasSpaceAtBreak t

/-- A text between single quotes from a column on.  `previous` is the code point before it. -/
def write (indent column : Nat) (previous : Option CodePoint) : Text → Text
  | [] => []
  | c :: rest =>
    let afterSpace := previous == some (.char ' ')
    let afterBreak := previous == some (.char '\n')
    if c = .char '\'' then Text.ofString "''" ++ write indent (column + 2) (some c) rest
    else if c = .char ' ' && !afterSpace && !startsWith ' ' rest && foldColumn < column &&
        previous.isSome && !rest.isEmpty then
      newLine indent ++ write indent indent (some c) rest
    else if c = .char '\n' then
      (if afterBreak then [c] else [c, c]) ++
        (if startsWith '\n' rest then [] else List.replicate indent (.char ' ')) ++
        write indent indent (some c) rest
    else c :: write indent (column + 1) (some c) rest

end SingleQuoted

namespace DoubleQuoted

/-- The upper-case hexadecimal digits of a number, at least `length` of them. -/
def upperHex (length n : Nat) : Text :=
  (Text.hex length n).map fun
    | .char c => .char c.toUpper
    | c => c

/-- The escape of a code point that does not stand for itself. -/
def escape? (c : CodePoint) : Option Text :=
  match c with
  | .char '\x00' => some (Text.ofString "\\0")
  | .char '\x07' => some (Text.ofString "\\a")
  | .char '\x08' => some (Text.ofString "\\b")
  | .char '\t' => some (Text.ofString "\\t")
  | .char '\n' => some (Text.ofString "\\n")
  | .char '\x0b' => some (Text.ofString "\\v")
  | .char '\x0c' => some (Text.ofString "\\f")
  | .char '\r' => some (Text.ofString "\\r")
  | .char '\x1b' => some (Text.ofString "\\e")
  | .char '"' => some (Text.ofString "\\\"")
  | .char '\\' => some (Text.ofString "\\\\")
  | .char '\x85' => some (Text.ofString "\\N")
  | .char '\xa0' => some (Text.ofString "\\_")
  | .char '\u2028' => some (Text.ofString "\\L")
  | .char '\u2029' => some (Text.ofString "\\P")
  | c =>
    let n := c.toNat
    if 0x20 ≤ n ∧ n ≤ 0x7E then none
    else if n ≤ 0xFF then some (Text.ofString "\\x" ++ upperHex 2 n)
    else if n ≤ 0xFFFF then some (Text.ofString "\\u" ++ upperHex 4 n)
    else some (Text.ofString "\\U" ++ upperHex 8 n)

/-- The break of a long line: an escaped line break, and an escaped space if one comes next. -/
def breakLine (indent : Nat) (beforeSpace : Bool) : Text :=
  .char '\\' :: newLine indent ++ (if beforeSpace then [.char '\\'] else [])

/-- The column behind the break of a long line. -/
def breakColumn (indent : Nat) (beforeSpace : Bool) : Nat :=
  if beforeSpace then indent + 1 else indent

/-- A text between double quotes from a column on.  `atStart` says whether nothing of it has been
written, `afterEscape` whether the last code point was escaped or a line has just been broken. -/
def write (indent column : Nat) (atStart afterEscape : Bool) : Text → Text
  | [] => []
  | c :: rest =>
    let canBreak := !atStart && !rest.isEmpty
    match escape? c with
    | some escape =>
      let column := column + escape.length
      if canBreak && foldColumn < column - 1 then
        let beforeSpace := startsWith ' ' rest
        escape ++ breakLine indent beforeSpace ++
          write indent (breakColumn indent beforeSpace) false true rest
      else escape ++ write indent column false true rest
    | none =>
      if canBreak && (c = .char ' ' || afterEscape) && foldColumn < column then
        let isSpace := decide (c = .char ' ')
        breakLine indent isSpace ++
          c :: write indent (breakColumn indent isSpace + 1) false false rest
      else c :: write indent (column + 1) false false rest

end DoubleQuoted

/-- A text as a scalar whose first code point stands at a column. -/
def writeText (indent column : Nat) (t : Text) : Text :=
  if Plain.allows t then Plain.write indent column false t
  else if SingleQuoted.allows t then
    .char '\'' :: SingleQuoted.write indent (column + 1) none t ++ [.char '\'']
  else .char '"' :: DoubleQuoted.write indent (column + 1) true true t ++ [.char '"']

mutual

/-- The value of an entry, behind its colon, at a level of nesting.  Only nulls, truth values,
integers, texts and mappings are written; other values are written as null. -/
def writeValue (level column : Nat) : Value → Text
  | .boolean b => Text.ofString (if b then " true\n" else " false\n")
  | .integer n => .char ' ' :: Text.ofInt n ++ Text.ofString "\n"
  | .text t =>
    .char ' ' :: writeText (indentWidth * (level + 1)) (column + 1) t ++ Text.ofString "\n"
  | .object [] => " \x7b\x7d\n"
  | .object entries => .char '\n' :: writeEntries (level + 1) entries
  | _ => " null\n"

/-- The entries of a mapping at a level of nesting; their keys are words. -/
def writeEntries (level : Nat) : List (Text × Value) → Text
  | [] => []
  | (key, v) :: rest =>
    List.replicate (indentWidth * level) (.char ' ') ++ key ++ .char ':' ::
      writeValue level (indentWidth * level + key.length + 1) v ++ writeEntries level rest

end

end Shapewright.Yaml
