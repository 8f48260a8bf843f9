import Shapewright.Value.Basic

/-!
# Writing JSON

JSON in ASCII: what is outside of ASCII, and the solidus, is escaped.  The layout is either one
line without a blank, or one member or item a line.
-/

namespace Shapewright.Json

/-- A code unit as a four-digit escape. -/
def escapeUnit (n : Nat) : Text := Text.ofString "\\u" ++ Text.hex 4 n

/-- A code point between the quotes of a string.  One above U+FFFF is written as the escapes of its
surrogate pair. -/
def escape (c : CodePoint) : Text :=
  match c with
  | .char '"' => "\\\""
  | .char '\\' => "\\\\"
  | .char '/' => "\\/"
  | .char '\x08' => "\\b"
  | .char '\x0c' => "\\f"
  | .char '\n' => "\\n"
  | .char '\r' => "\\r"
  | .char '\t' => "\\t"
  | c =>
    let n := c.toNat
    if 0x20 ≤ n ∧ n < 0x80 then [c]
    else if n < 0x10000 then escapeUnit n
    else
      escapeUnit (0xD800 + (n - 0x10000) / 0x400) ++ escapeUnit (0xDC00 + (n - 0x10000) % 0x400)

/-- A text as a JSON string. -/
def writeString (t : Text) : Text := .char '"' :: t.flatMap escape ++ [.char '"']

/-- How a document is laid out: the number of blanks that a level is indented by, or none for one
line. -/
abbrev Layout := Option Nat

/-- What stands in front of a member or item at a level, or of the bracket that closes it. -/
def lineStart (layout : Layout) (level : Nat) : Text :=
  match layout with
  | none => []
  | some width => .char '\n' :: List.replicate (width * level) (.char ' ')

/-- What stands between a key and its value. -/
def colon (layout : Layout) : Text :=
  match layout with
  | none => ":"
  | some _ => ": "

mutual

/-- A value at a level.  A leaf outside the JSON model is written as null. -/
def writeAt (layout : Layout) (level : Nat) : Value → Text
  | .null => "null"
  | .boolean b => if b then "true" else "false"
  | .integer n => Text.ofInt n
  | .float x => x.text
  | .text t => writeString t
  | .array [] => "[]"
  | .array items =>
    .char '[' :: writeItems layout (level + 1) items ++ lineStart layout level ++ [.char ']']
  | .object [] => "\x7b\x7d"
  | .object entries =>
    .char '\x7b' :: writeEntries layout (level + 1) entries ++ lineStart layout level ++
      [.char '\x7d']
  | .bytes _ => "null"
  | .foreign => "null"

/-- The items of an array at a level. -/
def writeItems (layout : Layout) (level : Nat) : List Value → Text
  | [] => []
  | [v] => lineStart layout level ++ writeAt layout level v
  | v :: rest =>
    lineStart layout level ++ writeAt layout level v ++ .char ',' :: writeItems layout level rest

/-- The entries of an object at a level. -/
def writeEntries (layout : Layout) (level : Nat) : List (Text × Value) → Text
  | [] => []
  | [(k, v)] =>
    lineStart layout level ++ writeString k ++ colon layout ++ writeAt layout level v
  | (k, v) :: rest =>
    lineStart layout level ++ writeString k ++ colon layout ++ writeAt layout level v ++
      .char ',' :: writeEntries layout level rest

end

/-- A value as a JSON text. -/
def write (layout : Layout) (v : Value) : Text := writeAt layout 0 v

end Shapewright.Json
