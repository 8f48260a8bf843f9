import Shapewright.Text.Basic

/-!
# Characters of YAML texts

Which code points a YAML text may hold, and what ends a line or a word in it.  Line ends are
normalized before a text is read, so a carriage return is an ordinary code point here.
-/

namespace Shapewright.Yaml

/-- Whether a code point may stand in a YAML text. -/
def isAllowed (c : CodePoint) : Bool :=
  let n := c.toNat
  n == 0x9 || n == 0xA || n == 0xD || (0x20 ≤ n && n ≤ 0x7E) || n == 0x85 ||
    (0xA0 ≤ n && n ≤ 0xD7FF) || (0xE000 ≤ n && n ≤ 0xFFFD) || 0x10000 ≤ n

/-- What a line break is read as: a line feed or next line as a line feed, the line and paragraph
separators as themselves. -/
def breakOf? (c : CodePoint) : Option CodePoint :=
  if c = .char '\n' || c = .char '\x85' then some (.char '\n')
  else if c = .char '\u2028' || c = .char '\u2029' then some c
  else none

/-- Whether a code point ends a line. -/
def isBreak (c : CodePoint) : Bool := (breakOf? c).isSome

/-- Whether a code point is a space or a tab. -/
def isSpaceOrTab (c : CodePoint) : Bool := c = .char ' ' || c = .char '\t'

/-- Whether a text has come to the end of a line. -/
def endsLine : Text → Bool
  | [] => true
  | c :: _ => isBreak c

/-- Whether a text has come to the end of a line or to a space. -/
def endsField : Text → Bool
  | [] => true
  | c :: _ => c = .char ' ' || isBreak c

/-- Whether a text has come to the end of a line, to a space or to a tab. -/
def endsWord : Text → Bool
  | [] => true
  | c :: _ => isSpaceOrTab c || isBreak c

/-- Whether a line starts with three hyphens or three points as a word of their own, which separate
documents. -/
def atSeparator (t : Text) : Bool :=
  (t.take 3 == Text.ofString "---" || t.take 3 == Text.ofString "...") && endsWord (t.drop 3)

/-- Whether a code point may stand in the name of an anchor, a tag handle or a directive. -/
def isWordCharacter (c : CodePoint) : Bool :=
  let n := c.toNat
  (0x30 ≤ n && n ≤ 0x39) || (0x41 ≤ n && n ≤ 0x5A) || (0x61 ≤ n && n ≤ 0x7A) ||
    n == 0x2D || n == 0x5F

/-- Whether one of the characters of a string starts the text. -/
def startsWithOneOf (characters : String) : Text → Bool
  | [] => false
  | c :: _ => (Text.ofString characters).contains c

end Shapewright.Yaml
