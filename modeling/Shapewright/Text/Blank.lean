import Shapewright.Text.Basic

/-!
# Blanks

Two sets of white space.  The wide one also holds the four information separators U+001C to U+001F;
it is what is trimmed from documents, names and settings.  The narrow one is the Unicode property
`White_Space`; it is what is trimmed from a text that stands for a number.
-/

namespace Shapewright

/-- The code points with the Unicode property `White_Space`. -/
def whiteSpaceRanges : List (Nat × Nat) :=
  [(0x9, 0xD), (0x20, 0x20), (0x85, 0x85), (0xA0, 0xA0), (0x1680, 0x1680), (0x2000, 0x200A),
   (0x2028, 0x2029), (0x202F, 0x202F), (0x205F, 0x205F), (0x3000, 0x3000)]

namespace CodePoint

/-- Whether a code point has the Unicode property `White_Space`. -/
def isWhiteSpace (c : CodePoint) : Bool := inRanges whiteSpaceRanges c.toNat

/-- Whether a code point is white space or one of the four information separators. -/
def isBlank (c : CodePoint) : Bool :=
  c.isWhiteSpace || (0x1C ≤ c.toNat && c.toNat ≤ 0x1F)

end CodePoint

namespace Text

/-- A text without the blanks at both ends. -/
def trimBlanks (t : Text) : Text := trim CodePoint.isBlank t

/-- Whether a text holds nothing but blanks. -/
def isBlank (t : Text) : Bool := t.all CodePoint.isBlank

/-- The parts of a text between the code points that satisfy a test; never an empty list. -/
def splitOnAny (isSeparator : CodePoint → Bool) : Text → List Text
  | [] => [[]]
  | c :: rest =>
    if isSeparator c then [] :: splitOnAny isSeparator rest
    else
      match splitOnAny isSeparator rest with
      | [] => [[c]]
      | part :: parts => (c :: part) :: parts

/-- The longest parts of a text without a blank. -/
def words (t : Text) : List Text := (splitOnAny CodePoint.isBlank t).filter (!·.isEmpty)

end Text

end Shapewright
