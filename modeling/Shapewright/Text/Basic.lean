/-!
# Text

A text is a list of code points.  A code point is either a character, that is a Unicode scalar
value, or a lone surrogate: escapes such as `\ud800` may leave one behind, and it travels through
names and settings until something has to be encoded.
-/

namespace Shapewright

/-- A code point: a character, or a lone surrogate given by its distance from U+D800. -/
inductive CodePoint where
  | char (c : Char)
  | surrogate (offset : Fin 0x800)
deriving DecidableEq

namespace CodePoint

instance : Inhabited CodePoint := ⟨.char ' '⟩

/-- The number of a code point. -/
def toNat : CodePoint → Nat
  | .char c => c.toNat
  | .surrogate offset => 0xD800 + offset.val

/-- The code point with a number below 0x110000; larger numbers have none and give U+0000. -/
def ofNat (n : Nat) : CodePoint :=
  if h : 0xD800 ≤ n ∧ n < 0xE000 then .surrogate ⟨n - 0xD800, by omega⟩
  else .char (Char.ofNat n)

/-- Whether a code point is the first half of a surrogate pair. -/
def isHighSurrogate : CodePoint → Bool
  | .char _ => false
  | .surrogate offset => offset.val < 0x400

/-- Whether a code point is the second half of a surrogate pair. -/
def isLowSurrogate : CodePoint → Bool
  | .char _ => false
  | .surrogate offset => 0x400 ≤ offset.val

/-- The character that a high and a low surrogate stand for together. -/
def ofPair (high low : CodePoint) : CodePoint :=
  ofNat (0x10000 + (high.toNat - 0xD800) * 0x400 + (low.toNat - 0xDC00))

end CodePoint

/-- A text is a list of code points. -/
abbrev Text := List CodePoint

namespace Text

/-- The text of a string, which holds no surrogate. -/
def ofString (s : String) : Text := s.toList.map .char

instance : Coe String Text := ⟨ofString⟩

/-- The string of a text; a lone surrogate becomes the replacement character. -/
def toString (t : Text) : String :=
  String.ofList (t.map fun
    | .char c => c
    | .surrogate _ => '\uFFFD')

/-- Whether a text consists of characters only. -/
def isWellFormed (t : Text) : Bool :=
  t.all fun
    | .char _ => true
    | .surrogate _ => false

/-- The texts, one after the other, with a separator between each two. -/
def join (separator : Text) : List Text → Text
  | [] => []
  | [t] => t
  | t :: rest => t ++ separator ++ join separator rest

/-- The parts of a text between the occurrences of a code point; never an empty list. -/
def splitOn (separator : CodePoint) : Text → List Text
  | [] => [[]]
  | c :: rest =>
    if c = separator then [] :: splitOn separator rest
    else
      match splitOn separator rest with
      | [] => [[c]]
      | part :: parts => (c :: part) :: parts

/-- A text without the code points at both ends that satisfy the test. -/
def trim (isTrimmed : CodePoint → Bool) (t : Text) : Text :=
  ((t.dropWhile isTrimmed).reverse.dropWhile isTrimmed).reverse

/-- The digits of a natural number in a base up to sixteen, in lower case. -/
def ofNat (base : Nat) (n : Nat) : Text := (Nat.toDigits base n).map .char

/-- The decimal text of an integer. -/
def ofInt : Int → Text
  | .ofNat n => ofNat 10 n
  | .negSucc n => .char '-' :: ofNat 10 (n + 1)

/-- A text with the given code point put in front until it has the wanted length. -/
def padLeft (filler : CodePoint) (length : Nat) (t : Text) : Text :=
  List.replicate (length - t.length) filler ++ t

/-- A text with the ASCII capitals in lower case. -/
def asciiLower (t : Text) : Text :=
  t.map fun
    | .char c => .char c.toLower
    | c => c

end Text

/-- Whether a number lies in one of the ranges, which are sorted and include both ends. -/
def inRanges : List (Nat × Nat) → Nat → Bool
  | [], _ => false
  | (low, high) :: rest, n => if n < low then false else n ≤ high || inRanges rest n

end Shapewright
