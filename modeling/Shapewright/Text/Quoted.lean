import Shapewright.Text.Printable

/-!
# Quoted texts

How a message shows a text: between single quotes, or between double quotes if it holds a single
quote and no double quote.  What does not print is shown by a backslash escape.
-/

namespace Shapewright.Text

/-- The lower-case hexadecimal digits of a number, at least `length` of them. -/
def hex (length n : Nat) : Text := padLeft (.char '0') length (ofNat 16 n)

/-- The escape of a code point that does not print. -/
def escapeUnprintable (c : CodePoint) : Text :=
  let n := c.toNat
  if n < 0x100 then ofString "\\x" ++ hex 2 n
  else if n < 0x10000 then ofString "\\u" ++ hex 4 n
  else ofString "\\U" ++ hex 8 n

/-- One code point as shown between the given quotes. -/
def quoteCodePoint (quote : CodePoint) (c : CodePoint) : Text :=
  if c = quote ∨ c = .char '\\' then [.char '\\', c]
  else if c = .char '\n' then ofString "\\n"
  else if c = .char '\r' then ofString "\\r"
  else if c = .char '\t' then ofString "\\t"
  else if c.isPrintable then [c]
  else escapeUnprintable c

/-- The quote that a text is shown in. -/
def quoteFor (t : Text) : CodePoint :=
  if t.contains (.char '\'') && !t.contains (.char '"') then .char '"' else .char '\''

/-- A text between quotes, with escapes for what does not print. -/
def quoted (t : Text) : Text :=
  let quote := quoteFor t
  quote :: t.flatMap (quoteCodePoint quote) ++ [quote]

end Shapewright.Text
