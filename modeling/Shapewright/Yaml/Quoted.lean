import Shapewright.Text.Digit
import Shapewright.Yaml.Error
import Shapewright.Yaml.Plain

/-!
# Quoted scalars

Between single quotes a quote is written twice and all else stands for itself; between double quotes
a backslash starts an escape.  Line ends are folded as in plain scalars.
-/

namespace Shapewright.Yaml

/-- The line breaks at the start of a line within quotes, and what follows them and the blanks
around them.  A document separator may not stand there. -/
def quotedBreaks (atLineStart : Bool) : Text → Except Error (Text × Text)
  | [] => .ok ([], [])
  | c :: rest =>
    if atLineStart && atSeparator (c :: rest) then .error .malformed
    else if isSpaceOrTab c then quotedBreaks false rest
    else
      match breakOf? c with
      | some b => (quotedBreaks true rest).map fun (breaks, rest) => (b :: breaks, rest)
      | none => .ok ([], c :: rest)

/-- The blank part at the start of a text within quotes, as it adds to the scalar, and what follows
it. -/
def quotedGap (t : Text) : Except Error (Text × Text) :=
  let (spaces, rest) := t.span isSpaceOrTab
  match rest with
  | [] => .error .malformed
  | c :: rest' =>
    match breakOf? c with
    | none => .ok (spaces, rest)
    | some first =>
      (quotedBreaks true rest').map fun (breaks, rest) => (foldBreaks first breaks, rest)

/-- The code point that a one-letter escape stands for. -/
def escapeOf? : CodePoint → Option CodePoint
  | .char '0' => some (.char '\x00')
  | .char 'a' => some (.char '\x07')
  | .char 'b' => some (.char '\x08')
  | .char 't' => some (.char '\t')
  | .char '\t' => some (.char '\t')
  | .char 'n' => some (.char '\n')
  | .char 'v' => some (.char '\x0b')
  | .char 'f' => some (.char '\x0c')
  | .char 'r' => some (.char '\r')
  | .char 'e' => some (.char '\x1b')
  | .char ' ' => some (.char ' ')
  | .char '"' => some (.char '"')
  | .char '\\' => some (.char '\\')
  | .char '/' => some (.char '/')
  | .char 'N' => some (.char '\x85')
  | .char '_' => some (.char '\xa0')
  | .char 'L' => some (.char '\u2028')
  | .char 'P' => some (.char '\u2029')
  | _ => none

/-- The number of hexadecimal digits behind the letter of a numeric escape. -/
def escapeLength? : CodePoint → Option Nat
  | .char 'x' => some 2
  | .char 'u' => some 4
  | .char 'U' => some 8
  | _ => none

/-- The number of a given count of hexadecimal digits, and what follows them. -/
def readHex (n : Nat) : Nat → Text → Except Error (Nat × Text)
  | 0, t => .ok (n, t)
  | _ + 1, [] => .error .malformed
  | count + 1, c :: rest =>
    match c.hexDigit? with
    | some digit => readHex (n * 16 + digit) count rest
    | none => .error .malformed

/-- The code point of a numeric escape. -/
def codePointOf (n : Nat) : Except Error CodePoint :=
  if n < 0x110000 then .ok (.ofNat n)
  else if n < 0x80000000 then .error .malformed
  else .error .escapeTooLarge

/-- What the escape at the start of a text, behind its backslash, adds to the scalar, and what
follows it.  A line break that is escaped vanishes with the blanks around it. -/
def readEscape : Text → Except Error (Text × Text)
  | [] => .error .malformed
  | c :: rest =>
    match escapeOf? c with
    | some c => .ok ([c], rest)
    | none =>
      match escapeLength? c with
      | some length => do
        let (n, rest) ← readHex 0 length rest
        let c ← codePointOf n
        .ok ([c], rest)
      | none => if isBreak c then quotedBreaks true rest else .error .malformed

/-- The content of a scalar up to its closing single quote, and what follows it; `fuel` bounds the
number of steps. -/
def singleQuoted (fuel : Nat) (t : Text) : Except Error (Text × Text) :=
  match fuel, t with
  | 0, _ => .error .malformed
  | _, [] => .error .malformed
  | fuel + 1, .char '\'' :: .char '\'' :: rest =>
    (singleQuoted fuel rest).map fun (content, rest) => (.char '\'' :: content, rest)
  | _ + 1, .char '\'' :: rest => .ok ([], rest)
  | fuel + 1, c :: rest =>
    if isSpaceOrTab c || isBreak c then do
      let (gap, rest) ← quotedGap (c :: rest)
      let (content, rest) ← singleQuoted fuel rest
      .ok (gap ++ content, rest)
    else (singleQuoted fuel rest).map fun (content, rest) => (c :: content, rest)

/-- The content of a scalar up to its closing double quote, and what follows it; `fuel` bounds the
number of steps. -/
def doubleQuoted (fuel : Nat) (t : Text) : Except Error (Text × Text) :=
  match fuel, t with
  | 0, _ => .error .malformed
  | _, [] => .error .malformed
  | _ + 1, .char '"' :: rest => .ok ([], rest)
  | fuel + 1, .char '\\' :: rest => do
    let (escaped, rest) ← readEscape rest
    let (content, rest) ← doubleQuoted fuel rest
    .ok (escaped ++ content, rest)
  | fuel + 1, c :: rest =>
    if isSpaceOrTab c || isBreak c then do
      let (gap, rest) ← quotedGap (c :: rest)
      let (content, rest) ← doubleQuoted fuel rest
      .ok (gap ++ content, rest)
    else (doubleQuoted fuel rest).map fun (content, rest) => (c :: content, rest)

end Shapewright.Yaml
