import Shapewright.Text.Digit
import Shapewright.Text.Utf8
import Shapewright.Yaml.Character
import Shapewright.Yaml.Token

/-!
# Anchors, tags and directives

The tokens that are no values: names for nodes, tags for nodes, and the directives in front of a
document.
-/

namespace Shapewright.Yaml

/-- A token and what follows it. -/
abbrev Scanned := Except Error (Token × Text)

/-- A name of at least one word character at the start of a text, and what follows it. -/
def readName (t : Text) : Except Error (Text × Text) :=
  match t.span isWordCharacter with
  | ([], _) => .error .malformed
  | (name, rest) => .ok (name, rest)

/-- The name of an anchor or alias at the start of a text, and what follows it. -/
def readAnchorName (t : Text) : Except Error (Text × Text) := do
  let (name, rest) ← readName t
  if endsWord rest || startsWithOneOf "?:,]\x7d%@\x60" rest then .ok (name, rest)
  else .error .malformed

/-- The handle of a tag at the start of a text, and what follows it. -/
def readHandle : Text → Except Error (Text × Text)
  | .char '!' :: rest =>
    match rest with
    | .char ' ' :: _ => .ok (Text.ofString "!", rest)
    | rest =>
      match rest.span isWordCharacter with
      | (name, .char '!' :: rest) => .ok (.char '!' :: name ++ [.char '!'], rest)
      | _ => .error .malformed
  | _ => .error .malformed

/-- Whether a code point may stand in the suffix of a tag, percent signs apart. -/
def isTagCharacter (c : CodePoint) : Bool :=
  isWordCharacter c || (Text.ofString ";/?:@&=+$,.!~*'()[]").contains c

/-- The bytes of the percent escapes at the start of a text, and what follows them. -/
def percentBytes : Text → Except Error (List UInt8 × Text)
  | .char '%' :: a :: b :: rest =>
    match a.hexDigit?, b.hexDigit? with
    | some high, some low =>
      (percentBytes rest).map fun (bytes, rest) => ((high * 16 + low).toUInt8 :: bytes, rest)
    | _, _ => .error .malformed
  | .char '%' :: _ => .error .malformed
  | rest => .ok ([], rest)

/-- The suffix of a tag at the start of a text, and what follows it; `fuel` bounds the number of
steps. -/
def readSuffix (fuel : Nat) (t : Text) : Except Error (Text × Text) :=
  match fuel, t with
  | 0, _ => .error .malformed
  | _, [] => .ok ([], [])
  | fuel + 1, c :: rest =>
    if c = .char '%' then do
      let (bytes, rest) ← percentBytes (c :: rest)
      match Utf8.decode bytes with
      | .error _ => .error .malformed
      | .ok decoded => do
        let (more, rest) ← readSuffix fuel rest
        .ok (decoded ++ more, rest)
    else if isTagCharacter c then
      (readSuffix fuel rest).map fun (more, rest) => (c :: more, rest)
    else .ok ([], c :: rest)

/-- The suffix of a tag at the start of a text, which is not empty, and what follows it. -/
def readTagSuffix (t : Text) : Except Error (Text × Text) := do
  let (suffix, rest) ← readSuffix (t.length + 1) t
  if rest.length = t.length then .error .malformed else .ok (suffix, rest)

/-- Whether the word at the start of a text, a tag behind its first mark, holds another mark. -/
def hasHandle (t : Text) : Bool :=
  (t.takeWhile (fun c => c != .char ' ' && !isBreak c)).contains (.char '!')

/-- The tag at the start of a text, which begins with an exclamation mark, and what follows it. -/
def readTag (t : Text) : Scanned := do
  let (token, rest) ←
    match t.drop 1 with
    | .char '<' :: rest => do
      let (suffix, rest) ← readTagSuffix rest
      match rest with
      | .char '>' :: rest => pure (Token.tag none suffix, rest)
      | _ => throw .malformed
    | rest =>
      if endsWord rest then pure (Token.tag none (Text.ofString "!"), rest)
      else if hasHandle rest then do
        let (handle, rest) ← readHandle t
        let (suffix, rest) ← readTagSuffix rest
        pure (Token.tag (some handle) suffix, rest)
      else do
        let (suffix, rest) ← readTagSuffix rest
        pure (Token.tag (some (Text.ofString "!")) suffix, rest)
  if endsField rest then .ok (token, rest) else .error .malformed

/-- The number at the start of a text, and what follows it. -/
def readVersionNumber (t : Text) : Except Error (Nat × Text) :=
  match t.span CodePoint.isAsciiDigit with
  | ([], _) => .error .malformed
  | (digits, rest) =>
    if maxDecimalDigits < digits.length then .error .malformed
    else .ok (Text.digitsValue digits, rest)

/-- What follows the spaces at the start of a text. -/
def skipSpaces (t : Text) : Text := t.dropWhile (· = .char ' ')

/-- The version of a version directive, and what follows it. -/
def readVersion (t : Text) : Scanned := do
  let (major, rest) ← readVersionNumber (skipSpaces t)
  match rest with
  | .char '.' :: rest => do
    let (minor, rest) ← readVersionNumber rest
    if endsField rest then .ok (.versionDirective major minor, rest) else .error .malformed
  | _ => .error .malformed

/-- The handle and the expansion of a tag directive, and what follows them. -/
def readTagDefinition (t : Text) : Scanned := do
  let (handle, rest) ← readHandle (skipSpaces t)
  match rest with
  | .char ' ' :: _ => do
    let (expansion, rest) ← readTagSuffix (skipSpaces rest)
    if endsField rest then .ok (.tagDirective handle expansion, rest) else .error .malformed
  | _ => .error .malformed

/-- What follows the spaces and the comment at the end of the line of a directive. -/
def finishDirective (t : Text) : Except Error Text :=
  let t := skipSpaces t
  let t := if startsWithOneOf "#" t then t.dropWhile (fun c => !isBreak c) else t
  if endsLine t then .ok (t.drop 1) else .error .malformed

/-- The directive at the start of a text, behind its percent sign, and what follows its line. -/
def readDirective (t : Text) : Scanned := do
  let (name, rest) ← readName t
  if !endsField rest then .error .malformed
  else do
    let (token, rest) ←
      if name = Text.ofString "YAML" then readVersion rest
      else if name = Text.ofString "TAG" then readTagDefinition rest
      else pure (Token.otherDirective, rest.dropWhile (fun c => !isBreak c))
    let rest ← finishDirective rest
    .ok (token, rest)

end Shapewright.Yaml
