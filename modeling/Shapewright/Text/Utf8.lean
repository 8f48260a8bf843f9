import Shapewright.Text.Quoted

/-!
# UTF-8

Encoding fails at the first run of lone surrogates, decoding at the first bytes that are not the
shortest form of a character.  Both failures say where they are and have one wording.
-/

namespace Shapewright

/-- The surrogates that could not be encoded: the first of the run, its place and its length. -/
structure EncodingError where
  first : CodePoint
  position : Nat
  length : Nat
deriving DecidableEq

/-- Why a sequence of bytes is not UTF-8. -/
inductive DecodingFault where
  | invalidStart
  | invalidContinuation
  | unexpectedEnd
deriving DecidableEq

/-- The bytes that could not be decoded: the first of them, their place and their number. -/
structure DecodingError where
  first : UInt8
  position : Nat
  length : Nat
  fault : DecodingFault
deriving DecidableEq

namespace EncodingError

/-- The wording of an encoding error. -/
def message (e : EncodingError) : Text :=
  if e.length = 1 then
    Text.ofString "'utf-8' codec can't encode character '" ++ Text.escapeUnprintable e.first ++
      Text.ofString "' in position " ++ Text.ofNat 10 e.position ++
      Text.ofString ": surrogates not allowed"
  else
    Text.ofString "'utf-8' codec can't encode characters in position " ++
      Text.ofNat 10 e.position ++ .char '-' :: Text.ofNat 10 (e.position + e.length - 1) ++
      Text.ofString ": surrogates not allowed"

end EncodingError

namespace DecodingError

/-- The wording of the reason. -/
def reason : DecodingFault → Text
  | .invalidStart => "invalid start byte"
  | .invalidContinuation => "invalid continuation byte"
  | .unexpectedEnd => "unexpected end of data"

/-- The wording of a decoding error. -/
def message (e : DecodingError) : Text :=
  if e.length = 1 then
    Text.ofString "'utf-8' codec can't decode byte 0x" ++ Text.hex 2 e.first.toNat ++
      Text.ofString " in position " ++ Text.ofNat 10 e.position ++ Text.ofString ": " ++
      reason e.fault
  else
    Text.ofString "'utf-8' codec can't decode bytes in position " ++ Text.ofNat 10 e.position ++
      .char '-' :: Text.ofNat 10 (e.position + e.length - 1) ++ Text.ofString ": " ++
      reason e.fault

end DecodingError

namespace Utf8

/-- The one to four bytes of a character. -/
def encodeChar (c : Char) : List UInt8 :=
  let n := c.toNat
  if n < 0x80 then [n.toUInt8]
  else if n < 0x800 then [(0xC0 + n / 0x40).toUInt8, (0x80 + n % 0x40).toUInt8]
  else if n < 0x10000 then
    [(0xE0 + n / 0x1000).toUInt8, (0x80 + n / 0x40 % 0x40).toUInt8, (0x80 + n % 0x40).toUInt8]
  else
    [(0xF0 + n / 0x40000).toUInt8, (0x80 + n / 0x1000 % 0x40).toUInt8,
      (0x80 + n / 0x40 % 0x40).toUInt8, (0x80 + n % 0x40).toUInt8]

/-- The number of surrogates at the start of a text. -/
def surrogateRun : Text → Nat
  | .surrogate _ :: rest => surrogateRun rest + 1
  | _ => 0

/-- The bytes of a text whose first code point stands at the given position. -/
def encodeFrom (position : Nat) : Text → Except EncodingError (List UInt8)
  | [] => .ok []
  | .char c :: rest =>
    match encodeFrom (position + 1) rest with
    | .ok bytes => .ok (encodeChar c ++ bytes)
    | .error e => .error e
  | .surrogate offset :: rest =>
    .error ⟨.surrogate offset, position, surrogateRun rest + 1⟩

/-- The bytes of a text. -/
def encode (t : Text) : Except EncodingError (List UInt8) := encodeFrom 0 t

/-- Whether a byte may stand behind the first of a character. -/
def isContinuation (b : UInt8) : Bool := 0x80 ≤ b && b < 0xC0

/-- Whether `second` may stand right behind `first` in a character of three or four bytes: no
overlong form, no surrogate, nothing above U+10FFFF. -/
def isSecondOf (first second : UInt8) : Bool :=
  isContinuation second &&
    !(first == 0xE0 && second < 0xA0) && !(first == 0xED && 0xA0 ≤ second) &&
    !(first == 0xF0 && second < 0x90) && !(first == 0xF4 && 0x90 ≤ second)

/-- The six low bits of a continuation byte. -/
def lowBits (b : UInt8) : Nat := b.toNat % 0x40

/-- The first character of a sequence of bytes and what follows it, or why there is none with the
number of bytes at fault. -/
def decodeChar : List UInt8 → Except (DecodingFault × Nat) (CodePoint × List UInt8)
  | [] => .error (.unexpectedEnd, 0)
  | b :: rest =>
    if b < 0x80 then .ok (.ofNat b.toNat, rest)
    else if b < 0xC2 || 0xF5 ≤ b then .error (.invalidStart, 1)
    else if b < 0xE0 then
      match rest with
      | [] => .error (.unexpectedEnd, 1)
      | b₂ :: rest =>
        if isContinuation b₂ then .ok (.ofNat ((b.toNat - 0xC0) * 0x40 + lowBits b₂), rest)
        else .error (.invalidContinuation, 1)
    else if b < 0xF0 then
      match rest with
      | [] => .error (.unexpectedEnd, 1)
      | b₂ :: rest =>
        if !isSecondOf b b₂ then .error (.invalidContinuation, 1)
        else
          match rest with
          | [] => .error (.unexpectedEnd, 2)
          | b₃ :: rest =>
            if isContinuation b₃ then
              .ok (.ofNat ((b.toNat - 0xE0) * 0x1000 + lowBits b₂ * 0x40 + lowBits b₃), rest)
            else .error (.invalidContinuation, 2)
    else
      match rest with
      | [] => .error (.unexpectedEnd, 1)
      | b₂ :: rest =>
        if !isSecondOf b b₂ then .error (.invalidContinuation, 1)
        else
          match rest with
          | [] => .error (.unexpectedEnd, 2)
          | b₃ :: rest =>
            if !isContinuation b₃ then .error (.invalidContinuation, 2)
            else
              match rest with
              | [] => .error (.unexpectedEnd, 3)
              | b₄ :: rest =>
                if isContinuation b₄ then
                  .ok (.ofNat ((b.toNat - 0xF0) * 0x40000 + lowBits b₂ * 0x1000 +
                    lowBits b₃ * 0x40 + lowBits b₄), rest)
                else .error (.invalidContinuation, 3)

/-- The text of the last bytes of a sequence of `total` bytes; `fuel` bounds the number of
characters. -/
def decodeWithin (total fuel : Nat) (bytes : List UInt8) : Except DecodingError Text :=
  match fuel, bytes with
  | _, [] => .ok []
  | 0, _ => .ok []
  | fuel + 1, b :: rest =>
    match decodeChar (b :: rest) with
    | .error (fault, length) => .error ⟨b, total - (rest.length + 1), length, fault⟩
    | .ok (c, rest) =>
      match decodeWithin total fuel rest with
      | .ok t => .ok (c :: t)
      | .error e => .error e

/-- The text of a sequence of bytes. -/
def decode (bytes : List UInt8) : Except DecodingError Text :=
  decodeWithin bytes.length bytes.length bytes

end Utf8

end Shapewright
