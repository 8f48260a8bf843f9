import Shapewright.Text.Basic

/-!
# Base64

Binary scalars are in base 64.  Code points outside of its alphabet are passed over, and the padding
ends the data.
-/

namespace Shapewright.Yaml.Base64

/-- The value of a digit. -/
def digit? (c : CodePoint) : Option Nat :=
  let n := c.toNat
  if 0x41 ≤ n ∧ n ≤ 0x5A then some (n - 0x41)
  else if 0x61 ≤ n ∧ n ≤ 0x7A then some (n - 0x61 + 26)
  else if 0x30 ≤ n ∧ n ≤ 0x39 then some (n - 0x30 + 52)
  else if n = 0x2B then some 62
  else if n = 0x2F then some 63
  else none

/-- The bytes of a text.  `phase` digits of a group of four have been read, the last of them left
`carry` behind, and `pads` padding marks followed. -/
def decodeFrom (phase carry pads : Nat) : Text → Option (List UInt8)
  | [] => if phase = 0 then some [] else none
  | c :: rest =>
    if c = .char '=' then
      if 2 ≤ phase then
        if 4 ≤ phase + (pads + 1) then some [] else decodeFrom phase carry (pads + 1) rest
      else decodeFrom phase carry pads rest
    else
      match digit? c with
      | none => decodeFrom phase carry pads rest
      | some n =>
        match phase with
        | 0 => decodeFrom 1 n 0 rest
        | 1 => (decodeFrom 2 (n % 16) 0 rest).map ((carry * 4 + n / 16).toUInt8 :: ·)
        | 2 => (decodeFrom 3 (n % 4) 0 rest).map ((carry * 16 + n / 4).toUInt8 :: ·)
        | _ => (decodeFrom 0 0 0 rest).map ((carry * 64 + n).toUInt8 :: ·)

/-- The bytes of a text in ASCII. -/
def decode (t : Text) : Option (List UInt8) :=
  if t.all (fun c => c.toNat < 0x80) then decodeFrom 0 0 0 t else none

end Shapewright.Yaml.Base64
