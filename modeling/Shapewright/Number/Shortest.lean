import Shapewright.Number.Binary64
import Shapewright.Text.Basic

/-!
# Shortest decimal text of a binary64 number

The fewest decimal digits that read back as the number, and of those the nearest to it.  Every
decimal in the interval of reals that round to the number reads back; a grid of decimals that has a
point in the interval has one of the two neighbours of the number there.
-/

namespace Shapewright.Binary64

/-- The reals that round to a positive number, as numerators over one denominator.  The ends belong
to the interval if the significand is even. -/
structure RoundingInterval where
  lower : Nat
  value : Nat
  upper : Nat
  denominator : Nat
  closed : Bool

/-- The interval of a positive finite number.  Below a power of two the neighbour is only half as
far away. -/
def roundingInterval (significand : Nat) (exponent : Int) : RoundingInterval :=
  let below := if significand = Nat.pow 2 52 ∧ minExponent < exponent then 1 else 2
  let quarter := exponent - 2
  let factor := if 0 ≤ quarter then Nat.pow 2 quarter.toNat else 1
  { lower := (4 * significand - below) * factor
    value := 4 * significand * factor
    upper := (4 * significand + 2) * factor
    denominator := if 0 ≤ quarter then 1 else Nat.pow 2 (-quarter).toNat
    closed := significand % 2 == 0 }

/-- The interval with numerators and denominator in units of `10 ^ power`. -/
def RoundingInterval.inUnits (i : RoundingInterval) (power : Int) : RoundingInterval :=
  if 0 ≤ power then { i with denominator := i.denominator * Nat.pow 10 power.toNat }
  else
    let factor := Nat.pow 10 (-power).toNat
    { i with lower := i.lower * factor, value := i.value * factor, upper := i.upper * factor }

/-- Whether a whole number of units lies in the interval. -/
def RoundingInterval.holds (i : RoundingInterval) (n : Nat) : Bool :=
  let scaled := n * i.denominator
  if i.closed then i.lower ≤ scaled && scaled ≤ i.upper
  else i.lower < scaled && scaled < i.upper

/-- The whole number of units in the interval that is nearest to the value, if the interval holds
one; of two at the same distance the even one. -/
def RoundingInterval.nearest? (i : RoundingInterval) : Option Nat :=
  let low := i.value / i.denominator
  let high := low + 1
  match i.holds low && 0 < low, i.holds high with
  | true, true =>
    let below := i.value - low * i.denominator
    let above := high * i.denominator - i.value
    some (if below < above then low else if above < below then high else low + low % 2)
  | true, false => some low
  | false, true => some high
  | false, false => none

/-- The power of ten of the leading decimal digit of a positive number. -/
def leadingPower (i : RoundingInterval) : Int :=
  let estimate : Int :=
    Int.fdiv (((i.value.log2 : Int) - (i.denominator.log2 : Int)) * 1233) 4096
  let reaches (power : Int) : Bool :=
    if 0 ≤ power then i.denominator * Nat.pow 10 power.toNat ≤ i.value
    else i.denominator ≤ i.value * Nat.pow 10 (-power).toNat
  if reaches (estimate + 1) then estimate + 1
  else if reaches estimate then estimate
  else estimate - 1

/-- The first hit among the grids with `count` digits, one digit more, and so on; `fuel` bounds the
number of grids.  A hit on the next power of ten has one digit. -/
def firstHit (i : RoundingInterval) (leading : Int) (fuel count : Nat) : Nat × Int :=
  match fuel with
  | 0 => (0, 0)
  | fuel + 1 =>
    let power := leading + 1 - count
    match (i.inUnits power).nearest? with
    | some digits =>
      if digits = Nat.pow 10 count then (Nat.pow 10 (count - 1), power + 1) else (digits, power)
    | none => firstHit i leading fuel (count + 1)

/-- The digits and the power of ten of the shortest decimal of a positive finite number.  Seventeen
digits are always enough. -/
def shortest (significand : Nat) (exponent : Int) : Nat × Int :=
  let i := roundingInterval significand exponent
  firstHit i (leadingPower i) 17 1

/-- A decimal number in text: with a point, and ".0" if it is whole, while its point lies within
sixteen digits or up to four places before them; with an exponent of two digits or more outside. -/
def decimalText (digits : Nat) (power : Int) : Text :=
  let text := Text.ofNat 10 digits
  let point : Int := text.length + power
  if -4 < point ∧ point ≤ 16 then
    if point ≤ 0 then
      Text.ofString "0." ++ List.replicate (-point).toNat (.char '0') ++ text
    else if text.length ≤ point.toNat then
      text ++ List.replicate (point.toNat - text.length) (.char '0') ++ Text.ofString ".0"
    else text.take point.toNat ++ .char '.' :: text.drop point.toNat
  else
    let mantissa :=
      match text with
      | first :: second :: rest => first :: .char '.' :: second :: rest
      | text => text
    let exponent := point - 1
    mantissa ++ .char 'e' :: .char (if exponent < 0 then '-' else '+') ::
      Text.padLeft (.char '0') 2 (Text.ofNat 10 exponent.natAbs)

/-- The shortest text that reads back as the number. -/
def text : Binary64 → Text
  | .nan => "nan"
  | .infinite negative => if negative then "-inf" else "inf"
  | .finite negative significand exponent =>
    let magnitude :=
      if significand = 0 then Text.ofString "0.0"
      else
        let (digits, power) := shortest significand exponent
        decimalText digits power
    if negative then .char '-' :: magnitude else magnitude

end Shapewright.Binary64
