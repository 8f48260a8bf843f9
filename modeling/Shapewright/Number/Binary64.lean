/-!
# Binary64 numbers

Floating-point numbers as exact values: a sign, a significand and a power of two.  Rounding, the
sum and the product are computed on natural numbers, to nearest with ties to even.
-/

namespace Shapewright

/-- A binary64 number; a finite one is `± significand * 2 ^ exponent`. -/
inductive Binary64 where
  | nan
  | infinite (negative : Bool)
  | finite (negative : Bool) (significand : Nat) (exponent : Int)
deriving DecidableEq

namespace Binary64

/-- The exponent of the smallest positive number. -/
def minExponent : Int := -1074

/-- The exponent of the largest finite number. -/
def maxExponent : Int := 971

/-- Zero with a sign. -/
def signedZero (negative : Bool) : Binary64 := .finite negative 0 minExponent

/-- Whether a number is neither a NaN nor an infinity. -/
def isFinite : Binary64 → Bool
  | .finite .. => true
  | _ => false

/-- Whether a number is a zero of either sign. -/
def isZero : Binary64 → Bool
  | .finite _ significand _ => significand == 0
  | _ => false

/-- The number with the opposite sign. -/
def negate : Binary64 → Binary64
  | .nan => .nan
  | .infinite negative => .infinite !negative
  | .finite negative significand exponent => .finite (!negative) significand exponent

/-- A quotient of natural numbers rounded to nearest, a half to the even neighbour. -/
def divideToEven (numerator denominator : Nat) : Nat :=
  let quotient := numerator / denominator
  let rest := numerator % denominator
  if 2 * rest < denominator then quotient
  else if denominator < 2 * rest then quotient + 1
  else quotient + quotient % 2

/-- The quotient of two numbers in units of `2 ^ exponent`, rounded to nearest. -/
def scaledQuotient (numerator denominator : Nat) (exponent : Int) : Nat :=
  if 0 ≤ exponent then divideToEven numerator (denominator * Nat.pow 2 exponent.toNat)
  else divideToEven (numerator * Nat.pow 2 (-exponent).toNat) denominator

/-- The exponent at which the quotient of two positive numbers has 53 binary digits, or the least
exponent if that is smaller. -/
def exponentFor (numerator denominator : Nat) : Int :=
  let low : Int := (numerator.log2 : Int) - (denominator.log2 : Int) - 53
  let high := low + 1
  let reachesHigh :=
    if 0 ≤ high then denominator * Nat.pow 2 high.toNat * Nat.pow 2 52 ≤ numerator
    else denominator * Nat.pow 2 52 ≤ numerator * Nat.pow 2 (-high).toNat
  max minExponent (if reachesHigh then high else low)

/-- The number nearest to a quotient of natural numbers, with a sign. -/
def ofRatio (negative : Bool) (numerator denominator : Nat) : Binary64 :=
  if numerator = 0 then signedZero negative
  else
    let exponent := exponentFor numerator denominator
    let significand := scaledQuotient numerator denominator exponent
    let (significand, exponent) :=
      if significand = Nat.pow 2 53 then (Nat.pow 2 52, exponent + 1) else (significand, exponent)
    if maxExponent < exponent then .infinite negative else .finite negative significand exponent

/-- The number of decimal digits of a natural number; zero has one. -/
def digitCount (n : Nat) : Nat := (Nat.toDigits 10 n).length

/-- The number nearest to `± digits * 10 ^ exponent`.  Far outside the range of finite numbers the
answer is known without computing the power. -/
def ofDecimal (negative : Bool) (digits : Nat) (exponent : Int) : Binary64 :=
  if digits = 0 then signedZero negative
  else
    let magnitude : Int := digitCount digits + exponent
    if 400 < magnitude then .infinite negative
    else if magnitude < -400 then signedZero negative
    else if 0 ≤ exponent then ofRatio negative (digits * Nat.pow 10 exponent.toNat) 1
    else ofRatio negative digits (Nat.pow 10 (-exponent).toNat)

/-- The number nearest to an integer; too large an integer gives an infinity. -/
def ofInt (n : Int) : Binary64 := ofRatio (n < 0) n.natAbs 1

/-- The number nearest to `n * 2 ^ exponent`; a zero is positive. -/
def ofScaled (n exponent : Int) : Binary64 :=
  if 0 ≤ exponent then ofRatio (n < 0) (n.natAbs * Nat.pow 2 exponent.toNat) 1
  else ofRatio (n < 0) n.natAbs (Nat.pow 2 (-exponent).toNat)

/-- The integer that counts `2 ^ exponent` in a signed number. -/
def signedSignificand (negative : Bool) (significand : Nat) : Int :=
  if negative then -(significand : Int) else significand

/-- The sum of two numbers. -/
def add : Binary64 → Binary64 → Binary64
  | .nan, _ => .nan
  | _, .nan => .nan
  | .infinite s, .infinite t => if s = t then .infinite s else .nan
  | .infinite s, _ => .infinite s
  | _, .infinite t => .infinite t
  | .finite s m e, .finite t n f =>
    if m = 0 ∧ n = 0 then signedZero (s && t)
    else
      let low := min e f
      let left := signedSignificand s (m * Nat.pow 2 (e - low).toNat)
      let right := signedSignificand t (n * Nat.pow 2 (f - low).toNat)
      ofScaled (left + right) low

/-- The product of two numbers. -/
def multiply : Binary64 → Binary64 → Binary64
  | .nan, _ => .nan
  | _, .nan => .nan
  | .infinite s, .infinite t => .infinite (s != t)
  | .infinite s, .finite t n _ => if n = 0 then .nan else .infinite (s != t)
  | .finite s m _, .infinite t => if m = 0 then .nan else .infinite (s != t)
  | .finite s m e, .finite t n f =>
    let exponent := e + f
    if 0 ≤ exponent then ofRatio (s != t) (m * n * Nat.pow 2 exponent.toNat) 1
    else ofRatio (s != t) (m * n) (Nat.pow 2 (-exponent).toNat)

/-- The integer that a number is, if it is one. -/
def toInt? : Binary64 → Option Int
  | .finite negative significand exponent =>
    if 0 ≤ exponent then
      some (signedSignificand negative (significand * Nat.pow 2 exponent.toNat))
    else
      let unit := Nat.pow 2 (-exponent).toNat
      if significand % unit = 0 then some (signedSignificand negative (significand / unit))
      else none
  | _ => none

end Binary64

end Shapewright
