import Shapewright.Text.Digit

/-!
# Timestamps

Dates, alone or with a time of day and an offset, as scalars spell them.
-/

namespace Shapewright.Yaml

/-- The offset of a timestamp: whether it is behind, its hours and its minutes. -/
structure Offset where
  behind : Bool
  hours : Nat
  minutes : Nat

/-- A time of day and maybe its offset. -/
structure TimeOfDay where
  hour : Nat
  minute : Nat
  second : Nat
  offset : Option Offset

/-- The parts of a timestamp as they are spelled. -/
structure Timestamp where
  year : Nat
  month : Nat
  day : Nat
  /-- The numbers of digits of the month and the day. -/
  digits : Nat × Nat
  time : Option TimeOfDay

/-- Whether an offset is less than a day. -/
def Offset.isValid (offset : Offset) : Bool := offset.hours * 60 + offset.minutes < 24 * 60

/-- Whether a time of day exists. -/
def TimeOfDay.isValid (time : TimeOfDay) : Bool :=
  time.hour < 24 && time.minute < 60 && time.second < 60 &&
    (match time.offset with
      | some offset => offset.isValid
      | none => true)

namespace Timestamp

/-- One to `most` digits at the start of a text, at least `least` of them: their value, their
number, and what follows them. -/
def readDigits (least most : Nat) (t : Text) : Option (Nat × Nat × Text) :=
  let digits := (t.take most).takeWhile CodePoint.isAsciiDigit
  if digits.length < least then none
  else
    some (Text.digitsValue digits, digits.length, t.drop digits.length)

/-- What follows a character at the start of a text. -/
def readChar (c : Char) : Text → Option Text
  | .char d :: rest => if c = d then some rest else none
  | _ => none

/-- The offset of a whole text: empty, a `Z`, or hours and maybe minutes with a sign. -/
def readOffset (t : Text) : Option (Option Offset) :=
  match t with
  | [] => some none
  | t =>
    match t.dropWhile (fun c => c = .char ' ' || c = .char '\t') with
    | [.char 'Z'] => some (some ⟨false, 0, 0⟩)
    | .char sign :: rest => do
      if sign != '-' && sign != '+' then none
      else do
        let (hours, _, rest) ← readDigits 1 2 rest
        match rest with
        | [] => some (some ⟨sign = '-', hours, 0⟩)
        | rest => do
          let rest ← readChar ':' rest
          let (minutes, _, rest) ← readDigits 2 2 rest
          if rest.isEmpty then some (some ⟨sign = '-', hours, minutes⟩) else none
    | _ => none

/-- What follows the fraction of a second at the start of a text. -/
def skipFraction : Text → Text
  | .char '.' :: rest => rest.dropWhile CodePoint.isAsciiDigit
  | t => t

/-- The time of day of a whole text, behind the mark between date and time. -/
def readTime (t : Text) : Option TimeOfDay := do
  let (hour, _, rest) ← readDigits 1 2 t
  let rest ← readChar ':' rest
  let (minute, _, rest) ← readDigits 2 2 rest
  let rest ← readChar ':' rest
  let (second, _, rest) ← readDigits 2 2 rest
  let offset ← readOffset (skipFraction rest)
  some ⟨hour, minute, second, offset⟩

/-- What follows the mark between date and time: the letter T, or blanks. -/
def skipMark (t : Text) : Option Text :=
  match t with
  | .char 'T' :: rest => some rest
  | .char 't' :: rest => some rest
  | .char ' ' :: rest => some (rest.dropWhile (fun c => c = .char ' ' || c = .char '\t'))
  | .char '\t' :: rest => some (rest.dropWhile (fun c => c = .char ' ' || c = .char '\t'))
  | _ => none

/-- Reads a whole text. -/
def read? (t : Text) : Option Timestamp := do
  let (year, _, rest) ← readDigits 4 4 t
  let rest ← readChar '-' rest
  let (month, monthDigits, rest) ← readDigits 1 2 rest
  let rest ← readChar '-' rest
  let (day, dayDigits, rest) ← readDigits 1 2 rest
  match rest with
  | [] => some ⟨year, month, day, (monthDigits, dayDigits), none⟩
  | rest => do
    let rest ← skipMark rest
    let time ← readTime rest
    some ⟨year, month, day, (monthDigits, dayDigits), some time⟩

/-- Whether a scalar without a tag is taken for a timestamp: a date alone needs two digits for the
month and the day. -/
def isSpelled (t : Text) : Bool :=
  match read? t with
  | some timestamp => timestamp.time.isSome || timestamp.digits = (2, 2)
  | none => false

/-- The number of days of a month. -/
def daysIn (year month : Nat) : Nat :=
  if month = 2 then
    if year % 4 = 0 ∧ (year % 100 ≠ 0 ∨ year % 400 = 0) then 29 else 28
  else if month = 4 ∨ month = 6 ∨ month = 9 ∨ month = 11 then 30
  else 31

/-- Whether a timestamp is on a day, and at a time, that exists. -/
def isValid (timestamp : Timestamp) : Bool :=
  1 ≤ timestamp.year && 1 ≤ timestamp.month && timestamp.month ≤ 12 && 1 ≤ timestamp.day &&
    timestamp.day ≤ daysIn timestamp.year timestamp.month &&
    (match timestamp.time with
      | some time => time.isValid
      | none => true)

end Timestamp

end Shapewright.Yaml
