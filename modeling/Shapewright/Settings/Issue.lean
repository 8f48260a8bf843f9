import Shapewright.Text.Basic

/-!
# Issues

What can be wrong with a setting, where, and how it is worded.
-/

namespace Shapewright

/-- What can be wrong with the value of a setting. -/
inductive Flaw where
  | notInteger
  | unreadableInteger
  | fractional
  | oversized
  | notFinite
  | notUnicode
  | belowMinimum
  | aboveMaximum
  | notPositive
  | notText
  | notMapping
  | blankTypeName
  | noPlaceholder
  | noLeadingDot
deriving DecidableEq

namespace Flaw

/-- The code of a flaw. -/
def code : Flaw → Text
  | .notInteger => "int_type"
  | .unreadableInteger => "int_parsing"
  | .fractional => "int_from_float"
  | .oversized => "int_parsing_size"
  | .notFinite => "finite_number"
  | .notUnicode => "string_unicode"
  | .belowMinimum => "greater_than_equal"
  | .aboveMaximum => "less_than_equal"
  | .notPositive => "greater_than"
  | .notText => "string_type"
  | .notMapping => "model_type"
  | .blankTypeName => "value_error"
  | .noPlaceholder => "value_error"
  | .noLeadingDot => "value_error"

/-- The wording of a flaw. -/
def message : Flaw → Text
  | .notInteger => "Input should be a valid integer"
  | .unreadableInteger =>
    "Input should be a valid integer, unable to parse string as an integer"
  | .fractional => "Input should be a valid integer, got a number with a fractional part"
  | .oversized => "Unable to parse input string as an integer, exceeded maximum size"
  | .notFinite => "Input should be a finite number"
  | .notUnicode => "Input should be a valid string, unable to parse raw data as a unicode string"
  | .belowMinimum => "Input should be greater than or equal to 1"
  | .aboveMaximum => "Input should be less than or equal to 16"
  | .notPositive => "Input should be greater than 0"
  | .notText => "Input should be a valid string"
  | .notMapping => "Input should be a valid dictionary or instance of TypeMapping"
  | .blankTypeName => "Value error, type names must not be blank"
  | .noPlaceholder => "Value error, collection must contain a '\x7b\x7d' element placeholder"
  | .noLeadingDot => "Value error, file_extension must start with '.'"

end Flaw

/-- A flaw and the path of keys to the setting that has it. -/
structure Issue where
  location : List Text
  flaw : Flaw
deriving DecidableEq

end Shapewright
