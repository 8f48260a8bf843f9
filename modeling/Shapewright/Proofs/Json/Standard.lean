import Shapewright.Value.Basic

/-!
# Standard JSON

The grammar of JSON as a relation between values and texts.  One value has many texts: spaces may
stand around every token, and a character of a string may be written as it is, by a letter behind a
backslash, or by the hexadecimal digits of its code units in either case.

A standard value is one that the grammar can spell within the bounds of the reader: its numbers are
integers of limited length, its strings hold no lone surrogate, and no key of an object is repeated.
-/

namespace Shapewright

namespace Value

/-! ## Standard values -/

mutual

/-- Whether a value is one of standard JSON with integers of limited length and distinct keys. -/
def isStandard : Value → Bool
  | .null => true
  | .boolean _ => true
  | .integer n => (Nat.toDigits 10 n.natAbs).length ≤ 4300
  | .text t => t.isWellFormed
  | .array items => areStandard items
  | .object entries => decide (entries.map (·.1)).Nodup && haveStandard entries
  | .float _ | .bytes _ | .foreign => false

/-- Whether all items of an array are standard. -/
def areStandard : List Value → Bool
  | [] => true
  | v :: rest => isStandard v && areStandard rest

/-- Whether all entries of an object have a standard key and a standard value. -/
def haveStandard : List (Text × Value) → Bool
  | [] => true
  | (key, v) :: rest => key.isWellFormed && isStandard v && haveStandard rest

end

theorem areStandard_iff
    {items : List Value} :
    areStandard items = true ↔ ∀ v ∈ items, v.isStandard = true := by
  induction items with
  | nil =>
      simp [areStandard]
  | cons v rest induction =>
      simp [areStandard, induction]

theorem haveStandard_iff
    {entries : List (Text × Value)} :
    haveStandard entries = true ↔
      ∀ entry ∈ entries, entry.1.isWellFormed = true ∧ entry.2.isStandard = true := by
  induction entries with
  | nil =>
      simp [haveStandard]
  | cons entry rest induction =>
      rcases entry with ⟨key, v⟩
      simp [haveStandard, induction]

mutual

/-- The number of arrays and objects that are open at the deepest place of a value. -/
def nesting : Value → Nat
  | .array items => nestingItems items + 1
  | .object entries => nestingEntries entries + 1
  | _ => 0

/-- The deepest nesting of the items of an array. -/
def nestingItems : List Value → Nat
  | [] => 0
  | v :: rest => max (nesting v) (nestingItems rest)

/-- The deepest nesting of the entries of an object. -/
def nestingEntries : List (Text × Value) → Nat
  | [] => 0
  | (_, v) :: rest => max (nesting v) (nestingEntries rest)

end

end Value

namespace Json

/-! ## Tokens -/

/-- A text of spaces, tabs, carriage returns and line feeds. -/
def IsSpacing (t : Text) : Prop :=
  ∀ c ∈ t, c ∈ [CodePoint.char ' ', .char '\t', .char '\r', .char '\n']

instance (t : Text) : Decidable (IsSpacing t) :=
  inferInstanceAs (Decidable (∀ c ∈ t, c ∈ _))

/-- A run of decimal digits that starts with a zero only if it is the zero. -/
structure IsDigits (digits : List Char) : Prop where
  nonempty : digits ≠ []
  digit : ∀ c ∈ digits, c.isDigit = true
  leading : digits.head? = some '0' → digits = ['0']

/-- The texts of an integer: the digits of its absolute value, behind a minus if it is negative.  A
zero may have a minus, too. -/
inductive SpellsInteger : Int → Text → Prop where
  | natural {digits : List Char} :
      IsDigits digits →
        SpellsInteger (Nat.ofDigitChars 10 digits 0 : Nat) (digits.map .char)
  | negative {digits : List Char} :
      IsDigits digits →
        SpellsInteger (-(Nat.ofDigitChars 10 digits 0 : Nat)) (.char '-' :: digits.map .char)

/-- A hexadecimal digit in either case. -/
def hexForms (n : Nat) : List Char := [n.digitChar, n.digitChar.toUpper]

/-- The texts of a code unit: four hexadecimal digits behind a backslash and a `u`. -/
inductive SpellsUnit : Nat → Text → Prop where
  | mk {n : Nat} {a b c d : Char} :
      a ∈ hexForms (n / 0x1000 % 0x10) → b ∈ hexForms (n / 0x100 % 0x10) →
        c ∈ hexForms (n / 0x10 % 0x10) → d ∈ hexForms (n % 0x10) →
          SpellsUnit n [.char '\\', .char 'u', .char a, .char b, .char c, .char d]

/-- The letters that stand behind a backslash, each with the character that it is short for. -/
def shortEscapes : List (Char × Char) :=
  [('"', '"'), ('\\', '\\'), ('/', '/'), ('b', '\x08'), ('f', '\x0c'), ('n', '\n'), ('r', '\r'),
    ('t', '\t')]

/-- The texts of a character in a string: itself, unless it is a control character, a quote or a
backslash; a short escape; its code unit; or the two code units of its surrogate pair. -/
inductive SpellsChar : Char → Text → Prop where
  | raw {c : Char} : 0x20 ≤ c.toNat → c ≠ '"' → c ≠ '\\' → SpellsChar c [.char c]
  | short {letter c : Char} :
      (letter, c) ∈ shortEscapes → SpellsChar c [.char '\\', .char letter]
  | unit {c : Char} {t : Text} : c.toNat < 0x10000 → SpellsUnit c.toNat t → SpellsChar c t
  | pair {c : Char} {t u : Text} :
      0x10000 ≤ c.toNat → SpellsUnit (0xD800 + (c.toNat - 0x10000) / 0x400) t →
        SpellsUnit (0xDC00 + (c.toNat - 0x10000) % 0x400) u → SpellsChar c (t ++ u)

/-- The texts of the characters of a string. -/
inductive SpellsChars : Text → Text → Prop where
  | nil : SpellsChars [] []
  | cons {c : Char} {s t u : Text} :
      SpellsChar c t → SpellsChars s u → SpellsChars (.char c :: s) (t ++ u)

/-! ## Values -/

mutual

/-- The texts of a value without spaces around it. -/
inductive Spells : Value → Text → Prop where
  | null : Spells .null (Text.ofString "null")
  | true : Spells (.boolean true) (Text.ofString "true")
  | false : Spells (.boolean false) (Text.ofString "false")
  | integer {n : Int} {t : Text} : SpellsInteger n t → Spells (.integer n) t
  | text {s t : Text} :
      SpellsChars s t → Spells (.text s) (.char '"' :: (t ++ [.char '"']))
  | emptyArray {space : Text} :
      IsSpacing space → Spells (.array []) (.char '[' :: (space ++ [.char ']']))
  | array {items : List Value} {t : Text} :
      SpellsItems items t → Spells (.array items) (.char '[' :: (t ++ [.char ']']))
  | emptyObject {space : Text} :
      IsSpacing space → Spells (.object []) (.char '\x7b' :: (space ++ [.char '\x7d']))
  | object {entries : List (Text × Value)} {t : Text} :
      SpellsMembers entries t →
        Spells (.object entries) (.char '\x7b' :: (t ++ [.char '\x7d']))

/-- The texts of a value with spaces around it. -/
inductive SpellsSpaced : Value → Text → Prop where
  | mk {v : Value} {before t after : Text} :
      IsSpacing before → Spells v t → IsSpacing after →
        SpellsSpaced v (before ++ (t ++ after))

/-- The texts of the items of an array, at least one. -/
inductive SpellsItems : List Value → Text → Prop where
  | last {v : Value} {t : Text} : SpellsSpaced v t → SpellsItems [v] t
  | cons {v : Value} {rest : List Value} {t more : Text} :
      SpellsSpaced v t → SpellsItems rest more →
        SpellsItems (v :: rest) (t ++ .char ',' :: more)

/-- The texts of the members of an object, at least one. -/
inductive SpellsMembers : List (Text × Value) → Text → Prop where
  | last {key : Text} {v : Value} {k t : Text} :
      SpellsSpaced (.text key) k → SpellsSpaced v t →
        SpellsMembers [(key, v)] (k ++ .char ':' :: t)
  | cons {key : Text} {v : Value} {rest : List (Text × Value)} {k t more : Text} :
      SpellsSpaced (.text key) k → SpellsSpaced v t → SpellsMembers rest more →
        SpellsMembers ((key, v) :: rest) (k ++ .char ':' :: (t ++ .char ',' :: more))

end

end Json

end Shapewright
