import Shapewright.Proofs.Outcome
import Shapewright.Proofs.Text.Blank
import Shapewright.Settings.Validate
import Shapewright.Settings.View

/-!
# Valid settings

Settings are valid when each of them could have come out of its check.  The valid settings are just
those that validation gives, and validation leaves them as they are: the entries of valid settings
describe the same settings.
-/

namespace Shapewright

open Shapewright.Outcome

/-! ## Validity -/

/-- Whether a text is a type name: it is trimmed and not empty. -/
def Text.IsTypeName (t : Text) : Prop :=
  t ≠ [] ∧ t.trimBlanks = t

/-- Declared types that pass their checks. -/
structure TypeNames.IsValid (types : TypeNames) : Prop where
  text : types.text.IsTypeName
  number : types.number.IsTypeName
  boolean : types.boolean.IsTypeName
  generic : types.generic.IsTypeName
  collection : Template.hasPlaceholder types.collection = true

/-- Settings that pass their checks. -/
structure Settings.IsValid (settings : Settings) : Prop where
  indent : 1 ≤ settings.indent ∧ settings.indent ≤ 16
  maxDepth : ∀ limit ∈ settings.maxDepth, 0 < limit
  fileExtension : settings.fileExtension.head? = some (.char '.')
  types : settings.types.IsValid

namespace Settings

/-! ## Checks -/

section Setting

variable {α : Type} {entries : List (Text × Value)} {key : Text} {default a : α}
  {check : Value → Except Flaw α}

/-- A setting has what its default has and its check ensures. -/
theorem property_of_setting
    (property : α → Prop)
    (ofDefault : property default)
    (ofCheck : ∀ {v b}, check v = .ok b → property b)
    (success : setting entries key default check = .ok a) :
    property a := by
  unfold setting at success
  split at success
  next =>
    cases success
    exact ofDefault
  next =>
    split at success
    next passed =>
      cases success
      exact ofCheck passed
    next => cases success

theorem setting_of_find?
    {v : Value}
    (found : Value.find? key entries = some v)
    (passed : check v = .ok a) :
    setting entries key default check = .ok a := by
  simp [setting, found, passed]

end Setting

theorem typeNameOf_eq_ok
    {v : Value} {t : Text}
    (success : typeNameOf v = .ok t) :
    t.IsTypeName := by
  rcases bind_eq_ok_iff.mp success with ⟨s, _, checked⟩
  simp only at checked
  split at checked
  next => cases checked
  next notEmpty =>
    cases checked
    exact ⟨by simpa using notEmpty, Text.trim_trim _ _⟩

theorem typeNameOf_text
    {t : Text}
    (valid : t.IsTypeName) :
    typeNameOf (.text t) = .ok t := by
  rw [typeNameOf, bind_eq_ok_iff]
  refine ⟨t, rfl, ?_⟩
  simp [valid.1, valid.2]

theorem collectionOf_eq_ok
    {v : Value} {t : Text}
    (success : collectionOf v = .ok t) :
    Template.hasPlaceholder t = true := by
  rcases bind_eq_ok_iff.mp success with ⟨s, _, checked⟩
  split at checked
  next placeholder =>
    cases checked
    exact placeholder
  next => cases checked

theorem collectionOf_text
    {t : Text}
    (placeholder : Template.hasPlaceholder t = true) :
    collectionOf (.text t) = .ok t := by
  rw [collectionOf, bind_eq_ok_iff]
  exact ⟨t, rfl, if_pos placeholder⟩

theorem fileExtensionOf_eq_ok
    {v : Value} {t : Text}
    (success : fileExtensionOf v = .ok t) :
    t.head? = some (.char '.') := by
  rcases bind_eq_ok_iff.mp success with ⟨s, _, checked⟩
  split at checked
  next point =>
    cases checked
    exact point
  next => cases checked

theorem fileExtensionOf_text
    {t : Text}
    (point : t.head? = some (.char '.')) :
    fileExtensionOf (.text t) = .ok t := by
  rw [fileExtensionOf, bind_eq_ok_iff]
  exact ⟨t, rfl, if_pos point⟩

theorem indentOf_eq_ok
    {v : Value} {n : Nat}
    (success : indentOf v = .ok n) :
    1 ≤ n ∧ n ≤ 16 := by
  rcases bind_eq_ok_iff.mp success with ⟨i, _, checked⟩
  split at checked
  next => cases checked
  next =>
    split at checked
    next => cases checked
    next =>
      cases checked
      omega

theorem indentOf_integer
    {n : Nat}
    (bounds : 1 ≤ n ∧ n ≤ 16) :
    indentOf (.integer n) = .ok n := by
  rw [indentOf, bind_eq_ok_iff]
  refine ⟨n, rfl, ?_⟩
  rw [if_neg (by omega), if_neg (by omega)]
  rfl

theorem maxDepthOf_eq_ok
    {v : Value} {maxDepth : Option Nat}
    (success : maxDepthOf v = .ok maxDepth) :
    ∀ limit ∈ maxDepth, 0 < limit := by
  unfold maxDepthOf at success
  split at success
  next =>
    cases success
    simp
  next =>
    rcases bind_eq_ok_iff.mp success with ⟨i, _, checked⟩
    split at checked
    next => cases checked
    next positive =>
      cases checked
      intro limit member
      cases member
      omega

theorem maxDepthOf_maxDepthValue
    {settings : Settings}
    (positive : ∀ limit ∈ settings.maxDepth, 0 < limit) :
    maxDepthOf settings.maxDepthValue = .ok settings.maxDepth := by
  unfold maxDepthValue
  cases given : settings.maxDepth with
  | none =>
      rfl
  | some limit =>
      have notZero := positive limit given
      simp only [maxDepthOf, integerOf, ok_bind]
      rw [if_neg (by omega)]
      rfl

end Settings

/-! ## Validation -/

/-- Declared types are made from the entries that describe each of them. -/
theorem TypeNames.ofEntries_eq_ok_iff
    {entries : List (Text × Value)} {types : TypeNames} :
    TypeNames.ofEntries entries = .ok types ↔
      Settings.setting entries "text" ({} : TypeNames).text Settings.typeNameOf = .ok types.text ∧
        Settings.setting entries "number" ({} : TypeNames).number Settings.typeNameOf =
          .ok types.number ∧
        Settings.setting entries "boolean" ({} : TypeNames).boolean Settings.typeNameOf =
          .ok types.boolean ∧
        Settings.setting entries "generic" ({} : TypeNames).generic Settings.typeNameOf =
          .ok types.generic ∧
        Settings.setting entries "collection" ({} : TypeNames).collection Settings.collectionOf =
          .ok types.collection := by
  unfold TypeNames.ofEntries
  constructor
  · intro success
    simp only at success
    split at success
    next text number boolean generic collection =>
      cases success
      exact ⟨text, number, boolean, generic, collection⟩
    next => cases success
  · rintro ⟨text, number, boolean, generic, collection⟩
    simp only [text, number, boolean, generic, collection]

theorem TypeNames.isValid_default :
    ({} : TypeNames).IsValid := by
  constructor <;> first | exact ⟨by decide, by decide⟩ | decide

theorem TypeNames.isValid_of_ofEntries
    {entries : List (Text × Value)} {types : TypeNames}
    (success : TypeNames.ofEntries entries = .ok types) :
    types.IsValid := by
  have default := TypeNames.isValid_default
  rcases TypeNames.ofEntries_eq_ok_iff.mp success with
    ⟨text, number, boolean, generic, collection⟩
  exact
    { text := Settings.property_of_setting _ default.text Settings.typeNameOf_eq_ok text
      number := Settings.property_of_setting _ default.number Settings.typeNameOf_eq_ok number
      boolean := Settings.property_of_setting _ default.boolean Settings.typeNameOf_eq_ok boolean
      generic := Settings.property_of_setting _ default.generic Settings.typeNameOf_eq_ok generic
      collection :=
        Settings.property_of_setting (Template.hasPlaceholder · = true) default.collection
          Settings.collectionOf_eq_ok collection }

theorem TypeNames.ofEntries_toEntries
    {types : TypeNames}
    (valid : types.IsValid) :
    TypeNames.ofEntries types.toEntries = .ok types :=
  TypeNames.ofEntries_eq_ok_iff.mpr
    ⟨Settings.setting_of_find? rfl (Settings.typeNameOf_text valid.text),
      Settings.setting_of_find? rfl (Settings.typeNameOf_text valid.number),
      Settings.setting_of_find? rfl (Settings.typeNameOf_text valid.boolean),
      Settings.setting_of_find? rfl (Settings.typeNameOf_text valid.generic),
      Settings.setting_of_find? rfl (Settings.collectionOf_text valid.collection)⟩

namespace Settings

theorem typesIn_eq_ok
    {entries : List (Text × Value)} {types : TypeNames}
    (success : typesIn entries = .ok types) :
    types.IsValid := by
  unfold typesIn at success
  simp only at success
  split at success
  next =>
    cases success
    exact TypeNames.isValid_default
  next typeEntries _ =>
    cases made : TypeNames.ofEntries typeEntries with
    | ok types =>
        rw [made] at success
        cases success
        exact TypeNames.isValid_of_ofEntries made
    | error issues =>
        rw [made] at success
        cases success
  next => cases success

theorem typesIn_toEntries
    {settings : Settings}
    (valid : settings.types.IsValid) :
    typesIn settings.toEntries = .ok settings.types := by
  have found :
      Value.find? "types" settings.toEntries = some (.object settings.types.toEntries) :=
    rfl
  simp only [typesIn, found, TypeNames.ofEntries_toEntries valid, Checked.under]

theorem ofEntries_eq_ok_iff
    {entries : List (Text × Value)} {settings : Settings} :
    ofEntries entries = .ok settings ↔
      setting entries "indent" ({} : Settings).indent indentOf = .ok settings.indent ∧
        setting entries "max_depth" ({} : Settings).maxDepth maxDepthOf = .ok settings.maxDepth ∧
        setting entries "request_suffix" ({} : Settings).requestSuffix textOf =
          .ok settings.requestSuffix ∧
        setting entries "handler_suffix" ({} : Settings).handlerSuffix textOf =
          .ok settings.handlerSuffix ∧
        setting entries "file_extension" ({} : Settings).fileExtension fileExtensionOf =
          .ok settings.fileExtension ∧
        typesIn entries = .ok settings.types := by
  unfold ofEntries
  constructor
  · intro success
    simp only at success
    split at success
    next indent maxDepth requestSuffix handlerSuffix fileExtension types =>
      cases success
      exact ⟨indent, maxDepth, requestSuffix, handlerSuffix, fileExtension, types⟩
    next => cases success
  · rintro ⟨indent, maxDepth, requestSuffix, handlerSuffix, fileExtension, types⟩
    simp only [indent, maxDepth, requestSuffix, handlerSuffix, fileExtension, types]

/-- Settings that come out of validation are valid. -/
theorem isValid_of_ofEntries
    {entries : List (Text × Value)} {settings : Settings}
    (success : ofEntries entries = .ok settings) :
    settings.IsValid := by
  rcases ofEntries_eq_ok_iff.mp success with ⟨indent, maxDepth, _, _, fileExtension, types⟩
  exact
    { indent := property_of_setting (fun n => 1 ≤ n ∧ n ≤ 16) (by decide) indentOf_eq_ok indent
      maxDepth :=
        property_of_setting (fun maxDepth => ∀ limit ∈ maxDepth, 0 < limit) (by simp)
          maxDepthOf_eq_ok maxDepth
      fileExtension :=
        property_of_setting (fun t => t.head? = some (.char '.')) (by decide)
          fileExtensionOf_eq_ok fileExtension
      types := typesIn_eq_ok types }

/-- The entries of valid settings describe the same settings. -/
theorem ofEntries_toEntries
    {settings : Settings}
    (valid : settings.IsValid) :
    ofEntries settings.toEntries = .ok settings :=
  ofEntries_eq_ok_iff.mpr
    ⟨setting_of_find? rfl (indentOf_integer valid.indent),
      setting_of_find? rfl (maxDepthOf_maxDepthValue valid.maxDepth),
      setting_of_find? rfl rfl,
      setting_of_find? rfl rfl,
      setting_of_find? rfl (fileExtensionOf_text valid.fileExtension),
      typesIn_toEntries valid.types⟩

/-- The valid settings are just those that come out of validation. -/
theorem isValid_iff_exists_ofEntries
    {settings : Settings} :
    settings.IsValid ↔ ∃ entries, ofEntries entries = .ok settings :=
  ⟨fun valid => ⟨settings.toEntries, ofEntries_toEntries valid⟩,
    fun ⟨_, success⟩ => isValid_of_ofEntries success⟩

end Settings

end Shapewright
