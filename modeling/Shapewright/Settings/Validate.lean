import Shapewright.Settings.Basic
import Shapewright.Settings.Integer

/-!
# Validating settings

Settings are made from the entries of an object.  Entries with other keys are ignored, settings
without an entry have their defaults, and all flawed settings are listed in the order in which the
settings are declared.
-/

namespace Shapewright

/-- The value of a setting, or the issues that it has. -/
abbrev Checked (α : Type) := Except (List Issue) α

namespace Checked

/-- The issues of a checked value. -/
def issues {α : Type} : Checked α → List Issue
  | .ok _ => []
  | .error issues => issues

/-- Puts a key in front of the location of every issue. -/
def under {α : Type} (key : Text) : Checked α → Checked α
  | .ok a => .ok a
  | .error issues =>
    .error (issues.map fun issue => { issue with location := key :: issue.location })

end Checked

namespace Settings

/-- The setting with a key, by its default or from its entry. -/
def setting {α : Type} (entries : List (Text × Value)) (key : Text) (default : α)
    (check : Value → Except Flaw α) : Checked α :=
  match Value.find? key entries with
  | none => .ok default
  | some v =>
    match check v with
    | .ok a => .ok a
    | .error flaw => .error [⟨[key], flaw⟩]

/-- The text that the value of a setting stands for. -/
def textOf (v : Value) : Except Flaw Text :=
  match v with
  | .text t => .ok t
  | .bytes content =>
    match Utf8.decode content with
    | .ok t => .ok t
    | .error _ => .error .notUnicode
  | _ => .error .notText

/-- An indentation: one to sixteen blanks. -/
def indentOf (v : Value) : Except Flaw Nat := do
  let n ← integerOf v
  if n < 1 then .error .belowMinimum
  else if 16 < n then .error .aboveMaximum
  else .ok n.toNat

/-- A limit on the nesting: none, or a positive number. -/
def maxDepthOf (v : Value) : Except Flaw (Option Nat) :=
  match v with
  | .null => .ok none
  | v => do
    let n ← integerOf v
    if n ≤ 0 then .error .notPositive else .ok (some n.toNat)

/-- A file extension, which starts with a point. -/
def fileExtensionOf (v : Value) : Except Flaw Text := do
  let t ← textOf v
  if t.head? = some (.char '.') then .ok t else .error .noLeadingDot

/-- A type name, which is trimmed and not empty. -/
def typeNameOf (v : Value) : Except Flaw Text := do
  let t ← textOf v
  let t := t.trimBlanks
  if t.isEmpty then .error .blankTypeName else .ok t

/-- A collection type, which has a place for the type of an element. -/
def collectionOf (v : Value) : Except Flaw Text := do
  let t ← textOf v
  if Template.hasPlaceholder t then .ok t else .error .noPlaceholder

end Settings

/-- The declared types that the entries of an object describe. -/
def TypeNames.ofEntries (entries : List (Text × Value)) : Checked TypeNames :=
  let defaults : TypeNames := {}
  let text := Settings.setting entries "text" defaults.text Settings.typeNameOf
  let number := Settings.setting entries "number" defaults.number Settings.typeNameOf
  let boolean := Settings.setting entries "boolean" defaults.boolean Settings.typeNameOf
  let generic := Settings.setting entries "generic" defaults.generic Settings.typeNameOf
  let collection :=
    Settings.setting entries "collection" defaults.collection Settings.collectionOf
  match text, number, boolean, generic, collection with
  | .ok text, .ok number, .ok boolean, .ok generic, .ok collection =>
    .ok { text, number, boolean, generic, collection }
  | text, number, boolean, generic, collection =>
    .error (text.issues ++ number.issues ++ boolean.issues ++ generic.issues ++ collection.issues)

namespace Settings

/-- The declared types in the entries of a settings object. -/
def typesIn (entries : List (Text × Value)) : Checked TypeNames :=
  let key : Text := "types"
  match Value.find? key entries with
  | none => .ok {}
  | some (.object types) => (TypeNames.ofEntries types).under key
  | some _ => .error [⟨[key], .notMapping⟩]

/-- The settings that the entries of an object describe. -/
def ofEntries (entries : List (Text × Value)) : Checked Settings :=
  let defaults : Settings := {}
  let indent := setting entries "indent" defaults.indent indentOf
  let maxDepth := setting entries "max_depth" defaults.maxDepth maxDepthOf
  let requestSuffix := setting entries "request_suffix" defaults.requestSuffix textOf
  let handlerSuffix := setting entries "handler_suffix" defaults.handlerSuffix textOf
  let fileExtension := setting entries "file_extension" defaults.fileExtension fileExtensionOf
  let types := typesIn entries
  match indent, maxDepth, requestSuffix, handlerSuffix, fileExtension, types with
  | .ok indent, .ok maxDepth, .ok requestSuffix, .ok handlerSuffix, .ok fileExtension,
      .ok types =>
    .ok { indent, maxDepth, requestSuffix, handlerSuffix, fileExtension, types }
  | indent, maxDepth, requestSuffix, handlerSuffix, fileExtension, types =>
    .error (indent.issues ++ maxDepth.issues ++ requestSuffix.issues ++ handlerSuffix.issues ++
      fileExtension.issues ++ types.issues)

end Settings

end Shapewright
