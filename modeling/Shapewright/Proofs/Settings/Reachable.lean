import Shapewright.Proofs.Settings.Loading
import Shapewright.Proofs.Settings.Template

/-!
# Settings that can be come by

Settings come out of the entries of an object or out of a file.  Either way, whatever the entries or
the file hold, each setting keeps its bounds, and this is all that is known: all settings within the
bounds can be come by.  Validating them once more, from their own entries, changes nothing.
-/

namespace Shapewright

/-! ## The bounds of a text -/

/-- A type name is not empty, and it neither starts nor ends with a blank. -/
theorem Text.isTypeName_iff
    {t : Text} :
    t.IsTypeName ↔
      t ≠ [] ∧ (∀ c ∈ t.head?, c.isBlank = false) ∧ ∀ c ∈ t.getLast?, c.isBlank = false := by
  constructor
  · rintro ⟨nonempty, trimmed⟩
    have shorter : t.length ≤ (t.dropWhile CodePoint.isBlank).length := by
      have ends := (List.rdropWhile_prefix CodePoint.isBlank
        (t.dropWhile CodePoint.isBlank)).length_le
      change t.trimBlanks.length ≤ _ at ends
      rwa [trimmed] at ends
    have starts : t.dropWhile CodePoint.isBlank = t :=
      (List.dropWhile_suffix CodePoint.isBlank).eq_of_length_le shorter
    have ends : t.rdropWhile CodePoint.isBlank = t := by
      change (t.dropWhile CodePoint.isBlank).rdropWhile CodePoint.isBlank = t at trimmed
      rwa [starts] at trimmed
    refine ⟨nonempty, ?_, ?_⟩
    · intro c first
      have kept := List.head?_dropWhile_not CodePoint.isBlank t
      rw [starts, Option.mem_def.mp first] at kept
      simpa using kept
    · intro c last
      have kept := List.rdropWhile_eq_self_iff.mp ends nonempty
      rw [List.getLast_eq_iff_getLast?_eq_some nonempty |>.mpr last] at kept
      simpa using kept
  · rintro ⟨nonempty, starts, ends⟩
    refine ⟨nonempty, ?_⟩
    exact Text.trim_of_kept_ends (List.cons_head_tail nonempty).symm
      (List.dropLast_append_getLast nonempty).symm
      (starts _ (List.head?_eq_some_head nonempty))
      (ends _ (List.getLast?_eq_some_getLast nonempty))

namespace Settings

/-! ## The bounds of settings -/

/-- Settings that come out of the entries of an object, or out of a file. -/
inductive IsReachable (settings : Settings) : Prop where
  | validated (entries : List (Text × Value)) (success : ofEntries entries = .ok settings)
  | loaded (tree : FileTree) (current : Location) (path : Path) (stack : Yaml.Stack)
      (success : load tree current path stack = .ok settings)

theorem isValid_of_load
    {tree : FileTree} {current : Location} {path : Path} {stack : Yaml.Stack} {settings : Settings}
    (success : load tree current path stack = .ok settings) :
    settings.IsValid := by
  unfold load at success
  split at success
  next => cases success
  next => cases success
  next t readable =>
    split at success
    next => cases success
    next => cases success
    next described =>
      cases success
      exact isValid_of_read described

theorem isReachable_iff_isValid
    {settings : Settings} :
    settings.IsReachable ↔ settings.IsValid := by
  constructor
  · intro reachable
    cases reachable with
    | validated entries success =>
        exact isValid_of_ofEntries success
    | loaded tree current path stack success =>
        exact isValid_of_load success
  · intro valid
    exact .validated settings.toEntries (ofEntries_toEntries valid)

/-- Valid settings in terms of their texts and numbers alone. -/
theorem isValid_iff_bounds
    {settings : Settings} :
    settings.IsValid ↔
      (1 ≤ settings.indent ∧ settings.indent ≤ 16) ∧
        (∀ limit, settings.maxDepth = some limit → 1 ≤ limit) ∧
        settings.fileExtension.head? = some (.char '.') ∧
        (∀ t ∈ [settings.types.text, settings.types.number, settings.types.boolean,
            settings.types.generic],
          t ≠ [] ∧ (∀ c ∈ t.head?, c.isBlank = false) ∧ ∀ c ∈ t.getLast?, c.isBlank = false) ∧
        [.char '\x7b', .char '\x7d'] <:+: settings.types.collection := by
  simp only [← Text.isTypeName_iff, ← Template.hasPlaceholder_iff_infix]
  constructor
  · rintro ⟨indent, maxDepth, fileExtension, ⟨text, number, boolean, generic, collection⟩⟩
    refine ⟨indent, maxDepth, fileExtension, ?_, collection⟩
    simp only [List.forall_mem_cons]
    exact ⟨text, number, boolean, generic, by simp⟩
  · rintro ⟨indent, maxDepth, fileExtension, names, collection⟩
    simp only [List.forall_mem_cons] at names
    rcases names with ⟨text, number, boolean, generic, _⟩
    exact ⟨indent, maxDepth, fileExtension, ⟨text, number, boolean, generic, collection⟩⟩

/--
Settings can be come by exactly if the indentation is one to sixteen, a limit is positive, the file
extension starts with a point, the type names are not empty and have no blanks around them, and the
collection type holds a placeholder.  Validating such settings from their own entries gives them
back.
-/
theorem isReachable_iff_bounds
    (settings : Settings) :
    (settings.IsReachable ↔
      (1 ≤ settings.indent ∧ settings.indent ≤ 16) ∧
        (∀ limit, settings.maxDepth = some limit → 1 ≤ limit) ∧
        settings.fileExtension.head? = some (.char '.') ∧
        (∀ t ∈ [settings.types.text, settings.types.number, settings.types.boolean,
            settings.types.generic],
          t ≠ [] ∧ (∀ c ∈ t.head?, c.isBlank = false) ∧ ∀ c ∈ t.getLast?, c.isBlank = false) ∧
        [.char '\x7b', .char '\x7d'] <:+: settings.types.collection) ∧
      (settings.IsReachable → ofEntries settings.toEntries = .ok settings) := by
  constructor
  · rw [isReachable_iff_isValid, isValid_iff_bounds]
  · intro reachable
    exact ofEntries_toEntries (isReachable_iff_isValid.mp reachable)

/-- Texts, booleans and untrimmed names are coerced, and settings of other keys are ignored. -/
example :
    (ofEntries
      [("indent", .text " +08 "), ("max_depth", .boolean true), ("color", .null),
        ("types", .object [("text", .text "\tstr ")])]).toOption =
      some { indent := 8, maxDepth := some 1, types := { text := "str" } } := by
  decide +kernel

end Settings

end Shapewright
