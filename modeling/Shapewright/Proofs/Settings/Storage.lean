import Shapewright.Proofs.Files.TextFile
import Shapewright.Proofs.Json.Writing
import Shapewright.Proofs.Settings.Validity
import Shapewright.Settings.Storage

/-!
# Settings that are kept in JSON

Valid settings are the same after they have been saved in a JSON file and loaded from it.  The
settings are a standard value, what is written for it is plain text, and validation leaves valid
settings as they are.
-/

namespace Shapewright

/-- Whether the declared types hold no lone surrogate. -/
def TypeNames.isWellFormed (types : TypeNames) : Bool :=
  types.text.isWellFormed && types.number.isWellFormed && types.boolean.isWellFormed &&
    types.generic.isWellFormed && types.collection.isWellFormed

namespace Settings

/-- Whether the texts of settings hold no lone surrogate. -/
def isWellFormed (settings : Settings) : Bool :=
  settings.requestSuffix.isWellFormed && settings.handlerSuffix.isWellFormed &&
    settings.fileExtension.isWellFormed && settings.types.isWellFormed

/-! ## Settings as a value -/

theorem types_isStandard
    {types : TypeNames}
    (wellFormed : types.isWellFormed = true) :
    (Value.object types.toEntries).isStandard = true := by
  simp only [TypeNames.isWellFormed, Bool.and_eq_true] at wellFormed
  rcases wellFormed with ⟨⟨⟨⟨text, number⟩, boolean⟩, generic⟩, collection⟩
  have keys :
      types.toEntries.map (·.1) =
        [Text.ofString "text", Text.ofString "number", Text.ofString "boolean",
          Text.ofString "generic", Text.ofString "collection"] :=
    rfl
  rw [Value.isStandard, keys, Bool.and_eq_true, Value.haveStandard_iff]
  refine ⟨by decide, ?_⟩
  simp only [TypeNames.toEntries, List.forall_mem_cons]
  exact ⟨⟨rfl, text⟩, ⟨rfl, number⟩, ⟨rfl, boolean⟩, ⟨rfl, generic⟩, ⟨rfl, collection⟩, by simp⟩

theorem maxDepthValue_isStandard
    {settings : Settings}
    (short : ∀ limit ∈ settings.maxDepth, (Nat.toDigits 10 limit).length ≤ 4300) :
    settings.maxDepthValue.isStandard = true := by
  unfold maxDepthValue
  cases given : settings.maxDepth with
  | none => rfl
  | some limit => exact decide_eq_true (short limit given)

/-- Settings are standard JSON if their texts hold no surrogate and their numbers are short. -/
theorem toValue_isStandard
    {settings : Settings}
    (valid : settings.IsValid)
    (wellFormed : settings.isWellFormed = true)
    (short : ∀ limit ∈ settings.maxDepth, (Nat.toDigits 10 limit).length ≤ 4300) :
    settings.toValue.isStandard = true := by
  simp only [isWellFormed, Bool.and_eq_true] at wellFormed
  rcases wellFormed with ⟨⟨⟨requestSuffix, handlerSuffix⟩, fileExtension⟩, types⟩
  have indent : (Value.integer settings.indent).isStandard = true := by
    refine decide_eq_true (Nat.le_trans ?_ (by decide : 2 ≤ 4300))
    rw [Nat.length_toDigits_le_iff (by decide) (by decide)]
    exact Nat.lt_of_le_of_lt valid.indent.2 (by decide)
  have keys :
      settings.toEntries.map (·.1) =
        [Text.ofString "indent", Text.ofString "max_depth", Text.ofString "request_suffix",
          Text.ofString "handler_suffix", Text.ofString "file_extension", Text.ofString "types"] :=
    rfl
  rw [toValue, Value.isStandard, keys, Bool.and_eq_true, Value.haveStandard_iff]
  refine ⟨by decide, ?_⟩
  simp only [toEntries, List.forall_mem_cons]
  exact ⟨⟨rfl, indent⟩, ⟨rfl, maxDepthValue_isStandard short⟩, ⟨rfl, requestSuffix⟩,
    ⟨rfl, handlerSuffix⟩, ⟨rfl, fileExtension⟩, ⟨rfl, types_isStandard types⟩, by simp⟩

theorem toValue_nesting
    (settings : Settings) :
    settings.toValue.nesting ≤ 2 := by
  unfold toValue toEntries maxDepthValue
  cases settings.maxDepth with
  | none => exact Nat.le_refl 2
  | some limit => exact Nat.le_refl 2

theorem isWritable_of_short
    {settings : Settings}
    (short : ∀ limit ∈ settings.maxDepth, (Nat.toDigits 10 limit).length ≤ 4300) :
    settings.isWritable = true := by
  have positive : 0 < 4300 := by decide
  unfold isWritable writeLimit
  -- The number of digits is made a variable, so that the power of ten is not computed.
  generalize 4300 = digits at short positive ⊢
  cases given : settings.maxDepth with
  | none => rfl
  | some limit =>
      exact decide_eq_true
        ((Nat.length_toDigits_le_iff (by decide) positive).mp (short limit given))

/-! ## Loading what was saved -/

/-- What is written in JSON is read as the same settings. -/
theorem readJson?_write
    {settings : Settings}
    (valid : settings.IsValid)
    (standard : settings.toValue.isStandard = true) :
    readJson? (settings.write .json) = some settings := by
  have shallow : settings.toValue.nesting ≤ Json.maxDepth :=
    Nat.le_trans (toValue_nesting settings) (by decide)
  rw [readJson?, write, Json.read_write (some 2) standard shallow]
  simp only [ofRoot?, toValue, ofEntries_toEntries valid]
  rfl

/-- Valid settings are saved in JSON wherever a file can be opened for it, and loading the file
gives the same settings. -/
theorem load_save_json
    {tree opened : FileTree} {current l : Location} {path : Path} {settings : Settings}
    (stack : Yaml.Stack)
    (valid : settings.IsValid)
    (wellFormed : settings.isWellFormed = true)
    (short : ∀ limit ∈ settings.maxDepth, (Nat.toDigits 10 limit).length ≤ 4300)
    (notYaml : path.suffix ≠ Text.ofString ".yaml")
    (notYml : path.suffix ≠ Text.ofString ".yml")
    (opens : tree.truncate current path = .ok (opened, l)) :
    ∃ after,
      save tree current path settings = (after, .ok ()) ∧
        load after current path stack = .ok settings := by
  have standard := toValue_isStandard valid wellFormed short
  have json : Format.ofPath path = .json := by
    simp [Format.ofPath, notYaml, notYml]
  have plain : (settings.write .json).isPlain = true :=
    Json.writeAt_isPlain (some 2) 0 settings.toValue standard
  rcases Utf8.encode_of_isWellFormed (Text.isWellFormed_of_isPlain plain) with ⟨bytes, encoded⟩
  rcases FileTree.truncate_eq_ok_iff.mp opens with ⟨located, notDirectory, _⟩
  have written := FileTree.writeText_of_locate located notDirectory encoded
  have read := FileTree.readText_of_writeText written
  -- A line end in a setting is escaped, so none is normalized when the file is read.
  rw [Text.normalizeLineEnds_of_isPlain plain] at read
  refine ⟨tree.put l (.file bytes), ?_, ?_⟩
  · simp [save, isWritable_of_short short, json, written]
  · simp [load, read, Settings.read, json, readJson?_write valid standard]

/-- Settings with an empty suffix, and one of characters that are escaped when they are written. -/
def escapedSettings : Settings :=
  { indent := 16
    maxDepth := some 100000000000000000000
    requestSuffix := []
    handlerSuffix := "\"\\/\r\n\x00é😀"
    fileExtension := "."
    types := { collection := "\x7b\x7d[]" } }

theorem escapedSettings_isValid :
    escapedSettings.IsValid where
  indent := by decide
  maxDepth := by decide
  fileExtension := by decide
  types := { TypeNames.isValid_default with collection := by decide }

/-- A tree with one directory for settings. -/
def settingsTree : FileTree :=
  ⟨[([Text.ofString "etc"], .directory)]⟩

/-- These settings come back from a file in the directory. -/
theorem load_save_json_escapedSettings :
    ∃ after,
      save settingsTree [] (.ofText "etc/shapes.json") escapedSettings = (after, .ok ()) ∧
        load after [] (.ofText "etc/shapes.json") = .ok escapedSettings :=
  @load_save_json _ (settingsTree.put [Text.ofString "etc", Text.ofString "shapes.json"] (.file []))
    _ [Text.ofString "etc", Text.ofString "shapes.json"] _ _ .usual escapedSettings_isValid
    (by decide +kernel) (by decide +kernel) (by decide +kernel) (by decide +kernel)
    (by rfl)

end Settings

end Shapewright
