import Shapewright.Proofs.Settings.Storage
import Shapewright.Proofs.Yaml.Document

/-!
# Settings that are kept in YAML

Valid settings are the same after they have been saved in a YAML file and loaded from it, whatever
their texts are: a text that would be taken for something else is quoted, and a line that is folded
is unfolded again.
-/

namespace Shapewright.Settings

open Shapewright.Yaml

/-! ## Settings as a mapping -/

/-- The keys of settings and of the declared types. -/
def keys : List Text :=
  ["indent", "max_depth", "request_suffix", "handler_suffix", "file_extension", "types", "text",
    "number", "boolean", "generic", "collection"].map Text.ofString

theorem isKey_of_mem_keys
    {key : Text}
    (member : key ∈ keys) :
    IsKey key := by
  have listed :
      ∀ key ∈ keys,
        (key ≠ [] ∧ ∀ c ∈ key, c ∈ keyCharacters) ∧
          key.length ≤ 1024 ∧ resolvePlain key = .text := by
    decide +kernel
  rcases listed key member with ⟨⟨nonempty, characters⟩, length, resolved⟩
  exact ⟨nonempty, characters, length, resolved⟩

theorem types_isStorable
    (types : TypeNames) :
    IsStorable (.object types.toEntries) := by
  have distinct : (types.toEntries.map (·.1)).Nodup := by
    change
      (["text", "number", "boolean", "generic", "collection"].map Text.ofString).Nodup
    decide
  refine .object (List.cons_ne_nil _ _) distinct (areStorable_iff.mpr ?_)
  simp only [TypeNames.toEntries, List.forall_mem_cons]
  refine ⟨?_, ?_, ?_, ?_, ?_, by simp⟩ <;>
    exact ⟨isKey_of_mem_keys (by decide), .scalar (.text _)⟩

theorem maxDepthValue_isStorable
    {settings : Settings}
    (short : ∀ limit ∈ settings.maxDepth, (Nat.toDigits 10 limit).length ≤ 4300) :
    IsStorable settings.maxDepthValue := by
  unfold maxDepthValue
  cases given : settings.maxDepth with
  | none => exact .scalar .null
  | some limit => exact .scalar (.integer (short limit given))

/-- Valid settings are written as a mapping that is read. -/
theorem toValue_isStorable
    {settings : Settings}
    (valid : settings.IsValid)
    (short : ∀ limit ∈ settings.maxDepth, (Nat.toDigits 10 limit).length ≤ 4300) :
    IsStorable settings.toValue := by
  have indent : IsStorable (.integer settings.indent) := by
    refine .scalar (.integer (Nat.le_trans ?_ (by decide : 2 ≤ 4300)))
    rw [Int.natAbs_natCast, Nat.length_toDigits_le_iff (by decide) (by decide)]
    exact Nat.lt_of_le_of_lt valid.indent.2 (by decide)
  have distinct : (settings.toEntries.map (·.1)).Nodup := by
    change
      (["indent", "max_depth", "request_suffix", "handler_suffix", "file_extension",
        "types"].map Text.ofString).Nodup
    decide
  refine .object (List.cons_ne_nil _ _) distinct (areStorable_iff.mpr ?_)
  simp only [toEntries, List.forall_mem_cons]
  exact ⟨⟨isKey_of_mem_keys (by decide), indent⟩,
    ⟨isKey_of_mem_keys (by decide), maxDepthValue_isStorable short⟩,
    ⟨isKey_of_mem_keys (by decide), .scalar (.text _)⟩,
    ⟨isKey_of_mem_keys (by decide), .scalar (.text _)⟩,
    ⟨isKey_of_mem_keys (by decide), .scalar (.text _)⟩,
    ⟨isKey_of_mem_keys (by decide), types_isStorable settings.types⟩, by simp⟩

/-! ## Loading what was saved -/

/-- What is written in YAML is read as the same settings. -/
theorem readYaml_write
    {settings : Settings} (stack : Stack)
    (valid : settings.IsValid)
    (short : ∀ limit ∈ settings.maxDepth, (Nat.toDigits 10 limit).length ≤ 4300) :
    readYaml (settings.write .yaml) stack = .ok (some settings) := by
  have shallow : Value.nestingEntries settings.toEntries ≤ 1 :=
    Nat.le_of_succ_le_succ (toValue_nesting settings)
  rw [readYaml, write, load_writeEntries stack (toValue_isStorable valid short) shallow]
  simp only [ofYaml?, ofRoot?, ofEntries_toEntries valid]
  rfl

/-- Valid settings are saved in YAML wherever a file can be opened for it, and loading the file
gives the same settings, whatever the stack. -/
theorem load_save_yaml
    {tree opened : FileTree} {current l : Location} {path : Path} {settings : Settings}
    (stack : Stack)
    (valid : settings.IsValid)
    (short : ∀ limit ∈ settings.maxDepth, (Nat.toDigits 10 limit).length ≤ 4300)
    (suffix : path.suffix = Text.ofString ".yaml" ∨ path.suffix = Text.ofString ".yml")
    (opens : tree.truncate current path = .ok (opened, l)) :
    ∃ after,
      save tree current path settings = (after, .ok ()) ∧
        load after current path stack = .ok settings := by
  have yaml : Format.ofPath path = .yaml := by
    rcases suffix with suffix | suffix <;> simp [Format.ofPath, suffix]
  have plain : (settings.write .yaml).isPlain = true := by
    cases toValue_isStorable valid short with
    | scalar isScalar => cases isScalar
    | object _ _ stored => exact isPlain_of_isWritten (isWritten_writeEntries 0 stored)
  rcases Utf8.encode_of_isWellFormed (Text.isWellFormed_of_isPlain plain) with ⟨bytes, encoded⟩
  rcases FileTree.truncate_eq_ok_iff.mp opens with ⟨located, notDirectory, _⟩
  have written := FileTree.writeText_of_locate located notDirectory encoded
  have read := FileTree.readText_of_writeText written
  -- Only line feeds and printable characters are written, so no line end is normalized.
  rw [Text.normalizeLineEnds_of_isPlain plain] at read
  refine ⟨tree.put l (.file bytes), ?_, ?_⟩
  · simp [save, isWritable_of_short short, yaml, written]
  · simp [load, read, Settings.read, yaml, readYaml_write stack valid short]

/-- Settings of texts that YAML would take for something else, has to escape, or would fold. -/
def ambiguousSettings : Settings :=
  { indent := 1
    maxDepth := some 100000000000000000000
    requestSuffix := "yes"
    handlerSuffix := " it's: a #\n\n b\r\x85\u2028é😀\\\" "
    fileExtension := ".5"
    types :=
      { text := "010"
        number := "1:30"
        boolean := "2020-01-01"
        generic := "<<"
        collection :=
          List.replicate 100 (.char 'x') ++ Text.ofString " \x7b\x7d: ~" } }

theorem ambiguousSettings_isValid :
    ambiguousSettings.IsValid where
  indent := by decide
  maxDepth := by decide
  fileExtension := by decide
  types :=
    { text := ⟨by decide, by decide⟩
      number := ⟨by decide, by decide⟩
      boolean := ⟨by decide, by decide⟩
      generic := ⟨by decide, by decide⟩
      collection := by decide +kernel }

/-- These settings come back from a file. -/
theorem load_save_yaml_ambiguousSettings :
    ∃ after,
      save settingsTree [] (.ofText "etc/shapes.yml") ambiguousSettings = (after, .ok ()) ∧
        load after [] (.ofText "etc/shapes.yml") = .ok ambiguousSettings :=
  @load_save_yaml _ (settingsTree.put [Text.ofString "etc", Text.ofString "shapes.yml"] (.file []))
    _ [Text.ofString "etc", Text.ofString "shapes.yml"] _ _ .usual ambiguousSettings_isValid
    (by decide +kernel) (by decide +kernel) (by rfl)

end Shapewright.Settings
