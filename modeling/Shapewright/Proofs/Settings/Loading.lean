import Shapewright.Proofs.Settings.Validity
import Shapewright.Proofs.Yaml.LoadErrors
import Shapewright.Settings.Storage

/-!
# Loading settings

A file that can be read either holds valid settings or is invalid as a whole, whatever bytes it
holds and whatever the limits of the stack are.  The one way around this is a YAML text that holds
what makes its reader fail in another way.
-/

namespace Shapewright

namespace Settings

open Shapewright.Outcome

/-! ## What a text describes -/

theorem isValid_default :
    ({} : Settings).IsValid where
  indent := by decide
  maxDepth := by simp
  fileExtension := by decide
  types := TypeNames.isValid_default

theorem isValid_of_ofRoot?
    {root : Value} {settings : Settings}
    (success : ofRoot? root = some settings) :
    settings.IsValid := by
  unfold ofRoot? at success
  split at success
  next =>
    cases success
    exact isValid_default
  next =>
    split at success
    next entries _ =>
      cases made : ofEntries entries with
      | ok described =>
          rw [made] at success
          cases success
          exact isValid_of_ofEntries made
      | error issues =>
          rw [made] at success
          cases success
    next => cases success

theorem isValid_of_ofYaml?
    {document : Yaml.Document} {settings : Settings}
    (success : ofYaml? document = some settings) :
    settings.IsValid := by
  unfold ofYaml? at success
  split at success
  next => exact isValid_of_ofRoot? success
  next => cases success

theorem isValid_of_readJson?
    {t : Text} {settings : Settings}
    (success : readJson? t = some settings) :
    settings.IsValid := by
  unfold readJson? at success
  split at success
  next => exact isValid_of_ofRoot? success
  next => cases success

theorem isValid_of_read
    {format : Format} {t : Text} {stack : Yaml.Stack} {settings : Settings}
    (success : read format t stack = .ok (some settings)) :
    settings.IsValid := by
  cases format with
  | json =>
      exact isValid_of_readJson? (Except.ok.inj success)
  | yaml =>
      simp only [read, readYaml] at success
      split at success
      next => exact isValid_of_ofYaml? (Except.ok.inj success)
      next => cases success
      next => cases success

/-- A text fails in a way of its own exactly if it is YAML and something in it makes it fail so. -/
theorem read_eq_error_iff
    {format : Format} {t : Text} {stack : Yaml.Stack} {error : Yaml.Error} :
    read format t stack = .error error ↔
      format = .yaml ∧ Yaml.CanStop stack t error ∧ Yaml.load t stack = .error error := by
  have stops : Yaml.CanStop stack t error ∧ Yaml.load t stack = .error error ↔
      Yaml.load t stack = .error error ∧ error ≠ .malformed :=
    ⟨fun ⟨canStop, failed⟩ => ⟨failed, canStop.ne_malformed⟩,
      fun ⟨failed, notMalformed⟩ => ⟨Yaml.canStop_of_load failed notMalformed, failed⟩⟩
  rw [stops]
  cases format with
  | json =>
      simp [read]
  | yaml =>
      simp only [read, readYaml, true_and]
      cases loaded : Yaml.load t stack with
      | ok document =>
          simp
      | error other =>
          cases other <;>
            simp only [reduceCtorEq, Except.error.injEq, ne_eq, false_iff, not_and] <;>
            grind

/-! ## Files -/

section Files

variable {tree : FileTree} {current : Location} {path : Path} {t : Text} {stack : Yaml.Stack}

theorem load_of_read_error
    {error : Yaml.Error}
    (readable : tree.readText current path = .ok t)
    (failed : read (.ofPath path) t stack = .error error) :
    load tree current path stack = .error (.document error) := by
  simp [load, readable, failed]

theorem load_of_read_none
    (readable : tree.readText current path = .ok t)
    (nothing : read (.ofPath path) t stack = .ok none) :
    load tree current path stack = .error (.invalid path) := by
  simp [load, readable, nothing]

theorem load_of_read_some
    {settings : Settings}
    (readable : tree.readText current path = .ok t)
    (described : read (.ofPath path) t stack = .ok (some settings)) :
    load tree current path stack = .ok settings := by
  simp [load, readable, described]

end Files

/-- A tree with one file of settings. -/
def treeWith (name content : String) : FileTree :=
  ⟨[([Text.ofString name], .file (content.toList.map fun c => c.toNat.toUInt8))]⟩

end Settings

end Shapewright
