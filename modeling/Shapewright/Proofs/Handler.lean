import Shapewright.Handler
import Shapewright.Proofs.Files.TextFile

/-!
# The effect of writing a handler file

As long as there is no code, the file system is left alone.  When a handler file is written, it is
at the path that the settings give, it holds the code, and apart from it only the missing
directories around it are new.  When writing fails, no file is lost or made, with one exception: the
file is opened before the code is encoded, so code with a lone surrogate leaves an empty file.
-/

namespace Shapewright

open Shapewright.Outcome

namespace FileTree

/-- The locations of the directories around the end of a path. -/
def Surrounds (tree : FileTree) (current : Location) (p : Path) (l : Location) : Prop :=
  ∃ way, way <+: p.parts ∧ way ≠ p.parts ∧ tree.walk (p.start current) way = .ok l

theorem surrounds_of_passes_parent
    {tree : FileTree} {current l : Location} {p : Path}
    (someParts : p.parts ≠ [])
    (passes : tree.Passes current p.parent l) :
    tree.Surrounds current p l := by
  rcases passes with ⟨way, initial, leads⟩
  refine ⟨way, initial.trans (List.dropLast_prefix p.parts), ?_, leads⟩
  intro whole
  have shorter := initial.length_le
  have nonempty := List.length_pos_iff.mpr someParts
  rw [whole, Path.parent, List.length_dropLast] at shorter
  omega

/--
The second tree is the first with a file at the end of a path: it holds the content, the directories
around it are there, and nothing else is different.
-/
structure HasWritten (before after : FileTree) (current : Location) (p : Path)
    (content : List UInt8) : Prop where
  file : ∃ l, after.locate current p = .ok l ∧ after.lookup l = some (.file content)
  directories : ∀ way, way <+: p.parts → way ≠ p.parts →
    ∃ l, after.walk (p.start current) way = .ok l ∧ after.lookup l = some .directory
  others : ∀ l, after.locate current p ≠ .ok l →
    after.lookup l = before.lookup l ∨
      before.lookup l = none ∧ after.lookup l = some .directory ∧ after.Surrounds current p l

/-- A path below a directory has parts if it leads to something else. -/
theorem parts_ne_nil_of_isDirectory_parent
    {tree : FileTree} {current l : Location} {p : Path}
    (directory : tree.isDirectory current p.parent = true)
    (located : tree.locate current p = .ok l)
    (notDirectory : tree.lookup l ≠ some .directory) :
    p.parts ≠ [] := by
  intro noParts
  rcases isDirectory_eq_true_iff.mp directory with ⟨m, locatedParent, parentDirectory⟩
  have toParent := (locate_eq_ok_iff.mp locatedParent).2.2
  have toFile := (locate_eq_ok_iff.mp located).2.2
  rw [Path.start_parent, Path.parent, noParts] at toParent
  rw [noParts] at toFile
  rw [show [].dropLast = ([] : List Text) from rfl, toFile] at toParent
  cases toParent
  exact notDirectory parentDirectory

end FileTree

namespace Handler

open FileTree

/-! ## The stages -/

/-- The code of a handler is that of its document, named after its request. -/
theorem generateFromText_of_code
    {settings : Settings} {text name source : Text}
    (coded : code settings text name = .ok source) :
    generateFromText settings text (.text (requestTypeName settings name)) = .ok source := by
  rw [code] at coded
  split at coded
  next => cases coded
  next =>
    cases generated : generateFromText settings text (.text (requestTypeName settings name)) with
    | error error =>
        rw [generated] at coded
        cases coded
    | ok source =>
        rw [generated] at coded
        cases coded
        rfl

/-- Without code nothing is touched. -/
theorem generateFile_of_code_error
    (tree : FileTree) (current : Location) {settings : Settings} {text name : Text}
    (directory : Path) {error : Error}
    (failure : code settings text name = .error error) :
    generateFile tree current settings text name directory = (tree, .error error) := by
  rw [generateFile, failure]

/-- A handler file is written in up to three stages, each of which ends the run if it fails. -/
theorem generateFile_cases
    {tree after : FileTree} {current : Location} {settings : Settings} {text name : Text}
    {directory : Path} {outcome : Except Error Path}
    (generated :
      generateFile tree current settings text name directory = (after, outcome)) :
    (∃ error, code settings text name = .error error ∧ outcome = .error error ∧ after = tree) ∨
      ∃ source, code settings text name = .ok source ∧
        ((∃ error,
            tree.ensureDirectory current (filePath settings name directory).parent =
                (after, .error error) ∧
              outcome = .error (.write (.file error))) ∨
          ∃ made,
            tree.ensureDirectory current (filePath settings name directory).parent =
                (made, .ok ()) ∧
              ((∃ error,
                  made.writeText current (filePath settings name directory)
                      (source ++ [.char '\n']) = (after, .error error) ∧
                    outcome = .error (.write error)) ∨
                made.writeText current (filePath settings name directory)
                    (source ++ [.char '\n']) = (after, .ok ()) ∧
                  outcome = .ok (filePath settings name directory))) := by
  rw [generateFile] at generated
  cases coded : code settings text name with
  | error error =>
      rw [coded] at generated
      cases generated
      exact Or.inl ⟨error, rfl, rfl, rfl⟩
  | ok source =>
      refine Or.inr ⟨source, rfl, ?_⟩
      simp only [coded] at generated
      rcases ensured :
          tree.ensureDirectory current (filePath settings name directory).parent with
        ⟨made, first⟩
      rw [ensured] at generated
      cases first with
      | error error =>
          cases generated
          exact Or.inl ⟨error, rfl, rfl⟩
      | ok _ =>
          refine Or.inr ⟨made, rfl, ?_⟩
          simp only at generated
          rcases written :
              made.writeText current (filePath settings name directory)
                (source ++ [.char '\n']) with
            ⟨final, second⟩
          rw [written] at generated
          cases second with
          | error error =>
              cases generated
              exact Or.inl ⟨error, written, rfl⟩
          | ok _ =>
              cases generated
              exact Or.inr ⟨written, rfl⟩

/-! ## What a written file leaves behind -/

/-- A handler file that is written is the only change but for the directories around it. -/
theorem hasWritten_of_ensureDirectory_of_writeText
    {tree made after : FileTree} {current : Location} {p : Path} {t : Text}
    (ensured : tree.ensureDirectory current p.parent = (made, .ok ()))
    (written : made.writeText current p t = (after, .ok ())) :
    ∃ bytes, Utf8.encode t = .ok bytes ∧ HasWritten tree after current p bytes := by
  rcases ensureDirectory_grows ensured with ⟨grown, directory⟩
  rcases exists_file_of_writeText written with
    ⟨l, bytes, encoded, notDirectory, rfl, located, present⟩
  have kept := keepsDirectories_put (.file bytes) notDirectory
  have fileNotDirectory : (made.put l (.file bytes)).lookup l ≠ some .directory := by
    simp [present]
  have someParts :=
    parts_ne_nil_of_isDirectory_parent (kept.isDirectory (directory rfl)) located
      fileNotDirectory
  refine ⟨bytes, encoded, ⟨l, located, present⟩, ?_, ?_⟩
  · intro way initial proper
    exact walk_of_prefix initial proper (locate_eq_ok_iff.mp located).2.2
  · intro m elsewhere
    have distinct : m ≠ l := by
      intro same
      rw [same] at elsewhere
      exact elsewhere located
    rw [lookup_put_of_ne _ _ distinct]
    rcases grown m with same | ⟨missing, new, passes⟩
    · exact Or.inl same
    · exact Or.inr ⟨missing, new, surrounds_of_passes_parent someParts (kept.passes passes)⟩

/-- A handler file is written only if its code is made, its directory is there and it is opened. -/
theorem generateFile_success
    {tree after : FileTree} {current : Location} {settings : Settings} {text name : Text}
    {directory path : Path}
    (success : generateFile tree current settings text name directory = (after, .ok path)) :
    ∃ source made,
      code settings text name = .ok source ∧
        path = filePath settings name directory ∧
        tree.ensureDirectory current path.parent = (made, .ok ()) ∧
        made.writeText current path (source ++ [.char '\n']) = (after, .ok ()) := by
  rcases generateFile_cases success with
    ⟨_, _, impossible, _⟩ |
      ⟨source, coded, ⟨_, _, impossible⟩ |
        ⟨made, ensured, ⟨_, _, impossible⟩ | ⟨written, pathEq⟩⟩⟩
  · cases impossible
  · cases impossible
  · cases impossible
  · cases pathEq
    exact ⟨source, made, coded, rfl, ensured, written⟩

/-- Writing a handler file once more changes nothing. -/
theorem generateFile_again
    {tree after : FileTree} {current : Location} {settings : Settings} {text name : Text}
    {directory path : Path}
    (success : generateFile tree current settings text name directory = (after, .ok path)) :
    generateFile after current settings text name directory = (after, .ok path) := by
  rcases generateFile_success success with ⟨source, made, coded, rfl, ensured, written⟩
  rcases exists_file_of_writeText written with ⟨l, bytes, _, notDirectory, afterEq, _, _⟩
  have kept := keepsDirectories_put (.file bytes) notDirectory
  rw [← afterEq] at kept
  have directoryThere := kept.isDirectory ((ensureDirectory_grows ensured).2 rfl)
  simp only [generateFile, coded, ensureDirectory_of_isDirectory directoryThere,
    writeText_again written]

/--
The effect of writing a handler file.  Without code, be it for a blank name, a text that is no
document or a document without a declaration, nothing is touched, and the first of these failures is
reported.  With success, the path is the one of the settings, its file holds the code and a line
feed, only the directories around it are new, and doing it once more changes nothing.
-/
theorem generateFile_effect
    (tree : FileTree) (current : Location) (settings : Settings) (text name : Text)
    (directory : Path) :
    (name.isBlank = true →
        generateFile tree current settings text name directory = (tree, .error .blankName)) ∧
      (∀ error, name.isBlank = false → Json.parse text = .error error →
        generateFile tree current settings text name directory =
          (tree, .error (.code (.document error)))) ∧
      (∀ document error, name.isBlank = false → Json.parse text = .ok document →
        Declaration.generate settings document (.text (requestTypeName settings name)) =
            .error error →
          generateFile tree current settings text name directory =
            (tree, .error (.code (.generate error)))) ∧
      ∀ after path,
        generateFile tree current settings text name directory = (after, .ok path) →
          path = filePath settings name directory ∧
            (∃ source bytes,
              generateFromText settings text (.text (requestTypeName settings name)) =
                  .ok source ∧
                Utf8.encode (source ++ [.char '\n']) = .ok bytes ∧
                HasWritten tree after current path bytes) ∧
            generateFile after current settings text name directory = (after, .ok path) := by
  refine ⟨?_, ?_, ?_, ?_⟩
  · intro blank
    exact generateFile_of_code_error tree current directory (by simp [code, blank])
  · intro error notBlank parsed
    refine generateFile_of_code_error tree current directory ?_
    rw [code, if_neg (by simp [notBlank]), generateFromText, parsed]
    rfl
  · intro document error notBlank parsed generated
    refine generateFile_of_code_error tree current directory ?_
    rw [code, if_neg (by simp [notBlank]), generateFromText, parsed]
    change
      ((Declaration.generate settings document (.text (requestTypeName settings name))).mapError
        CodeError.generate).mapError Error.code = _
    rw [generated]
    rfl
  · intro after path success
    rcases generateFile_success success with ⟨source, made, coded, rfl, ensured, written⟩
    rcases hasWritten_of_ensureDirectory_of_writeText ensured written with
      ⟨bytes, encoded, hasWritten⟩
    exact ⟨rfl, ⟨source, bytes, generateFromText_of_code coded, encoded, hasWritten⟩,
      generateFile_again success⟩

/-- The way to the file may leave a directory again that is made for it. -/
example :
    (generateFile ⟨[]⟩ [] {} "[1]" "Order" (.ofText "new/../out")).1.entries.map (·.1) =
      [[Text.ofString "new"], [Text.ofString "out"],
        [Text.ofString "out", Text.ofString "OrderHandler.cs"]] := by
  decide +kernel

/-! ## What a failure leaves behind -/

/-- Failing to make the code is no failure of writing. -/
theorem ne_write_of_code_error
    {settings : Settings} {text name : Text} {error : Error}
    (failure : code settings text name = .error error)
    (writeError : WriteError) :
    error ≠ .write writeError := by
  rw [code] at failure
  split at failure
  next =>
    cases failure
    simp
  next =>
    cases generated : generateFromText settings text (.text (requestTypeName settings name)) with
    | error codeError =>
        rw [generated] at failure
        cases failure
        simp
    | ok source =>
        rw [generated] at failure
        cases failure

/-- A failure either leaves all files alone, or it is one of encoding and empties its own file. -/
theorem generateFile_failure
    {tree after : FileTree} {current : Location} {settings : Settings} {text name : Text}
    {directory : Path} {error : Error}
    (failure : generateFile tree current settings text name directory = (after, .error error)) :
    ((∀ encoding, error ≠ .write (.encoding encoding)) ∧ SameFiles tree after) ∨
      ∃ l encoding,
        error = .write (.encoding encoding) ∧
          after.locate current (filePath settings name directory) = .ok l ∧
          after.lookup l = some (.file []) ∧ ∀ m, m ≠ l → SameFileAt tree after m := by
  rcases generateFile_cases failure with
    ⟨codeError, coded, errorEq, rfl⟩ |
      ⟨source, _, ⟨fileError, ensured, errorEq⟩ |
        ⟨made, ensured, ⟨writeError, written, errorEq⟩ | ⟨_, impossible⟩⟩⟩
  · cases errorEq
    exact Or.inl ⟨fun _ => ne_write_of_code_error coded _, fun _ _ => Iff.rfl⟩
  · cases errorEq
    exact Or.inl ⟨by simp, (ensureDirectory_grows ensured).1.sameFiles⟩
  · cases errorEq
    have sameBefore := (ensureDirectory_grows ensured).1.sameFiles
    rcases writeText_cases written with
      ⟨fileError, writeErrorEq, rfl⟩ |
        ⟨l, located, notDirectory, ⟨encoding, _, writeErrorEq, rfl⟩ | ⟨_, _, impossible, _⟩⟩
    · cases writeErrorEq
      exact Or.inl ⟨by simp, sameBefore⟩
    · cases writeErrorEq
      refine Or.inr ⟨l, encoding, rfl, (keepsDirectories_put _ notDirectory).locate located,
        made.lookup_put_self _ (ne_root_of_lookup_ne notDirectory), ?_⟩
      intro m distinct content
      rw [lookup_put_of_ne _ _ distinct]
      exact sameBefore m content
    · cases impossible
  · cases impossible

/--
When writing a handler file fails, the files are the same as before exactly if the failure is not
one of encoding the code, or the file was there and empty before.  In any case no other file than
the one at the path is lost, changed or made.
-/
theorem generateFile_error_sameFiles_iff
    {tree after : FileTree} {current : Location} {settings : Settings} {text name : Text}
    {directory : Path} {error : Error}
    (failure : generateFile tree current settings text name directory = (after, .error error)) :
    (SameFiles tree after ↔
        (∀ encoding, error ≠ .write (.encoding encoding)) ∨
          ∃ l, after.locate current (filePath settings name directory) = .ok l ∧
            tree.lookup l = some (.file [])) ∧
      ∀ l, after.locate current (filePath settings name directory) ≠ .ok l →
        SameFileAt tree after l := by
  rcases generateFile_failure failure with
    ⟨notEncoding, same⟩ | ⟨l, encoding, errorEq, located, emptied, others⟩
  · exact ⟨⟨fun _ => Or.inl notEncoding, fun _ => same⟩, fun l _ => same l⟩
  · refine ⟨⟨?_, ?_⟩, ?_⟩
    · intro same
      exact Or.inr ⟨l, located, (same l []).mp emptied⟩
    · rintro (notEncoding | ⟨place, locatedPlace, emptyBefore⟩)
      · exact absurd errorEq (notEncoding encoding)
      · rw [located] at locatedPlace
        cases locatedPlace
        intro m content
        by_cases here : m = l
        · rw [here, emptied, emptyBefore]
        · exact others m here content
    · intro m elsewhere
      apply others
      intro same
      rw [same] at elsewhere
      exact elsewhere located

/-- A tree with the handler file of an earlier run. -/
def earlierRun : FileTree :=
  ⟨[([Text.ofString "out"], .directory),
    ([Text.ofString "out", Text.ofString "OrderHandler.cs"], .file [0x2F, 0x2F])]⟩

/-- The directory of the file cannot be made where a file is, and all files stay as they are. -/
theorem generateFile_error_sameFiles_iff_earlierRun :
    ∃ after error,
      generateFile earlierRun [] {} "[1]" "Order" (.ofText "new/../out/OrderHandler.cs") =
          (after, .error error) ∧
        (SameFiles earlierRun after ↔
          (∀ encoding, error ≠ .write (.encoding encoding)) ∨
            ∃ l, after.locate [] (filePath {} "Order" (.ofText "new/../out/OrderHandler.cs")) =
                .ok l ∧
              earlierRun.lookup l = some (.file [])) ∧
        ∀ l, after.locate [] (filePath {} "Order" (.ofText "new/../out/OrderHandler.cs")) ≠ .ok l →
          SameFileAt earlierRun after l := by
  have failed :
      (generateFile earlierRun [] {} "[1]" "Order"
        (.ofText "new/../out/OrderHandler.cs")).2.toOption.isNone = true := by
    decide +kernel
  rcases generated :
      generateFile earlierRun [] {} "[1]" "Order" (.ofText "new/../out/OrderHandler.cs") with
    ⟨after, outcome⟩
  rw [generated] at failed
  cases outcome with
  | ok path =>
      cases failed
  | error error =>
      exact ⟨after, error, rfl, generateFile_error_sameFiles_iff generated⟩

/-- A document whose only key is a lone surrogate, which gets into the code. -/
def surrogateDocument : Text := "\x7b\"\\ud800\": 1\x7d"

/-- A failure can empty the file of an earlier run. -/
theorem generateFile_error_empties_earlierRun :
    ∃ after error,
      generateFile earlierRun [] {} surrogateDocument "Order" (.ofText "out") =
          (after, .error error) ∧
        ¬ SameFiles earlierRun after := by
  have failed :
      (generateFile earlierRun [] {} surrogateDocument "Order" (.ofText "out")).2.toOption.isNone =
        true := by
    decide +kernel
  have emptied :
      (generateFile earlierRun [] {} surrogateDocument "Order" (.ofText "out")).1.lookup
          [Text.ofString "out", Text.ofString "OrderHandler.cs"] = some (.file []) := by
    decide +kernel
  rcases generated : generateFile earlierRun [] {} surrogateDocument "Order" (.ofText "out") with
    ⟨after, outcome⟩
  rw [generated] at failed emptied
  cases outcome with
  | ok path =>
      cases failed
  | error error =>
      refine ⟨after, error, rfl, fun same => ?_⟩
      have kept := (same [Text.ofString "out", Text.ofString "OrderHandler.cs"] []).mp emptied
      exact absurd kept (by decide +kernel)

end Handler

end Shapewright
