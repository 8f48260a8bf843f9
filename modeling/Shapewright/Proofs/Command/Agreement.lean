import Shapewright.Proofs.Command.Run
import Shapewright.Proofs.Handler

/-!
# Writing a handler file and previewing it

Two command lines are run on one workspace: one writes the file of a handler, the other one shows
the code for the name of the handler's request, and both name the same sample and the same settings.
If the first one succeeds, then so does the second, and it shows what the file holds.  If the second
one rejects its input, then the first one fails, and it leaves the files alone.
-/

namespace Shapewright.Command

open Shapewright.Outcome Shapewright.Console

section Work

variable {handlers : HandlerReader} {workspace : Workspace} {name base : Text}
  {source config : Option Path}

/-- A run that succeeds has settings, a sample document and a handler file that is written. -/
theorem runGenerate_success
    {directory : Path}
    (success :
      ((runGenerate workspace name source directory config).2.outcome handlers).exitCode = 0) :
    ∃ settings text path,
      loadSettings workspace config = .ok settings ∧ readSource workspace source = .ok text ∧
        Handler.generateFile workspace.tree workspace.current settings text name directory =
          ((runGenerate workspace name source directory config).1, .ok path) := by
  unfold runGenerate at success ⊢
  cases loaded : loadSettings workspace config with
  | error report =>
      simp [loaded, exitCode_of_loadSettings loaded] at success
  | ok settings =>
      simp only [loaded] at success ⊢
      cases sample : readSource workspace source with
      | error error =>
          cases error <;> simp [sample] at success
          exact absurd success (Report.exitCode_of_isAbrupt rfl)
      | ok text =>
          simp only [sample] at success ⊢
          rcases generated :
              Handler.generateFile workspace.tree workspace.current settings text name
                directory with
            ⟨after, outcome⟩
          rw [generated] at success
          cases outcome with
          | error error =>
              simp at success
          | ok path =>
              exact ⟨settings, text, path, rfl, rfl, generated⟩

/-- Code that can be generated from the sample is shown. -/
theorem runPreview_of_generateFromText
    {settings : Settings} {text code : Text}
    (loaded : loadSettings workspace config = .ok settings)
    (sample : readSource workspace source = .ok text)
    (generated : generateFromText settings text (.text base) = .ok code) :
    runPreview workspace base source false config = .shown [.code code] := by
  simp [runPreview, loaded, sample, generated]

/-- A handler file that is written with success holds what is shown for the name of the request. -/
theorem runPreview_of_runGenerate_success
    (directory : Path)
    (named : ∀ settings, loadSettings workspace config = .ok settings →
      base = Handler.requestTypeName settings name)
    (success :
      ((runGenerate workspace name source directory config).2.outcome handlers).exitCode = 0) :
    ∃ settings code bytes,
      loadSettings workspace config = .ok settings ∧
        runPreview workspace base source false config = .shown [.code code] ∧
        Utf8.encode (code ++ [.char '\n']) = .ok bytes ∧
        workspace.tree.HasWritten (runGenerate workspace name source directory config).1
          workspace.current (Handler.filePath settings name directory) bytes := by
  rcases runGenerate_success success with ⟨settings, text, path, loaded, sample, generated⟩
  rcases Handler.generateFile_success generated with ⟨code, made, coded, rfl, ensured, written⟩
  rcases Handler.hasWritten_of_ensureDirectory_of_writeText ensured written with
    ⟨bytes, encoded, hasWritten⟩
  have shown := Handler.generateFromText_of_code coded
  rw [← named settings loaded] at shown
  exact ⟨settings, code, bytes, loaded, runPreview_of_generateFromText loaded sample shown,
    encoded, hasWritten⟩

/-- Input that is rejected for a preview makes no handler file, whatever the handler is called. -/
theorem runGenerate_of_runPreview_rejected
    (directory : Path) {pretty : Bool} {heading message : Text}
    (named : ∀ settings, loadSettings workspace config = .ok settings →
      base = Handler.requestTypeName settings name)
    (rejected : runPreview workspace base source pretty config = .rejected heading message) :
    ∃ report,
      runGenerate workspace name source directory config = (workspace.tree, report) ∧
        (report.outcome handlers).exitCode = 1 := by
  unfold runPreview at rejected
  unfold runGenerate
  cases loaded : loadSettings workspace config with
  | error report =>
      exact ⟨report, rfl, exitCode_of_loadSettings loaded⟩
  | ok settings =>
      simp only [loaded] at rejected ⊢
      cases sample : readSource workspace source with
      | error error =>
          rw [sample] at rejected
          cases error with
          | undecodable path error =>
              exact ⟨_, rfl, Report.exitCode_rejected _ _⟩
          | missing | file | input =>
              cases rejected
      | ok text =>
          simp only [sample] at rejected ⊢
          cases generated : generateFromText settings text (.text base) with
          | ok code =>
              rw [generated] at rejected
              cases rejected
          | error error =>
              rw [named settings loaded] at generated
              -- A blank name is reported in the place of this error, but no code is made anyway.
              cases coded : Handler.code settings text name with
              | ok source =>
                  rw [Handler.generateFromText_of_code coded] at generated
                  cases generated
              | error failure =>
                  rw [Handler.generateFile_of_code_error workspace.tree workspace.current
                    directory coded]
                  exact ⟨_, rfl, exitCode_handlerReport failure⟩

end Work

/-! ## Command lines -/

/--
A command line that writes the file of a handler and one that shows code for the name of the
handler's request, on the same sample, with the same settings and without a layout.  If the first
one exits with zero, then so does the second; the code that it shows, with a line feed, is what the
file holds, and nothing else has been written.  If the second one rejects its input, then both exit
with one, and the first one leaves the files alone.
-/
theorem run_generate_agrees_preview
    (handlers : HandlerReader) {workspace : Workspace} {writing showing : List Text}
    {choices shownChoices : List Choice} {name base : Text} {operands : List Text}
    (writes : Asks writing .generate choices name operands)
    (shows : Asks showing .preview shownChoices base operands)
    (sameConfig : config? shownChoices = config? choices)
    (noLayout : (pretty? shownChoices).getD false = false)
    (named : ∀ settings, loadSettings workspace (settingsPath choices) = .ok settings →
      base = Handler.requestTypeName settings name) :
    (((run workspace writing).2.outcome handlers).exitCode = 0 →
        ∃ settings code bytes,
          loadSettings workspace (settingsPath choices) = .ok settings ∧
            (run workspace showing).2 = .shown [.code code] ∧
            ((run workspace showing).2.outcome handlers).exitCode = 0 ∧
            Utf8.encode (code ++ [.char '\n']) = .ok bytes ∧
            workspace.tree.HasWritten (run workspace writing).1 workspace.current
              (Handler.filePath settings name (outDirectory choices)) bytes) ∧
      ∀ heading message, (run workspace showing).2 = .rejected heading message →
        ((run workspace showing).2.outcome handlers).exitCode = 1 ∧
          ((run workspace writing).2.outcome handlers).exitCode = 1 ∧
          (run workspace writing).1 = workspace.tree := by
  have samePath : settingsPath shownChoices = settingsPath choices :=
    congrArg (Option.map Path.ofText) sameConfig
  have noDirectory : ∀ path, .outDir path ∉ shownChoices := fun path member =>
    Verb.not_offers_outDir (by decide) (Request.offers_of_read shows.read _ member)
  rw [run_generate writes, run_preview shows, noLayout, samePath]
  constructor
  · intro success
    rcases runSample_cases workspace choices operands _ with
      abrupt | ⟨source, checked, sampled, isWork⟩
    · exact absurd success (Report.exitCode_of_isAbrupt abrupt)
    rw [isWork] at success ⊢
    have shownChecked : checkChoices workspace shownChoices shownChoices = .ok () :=
      checkChoices_of_hasConfig noDirectory
        (HasConfig.congr sameConfig (hasConfig_of_checkChoices checked))
    rw [runSample_of_checks _ shownChecked sampled]
    rcases runPreview_of_runGenerate_success (outDirectory choices) named success with
      ⟨settings, code, bytes, loaded, shown, encoded, hasWritten⟩
    rw [shown]
    exact ⟨settings, code, bytes, loaded, rfl, Report.exitCode_code encoded, encoded, hasWritten⟩
  · intro heading message rejected
    rcases runSample_cases workspace shownChoices operands _ with
      abrupt | ⟨source, shownChecked, sampled, isWork⟩
    · rw [rejected] at abrupt
      cases abrupt
    refine ⟨by rw [rejected, Report.exitCode_rejected], ?_⟩
    rw [isWork] at rejected
    have present : HasConfig workspace choices :=
      HasConfig.congr sameConfig.symm (hasConfig_of_checkChoices shownChecked)
    cases checked : checkChoices workspace choices choices with
    | error report =>
        -- The path for output is checked for one of the two lines only.
        rcases broken_of_checkChoices present checked with ⟨failure, rfl⟩
        rw [runSample_of_checkChoices_eq_error operands _ checked]
        exact ⟨Report.exitCode_broken failure, rfl⟩
    | ok _ =>
        rw [runSample_of_checks _ checked sampled]
        rcases runGenerate_of_runPreview_rejected (outDirectory choices) named rejected with
          ⟨report, isReport, fails⟩
        rw [isReport]
        exact ⟨fails, rfl⟩

/-- A sample on standard input, and settings that give requests another suffix. -/
def querySettings : Workspace where
  tree := ⟨[([Text.ofString "shapes.json"],
    .file ("\x7b\"request_suffix\": \"Query\"\x7d".toUTF8.toList))]⟩
  current := []
  input := "\x7b\"id\": [1]\x7d".toUTF8.toList

/-- What is shown for the name of a request is in the file of its handler. -/
theorem run_generate_agrees_preview_querySettings :
    ∃ settings code bytes,
      loadSettings querySettings (some (.ofText "shapes.json")) = .ok settings ∧
        (run querySettings ["preview", "OrderQuery", "--config", "shapes.json"]).2 =
          .shown [.code code] ∧
        Utf8.encode (code ++ [.char '\n']) = .ok bytes ∧
        querySettings.tree.HasWritten
          (run querySettings
            ["generate", "--config=shapes.json", "--out-dir", "out", "--", "Order"]).1
          [] (Handler.filePath settings "Order" (.ofText "out")) bytes := by
  have writes :
      Asks ["generate", "--config=shapes.json", "--out-dir", "out", "--", "Order"] .generate
        [.config "shapes.json", .outDir "out"] "Order" [] :=
    ⟨rfl, by decide⟩
  have shows :
      Asks ["preview", "OrderQuery", "--config", "shapes.json"] .preview
        [.config "shapes.json"] "OrderQuery" [] :=
    ⟨rfl, by decide⟩
  have suffix :
      (loadSettings querySettings (some (.ofText "shapes.json"))).toOption.map
          Settings.requestSuffix =
        some "Query" := by
    decide +kernel
  have named : ∀ settings,
      loadSettings querySettings (some (.ofText "shapes.json")) = .ok settings →
        "OrderQuery" = Handler.requestTypeName settings "Order" := by
    intro settings loaded
    rw [loaded] at suffix
    rw [Handler.requestTypeName, Option.some.inj suffix]
    rfl
  rcases (run_generate_agrees_preview Literal.refusal? writes shows rfl rfl named).1
      (by decide +kernel) with
    ⟨settings, code, bytes, loaded, shown, _, encoded, written⟩
  exact ⟨settings, code, bytes, loaded, shown, encoded, written⟩

end Shapewright.Command
