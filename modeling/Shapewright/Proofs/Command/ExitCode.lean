import Shapewright.Proofs.Command.Agreement
import Shapewright.Proofs.Console.Markup

/-!
# The exit code of a run that writes

When the file of a handler is written, a run still has to show three messages, and the name of the
root class and the path of the file stand in them as they are.  So the exit code does not tell
whether the file was written: it is zero only if the file was, but it is one as well if one of the
two texts cannot be shown, and then the file stays.
-/

namespace Shapewright.Command

open Shapewright.Outcome Shapewright.Console

/-! ## Showing several things -/

section Showing

variable {handlers : HandlerReader}

/-- Everything is shown, or the output breaks off for what cannot be shown. -/
theorem showAll_cases
    (output : Text) (displays : List Display) :
    ((showAll handlers output displays).exitCode = 0 ∧
        ∀ display ∈ displays, ∃ t, display.text handlers = .ok t) ∨
      (showAll handlers output displays).exitCode = 1 ∧
        (∃ error, (showAll handlers output displays).failure = some (.display error)) ∧
        ∃ display ∈ displays, ∀ t, display.text handlers ≠ .ok t := by
  induction displays generalizing output with
  | nil => exact .inl ⟨rfl, by simp⟩
  | cons display rest induction =>
      rw [showAll]
      cases shown : display.text handlers with
      | error error =>
          exact .inr ⟨rfl, ⟨error, rfl⟩, display, List.mem_cons_self, by simp [shown]⟩
      | ok t =>
          rcases induction (output ++ t) with
            ⟨exits, others⟩ | ⟨exits, fails, other, member, notShown⟩
          · exact .inl ⟨exits, List.forall_mem_cons.mpr ⟨⟨t, shown⟩, others⟩⟩
          · exact .inr ⟨exits, fails, other, List.mem_cons_of_mem display member, notShown⟩

theorem Report.exitCode_shown_eq_zero_iff
    {displays : List Display} :
    ((Report.shown displays).outcome handlers).exitCode = 0 ↔
      ∀ display ∈ displays, ∃ t, display.text handlers = .ok t := by
  rcases showAll_cases [] displays with ⟨exits, allShown⟩ | ⟨exits, _, display, member, notShown⟩
  · exact ⟨fun _ => allShown, fun _ => exits⟩
  · constructor
    · intro zero
      exact absurd (zero.symm.trans exits) (by decide)
    · intro allShown
      rcases allShown display member with ⟨t, shown⟩
      exact absurd shown (notShown t)

/-- What cannot all be shown ends with the exit code one, for a failure of the console. -/
theorem Report.exitCode_shown_of_ne_zero
    {displays : List Display}
    (fails : ((Report.shown displays).outcome handlers).exitCode ≠ 0) :
    ((Report.shown displays).outcome handlers).exitCode = 1 ∧
      ∃ error, ((Report.shown displays).outcome handlers).failure = some (.display error) := by
  rcases showAll_cases [] displays with ⟨exits, _⟩ | ⟨exits, broken, _⟩
  · exact absurd exits fails
  · exact ⟨exits, broken⟩

end Showing

/-! ## Runs that write -/

/-- The checks of a command line pass, and the file of the handler is written at a path. -/
structure Writes (workspace : Workspace) (choices : List Choice) (name : Text)
    (operands : List Text) (settings : Settings) (after : FileTree) (path : Path) : Prop where
  checked : checkChoices workspace choices choices = .ok ()
  loaded : loadSettings workspace (settingsPath choices) = .ok settings
  written : ∃ source text,
    sampleFile operands = .ok source ∧ readSource workspace source = .ok text ∧
      Handler.generateFile workspace.tree workspace.current settings text name
        (outDirectory choices) = (after, .ok path)

/-- The message that names the root class of a handler file. -/
def typeMessage (settings : Settings) (name : Text) : Text :=
  Markup.heading "Root type:" ++ Handler.requestTypeName settings name

/-- The message that names the path of a handler file. -/
def pathMessage (path : Path) : Text := Markup.heading "Written:" ++ path.toText

/-- What is shown when the file of a handler is written. -/
def writtenMessages (settings : Settings) (name : Text) (path : Path) : List Display :=
  [.message "[bold green]Code generated successfully![/]", .message (typeMessage settings name),
    .message (pathMessage path)]

section Runs

variable {handlers : HandlerReader} {workspace : Workspace} {line : List Text}
  {choices : List Choice} {name : Text} {operands : List Text} {settings : Settings}
  {after : FileTree} {path : Path}

theorem run_of_writes
    (asks : Asks line .generate choices name operands)
    (writes : Writes workspace choices name operands settings after path) :
    run workspace line = (after, .shown (writtenMessages settings name path)) := by
  rcases writes with ⟨checked, loaded, source, text, sampled, sample, generated⟩
  rw [run_generate asks, runSample_of_checks _ checked sampled]
  simp only [runGenerate, loaded, sample, generated]
  rfl

theorem exists_writes_of_exitCode
    (asks : Asks line .generate choices name operands)
    (success : ((run workspace line).2.outcome handlers).exitCode = 0) :
    ∃ settings after path, Writes workspace choices name operands settings after path := by
  rw [run_generate asks] at success
  rcases runSample_cases workspace choices operands _ with
    abrupt | ⟨source, checked, sampled, isWork⟩
  · exact absurd success (Report.exitCode_of_isAbrupt abrupt)
  · rw [isWork] at success
    rcases runGenerate_success success with ⟨settings, text, path, loaded, sample, generated⟩
    exact ⟨settings, _, path, checked, loaded, source, text, sampled, sample, generated⟩

theorem Writes.hasWritten
    (writes : Writes workspace choices name operands settings after path) :
    ∃ bytes, workspace.tree.HasWritten after workspace.current path bytes := by
  rcases writes with ⟨_, _, source, text, _, _, generated⟩
  rcases Handler.generateFile_success generated with ⟨code, made, _, rfl, ensured, written⟩
  rcases Handler.hasWritten_of_ensureDirectory_of_writeText ensured written with
    ⟨bytes, _, hasWritten⟩
  exact ⟨bytes, hasWritten⟩

/-- The first message can always be shown. -/
theorem shows_success
    (handlers : HandlerReader) :
    Markup.Shows handlers "[bold green]Code generated successfully![/]" := by
  have parts : Markup.pieces "[bold green]Code generated successfully![/]" =
      [.tag "bold green" 0, .text "Code generated successfully!", .tag "/" 40] := by
    decide +kernel
  have green : Style.normalize "bold green" = .ok "bold green" := by decide +kernel
  have known : Style.lookupError? "bold green" = none := by decide +kernel
  have rendered : Markup.render handlers "[bold green]Code generated successfully![/]" =
      .ok ⟨"Code generated successfully!", [⟨0, 28, "bold green"⟩]⟩ := by
    rw [Markup.render, parts, List.foldlM_cons,
      Markup.take_style handlers _ _ (by decide) rfl green, ok_bind, List.foldlM_cons,
      Markup.Rendering.take, ok_bind, List.foldlM_cons,
      Markup.take_close handlers _ rfl rfl]
    rfl
  refine ⟨_, rendered, Styled.lookupError?_eq_none fun span member => ?_, rfl⟩
  rw [List.mem_singleton.mp member]
  exact known

theorem exitCode_writtenMessages_eq_zero_iff :
    ((Report.shown (writtenMessages settings name path)).outcome handlers).exitCode = 0 ↔
      Markup.Shows handlers (typeMessage settings name) ∧
        Markup.Shows handlers (pathMessage path) := by
  have success := shows_success handlers
  simp [Report.exitCode_shown_eq_zero_iff, writtenMessages, Display.text_message_iff, success]

end Runs

/-- No files, and an empty object on standard input. -/
def emptySample : Workspace where
  tree := ⟨[]⟩
  current := []
  input := [0x7B, 0x7D]

end Shapewright.Command
