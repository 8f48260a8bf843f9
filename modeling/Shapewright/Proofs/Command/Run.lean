import Shapewright.Command.Run
import Shapewright.Proofs.Command.Arguments
import Shapewright.Proofs.Console.Display

/-!
# Runs of command lines

Before a command gets to its work, its options and operands are checked.  What goes wrong there ends
the run abruptly: the command line is refused, or the run breaks off, and nothing is rejected with a
message.  This module says what the checks come to, and what is left of a run when they pass.
-/

namespace Shapewright.Command

open Shapewright.Outcome Shapewright.Console

/-! ## Exit codes -/

section ExitCodes

variable {handlers : HandlerReader}

/-- Whether a report is that of a misuse or of a failure that there is no message for. -/
def Report.isAbrupt : Report → Bool
  | .refused _ => true
  | .broken _ => true
  | _ => false

theorem Report.exitCode_of_isAbrupt
    {report : Report}
    (abrupt : report.isAbrupt = true) :
    (report.outcome handlers).exitCode ≠ 0 := by
  cases report with
  | refused error =>
      exact Nat.succ_ne_zero 1
  | broken failure =>
      exact Nat.succ_ne_zero 0
  | shown | rejected =>
      cases abrupt

@[simp]
theorem Report.exitCode_broken
    (failure : Failure) :
    ((Report.broken failure).outcome handlers).exitCode = 1 :=
  rfl

/-- The exit code of a rejection is one, even if its message cannot be shown. -/
@[simp]
theorem Report.exitCode_rejected
    (heading message : Text) :
    ((Report.rejected heading message).outcome handlers).exitCode = 1 := by
  simp only [Report.outcome]
  split <;> rfl

@[simp]
theorem exitCode_handlerReport
    (error : Handler.Error) :
    ((handlerReport error).outcome handlers).exitCode = 1 := by
  unfold handlerReport
  split
  · rfl
  · exact Report.exitCode_rejected _ _

/-- Code that has an encoding is shown with success. -/
theorem Report.exitCode_code
    {code : Text} {bytes : List UInt8}
    (encoded : Utf8.encode (code ++ [.char '\n']) = .ok bytes) :
    ((Report.shown [.code code]).outcome handlers).exitCode = 0 := by
  rcases Display.text_code_of_encode handlers encoded with ⟨t, shown⟩
  simp [Report.outcome, showAll, shown]

theorem exitCode_of_loadSettings
    {workspace : Workspace} {config : Option Path} {report : Report}
    (failed : loadSettings workspace config = .error report) :
    (report.outcome handlers).exitCode = 1 := by
  cases config with
  | none =>
      cases failed
  | some path =>
      simp only [loadSettings] at failed
      split at failed <;> cases failed
      · rfl
      · rfl
      · exact Report.exitCode_rejected _ _

end ExitCodes

/-! ## The checks of a command line -/

theorem broken_of_checkPath
    {path : Text} {report : Report}
    (failed : checkPath path = .error report) :
    ∃ failure, report = .broken failure := by
  unfold checkPath at failed
  cases checked : FileTree.checkPath path with
  | error error =>
      rw [checked] at failed
      cases failed
      exact ⟨_, rfl⟩
  | ok _ =>
      rw [checked] at failed
      cases failed

theorem isAbrupt_of_checkConfig
    {workspace : Workspace} {path : Text} {report : Report}
    (failed : checkConfig workspace path = .error report) :
    report.isAbrupt = true := by
  unfold checkConfig at failed
  cases checked : checkPath path with
  | error error =>
      rw [checked] at failed
      cases failed
      rcases broken_of_checkPath checked with ⟨failure, rfl⟩
      rfl
  | ok _ =>
      rw [checked, ok_bind] at failed
      split at failed
      · cases failed
      · cases failed
        rfl

/-- The check of one option, by the last value that is given. -/
def checkChoice (workspace : Workspace) (given : List Choice) : Choice → Except Report Unit
  | .outDir path => checkPath ((outDir? given).getD path)
  | .config path => checkConfig workspace ((config? given).getD path)
  | _ => .ok ()

theorem checkChoices_cons
    (workspace : Workspace) (given : List Choice) (choice : Choice) (rest : List Choice) :
    checkChoices workspace given (choice :: rest) =
      (checkChoice workspace given choice >>= fun _ => checkChoices workspace given rest) := by
  cases choice <;> rfl

/-- The options of a command pass if each of them does. -/
theorem checkChoices_eq_ok_iff
    {workspace : Workspace} {given choices : List Choice} :
    checkChoices workspace given choices = .ok () ↔
      ∀ choice ∈ choices, checkChoice workspace given choice = .ok () := by
  induction choices with
  | nil =>
      simp [checkChoices]
  | cons choice rest induction =>
      rw [checkChoices_cons, check_bind_eq_ok_iff, induction, List.forall_mem_cons]

theorem exists_of_checkChoices_eq_error
    {workspace : Workspace} {given choices : List Choice} {report : Report}
    (failed : checkChoices workspace given choices = .error report) :
    ∃ choice ∈ choices, checkChoice workspace given choice = .error report := by
  induction choices with
  | nil =>
      cases failed
  | cons choice rest induction =>
      rw [checkChoices_cons] at failed
      cases checked : checkChoice workspace given choice with
      | error error =>
          rw [checked] at failed
          cases failed
          exact ⟨choice, List.mem_cons_self, checked⟩
      | ok _ =>
          rw [checked, ok_bind] at failed
          rcases induction failed with ⟨other, member, otherFailed⟩
          exact ⟨other, List.mem_cons_of_mem choice member, otherFailed⟩

theorem isAbrupt_of_checkChoices
    {workspace : Workspace} {given choices : List Choice} {report : Report}
    (failed : checkChoices workspace given choices = .error report) :
    report.isAbrupt = true := by
  rcases exists_of_checkChoices_eq_error failed with ⟨choice, _, checked⟩
  cases choice with
  | outDir path =>
      rcases broken_of_checkPath checked with ⟨failure, rfl⟩
      rfl
  | config path =>
      exact isAbrupt_of_checkConfig checked
  | pretty | help =>
      cases checked

/-- The last settings file that is given is among the choices. -/
theorem mem_of_config?
    {choices : List Choice} {path : Text}
    (given : config? choices = some path) :
    .config path ∈ choices := by
  rcases List.exists_of_findSome?_eq_some given with ⟨choice, member, found⟩
  cases choice with
  | config other =>
      cases found
      exact List.mem_reverse.mp member
  | outDir | pretty | help =>
      cases found

theorem exists_config?_of_mem
    {choices : List Choice} {path : Text}
    (member : .config path ∈ choices) :
    ∃ last, config? choices = some last := by
  rw [← Option.isSome_iff_exists, config?, List.findSome?_isSome_iff]
  exact ⟨_, List.mem_reverse.mpr member, rfl⟩

/-- The settings file that a command line names last, if it names one, is there. -/
def HasConfig (workspace : Workspace) (choices : List Choice) : Prop :=
  ∀ path, config? choices = some path → checkConfig workspace path = .ok ()

theorem HasConfig.congr
    {workspace : Workspace} {choices others : List Choice}
    (sameConfig : config? others = config? choices)
    (present : HasConfig workspace choices) :
    HasConfig workspace others := by
  intro path given
  exact present path (sameConfig ▸ given)

theorem hasConfig_of_checkChoices
    {workspace : Workspace} {choices : List Choice}
    (passed : checkChoices workspace choices choices = .ok ()) :
    HasConfig workspace choices := by
  intro path given
  have checked := checkChoices_eq_ok_iff.mp passed _ (mem_of_config? given)
  rwa [checkChoice, given, Option.getD_some] at checked

theorem checkChoice_config
    {workspace : Workspace} {choices : List Choice} {path : Text}
    (present : HasConfig workspace choices)
    (member : .config path ∈ choices) :
    checkChoice workspace choices (.config path) = .ok () := by
  rcases exists_config?_of_mem member with ⟨last, given⟩
  rw [checkChoice, given, Option.getD_some]
  exact present last given

/-- Without a directory for output, only the settings file is checked. -/
theorem checkChoices_of_hasConfig
    {workspace : Workspace} {choices : List Choice}
    (noDirectory : ∀ path, .outDir path ∉ choices)
    (present : HasConfig workspace choices) :
    checkChoices workspace choices choices = .ok () := by
  rw [checkChoices_eq_ok_iff]
  intro choice member
  cases choice with
  | outDir path =>
      exact absurd member (noDirectory path)
  | config path =>
      exact checkChoice_config present member
  | pretty | help =>
      rfl

/-- With its settings file there, a command line can still have an impossible path for output. -/
theorem broken_of_checkChoices
    {workspace : Workspace} {choices : List Choice} {report : Report}
    (present : HasConfig workspace choices)
    (failed : checkChoices workspace choices choices = .error report) :
    ∃ failure, report = .broken failure := by
  rcases exists_of_checkChoices_eq_error failed with ⟨choice, member, checked⟩
  cases choice with
  | outDir path =>
      exact broken_of_checkPath checked
  | config path =>
      rw [checkChoice_config present member] at checked
      cases checked
  | pretty | help =>
      cases checked

/-! ## The operands of a command line -/

/-- The sample file that operands name, if they name one. -/
def sampleFile (operands : List Text) : Except Report (Option Path) := do
  let (source, rest) ← takeSource operands
  endOperands rest
  .ok source

theorem isAbrupt_of_sampleFile
    {operands : List Text} {report : Report}
    (failed : sampleFile operands = .error report) :
    report.isAbrupt = true := by
  cases operands with
  | nil =>
      cases failed
  | cons path rest =>
      simp only [sampleFile, takeSource] at failed
      cases checked : checkPath path with
      | error error =>
          rw [checked] at failed
          cases failed
          rcases broken_of_checkPath checked with ⟨failure, rfl⟩
          rfl
      | ok _ =>
          rw [checked] at failed
          cases rest with
          | nil =>
              cases failed
          | cons operand others =>
              cases failed
              rfl

/-! ## Command lines -/

/-- The settings file that choices name last, if they name one. -/
def settingsPath (choices : List Choice) : Option Path := (config? choices).map Path.ofText

/-- The directory for output that choices name last, or the current directory. -/
def outDirectory (choices : List Choice) : Path := .ofText ((outDir? choices).getD ".")

/-- A command line that asks a command for its work, with some choices, an operand, and operands
behind it. -/
structure Asks (line : List Text) (verb : Verb) (choices : List Choice) (first : Text)
    (operands : List Text) : Prop where
  read : Request.read line = .ok (.command verb ⟨choices, first :: operands⟩)
  noHelp : .help ∉ choices

/-- What a run comes to: the checks end it, and the files are left alone, or its work does. -/
def settle (tree : FileTree) (checked : Except Report (FileTree × Report)) : FileTree × Report :=
  match checked with
  | .ok result => result
  | .error report => (tree, report)

/-- The run of a command that works on a sample: its choices and the operands that name the sample
are checked before. -/
def runSample (workspace : Workspace) (choices : List Choice) (operands : List Text)
    (work : Option Path → FileTree × Report) : FileTree × Report :=
  settle workspace.tree (do
    checkChoices workspace choices choices
    let source ← sampleFile operands
    .ok (work source))

theorem runSample_of_checks
    {workspace : Workspace} {choices : List Choice} {operands : List Text} {source : Option Path}
    (work : Option Path → FileTree × Report)
    (checked : checkChoices workspace choices choices = .ok ())
    (sampled : sampleFile operands = .ok source) :
    runSample workspace choices operands work = work source := by
  simp [runSample, settle, checked, sampled]

theorem runSample_of_checkChoices_eq_error
    {workspace : Workspace} {choices : List Choice} {report : Report}
    (operands : List Text) (work : Option Path → FileTree × Report)
    (failed : checkChoices workspace choices choices = .error report) :
    runSample workspace choices operands work = (workspace.tree, report) := by
  simp [runSample, settle, failed]

/-- A run on a sample ends abruptly, or its checks pass and it comes to its work. -/
theorem runSample_cases
    (workspace : Workspace) (choices : List Choice) (operands : List Text)
    (work : Option Path → FileTree × Report) :
    (runSample workspace choices operands work).2.isAbrupt = true ∨
      ∃ source,
        checkChoices workspace choices choices = .ok () ∧ sampleFile operands = .ok source ∧
          runSample workspace choices operands work = work source := by
  cases checked : checkChoices workspace choices choices with
  | error report =>
      rw [runSample_of_checkChoices_eq_error operands work checked]
      exact Or.inl (isAbrupt_of_checkChoices checked)
  | ok _ =>
      cases sampled : sampleFile operands with
      | error report =>
          have isReport : runSample workspace choices operands work = (workspace.tree, report) := by
            simp [runSample, settle, checked, sampled]
          rw [isReport]
          exact Or.inl (isAbrupt_of_sampleFile sampled)
      | ok source =>
          exact Or.inr ⟨source, rfl, rfl, runSample_of_checks work checked sampled⟩

section Runs

variable {workspace : Workspace} {line : List Text} {verb : Verb} {choices : List Choice}
  {first : Text} {operands : List Text}

theorem run_of_asks
    (asks : Asks line verb choices first operands) :
    run workspace line =
      settle workspace.tree (runVerb workspace verb ⟨choices, first :: operands⟩) := by
  have noHelp : choices.contains .help = false := by
    simpa using asks.noHelp
  simp only [run, asks.read, noHelp]
  rfl

/-- A line that writes the file of a handler is checked and then does so. -/
theorem run_generate
    (asks : Asks line .generate choices first operands) :
    run workspace line =
      runSample workspace choices operands fun source =>
        runGenerate workspace first source (outDirectory choices) (settingsPath choices) := by
  rw [run_of_asks asks]
  simp only [runSample, runVerb, takeOperand, ok_bind, sampleFile, bind_assoc]
  rfl

/-- A line that shows code is checked and then does so. -/
theorem run_preview
    (asks : Asks line .preview choices first operands) :
    run workspace line =
      runSample workspace choices operands fun source =>
        (workspace.tree, runPreview workspace first source ((pretty? choices).getD false)
          (settingsPath choices)) := by
  rw [run_of_asks asks]
  simp only [runSample, runVerb, takeOperand, ok_bind, sampleFile, bind_assoc]
  rfl

end Runs

end Shapewright.Command
