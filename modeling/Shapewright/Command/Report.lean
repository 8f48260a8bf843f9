import Shapewright.Command.Usage
import Shapewright.Console.Display
import Shapewright.Settings.Storage

/-!
# Reports

A command ends in a report: it has something to show, it rejects its input with a message, its
command line is refused, or it breaks off for a failure that it has no message for.  Showing a
report gives what a user sees of it; showing itself may fail, and what has been shown stays.
-/

namespace Shapewright.Command

open Console

/-- The failures that a command breaks off for. -/
inductive Failure where
  | file (error : FileError)
  | write (error : EncodingError)
  | input (error : DecodingError)
  | document (error : Yaml.Error)
  | tooManyDigits
  | display (error : DisplayError)

/-- The wording of a failure. -/
def Failure.message : Failure → Text
  | .file error => error.message
  | .write error => error.message
  | .input error => error.message
  | .document error => error.message
  | .tooManyDigits => Settings.SaveError.tooManyDigits.message
  | .display error => error.message

/-- What a command ends in. -/
inductive Report where
  | shown (displays : List Display)
  | rejected (heading message : Text)
  | refused (error : UsageError)
  | broken (failure : Failure)

/-- What a user sees of a command. -/
structure Outcome where
  exitCode : Nat
  output : Text
  errors : Text
  failure : Option Failure

/-- The marked-up message of a rejection. -/
def rejection (heading message : Text) : Display :=
  .message (Text.ofString "[red]" ++ heading ++ Text.ofString ":[/] " ++ message)

/-- What comes of showing something after some output. -/
def showAll (handlers : HandlerReader) (output : Text) : List Display → Outcome
  | [] => ⟨0, output, [], none⟩
  | display :: rest =>
    match display.text handlers with
    | .ok t => showAll handlers (output ++ t) rest
    | .error error => ⟨1, output, [], some (.display error)⟩

/-- What a user sees of a report. -/
def Report.outcome (report : Report) (handlers : HandlerReader := Literal.refusal?) : Outcome :=
  match report with
  | .shown displays => showAll handlers [] displays
  | .rejected heading message =>
    match (rejection heading message).text handlers with
    | .ok t => ⟨1, [], t, none⟩
    | .error error => ⟨1, [], [], some (.display error)⟩
  | .refused error => ⟨2, [], Text.ofString "Error: " ++ error.message ++ [.char '\n'], none⟩
  | .broken failure => ⟨1, [], [], some failure⟩

end Shapewright.Command
