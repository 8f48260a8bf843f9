import Shapewright.Text.Quoted

/-!
# Misuse of the command line

The reasons why a command line is refused before any work is done.
-/

namespace Shapewright.Command

/-- Why a command line is refused. -/
inductive UsageError where
  | missingCommand
  | unknownCommand (name : Text)
  | unknownOption (option : Text)
  | missingValue (option : Text)
  | unwantedValue (option : Text)
  | missingOperand (name : Text)
  | extraOperand (operand : Text)
  | missingFile (path : Text)
deriving DecidableEq

/-- The wording of a usage error. -/
def UsageError.message : UsageError → Text
  | .missingCommand => "Missing command."
  | .unknownCommand name => Text.ofString "No such command " ++ name.quoted ++ [.char '.']
  | .unknownOption option => Text.ofString "No such option: " ++ option
  | .missingValue option =>
    Text.ofString "Option " ++ option.quoted ++ Text.ofString " requires an argument."
  | .unwantedValue option =>
    Text.ofString "Option " ++ option.quoted ++ Text.ofString " does not take a value."
  | .missingOperand name => Text.ofString "Missing argument " ++ name.quoted ++ [.char '.']
  | .extraOperand operand =>
    Text.ofString "Got unexpected extra argument (" ++ operand ++ [.char ')']
  | .missingFile path => path ++ Text.ofString " does not exist"

end Shapewright.Command
