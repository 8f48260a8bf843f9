import Shapewright.Command.Run

/-!
# The program

The command line at work on the real file system.  The files that the arguments name, and those that
stand where the command would write, are read into a file tree, the command runs on that tree, and
what it has changed there is written back.
-/

namespace Shapewright.Program

/-- The path of a location. -/
def pathOf (l : Location) : String := "/" ++ (Text.join "/" l).toString

/-- What is at a location of the real file system. -/
def readEntry (l : Location) : IO (Option Entry) := do
  match ← (IO.FS.readBinFile (pathOf l)).toBaseIO with
  | .ok content => return some (.file content.toList)
  | .error (.inappropriateType ..) => return some .directory
  | .error _ => return none

/-- The locations on the way along a path, seen from a directory. -/
def stations (start : Location) : List Text → List Location
  | [] => [start]
  | name :: rest =>
    let next := if name = Text.ofString ".." then start.dropLast else start ++ [name]
    start :: stations next rest

/-- The locations on the way to what an argument may name. -/
def argumentStations (current : Location) (argument : Text) : List Location :=
  let path := Path.ofText argument
  stations (if path.root = .relative then current else []) path.parts

/-- A tree extended by what is at the locations on a way, as far as directories lead. -/
def readStations (tree : FileTree) : List Location → IO FileTree
  | [] => return tree
  | l :: rest => do
    match tree.lookup l with
    | some .directory => readStations tree rest
    | some (.file _) => return tree
    | none =>
      match ← readEntry l with
      | some .directory => readStations (tree.put l .directory) rest
      | some entry => return tree.put l entry
      | none => return tree

/-- The tree of the files that a command line may ask for. -/
def readTree (current : Location) (arguments : List Text) : IO FileTree := do
  let named := arguments.flatMap fun argument =>
    [argument, (argument.dropWhile (· != .char '=')).drop 1]
  let tree ← readStations .empty (stations [] current)
  named.foldlM (fun tree argument => readStations tree (argumentStations current argument)) tree

/-- A tree extended by what is at the locations that a command has changed in it. -/
def readChanged (before after : FileTree) : IO FileTree :=
  after.entries.foldlM (fun tree (l, entry) =>
    if before.lookup l == some entry then return tree else readStations tree (stations [] l)) before

/-- Writes an entry of a tree to the real file system. -/
def writeEntry (l : Location) : Entry → IO Unit
  | .directory => IO.FS.createDir (pathOf l)
  | .file content => IO.FS.writeBinFile (pathOf l) ⟨content.toArray⟩

/-- Writes back what is new or changed in a tree. -/
def writeChanges (before after : FileTree) : IO Unit :=
  after.entries.forM fun (l, entry) =>
    if before.lookup l == some entry then pure () else writeEntry l entry

/-- All bytes of a stream behind those that have been read. -/
partial def readAll (stream : IO.FS.Stream) (content : ByteArray) : IO ByteArray := do
  let more ← stream.read 65536
  if more.isEmpty then return content
  readAll stream (content ++ more)

/-- Runs a command line. -/
def run (arguments : List Text) : IO Command.Outcome := do
  let current := (Path.ofText (Text.ofString (toString (← IO.currentDir)))).parts
  let tree ← readTree current arguments
  let input ←
    if Command.readsInput arguments then readAll (← IO.getStdin) .empty else pure .empty
  -- A command may change what no argument names, such as a directory below the one for output, so
  -- it runs once more when what is there has been read.
  let (planned, _) := Command.run { tree, current, input := input.toList } arguments
  let tree ← readChanged tree planned
  let (after, report) := Command.run { tree, current, input := input.toList } arguments
  writeChanges tree after
  return report.outcome

end Shapewright.Program

/-- Runs the command line, shows what comes of it, and ends with its exit code. -/
def main (arguments : List String) : IO UInt32 := do
  let outcome ← Shapewright.Program.run (arguments.map Shapewright.Text.ofString)
  (← IO.getStdout).putStr outcome.output.toString
  (← IO.getStderr).putStr outcome.errors.toString
  if let some failure := outcome.failure then
    (← IO.getStderr).putStrLn failure.message.toString
  return outcome.exitCode.toUInt32
