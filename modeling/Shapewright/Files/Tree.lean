import Shapewright.Files.Path
import Shapewright.Text.Utf8

/-!
# File trees

A file tree says for every location, a list of names from the root on, whether a file or a
directory is there.  The operations resolve a path from a current directory and fail as a file
system does.
-/

namespace Shapewright

/-- A place in a file tree: the names on the way from the root. -/
abbrev Location := List Text

/-- What may be at a location. -/
inductive Entry where
  | file (content : List UInt8)
  | directory
deriving DecidableEq

/-- The reasons why a file system refuses an operation. -/
inductive FaultKind where
  | notFound
  | alreadyExists
  | notDirectory
  | isDirectory
  | nameTooLong
deriving DecidableEq

/-- Why an operation on files fails: the file system refuses it for a path, or the path cannot be
handed to the file system. -/
inductive FileError where
  | refused (kind : FaultKind) (path : Text)
  | nullInPath
  | unencodablePath (error : EncodingError)
deriving DecidableEq

/-- The number of a fault. -/
def FaultKind.number : FaultKind → Nat
  | .notFound => 2
  | .alreadyExists => 17
  | .notDirectory => 20
  | .isDirectory => 21
  | .nameTooLong => 36

/-- The description of a fault. -/
def FaultKind.description : FaultKind → Text
  | .notFound => "No such file or directory"
  | .alreadyExists => "File exists"
  | .notDirectory => "Not a directory"
  | .isDirectory => "Is a directory"
  | .nameTooLong => "File name too long"

/-- The wording of a file error. -/
def FileError.message : FileError → Text
  | .refused kind path =>
    Text.ofString "[Errno " ++ Text.ofNat 10 kind.number ++ Text.ofString "] " ++
      kind.description ++ Text.ofString ": " ++ path.quoted
  | .nullInPath => "embedded null byte"
  | .unencodablePath error => error.message

/-- The entries of a file tree below its root, which is a directory; a location is listed once. -/
structure FileTree where
  entries : List (Location × Entry)

namespace FileTree

/-- The tree that holds the root only. -/
def empty : FileTree := ⟨[]⟩

/-- What is at a location. -/
def lookup (tree : FileTree) (l : Location) : Option Entry :=
  match l with
  | [] => some .directory
  | l => (tree.entries.find? (fun e => e.1 = l)).map (·.2)

/-- The entries with a new or changed one. -/
def putEntry (l : Location) (entry : Entry) : List (Location × Entry) → List (Location × Entry)
  | [] => [(l, entry)]
  | e :: rest => if e.1 = l then (l, entry) :: rest else e :: putEntry l entry rest

/-- The tree with a new or changed entry at a location. -/
def put (tree : FileTree) (l : Location) (entry : Entry) : FileTree :=
  ⟨putEntry l entry tree.entries⟩

/-- The number of bytes of a path on its way to the file system, where some surrogates stand for
single bytes. -/
def byteLength : Text → Nat
  | [] => 0
  | .char c :: rest => (Utf8.encodeChar c).length + byteLength rest
  | .surrogate _ :: rest => byteLength rest + 1

/-- The number of bytes that a name may have. -/
def maxNameLength : Nat := 255

/-- The number of bytes that a whole path may have. -/
def maxPathLength : Nat := 4095

/-- Whether a surrogate stands for a single byte above 0x7F. -/
def isByteSurrogate (c : CodePoint) : Bool := 0xDC80 ≤ c.toNat && c.toNat ≤ 0xDCFF

/-- The surrogates at a position that no byte stands for. -/
def unencodable? (position : Nat) : Text → Option EncodingError
  | [] => none
  | c :: rest =>
    match c with
    | .char _ => unencodable? (position + 1) rest
    | .surrogate _ =>
      if isByteSurrogate c then unencodable? (position + 1) rest
      else some ⟨c, position, Utf8.surrogateRun rest + 1⟩

/-- The text of a path as it is handed to the file system. -/
def checkPath (path : Text) : Except FileError Unit :=
  match unencodable? 0 path with
  | some error => .error (.unencodablePath error)
  | none => if path.contains (.char '\x00') then .error .nullInPath else .ok ()

/-- The location that names lead to from a directory.  All but the last have to lead to a
directory; an empty name and a single point stay there, and `..` leads to the directory around, or
from the root to itself. -/
def walk (tree : FileTree) (start : Location) : List Text → Except FaultKind Location
  | [] => .ok start
  | name :: rest =>
    if tree.lookup start != some .directory then
      .error (if (tree.lookup start).isNone then .notFound else .notDirectory)
    else if !Path.isPart name then walk tree start rest
    else if name = Text.ofString ".." then walk tree start.dropLast rest
    else if maxNameLength < byteLength name then .error .nameTooLong
    else walk tree (start ++ [name]) rest

/-- The location of a path seen from a current directory. -/
def locate (tree : FileTree) (current : Location) (p : Path) : Except FileError Location := do
  let text := p.toText
  checkPath text
  if maxPathLength < byteLength text then .error (.refused .nameTooLong text)
  else
    let start :=
      match p.root with
      | .relative => current
      | _ => []
    match walk tree start p.parts with
    | .ok l => .ok l
    | .error kind => .error (.refused kind text)

/-- Whether something is at a path in text, where a slash at the end asks for a directory. -/
def hasEntry (tree : FileTree) (current : Location) (path : Text) : Bool :=
  let start :=
    match Path.rootOf path with
    | .relative => current
    | _ => []
  !path.isEmpty && byteLength path ≤ maxPathLength &&
    match walk tree start (path.splitOn (.char '/')) with
    | .ok l => (tree.lookup l).isSome
    | .error _ => false

/-- The content of the file at a path. -/
def read (tree : FileTree) (current : Location) (p : Path) : Except FileError (List UInt8) := do
  let l ← locate tree current p
  match tree.lookup l with
  | some (.file content) => .ok content
  | some .directory => .error (.refused .isDirectory p.toText)
  | none => .error (.refused .notFound p.toText)

/-- Opens the file at a path for writing: it is there and empty then.  Its location is the second
part of the answer. -/
def truncate (tree : FileTree) (current : Location) (p : Path) :
    Except FileError (FileTree × Location) := do
  let l ← locate tree current p
  match tree.lookup l with
  | some .directory => .error (.refused .isDirectory p.toText)
  | _ => .ok (tree.put l (.file []), l)

/-- Makes the directory at a path, whose parent has to be there. -/
def makeDirectory (tree : FileTree) (current : Location) (p : Path) :
    Except FileError FileTree := do
  let l ← locate tree current p
  match tree.lookup l with
  | some _ => .error (.refused .alreadyExists p.toText)
  | none => .ok (tree.put l .directory)

/-- Whether a directory is at a path. -/
def isDirectory (tree : FileTree) (current : Location) (p : Path) : Bool :=
  match locate tree current p with
  | .ok l => tree.lookup l == some .directory
  | .error _ => false

/-- What a refusal to make a directory comes to: it is no fault that the directory is there
already. -/
def settleRefusal (tree : FileTree) (current : Location) (p : Path) (error : FileError) :
    FileTree × Except FileError Unit :=
  match error with
  | .refused kind text =>
    if isDirectory tree current p then (tree, .ok ()) else (tree, .error (.refused kind text))
  | error => (tree, .error error)

/-- Makes the directory at a path and those that are missing on the way there.  What is made stays
if a later step fails.  `fuel` bounds the number of parents. -/
def ensureDirectoryWithin (fuel : Nat) (tree : FileTree) (current : Location) (p : Path) :
    FileTree × Except FileError Unit :=
  match makeDirectory tree current p with
  | .ok tree => (tree, .ok ())
  | .error (.refused .notFound text) =>
    match fuel with
    | 0 => (tree, .error (.refused .notFound text))
    | fuel + 1 =>
      match ensureDirectoryWithin fuel tree current p.parent with
      | (tree, .error error) => (tree, .error error)
      | (tree, .ok ()) =>
        match makeDirectory tree current p with
        | .ok tree => (tree, .ok ())
        | .error error => settleRefusal tree current p error
  | .error error => settleRefusal tree current p error

/-- Makes the directory at a path and those that are missing on the way there. -/
def ensureDirectory (tree : FileTree) (current : Location) (p : Path) :
    FileTree × Except FileError Unit :=
  ensureDirectoryWithin p.parts.length tree current p

end FileTree

end Shapewright
