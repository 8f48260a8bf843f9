import Shapewright.Proofs.Files.Path
import Shapewright.Proofs.Files.Rooted
import Shapewright.Proofs.Handler
import Shapewright.Proofs.Settings.Loading

/-!
# The place of a handler file

The file of a handler is named after the handler, and the name is joined to the directory for output
as a path.  A slash in it is a slash in that path.  Without one, the file lies right in the
directory, and handlers of different names have different files.  With one, it is not a child of the
directory under that name: it lies below the directory as long as the name does not lead up, and it
may lie outside of it.
-/

namespace Shapewright

open Shapewright.Outcome

namespace FileTree

/-- Apart from the file that is written, the files stay as they are. -/
theorem HasWritten.sameFileAt
    {before after : FileTree} {current l m : Location} {p : Path} {content : List UInt8}
    (written : HasWritten before after current p content)
    (located : after.locate current p = .ok l)
    (elsewhere : m ≠ l) :
    SameFileAt before after m := by
  have notLocated : after.locate current p ≠ .ok m := by
    rw [located]
    intro same
    exact elsewhere (Except.ok.inj same).symm
  intro other
  rcases written.others m notLocated with same | ⟨missing, made, _⟩
  · rw [same]
  · rw [missing, made]
    simp

end FileTree

namespace Handler

open FileTree

/-! ## The name of the file -/

theorem fileName_injective
    (settings : Settings) :
    Function.Injective (fileName settings) := by
  intro name other same
  simpa only [fileName, List.append_assoc, List.append_left_inj] using same

theorem isBlank_of_code
    {settings : Settings} {text name source : Text}
    (coded : code settings text name = .ok source) :
    name.isBlank = false := by
  rw [code] at coded
  split at coded
  next => cases coded
  next notBlank => simpa using notBlank

/-- The name of a handler file is not empty, and no single point. -/
theorem isPart_fileName
    {settings : Settings} {name : Text}
    (valid : settings.IsValid)
    (notBlank : name.isBlank = false) :
    Path.isPart (fileName settings name) = true := by
  cases name with
  | nil =>
      cases notBlank
  | cons c rest =>
      have extension := valid.fileExtension
      cases given : settings.fileExtension with
      | nil =>
          rw [given] at extension
          cases extension
      | cons point more =>
          simp [fileName, Path.isPart, given]

/-! ## The place of the file -/

/--
The second tree is the first with a file below a directory, at some names.  The file is found at a
path, and all other files are as they were.
-/
def HasWrittenBelow (before after : FileTree) (current : Location) (path directory : Path)
    (names : List Text) : Prop :=
  ∃ place content,
    after.walk (directory.start current) directory.parts = .ok place ∧
      after.lookup place = some .directory ∧
      after.locate current path = .ok (place ++ names) ∧
      after.lookup (place ++ names) = some (.file content) ∧
      ∀ m, m ≠ place ++ names → SameFileAt before after m

section Placement

variable {tree after : FileTree} {current : Location} {settings : Settings} {text name : Text}
  {directory path : Path}

/-- Writing a handler file keeps a tree rooted, whatever comes of it. -/
theorem generateFile_isRooted
    {outcome : Except Error Path}
    (rooted : tree.IsRooted current)
    (generated : generateFile tree current settings text name directory = (after, outcome)) :
    after.IsRooted current := by
  rcases generateFile_cases generated with
    ⟨_, _, _, rfl⟩ | ⟨source, _, ⟨_, ensured, _⟩ | ⟨made, ensured, ⟨_, written, _⟩ | ⟨written, _⟩⟩⟩
  · exact rooted
  · exact rooted.ensureDirectory ensured
  · exact (rooted.ensureDirectory ensured).writeText written
  · exact (rooted.ensureDirectory ensured).writeText written

/-- A file is written below the directory, if the names behind the directory lead below it. -/
theorem hasWrittenBelow_of_walk
    {names : List Text}
    (success : generateFile tree current settings text name directory = (after, .ok path))
    (pathEq : path = ⟨directory.root, directory.parts ++ names⟩)
    (someNames : names ≠ [])
    (below : ∀ place l content, after.lookup place = some .directory →
      after.walk place names = .ok l → after.lookup l = some (.file content) →
        l = place ++ names) :
    HasWrittenBelow tree after current path directory names := by
  rcases generateFile_success success with ⟨source, made, _, _, ensured, written⟩
  rcases exists_file_of_writeText written with ⟨l, content, _, _, _, located, present⟩
  rcases hasWritten_of_ensureDirectory_of_writeText ensured written with ⟨_, _, hasWritten⟩
  have toFile := (locate_eq_ok_iff.mp located).2.2
  rw [pathEq] at toFile
  rcases walk_append_eq_ok_iff.mp toFile with ⟨place, toPlace, further⟩
  have placeDirectory : after.lookup place = some .directory := by
    cases names with
    | nil =>
        exact absurd rfl someNames
    | cons first rest =>
        exact lookup_of_walk_cons further
  have lEq := below place l content placeDirectory further present
  rw [lEq] at located present
  exact ⟨place, content, toPlace, placeDirectory, located, present,
    fun m elsewhere => hasWritten.sameFileAt located elsewhere⟩

/-- Without a slash in its name, the file lies right in the directory. -/
theorem generateFile_hasWrittenInto
    (valid : settings.IsValid)
    (rooted : tree.IsRooted current)
    (success : generateFile tree current settings text name directory = (after, .ok path))
    (noSlash : .char '/' ∉ fileName settings name) :
    HasWrittenBelow tree after current path directory [fileName settings name] := by
  rcases generateFile_success success with ⟨_, _, coded, pathEq, _, _⟩
  have part := isPart_fileName valid (isBlank_of_code coded)
  rw [filePath, Path.join_of_notMem_slash directory part noSlash] at pathEq
  refine hasWrittenBelow_of_walk success pathEq (List.cons_ne_nil _ _) ?_
  intro place l content placeDirectory leads present
  exact (generateFile_isRooted rooted success).eq_of_walk_child part placeDirectory leads present

/-- A relative path that leads inward only puts the file below the directory. -/
theorem generateFile_hasWrittenBelow
    (success : generateFile tree current settings text name directory = (after, .ok path))
    (relative : (Path.ofText (fileName settings name)).root = .relative)
    (someParts : (Path.ofText (fileName settings name)).parts ≠ [])
    (noParent : Text.ofString ".." ∉ (Path.ofText (fileName settings name)).parts) :
    HasWrittenBelow tree after current path directory
      (Path.ofText (fileName settings name)).parts := by
  rcases generateFile_success success with ⟨_, _, _, pathEq, _, _⟩
  rw [filePath, Path.join, relative] at pathEq
  refine hasWrittenBelow_of_walk success pathEq someParts ?_
  intro place l content _ leads _
  refine eq_of_walk_inward ?_ leads
  intro part member
  exact ⟨(List.mem_filter.mp member).2, fun isParent => noParent (isParent ▸ member)⟩

/-- Handlers of different names have different paths, if the names of their files have no slash. -/
theorem filePath_ne
    {other : Text}
    (valid : settings.IsValid)
    (notBlank : name.isBlank = false)
    (otherNotBlank : other.isBlank = false)
    (noSlash : .char '/' ∉ fileName settings name)
    (otherNoSlash : .char '/' ∉ fileName settings other)
    (distinct : name ≠ other) :
    filePath settings name directory ≠ filePath settings other directory := by
  intro same
  have child : (filePath settings name directory).IsChild directory (fileName settings name) :=
    (Path.isChild_join_ofText_iff directory (isPart_fileName valid notBlank)).mpr noSlash
  have otherChild :
      (filePath settings other directory).IsChild directory (fileName settings other) :=
    (Path.isChild_join_ofText_iff directory (isPart_fileName valid otherNotBlank)).mpr otherNoSlash
  rw [same] at child
  exact distinct (fileName_injective settings (child.2.symm.trans otherChild.2))

/-- Files of different names are at different places, whatever directories they were written in. -/
theorem HasWrittenBelow.place_ne
    {before otherBefore otherAfter : FileTree} {otherPath otherDirectory : Path}
    {file otherFile : Text} {l m : Location}
    (written : HasWrittenBelow before after current path directory [file])
    (otherWritten :
      HasWrittenBelow otherBefore otherAfter current otherPath otherDirectory [otherFile])
    (distinct : file ≠ otherFile)
    (located : after.locate current path = .ok l)
    (otherLocated : otherAfter.locate current otherPath = .ok m) :
    l ≠ m := by
  rcases written with ⟨place, _, _, _, locatedHere, _⟩
  rcases otherWritten with ⟨otherPlace, _, _, _, locatedThere, _⟩
  have here : l = place ++ [file] := Except.ok.inj (located.symm.trans locatedHere)
  have there : m = otherPlace ++ [otherFile] :=
    Except.ok.inj (otherLocated.symm.trans locatedThere)
  intro same
  rw [here, there] at same
  have lastEq : [file] = [otherFile] := List.append_inj_right' same rfl
  exact distinct (List.head_eq_of_cons_eq lastEq)

/--
A handler file lies at its path.  That is a child of the directory for output, under the name of the
file, exactly when the name holds no slash; then the file is written into the directory, and a
handler with another such name has another file.  With slashes, the file is still written below the
directory, if the name is a relative path that has a part and never leads up.
-/
theorem generateFile_isChild_iff
    (valid : settings.IsValid)
    (rooted : tree.IsRooted current)
    (success : generateFile tree current settings text name directory = (after, .ok path)) :
    path = directory.join (.ofText (fileName settings name)) ∧
      (path.IsChild directory (fileName settings name) ↔ .char '/' ∉ fileName settings name) ∧
      (.char '/' ∉ fileName settings name →
        HasWrittenBelow tree after current path directory [fileName settings name]) ∧
      ((Path.ofText (fileName settings name)).root = .relative →
        (Path.ofText (fileName settings name)).parts ≠ [] →
        Text.ofString ".." ∉ (Path.ofText (fileName settings name)).parts →
          HasWrittenBelow tree after current path directory
            (Path.ofText (fileName settings name)).parts) ∧
      ∀ otherTree otherAfter otherText otherName otherPath,
        otherTree.IsRooted current →
        generateFile otherTree current settings otherText otherName directory =
            (otherAfter, .ok otherPath) →
        .char '/' ∉ fileName settings name → .char '/' ∉ fileName settings otherName →
        name ≠ otherName →
          path ≠ otherPath ∧
            ∀ l m, after.locate current path = .ok l →
              otherAfter.locate current otherPath = .ok m → l ≠ m := by
  rcases generateFile_success success with ⟨_, _, coded, pathEq, _, _⟩
  have notBlank := isBlank_of_code coded
  refine ⟨pathEq, ?_, generateFile_hasWrittenInto valid rooted success,
    generateFile_hasWrittenBelow success, ?_⟩
  · rw [pathEq]
    exact Path.isChild_join_ofText_iff directory (isPart_fileName valid notBlank)
  · intro otherTree otherAfter otherText otherName otherPath otherRooted otherSuccess noSlash
      otherNoSlash distinct
    rcases generateFile_success otherSuccess with ⟨_, _, otherCoded, otherPathEq, _, _⟩
    constructor
    · rw [pathEq, otherPathEq]
      exact filePath_ne valid notBlank (isBlank_of_code otherCoded) noSlash otherNoSlash distinct
    · intro l m located otherLocated
      exact (generateFile_hasWrittenInto valid rooted success noSlash).place_ne
        (generateFile_hasWrittenInto valid otherRooted otherSuccess otherNoSlash)
        ((fileName_injective settings).ne distinct) located otherLocated

end Placement

/-- The directory for output may be there already, and be given by a roundabout path. -/
theorem generateFile_isChild_iff_earlierRun :
    ∃ after path,
      generateFile earlierRun [] {} "[1]" "Ship" (.ofText "new/../out") = (after, .ok path) ∧
        path.IsChild (.ofText "new/../out") (fileName {} "Ship") ∧
        HasWrittenBelow earlierRun after [] path (.ofText "new/../out") [fileName {} "Ship"] := by
  have rooted : earlierRun.IsRooted [] :=
    (isRooted_empty.put (l := [Text.ofString "out"]) .directory (by decide) rfl).put
      (l := [Text.ofString "out", Text.ofString "OrderHandler.cs"]) (.file [0x2F, 0x2F])
      (by decide) rfl
  have succeeds :
      (generateFile earlierRun [] {} "[1]" "Ship" (.ofText "new/../out")).2.toOption.isSome =
        true := by
    decide +kernel
  have noSlash : .char '/' ∉ fileName {} "Ship" := by
    decide
  rcases generated : generateFile earlierRun [] {} "[1]" "Ship" (.ofText "new/../out") with
    ⟨after, outcome⟩
  rw [generated] at succeeds
  cases outcome with
  | error error =>
      cases succeeds
  | ok path =>
      rcases generateFile_isChild_iff Settings.isValid_default rooted generated with
        ⟨_, child, written, _⟩
      exact ⟨after, path, rfl, child.mpr noSlash, written noSlash⟩

/-- With two points and a slash at its start, a name leads out of the directory for output; with one
point and a slash, it stands for the file of another handler. -/
theorem generateFile_leaves_directory :
    ({} : Settings).IsValid ∧ Text.isBlank "../Order" = false ∧
      (∃ after path,
        generateFile .empty [] {} "\x7b\x7d" "../Order" (.ofText "out") = (after, .ok path) ∧
          ¬ path.IsChild (.ofText "out") (fileName {} "../Order") ∧
          after.locate [] path = .ok [Text.ofString "OrderHandler.cs"]) ∧
      filePath {} "./Order" (.ofText "out") = filePath {} "Order" (.ofText "out") := by
  have succeeds :
      (generateFile .empty [] {} "\x7b\x7d" "../Order" (.ofText "out")).2.toOption =
        some ⟨.relative, ["out", "..", "OrderHandler.cs"]⟩ := by
    decide +kernel
  have outside :
      ((generateFile .empty [] {} "\x7b\x7d" "../Order" (.ofText "out")).1.locate []
        ⟨.relative, ["out", "..", "OrderHandler.cs"]⟩).toOption =
          some [Text.ofString "OrderHandler.cs"] := by
    decide +kernel
  refine ⟨Settings.isValid_default, by decide, ?_, by decide⟩
  rcases generated : generateFile .empty [] {} "\x7b\x7d" "../Order" (.ofText "out") with
    ⟨after, outcome⟩
  rw [generated] at succeeds outside
  cases outcome with
  | error error =>
      cases succeeds
  | ok path =>
      cases Option.some.inj succeeds
      refine ⟨after, _, rfl, fun child => absurd child.1 (by decide), ?_⟩
      cases located :
          after.locate [] ⟨.relative, ["out", "..", "OrderHandler.cs"]⟩ with
      | error error =>
          rw [located] at outside
          cases outside
      | ok l =>
          rw [located] at outside
          exact congrArg Except.ok (Option.some.inj outside)

end Handler

end Shapewright
