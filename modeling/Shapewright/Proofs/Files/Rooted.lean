import Shapewright.Proofs.Files.TextFile

/-!
# Rooted file trees

In a file tree every entry stands in a directory, and so does a program that looks at the tree.  The
operations keep this: they only put an entry where a walk leads, and a walk leaves a directory by
one name only.
-/

namespace Shapewright.FileTree

open Shapewright.Outcome

/-- Every entry of the tree stands in a directory, and the current directory is there. -/
structure IsRooted (tree : FileTree) (current : Location) : Prop where
  around : ∀ l, tree.lookup l ≠ none → tree.lookup l.dropLast = some .directory
  current : tree.lookup current = some .directory

theorem isRooted_empty :
    IsRooted empty [] where
  around := by
    intro l present
    cases l with
    | nil =>
        rfl
    | cons name rest =>
        exact absurd rfl present
  current := rfl

namespace IsRooted

variable {tree after : FileTree} {current l : Location} {p : Path}

theorem around_directory
    (rooted : tree.IsRooted current)
    (directory : tree.lookup l = some .directory) :
    tree.lookup l.dropLast = some .directory :=
  rooted.around l (by simp [directory])

/-- A path starts in a directory. -/
theorem start
    (rooted : tree.IsRooted current) (p : Path) :
    tree.lookup (p.start current) = some .directory := by
  unfold Path.start
  split
  · exact rooted.current
  · exact tree.lookup_root

/-- What is entered from a directory stands in a directory. -/
theorem enter
    {start : Location} {name : Text}
    (rooted : tree.IsRooted current)
    (directory : tree.lookup start = some .directory)
    (entered : FileTree.enter start name = .ok l) :
    tree.lookup l.dropLast = some .directory := by
  have around := rooted.around_directory directory
  unfold FileTree.enter at entered
  split at entered
  · cases entered
    exact around
  · split at entered
    · cases entered
      exact rooted.around_directory around
    · split at entered
      · cases entered
      · cases entered
        rw [List.dropLast_concat]
        exact directory

/-- A walk that starts within a directory ends within one. -/
theorem walk
    {start : Location} {names : List Text}
    (rooted : tree.IsRooted current)
    (around : tree.lookup start.dropLast = some .directory)
    (success : tree.walk start names = .ok l) :
    tree.lookup l.dropLast = some .directory := by
  induction names generalizing start with
  | nil =>
      cases success
      exact around
  | cons name rest induction =>
      have directory := lookup_of_walk_cons success
      rw [walk_cons name rest directory, bind_eq_ok_iff] at success
      rcases success with ⟨next, entered, further⟩
      exact induction (rooted.enter directory entered) further

theorem locate
    (rooted : tree.IsRooted current)
    (located : tree.locate current p = .ok l) :
    tree.lookup l.dropLast = some .directory :=
  rooted.walk (rooted.around_directory (rooted.start p)) (locate_eq_ok_iff.mp located).2.2

/-! ## Changes -/

/-- An entry may be put into a directory where none is. -/
theorem put
    (rooted : tree.IsRooted current) (entry : Entry)
    (notDirectory : tree.lookup l ≠ some .directory)
    (around : tree.lookup l.dropLast = some .directory) :
    (tree.put l entry).IsRooted current := by
  have kept := keepsDirectories_put entry notDirectory
  refine ⟨?_, kept current rooted.current⟩
  intro m present
  by_cases here : m = l
  · rw [here]
    exact kept _ around
  · rw [lookup_put_of_ne _ _ here] at present
    exact kept _ (rooted.around m present)

theorem makeDirectory
    (rooted : tree.IsRooted current)
    (made : tree.makeDirectory current p = .ok after) :
    after.IsRooted current := by
  rcases makeDirectory_eq_ok_iff.mp made with ⟨l, located, missing, rfl⟩
  exact rooted.put .directory (by simp [missing]) (rooted.locate located)

theorem attempt
    {outcome : Except FileError Unit}
    (rooted : tree.IsRooted current)
    (attempted : tree.attempt current p = (after, outcome)) :
    after.IsRooted current := by
  rw [FileTree.attempt] at attempted
  split at attempted
  next made making =>
    cases attempted
    exact rooted.makeDirectory making
  next error making =>
    rw [(settleRefusal_cases attempted).1]
    exact rooted

theorem ensureDirectoryWithin
    {fuel : Nat} {outcome : Except FileError Unit}
    (rooted : tree.IsRooted current)
    (ensured : FileTree.ensureDirectoryWithin fuel tree current p = (after, outcome)) :
    after.IsRooted current := by
  induction fuel generalizing after p outcome with
  | zero =>
      rcases ensureDirectoryWithin_cases ensured with
        attempted | ⟨rfl, _⟩ | ⟨_, _, _, impossible, _⟩
      · exact rooted.attempt attempted
      · exact rooted
      · cases impossible
  | succ fuel induction =>
      rcases ensureDirectoryWithin_cases ensured with
        attempted | ⟨rfl, _⟩ | ⟨less, middle, first, fuelEq, around, further⟩
      · exact rooted.attempt attempted
      · exact rooted
      · cases fuelEq
        have middleRooted := induction around
        rcases further with ⟨rfl, _⟩ | attempted
        · exact middleRooted
        · exact middleRooted.attempt attempted

theorem ensureDirectory
    {outcome : Except FileError Unit}
    (rooted : tree.IsRooted current)
    (ensured : tree.ensureDirectory current p = (after, outcome)) :
    after.IsRooted current :=
  rooted.ensureDirectoryWithin ensured

theorem writeText
    {t : Text} {outcome : Except WriteError Unit}
    (rooted : tree.IsRooted current)
    (written : tree.writeText current p t = (after, outcome)) :
    after.IsRooted current := by
  rcases writeText_cases written with
    ⟨_, _, rfl⟩ | ⟨l, located, notDirectory, ⟨_, _, _, rfl⟩ | ⟨bytes, _, _, rfl⟩⟩
  · exact rooted
  · exact rooted.put _ notDirectory (rooted.locate located)
  · exact rooted.put _ notDirectory (rooted.locate located)

/-! ## Files below a directory -/

/-- A file that is one name away from a directory is an entry of that directory. -/
theorem eq_of_walk_child
    {place : Location} {name : Text} {content : List UInt8}
    (rooted : tree.IsRooted current)
    (part : Path.isPart name = true)
    (directory : tree.lookup place = some .directory)
    (leads : tree.walk place [name] = .ok l)
    (present : tree.lookup l = some (.file content)) :
    l = place ++ [name] := by
  rw [walk_cons _ _ directory, bind_eq_ok_iff] at leads
  rcases leads with ⟨next, entered, ended⟩
  cases ended
  rw [FileTree.enter, if_neg (by simp [part])] at entered
  split at entered
  · -- Up from a directory there is a directory and no file.
    cases entered
    rw [rooted.around_directory directory] at present
    cases present
  · split at entered
    · cases entered
    · cases entered
      rfl

end IsRooted

/-- Whether a name leads to an entry of a directory, and not to the directory or the one around. -/
def IsInward (name : Text) : Prop := Path.isPart name = true ∧ name ≠ Text.ofString ".."

/-- A walk by names that lead inward ends below its start. -/
theorem eq_of_walk_inward
    {tree : FileTree} {place l : Location} {names : List Text}
    (inward : ∀ name ∈ names, IsInward name)
    (leads : tree.walk place names = .ok l) :
    l = place ++ names := by
  induction names generalizing place with
  | nil =>
      cases leads
      exact (List.append_nil _).symm
  | cons name rest induction =>
      rcases List.forall_mem_cons.mp inward with ⟨⟨part, notAround⟩, restInward⟩
      rw [walk_cons name rest (lookup_of_walk_cons leads), bind_eq_ok_iff] at leads
      rcases leads with ⟨next, entered, further⟩
      rw [enter, if_neg (by simp [part]), if_neg notAround] at entered
      split at entered
      · cases entered
      · cases entered
        rw [induction restInward further, List.append_assoc, List.singleton_append]

end Shapewright.FileTree
