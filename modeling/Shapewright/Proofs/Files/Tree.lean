import Shapewright.Files.Tree
import Shapewright.Proofs.Outcome

/-!
# File trees under change

What the operations on a file tree leave as it was.  A tree is observed through what is at each
location, and two relations say how a later tree stands to an earlier one: it keeps the directories,
so that every path still leads where it led; or it grows, so that it differs only by directories at
places where nothing was.

The main statements are about making a directory and those missing on the way there.  Whatever
comes of it, the tree grows, and only at locations that the path passes; if it succeeds, the path
leads to a directory, and then doing it once more changes nothing.
-/

namespace Shapewright

open Shapewright.Outcome

/-- The location that a path starts from. -/
def Path.start (current : Location) (p : Path) : Location :=
  match p.root with
  | .relative => current
  | _ => []

@[simp]
theorem Path.start_parent
    (current : Location) (p : Path) :
    p.parent.start current = p.start current :=
  rfl

namespace FileTree

/-! ## Entries -/

@[simp]
theorem lookup_root
    (tree : FileTree) :
    tree.lookup [] = some .directory :=
  rfl

theorem lookup_eq_find?
    (tree : FileTree) {l : Location}
    (below : l ≠ []) :
    tree.lookup l = (tree.entries.find? (fun e => e.1 = l)).map (·.2) := by
  cases l with
  | nil =>
      exact absurd rfl below
  | cons name rest =>
      rfl

/-- What is not a directory is below the root. -/
theorem ne_root_of_lookup_ne
    {tree : FileTree} {l : Location}
    (notDirectory : tree.lookup l ≠ some .directory) :
    l ≠ [] := by
  intro isRoot
  rw [isRoot] at notDirectory
  exact notDirectory tree.lookup_root

theorem find?_putEntry_self
    (l : Location) (entry : Entry) (entries : List (Location × Entry)) :
    (putEntry l entry entries).find? (fun e => e.1 = l) = some (l, entry) := by
  induction entries with
  | nil =>
      simp [putEntry]
  | cons e rest induction =>
      by_cases here : e.1 = l
      · simp [putEntry, here]
      · simpa [putEntry, here] using induction

theorem find?_putEntry_of_ne
    {l m : Location} (entry : Entry) (entries : List (Location × Entry))
    (distinct : m ≠ l) :
    (putEntry l entry entries).find? (fun e => e.1 = m) = entries.find? (fun e => e.1 = m) := by
  induction entries with
  | nil =>
      simp [putEntry, distinct.symm]
  | cons e rest induction =>
      by_cases here : e.1 = l
      · simp [putEntry, here, distinct.symm]
      · simp [putEntry, here, List.find?_cons, induction]

theorem lookup_put_self
    (tree : FileTree) {l : Location} (entry : Entry)
    (below : l ≠ []) :
    (tree.put l entry).lookup l = some entry := by
  rw [lookup_eq_find? _ below, put, find?_putEntry_self]
  rfl

theorem lookup_put_of_ne
    (tree : FileTree) {l m : Location} (entry : Entry)
    (distinct : m ≠ l) :
    (tree.put l entry).lookup m = tree.lookup m := by
  by_cases isRoot : m = []
  · rw [isRoot, lookup_root, lookup_root]
  · rw [lookup_eq_find? _ isRoot, lookup_eq_find? _ isRoot, put, find?_putEntry_of_ne _ _ distinct]

/-- Of two entries put at one location, one after the other, the second stays. -/
@[simp]
theorem put_put
    (tree : FileTree) (l : Location) (first second : Entry) :
    (tree.put l first).put l second = tree.put l second := by
  have entriesEq : ∀ entries,
      putEntry l second (putEntry l first entries) = putEntry l second entries := by
    intro entries
    induction entries with
    | nil =>
        simp [putEntry]
    | cons e rest induction =>
        by_cases here : e.1 = l <;> simp [putEntry, here, induction]
  simp [put, entriesEq]

/-- Putting what is already there changes nothing. -/
theorem put_eq_self
    {tree : FileTree} {l : Location} {entry : Entry}
    (below : l ≠ [])
    (present : tree.lookup l = some entry) :
    tree.put l entry = tree := by
  have entriesEq : ∀ entries : List (Location × Entry),
      (entries.find? (fun e => e.1 = l)).map (·.2) = some entry →
        putEntry l entry entries = entries := by
    intro entries found
    induction entries with
    | nil =>
        simp at found
    | cons e rest induction =>
        rcases e with ⟨m, old⟩
        by_cases here : m = l
        · simp only [here, decide_true, List.find?_cons_of_pos, Option.map_some,
            Option.some.injEq] at found
          simp [putEntry, here, found]
        · simp only [here, decide_false, Bool.false_eq_true, not_false_eq_true,
            List.find?_cons_of_neg] at found
          simp [putEntry, here, induction found]
  rw [lookup_eq_find? _ below] at present
  simp [put, entriesEq tree.entries present]

/-! ## Later trees -/

/-- What is a directory in the first tree is one in the second. -/
def KeepsDirectories (before after : FileTree) : Prop :=
  ∀ l, before.lookup l = some .directory → after.lookup l = some .directory

/-- The second tree is the first with directories at some of the places where nothing was. -/
def Grows (before after : FileTree) (places : Location → Prop) : Prop :=
  ∀ l, after.lookup l = before.lookup l ∨
    before.lookup l = none ∧ after.lookup l = some .directory ∧ places l

/-- At a location, both trees hold the same file with the same content, or neither holds one. -/
def SameFileAt (before after : FileTree) (l : Location) : Prop :=
  ∀ content, after.lookup l = some (.file content) ↔ before.lookup l = some (.file content)

/-- Both trees hold the same files with the same contents; directories may differ. -/
def SameFiles (before after : FileTree) : Prop :=
  ∀ l, SameFileAt before after l

theorem Grows.refl
    (tree : FileTree) (places : Location → Prop) :
    Grows tree tree places :=
  fun _ => Or.inl rfl

theorem Grows.mono
    {before after : FileTree} {places more : Location → Prop}
    (grows : Grows before after places)
    (weaker : ∀ l, places l → more l) :
    Grows before after more := by
  intro l
  rcases grows l with same | ⟨missing, made, place⟩
  · exact Or.inl same
  · exact Or.inr ⟨missing, made, weaker l place⟩

theorem Grows.trans
    {first second third : FileTree} {places : Location → Prop}
    (left : Grows first second places)
    (right : Grows second third places) :
    Grows first third places := by
  intro l
  rcases right l with same | ⟨missing, made, place⟩
  · rw [same]
    exact left l
  · rcases left l with same | ⟨_, already, _⟩
    · exact Or.inr ⟨by rw [← same, missing], made, place⟩
    · rw [missing] at already
      cases already

theorem Grows.keepsDirectories
    {before after : FileTree} {places : Location → Prop}
    (grows : Grows before after places) :
    KeepsDirectories before after := by
  intro l isDirectory
  rcases grows l with same | ⟨_, made, _⟩
  · rw [same, isDirectory]
  · exact made

theorem Grows.sameFiles
    {before after : FileTree} {places : Location → Prop}
    (grows : Grows before after places) :
    SameFiles before after := by
  intro l content
  rcases grows l with same | ⟨missing, made, _⟩
  · rw [same]
  · rw [missing, made]
    simp

/-- What replaces something other than a directory keeps the directories. -/
theorem keepsDirectories_put
    {tree : FileTree} {l : Location} (entry : Entry)
    (notDirectory : tree.lookup l ≠ some .directory) :
    KeepsDirectories tree (tree.put l entry) := by
  intro m isDirectory
  have distinct : m ≠ l := by
    intro same
    rw [same] at isDirectory
    exact notDirectory isDirectory
  rw [lookup_put_of_ne _ _ distinct, isDirectory]

/-! ## Walks -/

/-- Where a name leads from a directory; it does not depend on what is in the tree. -/
def enter (start : Location) (name : Text) : Except FaultKind Location :=
  if !Path.isPart name then .ok start
  else if name = Text.ofString ".." then .ok start.dropLast
  else if maxNameLength < byteLength name then .error .nameTooLong
  else .ok (start ++ [name])

/-- From a directory, a walk enters its first name and goes on from there. -/
theorem walk_cons
    {tree : FileTree} {start : Location} (name : Text) (rest : List Text)
    (isDirectory : tree.lookup start = some .directory) :
    tree.walk start (name :: rest) = (enter start name >>= fun l => tree.walk l rest) := by
  simp only [walk, enter, isDirectory, bne_self_eq_false, Bool.false_eq_true, ↓reduceIte]
  by_cases isPart : Path.isPart name = true
  · by_cases isParent : name = Text.ofString ".."
    · have parentIsPart : Path.isPart (Text.ofString "..") = true := rfl
      simp [isParent, parentIsPart]
    · by_cases long : maxNameLength < byteLength name <;> simp [isPart, isParent, long]
  · simp [isPart]

/-- Only from a directory does a walk go on. -/
theorem lookup_of_walk_cons
    {tree : FileTree} {start l : Location} {name : Text} {rest : List Text}
    (success : tree.walk start (name :: rest) = .ok l) :
    tree.lookup start = some .directory := by
  by_cases isDirectory : tree.lookup start = some .directory
  · exact isDirectory
  · simp [walk, isDirectory] at success

/-- A walk goes on from where its first part leads. -/
theorem walk_append_eq_ok_iff
    {tree : FileTree} {start l : Location} {names more : List Text} :
    tree.walk start (names ++ more) = .ok l ↔
      ∃ m, tree.walk start names = .ok m ∧ tree.walk m more = .ok l := by
  induction names generalizing start with
  | nil =>
      simp [walk]
  | cons name rest induction =>
      by_cases isDirectory : tree.lookup start = some .directory
      · rw [List.cons_append, walk_cons name _ isDirectory, walk_cons name _ isDirectory]
        cases enter start name with
        | ok next =>
            exact induction
        | error kind =>
            simp
      · simp [walk, isDirectory]

/-- Each part of a walk before its end leads to a directory. -/
theorem walk_of_prefix
    {tree : FileTree} {start l : Location} {names way : List Text}
    (initial : way <+: names)
    (proper : way ≠ names)
    (success : tree.walk start names = .ok l) :
    ∃ m, tree.walk start way = .ok m ∧ tree.lookup m = some .directory := by
  rcases initial with ⟨rest, rfl⟩
  rcases walk_append_eq_ok_iff.mp success with ⟨m, passed, further⟩
  cases rest with
  | nil =>
      exact absurd (List.append_nil way).symm proper
  | cons name others =>
      exact ⟨m, passed, lookup_of_walk_cons further⟩

/-- As long as directories are kept, a walk leads where it led. -/
theorem KeepsDirectories.walk
    {before after : FileTree} {start l : Location} {names : List Text}
    (kept : KeepsDirectories before after)
    (success : before.walk start names = .ok l) :
    after.walk start names = .ok l := by
  induction names generalizing start with
  | nil =>
      exact success
  | cons name rest induction =>
      have isDirectory := lookup_of_walk_cons success
      rw [walk_cons name rest isDirectory, bind_eq_ok_iff] at success
      rcases success with ⟨next, entered, further⟩
      rw [walk_cons name rest (kept start isDirectory), entered]
      exact induction further

/-! ## Paths -/

theorem locate_eq_ok_iff
    {tree : FileTree} {current l : Location} {p : Path} :
    tree.locate current p = .ok l ↔
      checkPath p.toText = .ok () ∧ byteLength p.toText ≤ maxPathLength ∧
        tree.walk (p.start current) p.parts = .ok l := by
  rw [locate, check_bind_eq_ok_iff]
  by_cases long : maxPathLength < byteLength p.toText
  · simp [long, Nat.not_le.mpr long]
  · simp only [long, ↓reduceIte, Nat.le_of_not_lt long, true_and]
    split
    next m walked =>
      change tree.walk (p.start current) p.parts = .ok m at walked
      simp [walked]
    next kind walked =>
      change tree.walk (p.start current) p.parts = .error kind at walked
      simp [walked]

theorem KeepsDirectories.locate
    {before after : FileTree} {current l : Location} {p : Path}
    (kept : KeepsDirectories before after)
    (success : before.locate current p = .ok l) :
    after.locate current p = .ok l := by
  rw [locate_eq_ok_iff] at success ⊢
  exact ⟨success.1, success.2.1, kept.walk success.2.2⟩

/-- The locations that a path passes, its end included. -/
def Passes (tree : FileTree) (current : Location) (p : Path) (l : Location) : Prop :=
  ∃ way, way <+: p.parts ∧ tree.walk (p.start current) way = .ok l

theorem KeepsDirectories.passes
    {before after : FileTree} {current l : Location} {p : Path}
    (kept : KeepsDirectories before after)
    (passes : before.Passes current p l) :
    after.Passes current p l := by
  rcases passes with ⟨way, initial, leads⟩
  exact ⟨way, initial, kept.walk leads⟩

theorem passes_of_locate
    {tree : FileTree} {current l : Location} {p : Path}
    (success : tree.locate current p = .ok l) :
    tree.Passes current p l :=
  ⟨p.parts, List.prefix_rfl, (locate_eq_ok_iff.mp success).2.2⟩

theorem passes_of_parent
    {tree : FileTree} {current l : Location} {p : Path}
    (passes : tree.Passes current p.parent l) :
    tree.Passes current p l := by
  rcases passes with ⟨way, initial, leads⟩
  exact ⟨way, initial.trans (List.dropLast_prefix p.parts), leads⟩

/-! ## Directories on a path -/

theorem isDirectory_eq_true_iff
    {tree : FileTree} {current : Location} {p : Path} :
    tree.isDirectory current p = true ↔
      ∃ l, tree.locate current p = .ok l ∧ tree.lookup l = some .directory := by
  rw [isDirectory]
  cases tree.locate current p <;> simp

theorem KeepsDirectories.isDirectory
    {before after : FileTree} {current : Location} {p : Path}
    (kept : KeepsDirectories before after)
    (isDirectory : before.isDirectory current p = true) :
    after.isDirectory current p = true := by
  rw [isDirectory_eq_true_iff] at isDirectory ⊢
  rcases isDirectory with ⟨l, located, directory⟩
  exact ⟨l, kept.locate located, kept l directory⟩

theorem makeDirectory_eq_ok_iff
    {tree after : FileTree} {current : Location} {p : Path} :
    tree.makeDirectory current p = .ok after ↔
      ∃ l,
        tree.locate current p = .ok l ∧ tree.lookup l = none ∧ after = tree.put l .directory := by
  rw [makeDirectory, bind_eq_ok_iff]
  constructor
  · rintro ⟨l, located, made⟩
    cases found : tree.lookup l with
    | none =>
        rw [found] at made
        cases made
        exact ⟨l, located, found, rfl⟩
    | some entry =>
        rw [found] at made
        cases made
  · rintro ⟨l, located, missing, rfl⟩
    exact ⟨l, located, by rw [missing]⟩

/-- One directory is made where the path leads. -/
theorem makeDirectory_grows
    {tree after : FileTree} {current : Location} {p : Path}
    (made : tree.makeDirectory current p = .ok after) :
    Grows tree after (after.Passes current p) ∧ after.isDirectory current p = true := by
  rcases makeDirectory_eq_ok_iff.mp made with ⟨l, located, missing, rfl⟩
  have notDirectory : tree.lookup l ≠ some .directory := by
    simp [missing]
  have present := tree.lookup_put_self .directory (ne_root_of_lookup_ne notDirectory)
  have relocated := (keepsDirectories_put .directory notDirectory).locate located
  constructor
  · intro m
    by_cases here : m = l
    · rw [here]
      exact Or.inr ⟨missing, present, passes_of_locate relocated⟩
    · exact Or.inl (tree.lookup_put_of_ne .directory here)
  · exact isDirectory_eq_true_iff.mpr ⟨l, relocated, present⟩

/-- Where a directory is, none is made. -/
theorem makeDirectory_of_isDirectory
    {tree : FileTree} {current : Location} {p : Path}
    (isDirectory : tree.isDirectory current p = true) :
    tree.makeDirectory current p = .error (.refused .alreadyExists p.toText) := by
  rcases isDirectory_eq_true_iff.mp isDirectory with ⟨l, located, directory⟩
  simp [makeDirectory, located, directory]

/-- A refusal is settled without a change, and well only if the directory is there. -/
theorem settleRefusal_cases
    {tree after : FileTree} {current : Location} {p : Path} {error : FileError}
    {outcome : Except FileError Unit}
    (settled : tree.settleRefusal current p error = (after, outcome)) :
    after = tree ∧ (outcome = .ok () → tree.isDirectory current p = true) := by
  cases error with
  | refused kind text =>
      by_cases isDirectory : tree.isDirectory current p = true
      · simp only [settleRefusal, isDirectory, ↓reduceIte, Prod.mk.injEq] at settled
        exact ⟨settled.1.symm, fun _ => isDirectory⟩
      · simp only [settleRefusal, isDirectory, Bool.false_eq_true, ↓reduceIte,
          Prod.mk.injEq] at settled
        refine ⟨settled.1.symm, fun success => ?_⟩
        rw [success] at settled
        cases settled.2
  | _ =>
      simp only [settleRefusal, Prod.mk.injEq] at settled
      refine ⟨settled.1.symm, fun success => ?_⟩
      rw [success] at settled
      cases settled.2

/-- One attempt to make a directory, with the refusal settled if there is one. -/
def attempt (tree : FileTree) (current : Location) (p : Path) : FileTree × Except FileError Unit :=
  match tree.makeDirectory current p with
  | .ok made => (made, .ok ())
  | .error error => tree.settleRefusal current p error

theorem attempt_grows
    {tree after : FileTree} {current : Location} {p : Path} {outcome : Except FileError Unit}
    (attempted : tree.attempt current p = (after, outcome)) :
    Grows tree after (after.Passes current p) ∧
      (outcome = .ok () → after.isDirectory current p = true) := by
  rw [attempt] at attempted
  split at attempted
  next made making =>
    cases attempted
    exact ⟨(makeDirectory_grows making).1, fun _ => (makeDirectory_grows making).2⟩
  next error making =>
    rcases settleRefusal_cases attempted with ⟨rfl, directory⟩
    exact ⟨Grows.refl after _, directory⟩

/--
Making a directory and those missing on the way there is one attempt, or a failure without a change,
or the same for the directory around it with one more attempt if that succeeds.
-/
theorem ensureDirectoryWithin_cases
    {fuel : Nat} {tree after : FileTree} {current : Location} {p : Path}
    {outcome : Except FileError Unit}
    (ensured : ensureDirectoryWithin fuel tree current p = (after, outcome)) :
    tree.attempt current p = (after, outcome) ∨
      (after = tree ∧ outcome ≠ .ok ()) ∨
      ∃ less middle first,
        fuel = less + 1 ∧ ensureDirectoryWithin less tree current p.parent = (middle, first) ∧
          ((after = middle ∧ outcome ≠ .ok ()) ∨ middle.attempt current p = (after, outcome)) := by
  unfold ensureDirectoryWithin at ensured
  split at ensured
  next made making =>
    exact Or.inl (by rw [attempt, making]; exact ensured)
  next text making =>
    cases fuel with
    | zero =>
        cases ensured
        exact Or.inr (Or.inl ⟨rfl, by simp⟩)
    | succ less =>
        rcases around : ensureDirectoryWithin less tree current p.parent with ⟨middle, first⟩
        refine Or.inr (Or.inr ⟨less, middle, first, rfl, around, ?_⟩)
        simp only [around] at ensured
        cases first with
        | error error =>
            cases ensured
            exact Or.inl ⟨rfl, by simp⟩
        | ok _ =>
            exact Or.inr ensured
  next error _ making =>
    exact Or.inl (by rw [attempt, making]; exact ensured)

/--
Making a directory and those missing on the way there lets the tree grow on the way, also if it
fails in the end; if it does not fail, the directory is there.
-/
theorem ensureDirectoryWithin_grows
    {fuel : Nat} {tree after : FileTree} {current : Location} {p : Path}
    {outcome : Except FileError Unit}
    (ensured : ensureDirectoryWithin fuel tree current p = (after, outcome)) :
    Grows tree after (after.Passes current p) ∧
      (outcome = .ok () → after.isDirectory current p = true) := by
  induction fuel generalizing after p outcome with
  | zero =>
      rcases ensureDirectoryWithin_cases ensured with
        attempted | ⟨rfl, failure⟩ | ⟨less, middle, first, impossible, _⟩
      · exact attempt_grows attempted
      · exact ⟨Grows.refl after _, fun success => absurd success failure⟩
      · cases impossible
  | succ fuel induction =>
      rcases ensureDirectoryWithin_cases ensured with
        attempted | ⟨rfl, failure⟩ | ⟨less, middle, first, fuelEq, around, further⟩
      · exact attempt_grows attempted
      · exact ⟨Grows.refl after _, fun success => absurd success failure⟩
      · cases fuelEq
        have grown := (induction around).1
        rcases further with ⟨rfl, failure⟩ | attempted
        · exact ⟨grown.mono fun _ => passes_of_parent, fun success => absurd success failure⟩
        · rcases attempt_grows attempted with ⟨grownAgain, directory⟩
          -- The way around leads the same in the final tree, for directories stay where they are.
          have kept := grownAgain.keepsDirectories
          have around := grown.mono fun _ passes => passes_of_parent (kept.passes passes)
          exact ⟨around.trans grownAgain, directory⟩

theorem ensureDirectory_grows
    {tree after : FileTree} {current : Location} {p : Path} {outcome : Except FileError Unit}
    (ensured : tree.ensureDirectory current p = (after, outcome)) :
    Grows tree after (after.Passes current p) ∧
      (outcome = .ok () → after.isDirectory current p = true) :=
  ensureDirectoryWithin_grows ensured

/-- Making a directory that is there already changes nothing. -/
theorem ensureDirectory_of_isDirectory
    {tree : FileTree} {current : Location} {p : Path}
    (isDirectory : tree.isDirectory current p = true) :
    tree.ensureDirectory current p = (tree, .ok ()) := by
  unfold ensureDirectory ensureDirectoryWithin
  simp [makeDirectory_of_isDirectory isDirectory, settleRefusal, isDirectory]

end FileTree

end Shapewright
