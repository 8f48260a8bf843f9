import Shapewright.Files.TextFile
import Shapewright.Proofs.Files.Tree
import Shapewright.Proofs.Text.Utf8

/-!
# Text files under change

Writing a text has one of three outcomes: the file cannot be opened and nothing is changed; or it is
opened, which empties it, and the text cannot be encoded; or it holds the encoded text.  In the last
case reading gives the text back, up to its line ends, and writing the same text once more changes
nothing.
-/

namespace Shapewright.FileTree

open Shapewright.Outcome

/-! ## Opening -/

theorem truncate_eq_ok_iff
    {tree opened : FileTree} {current l : Location} {p : Path} :
    tree.truncate current p = .ok (opened, l) ↔
      tree.locate current p = .ok l ∧ tree.lookup l ≠ some .directory ∧
        opened = tree.put l (.file []) := by
  rw [truncate, bind_eq_ok_iff]
  constructor
  · rintro ⟨m, located, opening⟩
    split at opening
    next => cases opening
    next notDirectory =>
      cases opening
      exact ⟨located, notDirectory, rfl⟩
  · rintro ⟨located, notDirectory, rfl⟩
    refine ⟨l, located, ?_⟩
    split
    next directory => exact absurd directory notDirectory
    next => rfl

/-! ## Writing -/

/-- The three outcomes of writing a text, with what each leaves behind. -/
theorem writeText_cases
    {tree after : FileTree} {current : Location} {p : Path} {t : Text}
    {outcome : Except WriteError Unit}
    (written : tree.writeText current p t = (after, outcome)) :
    (∃ error, outcome = .error (.file error) ∧ after = tree) ∨
      ∃ l, tree.locate current p = .ok l ∧ tree.lookup l ≠ some .directory ∧
        ((∃ error, Utf8.encode t = .error error ∧ outcome = .error (.encoding error) ∧
            after = tree.put l (.file [])) ∨
          ∃ bytes, Utf8.encode t = .ok bytes ∧ outcome = .ok () ∧
            after = tree.put l (.file bytes)) := by
  rw [writeText] at written
  cases opening : tree.truncate current p with
  | error error =>
      rw [opening] at written
      cases written
      exact Or.inl ⟨error, rfl, rfl⟩
  | ok opened =>
      rcases opened with ⟨opened, l⟩
      rcases truncate_eq_ok_iff.mp opening with ⟨located, notDirectory, rfl⟩
      refine Or.inr ⟨l, located, notDirectory, ?_⟩
      rw [opening] at written
      cases encoded : Utf8.encode t with
      | error error =>
          simp only [encoded, Prod.mk.injEq] at written
          exact Or.inl ⟨error, rfl, written.2.symm, written.1.symm⟩
      | ok bytes =>
          simp only [encoded, put_put, Prod.mk.injEq] at written
          exact Or.inr ⟨bytes, rfl, written.2.symm, written.1.symm⟩

/-- A text that has an encoding is written where a path leads to no directory. -/
theorem writeText_of_locate
    {tree : FileTree} {current l : Location} {p : Path} {t : Text} {bytes : List UInt8}
    (located : tree.locate current p = .ok l)
    (notDirectory : tree.lookup l ≠ some .directory)
    (encoded : Utf8.encode t = .ok bytes) :
    tree.writeText current p t = (tree.put l (.file bytes), .ok ()) := by
  have opening := truncate_eq_ok_iff.mpr ⟨located, notDirectory, rfl⟩
  simp [writeText, opening, encoded]

/-! ## Reading and writing again -/

/-- A path leads to the file that was written there, which holds the encoded text. -/
theorem exists_file_of_writeText
    {tree after : FileTree} {current : Location} {p : Path} {t : Text}
    (written : tree.writeText current p t = (after, .ok ())) :
    ∃ l bytes, Utf8.encode t = .ok bytes ∧ tree.lookup l ≠ some .directory ∧
      after = tree.put l (.file bytes) ∧ after.locate current p = .ok l ∧
        after.lookup l = some (.file bytes) := by
  rcases writeText_cases written with
    ⟨error, failure, _⟩ |
      ⟨l, located, notDirectory, ⟨error, _, failure, _⟩ | ⟨bytes, encoded, _, rfl⟩⟩
  · cases failure
  · cases failure
  · exact ⟨l, bytes, encoded, notDirectory, rfl,
      (keepsDirectories_put _ notDirectory).locate located,
      tree.lookup_put_self _ (ne_root_of_lookup_ne notDirectory)⟩

/-- What is read is what was written, with its line ends normalized. -/
theorem readText_of_writeText
    {tree after : FileTree} {current : Location} {p : Path} {t : Text}
    (written : tree.writeText current p t = (after, .ok ())) :
    after.readText current p = .ok t.normalizeLineEnds := by
  rcases exists_file_of_writeText written with ⟨l, bytes, encoded, _, _, located, present⟩
  simp [readText, read, located, present, Utf8.decode_of_encode encoded]

/-- Writing a text once more changes nothing. -/
theorem writeText_again
    {tree after : FileTree} {current : Location} {p : Path} {t : Text}
    (written : tree.writeText current p t = (after, .ok ())) :
    after.writeText current p t = (after, .ok ()) := by
  rcases exists_file_of_writeText written with ⟨l, bytes, encoded, _, _, located, present⟩
  have notDirectory : after.lookup l ≠ some .directory := by
    simp [present]
  rw [writeText_of_locate located notDirectory encoded,
    put_eq_self (ne_root_of_lookup_ne notDirectory) present]

end Shapewright.FileTree
