import Shapewright.Console.Display
import Shapewright.Proofs.Text.Utf8

/-!
# Showing code

Code is shown as it is, less the control sequences in it.  Leaving them out adds nothing, so code
that has an encoding can be shown.
-/

namespace Shapewright.Console

theorem Code.dropSequencesFrom_sublist
    (skipped : Nat) (t : Text) :
    (Code.dropSequencesFrom skipped t).Sublist t := by
  induction t generalizing skipped with
  | nil =>
      exact List.Sublist.slnil
  | cons c rest induction =>
      unfold Code.dropSequencesFrom
      split
      · exact (induction _).cons c
      · split
        · exact (induction _).cons c
        · exact (induction _).cons_cons c

/-- Code that has an encoding, with a line feed behind it, can be shown. -/
theorem Display.text_code_of_encode
    (handlers : HandlerReader) {t : Text} {bytes : List UInt8}
    (encoded : Utf8.encode (t ++ [.char '\n']) = .ok bytes) :
    ∃ shown, (Display.code t).text handlers = .ok shown := by
  have wellFormed := Utf8.isWellFormed_of_encode encoded
  have shownWellFormed : Text.isWellFormed (Code.dropSequences (t ++ [.char '\n'])) = true := by
    rw [Text.isWellFormed, List.all_eq_true] at wellFormed ⊢
    exact fun c member => wellFormed c ((Code.dropSequencesFrom_sublist 0 _).subset member)
  rcases Utf8.encode_of_isWellFormed shownWellFormed with ⟨shownBytes, shownEncoded⟩
  refine ⟨Code.dropSequences (t ++ [.char '\n']), ?_⟩
  rw [Display.text, Display.encodable, shownEncoded]

end Shapewright.Console
