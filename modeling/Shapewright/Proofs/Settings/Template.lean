import Shapewright.Proofs.Text.Split
import Shapewright.Settings.Template

/-!
# Templates and their pieces

The placeholders of a template are found from left to right, so there is one way to cut a template
at them, and this way has nothing to do with what the template is filled with.  A filled template is
its pieces with the element between each two.

Where there is a placeholder, the element can be read off: the pieces before it are the same for all
elements, and the length of a filled template tells the length of the element.
-/

namespace Shapewright.Template

/-! ## Placeholders -/

/-- The two braces that an element takes the place of. -/
abbrev placeholder : Text := [.char '\x7b', .char '\x7d']

variable {t piece rest : Text}

theorem hasPlaceholder_cons
    {c : CodePoint}
    (notHere : ¬ placeholder <+: c :: rest) :
    hasPlaceholder (c :: rest) = hasPlaceholder rest := by
  rw [hasPlaceholder]
  rintro more rfl rfl
  exact notHere (List.prefix_append placeholder more)

theorem fill_cons
    {c : CodePoint} (element : Text)
    (notHere : ¬ placeholder <+: c :: rest) :
    fill element (c :: rest) = c :: fill element rest := by
  rw [fill]
  rintro more rfl rfl
  exact notHere (List.prefix_append placeholder more)

/-- A template holds a placeholder exactly if the two braces stand side by side in it. -/
theorem hasPlaceholder_iff_infix :
    hasPlaceholder t = true ↔ placeholder <:+: t := by
  induction t with
  | nil =>
      simp [hasPlaceholder]
  | cons c rest induction =>
      rw [List.infix_cons_iff]
      by_cases here : placeholder <+: c :: rest
      · rcases here with ⟨more, equal⟩
        rw [← equal]
        simp [hasPlaceholder]
      · rw [hasPlaceholder_cons here, induction, or_iff_right here]

/-! ## Pieces -/

/-- The first placeholder in a template stands behind a piece. -/
def IsFirstBehind (piece rest : Text) : Prop :=
  ∀ before after, piece ++ placeholder ++ rest = before ++ placeholder ++ after →
    piece.length ≤ before.length

/-- The pieces of a template: what stands in front of its first placeholder, and then the pieces of
what stands behind that. -/
inductive IsCut : Text → List Text → Prop where
  | last {t : Text}
      (absent : ¬ placeholder <:+: t) :
      IsCut t [t]
  | cons {piece rest : Text} {pieces : List Text}
      (first : IsFirstBehind piece rest)
      (tail : IsCut rest pieces) :
      IsCut (piece ++ placeholder ++ rest) (piece :: pieces)

/-- The pieces of a template, in one pass over it. -/
def pieces : Text → List Text
  | .char '\x7b' :: .char '\x7d' :: rest => [] :: pieces rest
  | c :: rest => (pieces rest).modifyHead (c :: ·)
  | [] => [[]]

theorem isFirstBehind_nil :
    IsFirstBehind [] rest := by
  intro before after equal
  exact Nat.zero_le _

/-- No placeholder starts in a piece: not at its first code point, and not later. -/
theorem isFirstBehind_cons_iff
    {c : CodePoint} :
    IsFirstBehind (c :: piece) rest ↔
      ¬ placeholder <+: c :: (piece ++ placeholder ++ rest) ∧ IsFirstBehind piece rest := by
  constructor
  · intro first
    refine ⟨?_, ?_⟩
    · rintro ⟨after, equal⟩
      have short := first [] after equal.symm
      cases short
    · intro before after equal
      have longer := first (c :: before) after (congrArg (c :: ·) equal)
      exact Nat.le_of_succ_le_succ longer
  · rintro ⟨notHere, first⟩ before after equal
    cases before with
    | nil =>
        exact absurd ⟨after, equal.symm⟩ notHere
    | cons d before =>
        exact Nat.succ_le_succ (first before after (List.cons.inj equal).2)

/-- The place of the first placeholder is determined. -/
theorem IsFirstBehind.eq
    {other more : Text}
    (first : IsFirstBehind piece rest)
    (second : IsFirstBehind other more)
    (equal : piece ++ placeholder ++ rest = other ++ placeholder ++ more) :
    piece = other ∧ rest = more := by
  have sameLength : piece.length = other.length :=
    Nat.le_antisymm (first other more equal) (second piece rest equal.symm)
  rw [List.append_assoc, List.append_assoc] at equal
  rcases List.append_inj equal sameLength with ⟨pieces, behind⟩
  exact ⟨pieces, List.append_cancel_left behind⟩

namespace IsCut

variable {parts others : List Text}

theorem ne_nil
    (cut : IsCut t parts) :
    parts ≠ [] := by
  cases cut <;> exact List.cons_ne_nil _ _

/-- A code point in front of a template belongs to the first piece, unless a placeholder starts with
it. -/
theorem modifyHead
    {c : CodePoint}
    (cut : IsCut t parts)
    (notHere : ¬ placeholder <+: c :: t) :
    IsCut (c :: t) (parts.modifyHead (c :: ·)) := by
  cases cut with
  | last absent =>
      refine .last ?_
      rw [List.infix_cons_iff, not_or]
      exact ⟨notHere, absent⟩
  | cons first tail =>
      exact .cons (isFirstBehind_cons_iff.mpr ⟨notHere, first⟩) tail

theorem unique
    (cut : IsCut t parts)
    (other : IsCut t others) :
    parts = others := by
  induction cut generalizing others with
  | last absent =>
      cases other with
      | last =>
          rfl
      | cons =>
          exact absurd (List.infix_append _ _ _) absent
  | @cons piece rest pieces first tail induction =>
      -- Both cuts start with what stands in front of the first placeholder, so they go on with
      -- the same rest.
      generalize equal : piece ++ placeholder ++ rest = t at other
      cases other with
      | last absent =>
          exact absurd (equal ▸ List.infix_append _ _ _) absent
      | cons second more =>
          rcases first.eq second equal with ⟨rfl, rfl⟩
          rw [induction more]

/-- A template with a placeholder has two pieces at least. -/
theorem two_le_length
    (cut : IsCut t parts)
    (holds : placeholder <:+: t) :
    2 ≤ parts.length := by
  cases cut with
  | last absent =>
      exact absurd holds absent
  | cons first tail =>
      exact Nat.succ_le_succ (List.length_pos_iff.mpr tail.ne_nil)

end IsCut

theorem isCut_pieces
    (t : Text) :
    IsCut t (pieces t) := by
  fun_induction pieces t with
  | case1 rest induction =>
      exact .cons isFirstBehind_nil induction
  | case2 c rest notHere induction =>
      refine induction.modifyHead ?_
      rintro ⟨more, equal⟩
      cases equal
      exact notHere more rfl rfl
  | case3 =>
      exact .last (by simp)

/-- There is one way to cut a template. -/
theorem isCut_iff
    {parts : List Text} :
    IsCut t parts ↔ parts = pieces t := by
  constructor
  · intro cut
    exact cut.unique (isCut_pieces t)
  · rintro rfl
    exact isCut_pieces t

/-! ## Filling -/

theorem fill_of_absent
    (element : Text)
    (absent : ¬ placeholder <:+: t) :
    fill element t = t := by
  induction t with
  | nil =>
      rfl
  | cons c rest induction =>
      rw [List.infix_cons_iff, not_or] at absent
      rw [fill_cons element absent.1, induction absent.2]

/-- What stands in front of the first placeholder is left alone. -/
theorem fill_of_isFirstBehind
    (element : Text)
    (first : IsFirstBehind piece rest) :
    fill element (piece ++ placeholder ++ rest) = piece ++ (element ++ fill element rest) := by
  induction piece with
  | nil =>
      rfl
  | cons c piece induction =>
      rcases isFirstBehind_cons_iff.mp first with ⟨notHere, first⟩
      rw [List.cons_append, List.cons_append, fill_cons element notHere, induction first]
      rfl

/-- A filled template is its pieces with the element between each two. -/
theorem fill_of_isCut
    {parts : List Text} (element : Text)
    (cut : IsCut t parts) :
    fill element t = Text.join element parts := by
  induction cut with
  | last absent =>
      exact fill_of_absent element absent
  | cons first tail induction =>
      rw [fill_of_isFirstBehind element first, induction, Text.join_cons element _ tail.ne_nil]

theorem fill_eq_join
    (element t : Text) :
    fill element t = Text.join element (pieces t) :=
  fill_of_isCut element (isCut_pieces t)

/-- A template with a placeholder tells apart what it is filled with. -/
theorem fill_injective
    (holds : placeholder <:+: t) :
    Function.Injective fun element => fill element t := by
  simp only [fill_eq_join]
  exact Text.join_injective ((isCut_pieces t).two_le_length holds)

/-- Braces around a placeholder are text, and so are braces in the element. -/
example :
    pieces "\x7b\x7b\x7d\x7b\x7d\x7d" = ["\x7b", "", "\x7d"] ∧
      fill "\x7b\x7d" "\x7b\x7b\x7d\x7b\x7d\x7d" = "\x7b\x7b\x7d\x7b\x7d\x7d" := by
  decide

end Shapewright.Template
