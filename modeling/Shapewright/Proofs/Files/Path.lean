import Shapewright.Files.Path
import Shapewright.Proofs.Text.Split

/-!
# Paths below a directory

A path that is given in text is joined to a directory.  The result is a direct child of the
directory, under the text as its name, exactly when the text holds no slash: a slash at the start
leads away from the directory, any other one cuts the text into several parts.
-/

namespace Shapewright.Path

/-- A path is a direct child of a directory: it is the directory and a name. -/
def IsChild (p directory : Path) (name : Text) : Prop :=
  p.parent = directory ∧ p.name = name

/-! ## Texts without a slash -/

theorem rootOf_of_notMem_slash
    {t : Text}
    (noSlash : .char '/' ∉ t) :
    rootOf t = .relative := by
  unfold rootOf
  split <;> simp_all

/-- A text without a slash is a path of one part. -/
theorem ofText_of_notMem_slash
    {t : Text}
    (part : isPart t = true)
    (noSlash : .char '/' ∉ t) :
    ofText t = ⟨.relative, [t]⟩ := by
  rw [ofText, rootOf_of_notMem_slash noSlash,
    Text.splitOn_of_count_eq_zero (List.count_eq_zero.mpr noSlash),
    List.filter_cons_of_pos part, List.filter_nil]

theorem join_of_notMem_slash
    (directory : Path) {t : Text}
    (part : isPart t = true)
    (noSlash : .char '/' ∉ t) :
    directory.join (.ofText t) = ⟨directory.root, directory.parts ++ [t]⟩ := by
  rw [ofText_of_notMem_slash part noSlash, join]

/-! ## Texts with a slash -/

/-- No part of a path in text holds a slash. -/
theorem notMem_slash_of_mem_parts
    {t part : Text}
    (member : part ∈ (ofText t).parts) :
    .char '/' ∉ part :=
  Text.notMem_of_mem_splitOn (List.mem_of_mem_filter member)

/-- The name of a path in text holds no slash. -/
theorem notMem_slash_name_ofText
    (t : Text) :
    .char '/' ∉ (ofText t).name := by
  unfold name
  cases last : (ofText t).parts.getLast? with
  | none =>
      simp
  | some part =>
      exact notMem_slash_of_mem_parts (List.mem_of_getLast? last)

/-- A path that is joined to a directory keeps its name, if it has a part. -/
theorem name_join
    (directory : Path) {p : Path}
    (someParts : p.parts ≠ []) :
    (directory.join p).name = p.name := by
  unfold join
  split
  next =>
    rw [name, name, List.getLast?_append_of_ne_nil _ someParts]
  next =>
    rfl

/-- A path without parts that is joined to a directory is no child of it. -/
theorem name_of_parent_join_eq
    {directory p : Path}
    (noParts : p.parts = [])
    (child : (directory.join p).parent = directory) :
    (directory.join p).name = [] := by
  unfold join at child ⊢
  split at child
  next =>
    -- The directory is its own parent, so it has no parts either.
    have partsEq := congrArg (List.length ∘ Path.parts) child
    simp only [noParts, List.append_nil, parent, Function.comp_apply,
      List.length_dropLast] at partsEq
    have directoryParts : directory.parts = [] := by
      rw [← List.length_eq_zero_iff]
      omega
    simp [name, noParts, directoryParts]
  next =>
    simp [name, noParts]

/-! ## Children -/

/-- Joining a text to a directory gives a child of that name exactly if the text has no slash. -/
theorem isChild_join_ofText_iff
    (directory : Path) {t : Text}
    (part : isPart t = true) :
    (directory.join (.ofText t)).IsChild directory t ↔ .char '/' ∉ t := by
  constructor
  · rintro ⟨child, nameEq⟩
    by_cases noParts : (ofText t).parts = []
    · have nothing := name_of_parent_join_eq noParts child
      rw [nameEq] at nothing
      rw [nothing]
      simp
    · rw [name_join directory noParts] at nameEq
      rw [← nameEq]
      exact notMem_slash_name_ofText t
  · intro noSlash
    rw [join_of_notMem_slash directory part noSlash]
    constructor
    · rw [parent, List.dropLast_concat]
    · rw [name, List.getLast?_concat, Option.getD_some]

end Shapewright.Path
