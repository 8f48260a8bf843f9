import Mathlib.Data.List.TakeDrop
import Mathlib.Data.List.TakeWhile
import Shapewright.Console.Display
import Shapewright.Proofs.Text.Split

/-!
# What a layout keeps

However a text is broken into lines, the lines together show its visible code points in their order.
Only blanks are put in, moved to another line or left out, and control characters that are not shown
are left out.  A lone surrogate is visible, so a layout has an encoding exactly if its text has one.
-/

namespace Shapewright.Console.Layout

/-! ## Visible code points -/

/-- Whether a code point is neither a blank nor a control character that is not shown. -/
def isVisible (c : CodePoint) : Bool := !c.isBlank && !isHidden c

/-- The visible code points of a text. -/
def visible (t : Text) : Text := t.filter isVisible

@[simp]
theorem visible_append
    (s t : Text) :
    visible (s ++ t) = visible s ++ visible t :=
  List.filter_append s t

theorem visible_of_blank
    {t : Text}
    (blank : ∀ c ∈ t, c.isBlank = true) :
    visible t = [] := by
  rw [visible, List.filter_eq_nil_iff]
  intro c member
  simp [isVisible, blank c member]

theorem visible_cons_of_isBlank
    {c : CodePoint} (t : Text)
    (blank : c.isBlank = true) :
    visible (c :: t) = visible t := by
  simp [visible, isVisible, blank]

theorem visible_cons_congr
    {s t : Text} (c : CodePoint)
    (same : visible s = visible t) :
    visible (c :: s) = visible (c :: t) := by
  rw [visible, visible, List.filter_cons, List.filter_cons]
  exact congrArg (fun rest => if isVisible c then c :: rest else rest) same

theorem visible_flatten
    (lines : List Text) :
    visible lines.flatten = (lines.map visible).flatten := by
  induction lines with
  | nil => rfl
  | cons line rest induction =>
      rw [List.flatten_cons, visible_append, induction, List.map_cons, List.flatten_cons]

/-- A number behind all ranges of a table is in none of them. -/
theorem inRanges_of_behind
    {ranges : List (Nat × Nat)} {n : Nat}
    (behind : ∀ range ∈ ranges, range.2 < n) :
    inRanges ranges n = false := by
  induction ranges with
  | nil => rfl
  | cons range rest induction =>
      rcases List.forall_mem_cons.mp behind with ⟨behindFirst, behindRest⟩
      rw [inRanges, induction behindRest]
      split
      · rfl
      · simpa using behindFirst

theorem isVisible_surrogate
    (offset : Fin 0x800) :
    isVisible (.surrogate offset) = true := by
  have late : ∀ range ∈ whiteSpaceRanges, range.2 < 0xD800 := by decide
  have noWhiteSpace : CodePoint.isWhiteSpace (.surrogate offset) = false :=
    inRanges_of_behind fun range member =>
      Nat.lt_of_lt_of_le (late range member) (Nat.le_add_right _ _)
  have noSeparator : ¬0xD800 + offset.val ≤ 0x1F := by omega
  simp [isVisible, isHidden, CodePoint.isBlank, noWhiteSpace, CodePoint.toNat, noSeparator]

/-- The visible code points of a text decide whether it has an encoding. -/
theorem isWellFormed_visible
    (t : Text) :
    Text.isWellFormed (visible t) = t.isWellFormed := by
  induction t with
  | nil => rfl
  | cons c rest induction =>
      cases c with
      | surrogate offset => simp [visible, isVisible_surrogate, Text.isWellFormed]
      | char c =>
          have same : Text.isWellFormed (.char c :: rest) = Text.isWellFormed rest := by
            simp [Text.isWellFormed]
          rw [same, ← induction, visible, visible, List.filter_cons]
          split
          · simp [Text.isWellFormed]
          · rfl

/-! ## Parts of a text -/

theorem visible_dropHidden
    (t : Text) :
    visible (dropHidden t) = visible t := by
  rw [visible, dropHidden, List.filter_filter]
  congr 1
  funext c
  cases hidden : isHidden c <;> simp [isVisible, hidden]

theorem visible_expandTabs
    (size : Nat) (width : CodePoint → Nat) (column : Nat) (t : Text) :
    visible (expandTabs size width column t) = visible t := by
  induction t generalizing column with
  | nil => rfl
  | cons c rest induction =>
      rw [expandTabs]
      split
      next tab =>
        have blank : ∀ d ∈ List.replicate (size - column % size) (CodePoint.char ' '),
            d.isBlank = true := by
          intro d member
          rw [List.eq_of_mem_replicate member]
          decide
        rw [visible_append, visible_of_blank blank, List.nil_append, induction, tab,
          visible_cons_of_isBlank rest (by decide)]
      · exact visible_cons_congr c (induction _)

/-- Cutting a text into lines loses line feeds only. -/
theorem visible_flatten_splitOn
    (t : Text) :
    visible (t.splitOn (.char '\n')).flatten = visible t := by
  induction t with
  | nil => rfl
  | cons c rest induction =>
      rw [Text.splitOn]
      split
      next lineFeed =>
        rw [List.flatten_cons, List.nil_append, induction, lineFeed,
          visible_cons_of_isBlank rest (by decide)]
      · cases parts : Text.splitOn (.char '\n') rest with
        | nil => exact absurd parts (Text.splitOn_ne_nil _ _)
        | cons part others =>
            rw [parts, List.flatten_cons] at induction
            exact visible_cons_congr c induction

/-! ## Words -/

theorem spanWord_append
    (t : Text) :
    (spanWord t).1 ++ (spanWord t).2 = t := by
  simp only [spanWord, List.span_eq_takeWhile_dropWhile, List.append_assoc,
    List.takeWhile_append_dropWhile]

theorem flatten_wordsWithin
    (fuel : Nat) (t : Text) :
    (wordsWithin fuel t).flatten = t := by
  induction fuel generalizing t with
  | zero => cases t <;> simp [wordsWithin]
  | succ fuel induction =>
      cases t with
      | nil => rfl
      | cons c rest =>
          rw [wordsWithin, List.flatten_cons, induction]
          · exact spanWord_append (c :: rest)
          · simp

theorem flatten_chop
    (width used : Nat) (piece t : Text) :
    (chop width used piece t).flatten = piece ++ t := by
  induction t generalizing used piece with
  | nil => simp [chop]
  | cons c rest induction =>
      rw [chop]
      split
      · rw [List.flatten_cons, induction]
        rfl
      · rw [induction, List.append_assoc]
        rfl

theorem flatten_dropLast_append_getLastD
    (pieces : List Text) :
    pieces.dropLast.flatten ++ pieces.getLastD [] = pieces.flatten := by
  rcases List.eq_nil_or_concat pieces with rfl | ⟨front, last, rfl⟩
  · rfl
  · simp [List.getLastD_eq_getLast?]

/-- The lines hold the words, one after the other. -/
theorem flatten_fill
    (overflow : Overflow) (width used : Nat) (line : Text) (words : List Text) :
    (fill overflow width used line words).flatten = line ++ words.flatten := by
  induction words generalizing used line with
  | nil => simp [fill]
  | cons word rest induction =>
      have full : (if line.isEmpty then [] else [line] : List Text).flatten = line := by
        cases line <;> simp
      rw [fill, List.flatten_cons]
      simp only
      split
      · rw [induction, List.append_assoc]
      · split
        · rw [List.flatten_append, List.flatten_append, full, induction, List.append_assoc,
            ← List.append_assoc (chop width 0 [] word).dropLast.flatten,
            flatten_dropLast_append_getLastD, flatten_chop, List.nil_append]
        · rw [List.flatten_append, full, induction]

/-! ## Lines -/

/-- Behind what is left of a line without the blanks at its end there are only blanks. -/
theorem exists_trimEnd_append
    (line : Text) :
    ∃ tail, line = trimEnd line ++ tail ∧ ∀ c ∈ tail, c.isBlank = true := by
  refine ⟨(line.reverse.takeWhile CodePoint.isBlank).reverse, ?_, fun c member => ?_⟩
  · rw [trimEnd, ← List.reverse_append, List.takeWhile_append_dropWhile, List.reverse_reverse]
  · exact List.mem_takeWhile_imp (List.mem_reverse.mp member)

/-- No more than the blanks at the end of a line are left out. -/
theorem visible_dropExcess
    (width : Nat) (line : Text) :
    visible (dropExcess width line) = visible line := by
  rcases exists_trimEnd_append line with ⟨tail, split, blank⟩
  generalize kept : trimEnd line = front at split
  have lengths : line.length = front.length + tail.length := by
    rw [split, List.length_append]
  have most : front.length ≤
      line.length - min (line.length - front.length) (line.length - width) := by
    omega
  rcases Nat.exists_eq_add_of_le most with ⟨more, amount⟩
  have taken : ∀ c ∈ tail.take more, c.isBlank = true :=
    fun c member => blank c (List.mem_of_mem_take member)
  rw [dropExcess]
  simp only [kept, amount]
  rw [split, List.take_length_add_append, visible_append, visible_append, visible_of_blank taken,
    visible_of_blank blank]

/-- Cropping blanks gives blanks. -/
theorem visible_crop_of_blank
    (width : Nat) {t : Text}
    (blank : ∀ c ∈ t, c.isBlank = true) :
    visible (crop width t) = [] := by
  induction t generalizing width with
  | nil => rfl
  | cons c rest induction =>
      rcases List.forall_mem_cons.mp blank with ⟨blankFirst, blankRest⟩
      rw [crop]
      split
      · rw [visible_cons_of_isBlank _ blankFirst, induction _ blankRest]
      · refine visible_of_blank fun d member => ?_
        rw [List.eq_of_mem_replicate member]
        decide

theorem visible_cropBlanks
    (width : Nat) (line : Text) :
    visible (cropBlanks width line) = visible line := by
  rw [cropBlanks]
  split
  · rfl
  · rcases exists_trimEnd_append line with ⟨tail, split, blank⟩
    have behind : line.drop (trimEnd line).length = tail := by
      conv_lhs => arg 2; rw [split]
      exact List.drop_left
    conv_rhs => rw [split]
    simp only [visible_append, behind, visible_crop_of_blank _ blank, visible_of_blank blank]

theorem visible_finishLine
    (overflow : Overflow) (width : Nat) (line : Text) :
    visible (finishLine overflow width line) = visible line := by
  cases overflow with
  | fold => rw [finishLine, visible_cropBlanks, visible_dropExcess]
  | ellipsis => rw [finishLine, visible_dropExcess]

theorem visible_flatten_wrapLine
    (overflow : Overflow) (width : Nat) (line : Text) :
    visible (wrapLine overflow width line).flatten = visible line := by
  have finished : visible ∘ finishLine overflow width = visible :=
    funext (visible_finishLine overflow width)
  rw [wrapLine, visible_flatten, List.map_map, finished, ← visible_flatten, breakLine,
    flatten_fill, List.nil_append, flatten_wordsWithin]

/-- The lines of a text show its visible code points in their order. -/
theorem visible_flatten_wrap
    (overflow : Overflow) (width : Nat) (t : Text) :
    visible (wrap overflow width t).flatten = visible t := by
  rw [← visible_dropHidden t, ← visible_flatten_splitOn (dropHidden t), wrap]
  induction Text.splitOn (.char '\n') (dropHidden t) with
  | nil => rfl
  | cons line rest induction =>
      rw [List.flatMap_cons, List.flatten_append, visible_append, induction,
        visible_flatten_wrapLine, visible_expandTabs, List.flatten_cons, visible_append]

/-- The layout of a text has an encoding exactly if the text has one. -/
theorem isWellFormed_joinLines_wrap
    (overflow : Overflow) (width : Nat) (t : Text) :
    Text.isWellFormed (Display.joinLines (wrap overflow width t)) = t.isWellFormed := by
  have joined : ∀ lines, visible (Display.joinLines lines) = visible lines.flatten := by
    intro lines
    induction lines with
    | nil => rfl
    | cons line rest induction =>
        have lineFeed : visible [.char '\n'] = [] := by decide
        rw [Display.joinLines, List.flatMap_cons, ← Display.joinLines, List.flatten_cons,
          visible_append, visible_append, visible_append, induction, lineFeed, List.append_nil]
  rw [← isWellFormed_visible, joined, visible_flatten_wrap, isWellFormed_visible]

end Shapewright.Console.Layout
