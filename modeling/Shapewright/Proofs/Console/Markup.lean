import Mathlib.Data.List.Infix
import Shapewright.Proofs.Console.Display
import Shapewright.Proofs.Console.Layout
import Shapewright.Proofs.Outcome

/-!
# Showing marked-up messages

A marked-up message can be shown exactly if its tags can be taken one after the other, the styles
that are left can be looked up, and what is left without the tags has an encoding: the layout adds
no reason to fail.

A message here has a heading in bold in front of a text.  The heading leaves no tag open.  So a text
without tags can be shown if it has an encoding, and one whose first tag closes cannot be shown.
-/

namespace Shapewright.Console

/-- Styles that can all be looked up make no error, whatever is left of their parts. -/
theorem Styled.lookupError?_eq_none
    {format : Format} {styled : Styled}
    (known : ∀ span ∈ styled.spans, Style.lookupError? span.style = none) :
    styled.lookupError? format = none := by
  rw [Styled.lookupError?, List.findSome?_eq_none_iff]
  exact fun span member => known span (List.mem_of_mem_filter member)

namespace Markup

open Shapewright.Outcome

/-! ## Pieces -/

/-- The tag that a text starts with, and what follows it. -/
def leadingTag? : Text → Option (Text × Text)
  | .char '[' :: rest => tag? rest
  | _ => none

theorem piecesFrom_succ
    (fuel position : Nat) (collected : Text) (c : CodePoint) (rest : Text) :
    piecesFrom (fuel + 1) position collected (c :: rest) =
      let backslashes := (c :: rest).takeWhile (· == .char '\\')
      let behind := (c :: rest).dropWhile (· == .char '\\')
      match leadingTag? behind with
      | some (content, left) =>
        flush collected ++ tagPieces position backslashes.length content ++
          piecesFrom fuel (position + backslashes.length + content.length + 2) [] left
      | none =>
        if backslashes.isEmpty then piecesFrom fuel (position + 1) (c :: collected) rest
        else piecesFrom fuel (position + backslashes.length) (backslashes ++ collected) behind := by
  rw [piecesFrom, List.span_eq_takeWhile_dropWhile]
  rfl

/-- The content of a tag goes up to the first bracket, and that one closes. -/
theorem tag?_append
    {c : CodePoint} {content : Text} (rest : Text)
    (starts : startsTag c = true)
    (noBracket : ∀ d ∈ content, d ≠ .char '[' ∧ d ≠ .char ']') :
    tag? (c :: (content ++ .char ']' :: rest)) = some (c :: content, rest) := by
  have inContent : ∀ d ∈ content, (d != CodePoint.char '[' && d != .char ']') = true :=
    fun d member => by simpa using noBracket d member
  rw [tag?, if_pos starts, List.span_eq_takeWhile_dropWhile,
    List.takeWhile_append_of_pos inContent, List.dropWhile_append_of_pos inContent]
  simp

theorem piecesFrom_tag
    {fuel position : Nat} {collected content tail rest : Text}
    (found : leadingTag? (.char '[' :: tail) = some (content, rest)) :
    piecesFrom (fuel + 1) position collected (.char '[' :: tail) =
      flush collected ++
        .tag content position :: piecesFrom fuel (position + content.length + 2) [] rest := by
  rw [piecesFrom_succ]
  simp [found, tagPieces]

/-- A text without opening brackets and backslashes. -/
def IsUnmarked (t : Text) : Prop := ∀ c ∈ t, c ≠ .char '[' ∧ c ≠ .char '\\'

instance (t : Text) : Decidable (IsUnmarked t) :=
  inferInstanceAs (Decidable (∀ c ∈ t, c ≠ .char '[' ∧ c ≠ .char '\\'))

theorem piecesFrom_unmarked
    {label : Text} (fuel position : Nat) (collected rest : Text)
    (unmarked : IsUnmarked label) :
    piecesFrom (fuel + label.length) position collected (label ++ rest) =
      piecesFrom fuel (position + label.length) (label.reverse ++ collected) rest := by
  induction label generalizing position collected with
  | nil => rfl
  | cons c more induction =>
      rcases List.forall_mem_cons.mp unmarked with ⟨⟨notBracket, notBackslash⟩, unmarkedMore⟩
      have noBackslash : (c == CodePoint.char '\\') = false := by simpa using notBackslash
      have noTag : leadingTag? (c :: (more ++ rest)) = none := by
        unfold leadingTag?
        split
        next same =>
          cases same
          exact absurd rfl notBracket
        · rfl
      rw [List.length_cons, ← Nat.add_assoc, List.cons_append, piecesFrom_succ]
      simp only [List.takeWhile_cons, List.dropWhile_cons, noBackslash, Bool.false_eq_true,
        if_false, noTag, List.isEmpty_nil, if_true]
      rw [induction _ _ unmarkedMore, List.reverse_cons, List.append_assoc]
      congr 1
      omega

theorem unescape_unmarked
    {t : Text}
    (unmarked : IsUnmarked t) :
    unescape t = t := by
  induction t with
  | nil => rfl
  | cons c rest induction =>
      rcases List.forall_mem_cons.mp unmarked with ⟨⟨_, notBackslash⟩, unmarkedRest⟩
      rw [unescape, induction unmarkedRest]
      rintro tail rfl _
      exact notBackslash rfl

/-- A text in which no tag starts: no opening bracket stands in front of a code point that may come
first in a tag. -/
def IsTagless (t : Text) : Prop := ∀ c, [.char '[', c] <:+: t → startsTag c = false

theorem IsTagless.of_infix
    {s t : Text}
    (tagless : IsTagless t)
    (part : s <:+: t) :
    IsTagless s :=
  fun c bracket => tagless c (bracket.trans part)

theorem IsTagless.leadingTag?_eq_none
    {t : Text}
    (tagless : IsTagless t) :
    leadingTag? t = none := by
  unfold leadingTag?
  split
  next rest =>
    cases rest with
    | nil => rfl
    | cons c rest =>
        have noStart : startsTag c = false := tagless c ⟨[], rest, rfl⟩
        simp [tag?, noStart]
  · rfl

/-- Without tags, a text is collected up to its end. -/
theorem piecesFrom_tagless
    {fuel : Nat} (position : Nat) (collected : Text) {t : Text}
    (enough : t.length ≤ fuel)
    (tagless : IsTagless t) :
    piecesFrom fuel position collected t = flush (t.reverse ++ collected) := by
  induction fuel generalizing position collected t with
  | zero =>
      rw [Nat.le_zero, List.length_eq_zero_iff] at enough
      subst enough
      rfl
  | succ fuel induction =>
      cases t with
      | nil => rfl
      | cons c rest =>
          have split := List.takeWhile_append_dropWhile (p := (· == CodePoint.char '\\'))
            (l := c :: rest)
          have same : ∀ d ∈ (c :: rest).takeWhile (· == .char '\\'), d = .char '\\' :=
            fun d member => by simpa using List.mem_takeWhile_imp member
          rw [piecesFrom_succ]
          simp only
          generalize (c :: rest).takeWhile (· == .char '\\') = backslashes at split same ⊢
          generalize (c :: rest).dropWhile (· == .char '\\') = behind at split ⊢
          have behindPart : behind <:+: c :: rest := ⟨backslashes, [], by simp [split]⟩
          have lengths := congrArg List.length split
          rw [List.length_append] at lengths
          rw [(tagless.of_infix behindPart).leadingTag?_eq_none]
          simp only
          split
          · rw [induction _ _ (Nat.le_of_succ_le_succ enough)
              (tagless.of_infix (List.suffix_cons c rest).isInfix), List.reverse_cons,
              List.append_assoc, List.singleton_append]
          next nonempty =>
            have some := List.length_pos_iff.mpr (mt List.isEmpty_iff.mpr nonempty)
            have mirrored : backslashes.reverse = backslashes := by
              rw [List.eq_replicate_of_mem same, List.reverse_replicate]
            rw [induction _ _ (by omega) (tagless.of_infix behindPart), ← split,
              List.reverse_append, mirrored, List.append_assoc]

/-! ## Headings -/

/-- A heading in bold, to stand in front of a text. -/
def heading (label : Text) : Text :=
  Text.ofString "[bold]" ++ (label ++ Text.ofString "[/] ")

/-- The pieces of a text with a heading: each tag of the heading takes a step, and so does each code
point of the label and the blank. -/
theorem piecesFrom_heading
    {label : Text} (fuel : Nat) (t : Text)
    (unmarked : IsUnmarked label) :
    ∃ position elsewhere,
      piecesFrom (fuel + 1 + 1 + label.length + 1) 0 [] (heading label ++ t) =
        .tag (Text.ofString "bold") 0 ::
          (flush label.reverse ++
            .tag (Text.ofString "/") position :: piecesFrom fuel elsewhere [.char ' '] t) := by
  have parts : heading label ++ t =
      .char '[' :: (Text.ofString "bold]" ++
        (label ++ .char '[' :: (Text.ofString "/] " ++ t))) := by
    simp [heading, Text.ofString]
  have opening : leadingTag? (.char '[' :: (Text.ofString "bold]" ++
      (label ++ .char '[' :: (Text.ofString "/] " ++ t)))) =
      some (Text.ofString "bold", label ++ .char '[' :: (Text.ofString "/] " ++ t)) := by
    rfl
  have closing : leadingTag? (.char '[' :: (Text.ofString "/] " ++ t)) =
      some (Text.ofString "/", [.char ' '] ++ t) := by
    rfl
  have blank : IsUnmarked [.char ' '] := by simp [IsUnmarked]
  have behind := fun position => piecesFrom_unmarked fuel position [] t blank
  rw [List.length_singleton] at behind
  rw [parts, piecesFrom_tag opening, piecesFrom_unmarked _ _ _ _ unmarked, piecesFrom_tag closing,
    behind, List.append_nil]
  exact ⟨_, _, rfl⟩

/-- What has been rendered behind the heading of a message. -/
def headed (label : Text) : Rendering where
  text := Layout.dropHidden label
  spans := [⟨0, (Layout.dropHidden label).length, "bold"⟩]

/-- A tag that names a style opens it. -/
theorem take_style
    (handlers : HandlerReader) (r : Rendering) {content style : Text} (position : Nat)
    (opens : content.head? ≠ some (.char '/'))
    (bare : content.takeWhile (· != .char '=') = content)
    (normal : Style.normalize content = .ok style) :
    Rendering.take handlers r (.tag content position) =
      .ok { r with opened := ⟨r.text.length, style, none⟩ :: r.opened } := by
  rw [Rendering.take, Rendering.takeTag, bare]
  simp only
  split
  next => exact absurd rfl opens
  next =>
    rw [normal]
    simp [Except.mapError]

/-- The tag without a name closes the last style that has been opened. -/
theorem take_close
    (handlers : HandlerReader) {r : Rendering} {tag : OpenTag} (position : Nat)
    (opened : r.opened = [tag])
    (isStyle : tag.isHandler = false) :
    Rendering.take handlers r (.tag "/" position) =
      .ok { r with
        opened := [], spans := r.spans ++ [⟨tag.start, r.text.length, tag.description⟩] } := by
  have name : List.takeWhile (· != CodePoint.char '=') (Text.ofString "/") = [.char '/'] := by rfl
  have noStyle : (Text.trimBlanks []).isEmpty = true := by rfl
  rw [Rendering.take, Rendering.takeTag, name]
  simp [noStyle, opened, Rendering.close, isStyle]

/-- Text that has been collected is shown without the control characters in it. -/
theorem foldlM_take_flush
    (handlers : HandlerReader) (r : Rendering) (collected : Text) (rest : List Piece) :
    (flush collected ++ rest).foldlM (Rendering.take handlers) r =
      rest.foldlM (Rendering.take handlers)
        { r with text := r.text ++ Layout.dropHidden (unescape collected.reverse) } := by
  unfold flush
  split
  next empty =>
    rw [List.isEmpty_iff.mp empty]
    simp [unescape, Layout.dropHidden]
  · rfl

/-- Behind its heading, a message is rendered from the blank in front of the text on. -/
theorem exists_foldlM_take_heading
    (handlers : HandlerReader) {label : Text} (t : Text)
    (unmarked : IsUnmarked label) :
    ∃ position,
      (pieces (heading label ++ t)).foldlM (Rendering.take handlers) {} =
        (piecesFrom (t.length + 7) position [.char ' '] t).foldlM (Rendering.take handlers)
          (headed label) := by
  have lengths : (heading label ++ t).length = t.length + 7 + 1 + 1 + label.length + 1 := by
    simp [heading, Text.ofString]
    omega
  have bold : Style.normalize "bold" = .ok "bold" := by decide +kernel
  rcases piecesFrom_heading (t.length + 7) t unmarked with ⟨position, elsewhere, headedPieces⟩
  refine ⟨elsewhere, ?_⟩
  rw [pieces, lengths, headedPieces, List.foldlM_cons,
    take_style handlers _ _ (by decide) rfl bold, ok_bind, foldlM_take_flush,
    List.reverse_reverse, unescape_unmarked unmarked, List.foldlM_cons,
    take_close handlers _ rfl rfl, ok_bind]
  rfl

/-! ## Texts that can be shown -/

/-- A marked-up text can be shown as a message: its tags can be taken, the styles of what is left
can be looked up, and it has an encoding without the tags. -/
def Shows (handlers : HandlerReader) (t : Text) : Prop :=
  ∃ styled, render handlers t = .ok styled ∧
    styled.lookupError? Display.messageFormat = none ∧ styled.text.isWellFormed = true

theorem isWellFormed_append
    (s t : Text) :
    Text.isWellFormed (s ++ t) = (s.isWellFormed && t.isWellFormed) :=
  List.all_append

theorem isWellFormed_unescape
    (t : Text) :
    Text.isWellFormed (unescape t) = t.isWellFormed := by
  simp only [Text.isWellFormed]
  fun_induction unescape t with
  | case1 rest induction => simp [induction]
  | case2 c rest _ induction => rw [List.all_cons, List.all_cons, induction]
  | case3 => rfl

theorem isWellFormed_dropHidden
    (t : Text) :
    Text.isWellFormed (Layout.dropHidden t) = t.isWellFormed := by
  rw [← Layout.isWellFormed_visible, Layout.visible_dropHidden, Layout.isWellFormed_visible]

/-- A heading in front of a text without tags can be shown exactly if the two have an encoding. -/
theorem shows_heading_iff_of_isTagless
    (handlers : HandlerReader) {label t : Text}
    (unmarked : IsUnmarked label)
    (tagless : IsTagless t) :
    Shows handlers (heading label ++ t) ↔ label.isWellFormed = true ∧ t.isWellFormed = true := by
  rcases exists_foldlM_take_heading handlers t unmarked with ⟨position, folded⟩
  have collected := piecesFrom_tagless position [.char ' '] (Nat.le_add_right t.length 7) tagless
  rw [← List.append_nil (flush _)] at collected
  rw [collected, foldlM_take_flush] at folded
  have rendered : render handlers (heading label ++ t) = .ok
      { text := Layout.dropHidden label ++
          Layout.dropHidden (unescape (t.reverse ++ [CodePoint.char ' ']).reverse),
        spans := [⟨0, (Layout.dropHidden label).length, "bold"⟩] } := by
    rw [render, folded]
    rfl
  have lookup : ∀ text : Text, Styled.lookupError? Display.messageFormat
      ⟨text, [⟨0, (Layout.dropHidden label).length, "bold"⟩]⟩ = none := by
    intro text
    refine Styled.lookupError?_eq_none fun span member => ?_
    rw [List.mem_singleton.mp member]
    rfl
  have blank : Text.isWellFormed (.char ' ' :: t) = t.isWellFormed := by
    simp [Text.isWellFormed]
  simp [Shows, rendered, lookup, isWellFormed_append, isWellFormed_dropHidden,
    isWellFormed_unescape, blank]

/-- A text whose first tag closes: a solidus behind the first opening bracket, no backslash in front
of the two, and a closing bracket behind the name of a style or nothing. -/
def ClosesFirst (t : Text) : Prop :=
  ∃ front content rest, IsUnmarked front ∧ (∀ c ∈ content, c ≠ .char '[' ∧ c ≠ .char ']') ∧
    t = front ++ .char '[' :: .char '/' :: (content ++ .char ']' :: rest)

/-- With no tag open, a closing tag is an error: it has nothing to close, or its style is open
nowhere or has a color with a part that is no number. -/
theorem exists_takeTag_eq_error
    (handlers : HandlerReader) {r : Rendering} (content : Text) (position : Nat)
    (noneOpen : r.opened = []) :
    ∃ error, r.takeTag handlers (.char '/' :: content) position = .error error := by
  have name : List.takeWhile (· != CodePoint.char '=') (.char '/' :: content) =
      .char '/' :: content.takeWhile (· != .char '=') := by
    rw [List.takeWhile_cons]
    rfl
  rw [Rendering.takeTag, name]
  simp only [noneOpen, List.find?_nil]
  split
  · exact ⟨_, rfl⟩
  · cases (Style.normalize _).mapError MarkupError.color <;> exact ⟨_, rfl⟩

/-- A heading in front of a text whose first tag closes cannot be shown. -/
theorem not_shows_heading_of_closesFirst
    (handlers : HandlerReader) {label t : Text}
    (unmarked : IsUnmarked label)
    (closes : ClosesFirst t) :
    ¬Shows handlers (heading label ++ t) := by
  rcases closes with ⟨front, content, rest, unmarkedFront, noBracket, rfl⟩
  rintro ⟨styled, rendered, -⟩
  rcases exists_foldlM_take_heading handlers
      (front ++ .char '[' :: .char '/' :: (content ++ .char ']' :: rest)) unmarked with
    ⟨position, folded⟩
  have found : leadingTag? (.char '[' :: .char '/' :: (content ++ .char ']' :: rest)) =
      some (.char '/' :: content, rest) := by
    rw [leadingTag?]
    exact tag?_append rest (by decide) noBracket
  obtain ⟨fuel, enough⟩ : ∃ fuel,
      (front ++ .char '[' :: .char '/' :: (content ++ .char ']' :: rest)).length + 7 =
        fuel + 1 + front.length :=
    ⟨content.length + rest.length + 9, by simp; omega⟩
  rw [enough, piecesFrom_unmarked _ _ _ _ unmarkedFront, piecesFrom_tag found, foldlM_take_flush,
    List.foldlM_cons, Rendering.take] at folded
  rcases exists_takeTag_eq_error handlers content (position + front.length)
      (r := { headed label with text := _ }) rfl with
    ⟨error, failed⟩
  rw [failed, error_bind] at folded
  rw [render, folded] at rendered
  cases rendered

end Markup

/-! ## Messages -/

theorem Display.encodable_eq_ok_iff
    {onError : EncodingError → DisplayError} {t output : Text} :
    Display.encodable onError t = .ok output ↔ t.isWellFormed = true ∧ t = output := by
  rw [Display.encodable]
  constructor
  · intro encodable
    split at encodable
    next bytes encoded => exact ⟨Utf8.isWellFormed_of_encode encoded, Except.ok.inj encodable⟩
    next => cases encodable
  · rintro ⟨wellFormed, rfl⟩
    rcases Utf8.encode_of_isWellFormed wellFormed with ⟨bytes, encoded⟩
    rw [encoded]

/-- The console shows a message exactly if the marked-up text can be shown. -/
theorem Display.text_message_iff
    {handlers : HandlerReader} {markup : Text} :
    (∃ output, (Display.message markup).text handlers = .ok output) ↔
      Markup.Shows handlers markup := by
  rw [Markup.Shows, Display.text]
  cases Markup.render handlers markup with
  | error error => simp
  | ok styled =>
      cases lookup : styled.lookupError? messageFormat with
      | some error => simp [lookup]
      | none =>
          simp [lookup, Display.encodable_eq_ok_iff, Layout.isWellFormed_joinLines_wrap]

end Shapewright.Console
