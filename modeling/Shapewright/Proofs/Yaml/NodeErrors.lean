import Mathlib.Data.List.Infix
import Shapewright.Proofs.Outcome
import Shapewright.Yaml.Node

/-!
# Errors of reading nodes

While nodes are read, tokens are passed and none is added.  What goes wrong is that the text is
malformed, that the error is met which ended the reading of tokens, or that the stack is exhausted;
and each node that the stack has to hold takes a token of its own.
-/

namespace Shapewright.Yaml

open Shapewright.Outcome

namespace Build

/-- How a step ends that starts where some tokens are left: some of them are passed, or there is an
error, which can be that the stack is exhausted only if there are as many tokens as the stack has
room for nodes. -/
def EndsWell {α : Type} (room : Nat) (tokens : List Token) : Except Error (α × Builder) → Prop
  | .ok (_, after) => after.tokens <:+ tokens
  | .error error =>
    error = .malformed ∨ .broken error ∈ tokens ∨ error = .exhausted ∧ room ≤ tokens.length

/-- A step ends well wherever it starts. -/
def Keeps {α : Type} (room : Nat) (step : Build α) : Prop :=
  ∀ b, EndsWell room b.tokens (step.run b)

/-- A step ends well where there is a token left. -/
def KeepsAtToken {α : Type} (room : Nat) (step : Build α) : Prop :=
  ∀ b, b.tokens ≠ [] → EndsWell room b.tokens (step.run b)

section Steps

variable {α β : Type} {room : Nat}

theorem EndsWell.mono
    {room' : Nat} {tokens tokens' : List Token} {result : Except Error (α × Builder)}
    (endsWell : EndsWell room tokens result)
    (part : tokens <:+ tokens')
    (enough : room' + tokens.length ≤ room + tokens'.length) :
    EndsWell room' tokens' result := by
  cases result with
  | ok answer => exact endsWell.trans part
  | error error =>
      rcases endsWell with malformed | broken | ⟨exhausted, few⟩
      · exact .inl malformed
      · exact .inr (.inl (part.subset broken))
      · exact .inr (.inr ⟨exhausted, by omega⟩)

theorem Keeps.mono
    {room' : Nat} {step : Build α}
    (keeps : Keeps room step)
    (enough : room' ≤ room) :
    Keeps room' step :=
  fun b => (keeps b).mono (List.suffix_refl _) (Nat.add_le_add_right enough _)

theorem Keeps.atToken
    {step : Build α}
    (keeps : Keeps room step) :
    KeepsAtToken room step :=
  fun b _ => keeps b

theorem keeps_pure
    (a : α) :
    Keeps room (pure a) :=
  fun b => List.suffix_refl b.tokens

theorem keeps_malformed :
    Keeps room (throw .malformed : Build α) :=
  fun _ => .inl rfl

/-- Two steps in a row. -/
theorem endsWell_bind
    {step : Build α} {next : α → Build β} {b : Builder}
    (first : EndsWell room b.tokens (step.run b))
    (second : ∀ a, Keeps room (next a)) :
    EndsWell room b.tokens ((step >>= next).run b) := by
  rw [StateT.run_bind]
  cases result : step.run b with
  | error error =>
      rw [result] at first
      exact first
  | ok answer =>
      rw [result] at first
      exact (second answer.1 answer.2).mono first (Nat.add_le_add_left first.length_le _)

theorem Keeps.bind
    {step : Build α} {next : α → Build β}
    (first : Keeps room step)
    (second : ∀ a, Keeps room (next a)) :
    Keeps room (step >>= next) :=
  fun b => endsWell_bind (first b) second

theorem KeepsAtToken.bind
    {step : Build α} {next : α → Build β}
    (first : KeepsAtToken room step)
    (second : ∀ a, Keeps room (next a)) :
    KeepsAtToken room (step >>= next) :=
  fun b nonempty => endsWell_bind (first b nonempty) second

/-- What changes no tokens keeps well. -/
theorem keeps_modify
    {change : Builder → Builder}
    (same : ∀ b, (change b).tokens = b.tokens) :
    Keeps room (modify change : Build Unit) := by
  intro b
  change (change b).tokens <:+ b.tokens
  rw [same]

theorem keeps_get_bind
    {next : Builder → Build β}
    (second : ∀ b, EndsWell room b.tokens ((next b).run b)) :
    Keeps room (get >>= next) :=
  second

/-- Behind a look at the next token there is a token. -/
theorem keeps_peek_bind
    {next : Token → Build β}
    (second : ∀ token, KeepsAtToken room (next token)) :
    Keeps room (peek >>= next) := by
  intro b
  cases tokensEq : b.tokens with
  | nil =>
      have stops : (peek >>= next).run b = .error .malformed := by
        simp only [peek, bind_assoc, StateT.run_bind, StateT.run_get, pure_bind, tokensEq]
        rfl
      rw [stops]
      exact .inl rfl
  | cons token rest =>
      by_cases isBroken : ∃ error, token = .broken error
      · rcases isBroken with ⟨error, rfl⟩
        have stops : (peek >>= next).run b = .error error := by
          simp only [peek, bind_assoc, StateT.run_bind, StateT.run_get, pure_bind, tokensEq]
          rfl
        rw [stops]
        exact .inr (.inl List.mem_cons_self)
      · have goesOn : (peek >>= next).run b = (next token).run b := by
          simp only [peek, bind_assoc, StateT.run_bind, StateT.run_get, pure_bind, tokensEq]
          split
          next error _ same => exact absurd ⟨error, (List.cons.inj same).1⟩ isBroken
          next same =>
            rw [(List.cons.inj same).1, StateT.run_pure]
            exact pure_bind _ _
          next impossible => cases impossible
        rw [goesOn, ← tokensEq]
        exact second token b (by simp [tokensEq])

/-- Passing a token leaves one token less for the steps behind. -/
theorem keeps_skip_bind
    {next : Unit → Build β}
    (second : Keeps room (next ())) :
    KeepsAtToken (room + 1) (skip >>= next) := by
  intro b nonempty
  have fewer : (b.tokens.drop 1).length + 1 = b.tokens.length := by
    have := List.length_pos_iff.mpr nonempty
    rw [List.length_drop]
    omega
  exact (second { b with tokens := b.tokens.drop 1 }).mono (List.drop_suffix 1 _)
    (by simp only; omega)

theorem keeps_skip :
    Keeps room skip :=
  fun b => List.drop_suffix 1 b.tokens

/-- A step into a node needs room for it. -/
theorem keeps_enter_bind
    {next : Nat → Build β}
    (second : ∀ inner, room = inner + 1 → Keeps room (next inner)) :
    Keeps room (enter room >>= next) := by
  cases room with
  | zero => exact fun b => .inr (.inr ⟨rfl, Nat.zero_le _⟩)
  | succ inner => exact fun b => second inner rfl b

theorem keepsAtToken_enter_bind
    {next : Nat → Build β}
    (second : ∀ inner, room = inner + 1 → KeepsAtToken room (next inner)) :
    KeepsAtToken room (enter room >>= next) := by
  cases room with
  | zero => exact fun b _ => .inr (.inr ⟨rfl, Nat.zero_le _⟩)
  | succ inner => exact fun b nonempty => second inner rfl b nonempty

/-! ## Properties, aliases and missing nodes -/

theorem keeps_add
    (node : Node) :
    Keeps room (add node) :=
  fun b => List.suffix_refl b.tokens

theorem keepsAtToken_add_bind
    {node : Node} {next : Nat → Build β}
    (second : ∀ id, KeepsAtToken room (next id)) :
    KeepsAtToken room (add node >>= next) :=
  fun b nonempty => second b.nodes.size { b with nodes := b.nodes.push node } nonempty

theorem keeps_fill
    (id : Nat) (content : Content) :
    Keeps room (fill id content) :=
  keeps_modify fun _ => rfl

theorem keeps_addMissing :
    Keeps room (addMissing room) :=
  keeps_enter_bind fun _ _ => keeps_add _

theorem keeps_anchor? :
    Keeps room anchor? := by
  refine keeps_peek_bind fun token => ?_
  split
  next => exact (keeps_skip.bind fun _ => keeps_pure _).atToken
  next => exact (keeps_pure _).atToken

theorem keeps_tag? :
    Keeps room tag? := by
  refine keeps_peek_bind fun token => ?_
  split
  next => exact (keeps_skip.bind fun _ => keeps_pure _).atToken
  next => exact (keeps_pure _).atToken

theorem keeps_expandTag
    (handle : Option Text) (suffix : Text) :
    Keeps room (expandTag handle suffix) := by
  unfold expandTag
  split
  next => exact keeps_pure _
  next =>
    refine keeps_get_bind fun b => ?_
    split
    next => exact keeps_pure _ b
    next => exact keeps_malformed b

theorem keeps_properties :
    Keeps room properties := by
  refine keeps_anchor?.bind fun first => keeps_tag?.bind fun tag => ?_
  extract_lets finish
  have keepsFinish : ∀ anchor, Keeps room (finish anchor) := by
    intro anchor
    simp only [finish]
    split
    next => exact keeps_pure _
    next => exact (keeps_expandTag _ _).bind fun _ => keeps_pure _
  split
  next => exact keeps_anchor?.bind keepsFinish
  next => exact (keeps_pure _).bind keepsFinish

theorem keeps_declareAnchor
    (anchor : Option Text) :
    Keeps room (declareAnchor anchor) := by
  unfold declareAnchor
  split
  next => exact keeps_pure _
  next =>
    refine keeps_get_bind fun b => ?_
    split
    next => exact keeps_malformed b
    next => exact List.suffix_refl b.tokens

theorem keeps_resolveAlias
    (name : Text) :
    Keeps room (resolveAlias name) := by
  refine keeps_get_bind fun b => ?_
  split
  next => exact keeps_pure _ b
  next => exact keeps_malformed b

theorem keeps_missing
    (anchor : Option Text) (written : WrittenTag) :
    Keeps room (missing anchor written) := by
  unfold missing
  split
  next => exact keeps_malformed
  next => exact (keeps_declareAnchor anchor).bind fun _ => keeps_add _

/-- A collection takes what its parts take. -/
theorem keeps_collection
    (anchor : Option Text) (node : Node) {parts : Build α} (content : α → Content)
    (keepsParts : Keeps room parts) :
    Keeps room (do
      declareAnchor anchor
      let id ← add node
      let parts ← parts
      fill id (content parts)
      pure id) :=
  (keeps_declareAnchor anchor).bind fun _ =>
    (keeps_add node).bind fun _ =>
      keepsParts.bind fun _ => (keeps_fill _ _).bind fun _ => keeps_pure _

end Steps

/-! ## Nodes and their parts -/

/-- With some fuel the readers of nodes keep well.  The entries of a sequence that is not indented
start with tokens of their own, so they have room for one node more. -/
structure ReadersKeep (fuel : Nat) : Prop where
  node : ∀ room place, Keeps room (node fuel room place)
  plainItems : ∀ room, Keeps (room + 1) (plainItems fuel room)
  blockItems : ∀ room, Keeps room (blockItems fuel room)
  blockEntries : ∀ room, Keeps room (blockEntries fuel room)
  blockValue : ∀ room, Keeps room (blockValue fuel room)
  flowItems : ∀ room first, Keeps room (flowItems fuel room first)
  flowEntries : ∀ room first, Keeps room (flowEntries fuel room first)
  flowPart : ∀ room, Keeps room (flowPart fuel room)
  flowValue : ∀ room, Keeps room (flowValue fuel room)

theorem readersKeep_zero :
    ReadersKeep 0 where
  node _ _ := keeps_malformed
  plainItems _ := keeps_malformed
  blockItems _ := keeps_malformed
  blockEntries _ := keeps_malformed
  blockValue _ := keeps_malformed
  flowItems _ _ := keeps_malformed
  flowEntries _ _ := keeps_malformed
  flowPart _ := keeps_malformed
  flowValue _ := keeps_malformed

section Readers

variable {fuel room : Nat}

/-- The parts of a collection are behind the token that starts it. -/
theorem keeps_skip_collection
    {α : Type} (anchor : Option Text) (node : Node) {parts : Build α} (content : α → Content)
    (keepsParts : Keeps room parts) :
    KeepsAtToken (room + 1) (do
      skip
      declareAnchor anchor
      let id ← add node
      let parts ← parts
      fill id (content parts)
      pure id) :=
  keeps_skip_bind (keeps_collection anchor node content keepsParts)

theorem keeps_node_succ
    (readers : ReadersKeep fuel) (place : Place) :
    Keeps room (node (fuel + 1) room place) := by
  rw [node]
  refine keeps_enter_bind fun inner roomEq => ?_
  subst roomEq
  refine keeps_peek_bind fun token => ?_
  split
  next => exact (keeps_skip.bind fun _ => keeps_resolveAlias _).atToken
  next =>
    refine (keeps_properties.bind fun (anchor, written) => keeps_peek_bind fun token => ?_).atToken
    extract_lets inBlock
    have keepsMissing : KeepsAtToken (inner + 1) (missing anchor written) :=
      (keeps_missing anchor written).atToken
    split
    next =>
      split
      next => exact (keeps_collection anchor _ _ (readers.plainItems inner)).atToken
      next => exact keepsMissing
    next =>
      exact (keeps_skip.bind fun _ => (keeps_declareAnchor anchor).bind fun _ =>
        keeps_add _).atToken
    next => exact keeps_skip_collection anchor _ _ (readers.flowItems inner true)
    next => exact keeps_skip_collection anchor _ _ (readers.flowEntries inner true)
    next =>
      split
      next => exact keeps_skip_collection anchor _ _ (readers.blockItems inner)
      next => exact keepsMissing
    next =>
      split
      next => exact keeps_skip_collection anchor _ _ (readers.blockEntries inner)
      next => exact keepsMissing
    next => exact keepsMissing

theorem keeps_plainItems_succ
    (readers : ReadersKeep fuel) :
    Keeps (room + 1) (plainItems (fuel + 1) room) := by
  rw [plainItems]
  refine keeps_peek_bind fun token => ?_
  split
  next =>
    -- The hyphen that is passed makes up for the sequence, which has no token of its own.
    refine keeps_skip_bind (keeps_peek_bind fun token => ?_)
    extract_lets others
    have keepsOthers : ∀ item, Keeps room (others item) := fun item =>
      ((readers.plainItems room).mono (Nat.le_succ room)).bind fun _ => keeps_pure _
    split
    next => exact (keeps_addMissing.bind keepsOthers).atToken
    next => exact ((readers.node room .block).bind keepsOthers).atToken
  next => exact (keeps_pure _).atToken

theorem keeps_blockItems_succ
    (readers : ReadersKeep fuel) :
    Keeps room (blockItems (fuel + 1) room) := by
  rw [blockItems]
  refine keeps_peek_bind fun token => ?_
  split
  next =>
    refine (keeps_skip.bind fun _ => keeps_peek_bind fun token => ?_).atToken
    extract_lets others
    have keepsOthers : ∀ item, Keeps room (others item) := fun item =>
      (readers.blockItems room).bind fun _ => keeps_pure _
    split
    next => exact (keeps_addMissing.bind keepsOthers).atToken
    next => exact ((readers.node room .block).bind keepsOthers).atToken
  next => exact (keeps_skip.bind fun _ => keeps_pure _).atToken
  next => exact keeps_malformed.atToken

theorem keeps_blockEntries_succ
    (readers : ReadersKeep fuel) :
    Keeps room (blockEntries (fuel + 1) room) := by
  rw [blockEntries]
  refine keeps_peek_bind fun token => ?_
  split
  next =>
    refine (keeps_skip.bind fun _ => keeps_peek_bind fun token => ?_).atToken
    extract_lets others
    have keepsOthers : ∀ key, Keeps room (others key) := fun key =>
      (readers.blockValue room).bind fun _ => (readers.blockEntries room).bind fun _ => keeps_pure _
    split
    next => exact (keeps_addMissing.bind keepsOthers).atToken
    next => exact ((readers.node room .blockValue).bind keepsOthers).atToken
  next => exact (keeps_skip.bind fun _ => keeps_pure _).atToken
  next => exact keeps_malformed.atToken

theorem keeps_blockValue_succ
    (readers : ReadersKeep fuel) :
    Keeps room (blockValue (fuel + 1) room) := by
  rw [blockValue]
  refine keeps_peek_bind fun token => ?_
  split
  next =>
    refine (keeps_skip.bind fun _ => keeps_peek_bind fun token => ?_).atToken
    split
    next => exact keeps_addMissing.atToken
    next => exact (readers.node room .blockValue).atToken
  next => exact keeps_addMissing.atToken

theorem keeps_flowPart_succ
    (readers : ReadersKeep fuel) :
    Keeps room (flowPart (fuel + 1) room) := by
  rw [flowPart]
  refine keeps_peek_bind fun token => ?_
  split
  iterate 4 next => exact keeps_addMissing.atToken
  next => exact (readers.node room .flow).atToken

theorem keeps_flowValue_succ
    (readers : ReadersKeep fuel) :
    Keeps room (flowValue (fuel + 1) room) := by
  rw [flowValue]
  refine keeps_peek_bind fun token => ?_
  split
  next =>
    refine (keeps_skip.bind fun _ => keeps_peek_bind fun token => ?_).atToken
    split
    iterate 3 next => exact keeps_addMissing.atToken
    next => exact (readers.node room .flow).atToken
  next => exact keeps_addMissing.atToken

/-- A comma has to be in front of every part of a flow collection but the first one. -/
theorem keeps_comma
    {α : Type} {first : Bool} {token : Token} {others : Unit → Build α}
    (keepsOthers : ∀ u, Keeps room (others u)) :
    Keeps room (
      if (!first) = true then
        if token = .flowEntry then do
          let u ← skip
          others u
        else do
          let u ← throw .malformed
          others u
      else others ()) := by
  split
  next =>
    split
    next => exact keeps_skip.bind keepsOthers
    next => exact keeps_malformed.bind keepsOthers
  next => exact keepsOthers ()

theorem keeps_flowItems_succ
    (readers : ReadersKeep fuel) (first : Bool) :
    Keeps room (flowItems (fuel + 1) room first) := by
  rw [flowItems]
  refine keeps_peek_bind fun token => ?_
  split
  next => exact (keeps_skip.bind fun _ => keeps_pure _).atToken
  next =>
    refine (keeps_comma fun _ => keeps_peek_bind fun token => ?_).atToken
    have keepsOthers : ∀ item, Keeps room (do
        let items ← flowItems fuel room false
        pure (item :: items)) := fun item =>
      (readers.flowItems room false).bind fun _ => keeps_pure _
    split
    next => exact (keeps_skip.bind fun _ => keeps_pure _).atToken
    next =>
      -- The mapping of one entry takes room of its own, and the key mark is its token.
      refine keepsAtToken_enter_bind fun inner roomEq => keepsAtToken_add_bind fun id => ?_
      subst roomEq
      have keepsRest := (keepsOthers id).mono (Nat.le_succ inner)
      exact keeps_skip_bind ((readers.flowPart inner).bind fun _ =>
        (readers.flowValue inner).bind fun _ => (keeps_fill id _).bind fun _ => keepsRest)
    next => exact ((readers.node room .flow).bind keepsOthers).atToken

theorem keeps_flowEntries_succ
    (readers : ReadersKeep fuel) (first : Bool) :
    Keeps room (flowEntries (fuel + 1) room first) := by
  rw [flowEntries]
  refine keeps_peek_bind fun token => ?_
  split
  next => exact (keeps_skip.bind fun _ => keeps_pure _).atToken
  next =>
    refine (keeps_comma fun _ => keeps_peek_bind fun token => ?_).atToken
    have keepsOthers : ∀ key value, Keeps room (do
        let entries ← flowEntries fuel room false
        pure ((key, value) :: entries)) := fun key value =>
      (readers.flowEntries room false).bind fun _ => keeps_pure _
    split
    next => exact (keeps_skip.bind fun _ => keeps_pure _).atToken
    next =>
      exact (keeps_skip.bind fun _ => (readers.flowPart room).bind fun key =>
        (readers.flowValue room).bind (keepsOthers key)).atToken
    next =>
      exact ((readers.node room .flow).bind fun key =>
        keeps_addMissing.bind (keepsOthers key)).atToken

theorem readersKeep_succ
    (readers : ReadersKeep fuel) :
    ReadersKeep (fuel + 1) where
  node _ place := keeps_node_succ readers place
  plainItems _ := keeps_plainItems_succ readers
  blockItems _ := keeps_blockItems_succ readers
  blockEntries _ := keeps_blockEntries_succ readers
  blockValue _ := keeps_blockValue_succ readers
  flowItems _ first := keeps_flowItems_succ readers first
  flowEntries _ first := keeps_flowEntries_succ readers first
  flowPart _ := keeps_flowPart_succ readers
  flowValue _ := keeps_flowValue_succ readers

theorem readersKeep
    (fuel : Nat) :
    ReadersKeep fuel := by
  induction fuel with
  | zero => exact readersKeep_zero
  | succ fuel induction => exact readersKeep_succ induction

/-! ## Documents -/

theorem keeps_directives
    (versioned : Bool) (handles : List (Text × Text)) :
    Keeps room (directives fuel versioned handles) := by
  induction fuel generalizing versioned handles with
  | zero => exact keeps_malformed
  | succ fuel induction =>
      rw [directives]
      refine keeps_peek_bind fun token => Keeps.atToken ?_
      split
      next =>
        refine keeps_skip.bind fun _ => ?_
        split
        next => exact keeps_malformed
        next => exact induction true handles
      next =>
        refine keeps_skip.bind fun _ => ?_
        split
        next => exact keeps_malformed
        next => exact induction versioned _
      next => exact keeps_skip.bind fun _ => induction versioned handles
      next => exact keeps_modify fun _ => rfl

theorem keeps_skipDocumentEnds :
    Keeps room (skipDocumentEnds fuel) := by
  induction fuel with
  | zero => exact keeps_malformed
  | succ fuel induction =>
      rw [skipDocumentEnds]
      refine keeps_peek_bind fun token => ?_
      split
      next => exact (keeps_skip.bind fun _ => induction).atToken
      next => exact (keeps_pure _).atToken

theorem keeps_markedRoot :
    Keeps room (markedRoot fuel room) := by
  refine (keeps_directives _ _).bind fun _ => keeps_peek_bind fun token => Keeps.atToken ?_
  split
  next =>
    refine keeps_skip.bind fun _ => keeps_peek_bind fun token => Keeps.atToken ?_
    split
    iterate 6 next => exact keeps_addMissing
    next => exact (readersKeep fuel).node room .block
  next => exact keeps_malformed

theorem keeps_root? :
    Keeps room (root? fuel room) := by
  refine keeps_peek_bind fun token => Keeps.atToken ?_
  split
  next => exact keeps_pure _
  iterate 4 next => exact keeps_markedRoot.bind fun _ => keeps_pure _
  next =>
    refine Keeps.bind (keeps_modify fun _ => ?_) fun _ =>
      ((readersKeep fuel).node room .block).bind fun _ => keeps_pure _
    rfl

theorem keeps_document :
    Keeps room (document fuel room) := by
  refine keeps_root?.bind fun root => keeps_skipDocumentEnds.bind fun _ =>
    keeps_peek_bind fun token => Keeps.atToken ?_
  split
  next => exact keeps_pure _
  next => exact (keeps_directives _ _).bind fun _ => keeps_malformed

end Readers

end Build

/-- If the tokens of a text make up no document, then the text is malformed, or its tokens are
broken, or there are enough of them to exhaust the stack. -/
theorem graphOf_eq_error
    {tokens : List Token} {stack : Stack} {error : Error}
    (failed : graphOf tokens stack = .error error) :
    error = .malformed ∨ .broken error ∈ tokens ∨
      error = .exhausted ∧ stack.nodes ≤ tokens.length := by
  have endsWell :
      Build.EndsWell stack.nodes tokens
        ((Build.document (4 * tokens.length + 8) stack.nodes).run ⟨tokens, #[], [], []⟩) :=
    Build.keeps_document ⟨tokens, #[], [], []⟩
  cases reading :
      (Build.document (4 * tokens.length + 8) stack.nodes).run ⟨tokens, #[], [], []⟩ with
  | ok answer =>
      simp only [graphOf, reading, ok_bind] at failed
      cases failed
  | error other =>
      simp only [graphOf, reading, error_bind, Except.error.injEq] at failed
      subst failed
      rw [reading] at endsWell
      exact endsWell

end Shapewright.Yaml
