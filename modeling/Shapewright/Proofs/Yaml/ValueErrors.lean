import Mathlib.Data.List.Basic
import Shapewright.Proofs.Yaml.Apart
import Shapewright.Yaml.Document

/-!
# Errors of making values

While the values of a document are made, its mappings get other entries, and default keys become
ordinary ones, but scalars stay what they are.  So an error is that of a scalar of the document, as
far as it is not just that the document is malformed; and to exhaust the stack takes a merge key or
a default key.
-/

namespace Shapewright.Yaml

open Shapewright.Outcome

/-- The content of which the value of a node is made: its own, or for a mapping with a default that
of another scalar.  A timestamp has to be a scalar itself. -/
inductive StandsFor (nodes : Array Node) (node : Node) (content : Text) : Prop where
  | scalar : node.content = .scalar content → StandsFor nodes node content
  | default {entries : List (Nat × Nat)} {other : Node} :
      node.content = .mapping entries → node.tag ≠ .timestamp → other ∈ nodes →
        other.content = .scalar content → StandsFor nodes node content

/-- The errors with which the values of some nodes may fail to be made. -/
inductive CanFail (nodes : Array Node) : Error → Prop where
  | malformed : CanFail nodes .malformed
  | exhausted {node : Node} :
      node ∈ nodes → node.tag = .merge ∨ node.tag = .default → CanFail nodes .exhausted
  | scalar {node : Node} {content : Text} {error : Error} :
      node ∈ nodes → StandsFor nodes node content →
        Scalar.value node.tag content = .error error → CanFail nodes error

/-- What may become of a node while values are made. -/
structure IsVersion (original node : Node) : Prop where
  tag : node.tag = original.tag ∨ original.tag = .default ∧ node.tag = .text
  scalar : ∀ content, node.content = .scalar content → original.content = .scalar content
  mapping : ∀ entries, node.content = .mapping entries →
    ∃ others, original.content = .mapping others

theorem isVersion_refl
    (node : Node) :
    IsVersion node node where
  tag := .inl rfl
  scalar _ same := same
  mapping entries same := ⟨entries, same⟩

namespace Make

/-- All nodes are versions of nodes of the document. -/
def Evolves (nodes : Array Node) (m : Maker) : Prop :=
  ∀ (id : Nat) (node : Node), m.nodes[id]? = some node →
    ∃ original ∈ nodes, IsVersion original node

/-- Started from some values, a step gives an answer of a kind, or an error that is to be expected
of the nodes of the document. -/
def Ensures {α : Type} (nodes : Array Node) (m : Maker) (step : Make α)
    (answers : α → Maker → Prop) : Prop :=
  match step.run m with
  | .ok (a, after) => answers a after
  | .error error => CanFail nodes error

/-- A step leaves versions of the nodes of the document. -/
def Tracks {α : Type} (nodes : Array Node) (step : Make α) : Prop :=
  ∀ m, Evolves nodes m → Ensures nodes m step fun _ after => Evolves nodes after

section Steps

variable {α β : Type} {nodes : Array Node} {m : Maker}

theorem Ensures.mono
    {step : Make α} {answers others : α → Maker → Prop}
    (ensures : Ensures nodes m step answers)
    (weaker : ∀ a after, answers a after → others a after) :
    Ensures nodes m step others := by
  unfold Ensures at ensures ⊢
  split
  next result => exact weaker _ _ (by simpa [result] using ensures)
  next result => simpa [result] using ensures

theorem Ensures.bind
    {step : Make α} {next : α → Make β} {answers : α → Maker → Prop}
    {results : β → Maker → Prop}
    (first : Ensures nodes m step answers)
    (second : ∀ a after, answers a after → Ensures nodes after (next a) results) :
    Ensures nodes m (step >>= next) results := by
  unfold Ensures
  rw [StateT.run_bind]
  unfold Ensures at first
  cases result : step.run m with
  | ok answer =>
      rw [result] at first
      exact second answer.1 answer.2 first
  | error error =>
      rw [result] at first
      exact first

theorem ensures_malformed
    {answers : α → Maker → Prop} :
    Ensures nodes m (throw .malformed) answers :=
  CanFail.malformed

theorem Tracks.bind
    {step : Make α} {next : α → Make β}
    (first : Tracks nodes step)
    (second : ∀ a, Tracks nodes (next a)) :
    Tracks nodes (step >>= next) :=
  fun m evolves => (first m evolves).bind fun a after evolved => second a after evolved

theorem tracks_pure
    (a : α) :
    Tracks nodes (pure a) :=
  fun _ evolves => evolves

theorem tracks_malformed :
    Tracks nodes (throw .malformed : Make α) :=
  fun _ _ => CanFail.malformed

/-- What changes no nodes tracks them. -/
theorem tracks_modify
    {change : Maker → Maker}
    (same : ∀ m, (change m).nodes = m.nodes) :
    Tracks nodes (modify change : Make Unit) := by
  intro m evolves id node found
  change (change m).nodes[id]? = some node at found
  rw [same] at found
  exact evolves id node found

theorem tracks_get_bind
    {next : Maker → Make β}
    (second : ∀ m, Tracks nodes (next m)) :
    Tracks nodes (get >>= next) :=
  fun m evolves => second m m evolves

/-! ## Looking at nodes -/

theorem ensures_nodeAt
    (id : Nat) :
    Ensures nodes m (nodeAt id) fun node after => after = m ∧ m.nodes[id]? = some node := by
  unfold Ensures nodeAt
  simp only [StateT.run_bind, StateT.run_get, pure_bind]
  cases found : m.nodes[id]? with
  | none => exact CanFail.malformed
  | some node => exact ⟨rfl, rfl⟩

theorem ensures_entriesAt
    (id : Nat) :
    Ensures nodes m (entriesAt id) fun entries after =>
      after = m ∧ ∃ node, m.nodes[id]? = some node ∧ node.content = .mapping entries := by
  refine (ensures_nodeAt id).bind fun node after ⟨same, found⟩ => ?_
  subst same
  split
  next entries contentEq => exact ⟨rfl, node, found, contentEq⟩
  next => exact ensures_malformed

theorem tracks_nodeAt
    (id : Nat) :
    Tracks nodes (nodeAt id) :=
  fun _ evolves => (ensures_nodeAt id).mono fun _ _ ⟨same, _⟩ => same ▸ evolves

theorem tracks_entriesAt
    (id : Nat) :
    Tracks nodes (entriesAt id) :=
  fun _ evolves => (ensures_entriesAt id).mono fun _ _ ⟨same, _⟩ => same ▸ evolves

/-- A tag that a node has and that is no text was the tag of a node of the document. -/
theorem Evolves.exists_tag
    (evolves : Evolves nodes m) {id : Nat} {node : Node}
    (found : m.nodes[id]? = some node)
    (notText : node.tag ≠ .text) :
    ∃ original ∈ nodes, original.tag = node.tag := by
  rcases evolves id node found with ⟨original, member, version⟩
  rcases version.tag with same | ⟨_, text⟩
  · exact ⟨original, member, same.symm⟩
  · exact absurd text notText

/-! ## Contents -/

/-- Whether a default key is among the nodes of the document. -/
def HasDefault (nodes : Array Node) : Prop := ∃ node ∈ nodes, node.tag = .default

theorem ensures_filterAuxM_default
    (evolves : Evolves nodes m) (entries kept : List (Nat × Nat))
    (areDefaults : kept ≠ [] → HasDefault nodes) :
    Ensures nodes m
      (entries.filterAuxM (fun (key, _) => do pure ((← nodeAt key).tag == .default)) kept)
      fun kept after => after = m ∧ (kept ≠ [] → HasDefault nodes) := by
  induction entries generalizing kept with
  | nil => exact ⟨rfl, areDefaults⟩
  | cons entry rest induction =>
      rw [List.filterAuxM, bind_assoc]
      refine (ensures_nodeAt entry.1).bind fun node after ⟨same, found⟩ => ?_
      subst same
      rw [pure_bind]
      refine induction _ fun nonempty => ?_
      by_cases isDefault : node.tag = .default
      · rcases evolves.exists_tag found (by simp [isDefault]) with ⟨original, member, sameTag⟩
        exact ⟨original, member, sameTag.trans isDefault⟩
      · exact areDefaults (by simpa [beq_false_of_ne isDefault] using nonempty)

/-- What the content of a node is read as: its own, or for a mapping that of a scalar. -/
def IsContentAt (nodes : Array Node) (m : Maker) (id : Nat) (content : Text) : Prop :=
  ∃ node, m.nodes[id]? = some node ∧
    (node.content = .scalar content ∨
      (∃ entries, node.content = .mapping entries) ∧
        ∃ other ∈ nodes, other.content = .scalar content)

theorem IsContentAt.exists_scalar
    (evolves : Evolves nodes m) {id : Nat} {content : Text}
    (isContent : IsContentAt nodes m id content) :
    ∃ other ∈ nodes, other.content = .scalar content := by
  rcases isContent with ⟨node, found, own | ⟨_, other⟩⟩
  · rcases evolves id node found with ⟨original, member, version⟩
    exact ⟨original, member, version.scalar content own⟩
  · exact other

/-- The content at a node, given what is read at the value of a default. -/
theorem ensures_contentAt_step
    (evolves : Evolves nodes m) (id : Nat) {next : Nat → Make Text}
    (reads : HasDefault nodes → ∀ value,
      Ensures nodes m (next value) fun content after =>
        after = m ∧ IsContentAt nodes m value content) :
    Ensures nodes m
      (do
        match (← nodeAt id).content with
        | .scalar content => pure content
        | .sequence _ => throw .malformed
        | .mapping entries => do
          let defaults ← entries.filterM fun (key, _) => do pure ((← nodeAt key).tag == .default)
          match defaults with
          | [] => throw .malformed
          | (_, value) :: _ => next value)
      fun content after => after = m ∧ IsContentAt nodes m id content := by
  refine (ensures_nodeAt id).bind fun node after ⟨same, found⟩ => ?_
  subst same
  split
  next content contentEq => exact ⟨rfl, node, found, .inl contentEq⟩
  next => exact ensures_malformed
  next entries contentEq =>
    rw [List.filterM, bind_assoc]
    refine (ensures_filterAuxM_default evolves entries [] (absurd rfl)).bind
      fun kept after ⟨same, areDefaults⟩ => ?_
    subst same
    rw [pure_bind]
    split
    next => exact ensures_malformed
    next value _ keptEq =>
      refine (reads (areDefaults ?_) value).mono fun content after ⟨same, isContent⟩ => ?_
      · rintro rfl
        cases keptEq
      · exact ⟨same, node, found, .inr ⟨⟨entries, contentEq⟩, isContent.exists_scalar evolves⟩⟩

theorem ensures_contentAt
    (evolves : Evolves nodes m) (room id : Nat) :
    Ensures nodes m (contentAt room id) fun content after =>
      after = m ∧ IsContentAt nodes m id content := by
  induction room generalizing id with
  | zero =>
      rw [contentAt]
      refine ensures_contentAt_step evolves id fun ⟨node, member, isDefault⟩ _ => ?_
      exact CanFail.exhausted member (.inr isDefault)
  | succ room induction =>
      rw [contentAt]
      exact ensures_contentAt_step evolves id fun _ value => induction value

/-! ## Merging -/

theorem Evolves.modify
    (evolves : Evolves nodes m) (id : Nat) (change : Node → Node)
    (versions : ∀ node original, m.nodes[id]? = some node → IsVersion original node →
      IsVersion original (change node)) :
    Evolves nodes { m with nodes := m.nodes.modify id change } := by
  intro other node found
  rw [Array.getElem?_modify] at found
  split at found
  next same =>
    subst same
    rcases Option.map_eq_some_iff.mp found with ⟨before, foundBefore, rfl⟩
    rcases evolves id before foundBefore with ⟨original, member, version⟩
    exact ⟨original, member, versions before original foundBefore version⟩
  next => exact evolves other node found

theorem ensures_setEntries
    (evolves : Evolves nodes m) {id : Nat} {node : Node} {entries : List (Nat × Nat)}
    (found : m.nodes[id]? = some node)
    (contentEq : node.content = .mapping entries)
    (others : List (Nat × Nat)) :
    Ensures nodes m (setEntries id others) fun _ after => Evolves nodes after := by
  refine evolves.modify id _ fun before original foundBefore version => ?_
  cases Option.some.inj (found.symm.trans foundBefore)
  exact {
    tag := version.tag
    scalar := nofun
    mapping := fun _ _ => version.mapping entries contentEq }

theorem ensures_setTag
    (evolves : Evolves nodes m) {id : Nat} {node : Node}
    (found : m.nodes[id]? = some node)
    (isDefault : node.tag = .default) :
    Ensures nodes m (setTag id .text) fun _ after => Evolves nodes after := by
  refine evolves.modify id _ fun before original foundBefore version => ?_
  cases Option.some.inj (found.symm.trans foundBefore)
  refine ⟨.inr ⟨?_, rfl⟩, version.scalar, version.mapping⟩
  rcases version.tag with same | ⟨originalDefault, _⟩
  · exact same.symm.trans isDefault
  · exact originalDefault

/-- Taking merge entries out of other mappings tracks the nodes, if there is a merge key. -/
def FlattensOthers (nodes : Array Node) (flattenOther : Nat → Make Unit) : Prop :=
  (∃ node ∈ nodes, node.tag = .merge) → ∀ id, Tracks nodes (flattenOther id)

theorem tracks_mapM
    {read : α → Make β}
    (tracks : ∀ a, Tracks nodes (read a))
    (items : List α) :
    Tracks nodes (items.mapM read) := by
  induction items with
  | nil => exact tracks_pure _
  | cons item rest induction =>
      rw [List.mapM_cons]
      exact (tracks item).bind fun _ => induction.bind fun _ => tracks_pure _

theorem tracks_mergedEntries
    {flattenOther : Nat → Make Unit}
    (tracks : ∀ id, Tracks nodes (flattenOther id))
    (id : Nat) :
    Tracks nodes (mergedEntries flattenOther id) := by
  refine (tracks_nodeAt id).bind fun node => ?_
  split
  next => exact (tracks id).bind fun _ => tracks_entriesAt id
  next =>
    refine (tracks_mapM (fun item => ?_) _).bind fun _ => tracks_pure _
    exact (tracks_entriesAt item).bind fun _ => (tracks item).bind fun _ => tracks_entriesAt item
  next => exact tracks_malformed

theorem tracks_takeMerges
    {flattenOther : Nat → Make Unit}
    (flattens : FlattensOthers nodes flattenOther)
    (fuel id index : Nat) :
    Tracks nodes (takeMerges flattenOther fuel id index) := by
  induction fuel generalizing index with
  | zero => exact tracks_pure _
  | succ fuel induction =>
      intro m evolves
      rw [takeMerges]
      refine (ensures_entriesAt id).bind fun entries after ⟨same, node, found, contentEq⟩ => ?_
      subst same
      split
      next => exact evolves
      next key value _ =>
        refine (ensures_nodeAt key).bind fun keyNode after ⟨same, keyFound⟩ => ?_
        subst same
        split
        next isMerge =>
          -- The merge key that is found here is what the others may need room for.
          have others := flattens (isMerge ▸ evolves.exists_tag keyFound (by simp [isMerge]))
          refine (ensures_setEntries evolves found contentEq _).bind fun _ after evolved => ?_
          exact ((tracks_mergedEntries others value).bind fun _ => (induction index).bind fun _ =>
            tracks_pure _) after evolved
        next isDefault =>
          exact (ensures_setTag evolves keyFound isDefault).bind fun _ => induction (index + 1)
        next => exact induction (index + 1) _ evolves

theorem tracks_flattenWith
    {flattenOther : Nat → Make Unit}
    (flattens : FlattensOthers nodes flattenOther)
    (id : Nat) :
    Tracks nodes (flattenWith flattenOther id) := by
  unfold flattenWith
  refine (tracks_entriesAt id).bind fun entries =>
    (tracks_takeMerges flattens _ id 0).bind fun merged => ?_
  split
  next => exact tracks_pure _
  next =>
    intro m evolves
    refine (ensures_entriesAt id).bind fun entries after ⟨same, node, found, contentEq⟩ => ?_
    subst same
    exact ensures_setEntries evolves found contentEq _

theorem tracks_flatten
    (room id : Nat) :
    Tracks nodes (flatten room id) := by
  induction room generalizing id with
  | zero =>
      refine tracks_flattenWith (fun ⟨node, member, isMerge⟩ _ _ _ => ?_) id
      exact CanFail.exhausted member (.inl isMerge)
  | succ room induction => exact tracks_flattenWith (fun _ => induction) id

/-! ## Values -/

theorem tracks_record
    (id : Nat) (made : Made) :
    Tracks nodes (record id made) :=
  tracks_modify fun _ => rfl

/-- An error of a scalar is one of a node of the document, whose tag it still has. -/
theorem ensures_scalarValue
    (evolves : Evolves nodes m) {id : Nat} {node : Node} {content : Text}
    (found : m.nodes[id]? = some node)
    (isContent : IsContentAt nodes m id content) :
    Ensures nodes m (scalarValue node content) fun _ after => Evolves nodes after := by
  rcases isContent with ⟨same, sameFound, isContent⟩
  cases Option.some.inj (found.symm.trans sameFound)
  rcases evolves id node found with ⟨original, member, version⟩
  unfold scalarValue
  split
  next => exact ensures_malformed
  next notTimestamp =>
    cases valueEq : Scalar.value node.tag content with
    | ok v => exact evolves
    | error error =>
        -- Only a default key gets another tag, and as a text it has a value.
        have sameTag : node.tag = original.tag := by
          refine version.tag.resolve_right fun ⟨_, isText⟩ => ?_
          rw [isText] at valueEq
          cases valueEq
        refine CanFail.scalar member ?_ (sameTag ▸ valueEq)
        rcases isContent with own | ⟨⟨entries, contentEq⟩, other, otherMember, otherEq⟩
        · exact .scalar (version.scalar content own)
        · rcases version.mapping entries contentEq with ⟨others, originalEq⟩
          refine .default originalEq (fun isTimestamp => ?_) otherMember otherEq
          exact notTimestamp _ (sameTag.trans isTimestamp) contentEq

theorem tracks_visit
    (stack : Stack) (id : Nat) :
    Tracks nodes (visit stack id) := by
  refine tracks_get_bind fun before => ?_
  split
  next => exact tracks_pure _
  next =>
    intro m evolves
    refine (ensures_nodeAt id).bind fun node after ⟨same, found⟩ => ?_
    subst same
    split
    next => exact ensures_malformed
    next =>
      split
      next =>
        refine (tracks_record id _ _ evolves).bind fun _ after evolved => ?_
        exact tracks_modify (fun _ => rfl) after evolved
      next =>
        refine (ensures_contentAt evolves _ id).bind fun content after ⟨same, isContent⟩ => ?_
        subst same
        exact (ensures_scalarValue evolves found isContent).bind fun _ => tracks_record id _

theorem tracks_visitEntries
    (stack : Stack) (entries : List (Nat × Nat)) :
    Tracks nodes (visitEntries stack entries) := by
  induction entries with
  | nil => exact tracks_pure _
  | cons entry rest induction =>
      refine (tracks_visit stack entry.1).bind fun _ => tracks_get_bind fun m => ?_
      split
      next => exact (tracks_visit stack entry.2).bind fun _ => induction.bind fun _ => tracks_pure _
      next => exact tracks_malformed

theorem tracks_visitPairs
    (stack : Stack) (items : List Nat) :
    Tracks nodes (visitPairs stack items) := by
  induction items with
  | nil => exact tracks_pure _
  | cons item rest induction =>
      refine (tracks_entriesAt item).bind fun entries => ?_
      split
      next key value =>
        exact (tracks_visit stack key).bind fun _ => (tracks_visit stack value).bind fun _ =>
          induction
      next => exact tracks_malformed

theorem tracks_forM
    {visitItem : α → Make Unit}
    (tracks : ∀ a, Tracks nodes (visitItem a))
    (items : List α) :
    Tracks nodes (items.forM visitItem) := by
  induction items with
  | nil => exact tracks_pure _
  | cons item rest induction =>
      exact (tracks item).bind fun _ => induction

theorem tracks_visitParts
    (stack : Stack) (id : Nat) :
    Tracks nodes (visitParts stack id) := by
  have tracksEntries : ∀ made : List (Value × Nat) → Made, Tracks nodes (do
      flatten stack.merges id
      let entries ← visitEntries stack (← entriesAt id)
      record id (made entries)) := fun made =>
    (tracks_flatten _ id).bind fun _ => (tracks_entriesAt id).bind fun entries =>
      (tracks_visitEntries stack entries).bind fun _ => tracks_record id _
  refine (tracks_nodeAt id).bind fun node => ?_
  split
  next => exact tracksEntries .mapping
  next => exact tracksEntries fun entries => .sized entries.length
  next items _ _ => exact (tracks_forM (tracks_visit stack) items).bind fun _ => tracks_record id _
  next items _ _ => exact (tracks_visitPairs stack items).bind fun _ => tracks_record id _
  next items _ _ => exact (tracks_visitPairs stack items).bind fun _ => tracks_record id _
  next => exact tracks_malformed

theorem tracks_finish
    (stack : Stack) (fuel : Nat) :
    Tracks nodes (finish stack fuel) := by
  induction fuel with
  | zero => exact tracks_pure _
  | succ fuel induction =>
      refine tracks_get_bind fun m => ?_
      dsimp only
      split
      next => exact tracks_pure _
      next =>
        refine Tracks.bind (tracks_modify fun _ => ?_) fun _ =>
          (tracks_forM (tracks_visitParts stack) _).bind fun _ => induction
        rfl

end Steps

end Make

/-- A graph makes no document because it is malformed, because a merge key or a default key leads
too deep, or because a scalar has no value. -/
theorem canFail_of_ofGraph
    {graph : Graph} {stack : Stack} {error : Error}
    (failed : Document.ofGraph graph stack = .error error) :
    CanFail graph.nodes error := by
  have starts :
      Make.Evolves graph.nodes ⟨graph.nodes, Array.replicate graph.nodes.size none, []⟩ :=
    fun id node found => ⟨node, Array.mem_of_getElem? found, isVersion_refl node⟩
  have ensures := ((Make.tracks_visit stack graph.root).bind fun _ =>
    Make.tracks_finish stack (graph.nodes.size + 1)) _ starts
  unfold Make.Ensures at ensures
  unfold Document.ofGraph at failed
  dsimp only at failed
  split at ensures
  next making =>
    rw [making] at failed
    cases failed
  next making =>
    rw [making] at failed
    exact Except.error.inj failed ▸ ensures

end Shapewright.Yaml
