import Mathlib.Algebra.Order.BigOperators.Group.List
import Mathlib.Algebra.Order.Group.Nat
import Mathlib.Data.List.Forall2
import Shapewright.Proofs.Json.Reading
import Shapewright.Proofs.Yaml.Node
import Shapewright.Yaml.Document

/-!
# The values of written mappings

A node denotes a value that its content and its parts spell out.  The values of a document are made
level by level, so while they are made a mapping may still wait for its parts.  What has been made
always fits the nodes, and the mappings that wait on one level are a level deeper than those of the
level before.  When none waits any more the value of the root can be read off.
-/

namespace Shapewright.Yaml

open Shapewright.Outcome

/-! ## What nodes denote -/

mutual

/-- A node denotes a scalar or a mapping of what other nodes denote. -/
inductive Denotes (nodes : Array Node) : Nat → Value → Prop where
  | scalar {id : Nat} {tag : Tag} {content : Text} {v : Value} :
      nodes[id]? = some ⟨tag, .scalar content⟩ → Scalar.value tag content = .ok v →
        Denotes nodes id v
  | mapping {id : Nat} {ids : List (Nat × Nat)} {entries : List (Text × Value)} :
      nodes[id]? = some ⟨.mapping, .mapping ids⟩ → DenoteEntries nodes ids entries →
        Denotes nodes id (.object entries)

/-- The keys and values of a mapping denote its entries. -/
inductive DenoteEntries (nodes : Array Node) : List (Nat × Nat) → List (Text × Value) → Prop where
  | nil : DenoteEntries nodes [] []
  | cons {key id : Nat} {content : Text} {v : Value} {ids : List (Nat × Nat)}
      {entries : List (Text × Value)} :
      nodes[key]? = some ⟨.text, .scalar content⟩ → Denotes nodes id v →
        DenoteEntries nodes ids entries →
          DenoteEntries nodes ((key, id) :: ids) ((content, v) :: entries)

end

/-- The scalar of a value has the value. -/
theorem value_scalarContent
    {v : Value}
    (isScalar : IsScalar v) :
    Scalar.value (if isPlainScalar v then resolvePlain (scalarContent v) else .text)
        (scalarContent v) =
      .ok v := by
  cases isScalar with
  | null => rfl
  | boolean b => cases b <;> rfl
  | integer short => exact (stands_ofInt short).2
  | text t =>
      rw [isPlainScalar, scalarContent]
      split
      next allowed =>
        rw [(Plain.stands_of_allows allowed).2]
        rfl
      next => rfl

/-- Only the tags of scalars have values of scalars. -/
theorem kind_of_value
    {tag : Tag} {content : Text} {v : Value}
    (value : Scalar.value tag content = .ok v) :
    tag.isValueless = false ∧ tag.isCollection = false := by
  constructor
  · rw [← Bool.not_eq_true]
    intro valueless
    cases tag <;> cases valueless <;> cases value
  · rw [← Bool.not_eq_true]
    intro collection
    cases tag <;> cases collection <;> cases value

theorem value_ne_object
    (tag : Tag) (content : Text) (entries : List (Text × Value)) :
    Scalar.value tag content ≠ .ok (.object entries) := by
  cases tag <;> simp [Scalar.value, map_eq_ok_iff]

section Denoting

variable {nodes : Array Node}

theorem inRange_of_found
    {id : Nat} {node : Node}
    (found : nodes[id]? = some node) :
    id < nodes.size :=
  (Array.getElem?_eq_some_iff.mp found).1

theorem getElem?_of_toList
    {start : Nat} {before after : List Node} {node : Node}
    (startEq : before.length = start)
    (toListEq : nodes.toList = before ++ node :: after) :
    nodes[start]? = some node := by
  rw [← startEq, ← Array.getElem?_toList, toListEq]
  simp

mutual

/-- The first node of a value denotes it. -/
theorem denotes_valueNodes
    {v : Value} {start : Nat} {before after : List Node}
    (storable : IsStorable v)
    (startEq : before.length = start)
    (toListEq : nodes.toList = before ++ (valueNodes start v ++ after)) :
    Denotes nodes start v := by
  match v, storable with
  | v, .scalar isScalar =>
      rw [valueNodes_of_isScalar _ isScalar] at toListEq
      exact .scalar (getElem?_of_toList startEq toListEq) (value_scalarContent isScalar)
  | .object entries, .object _ _ stored =>
      rw [valueNodes] at toListEq
      refine .mapping (getElem?_of_toList startEq toListEq) ?_
      rw [List.cons_append, List.append_cons] at toListEq
      exact denoteEntries_entriesNodes stored (by simp [startEq]) toListEq

theorem denoteEntries_entriesNodes
    {entries : List (Text × Value)} {start : Nat} {before after : List Node}
    (stored : AreStorable entries)
    (startEq : before.length = start)
    (toListEq : nodes.toList = before ++ (entriesNodes start entries ++ after)) :
    DenoteEntries nodes (entryIds start entries) entries := by
  match entries, stored with
  | [], .nil => exact .nil
  | (key, v) :: more, .cons isKey storable others =>
      rw [entriesNodes] at toListEq
      have keyNode := getElem?_of_toList startEq toListEq
      have behindKey :
          nodes.toList =
            (before ++ [⟨.text, .scalar key⟩]) ++
              (valueNodes (start + 1) v ++
                (entriesNodes (start + 1 + (valueNodes (start + 1) v).length) more ++ after)) := by
        simpa using toListEq
      have value := denotes_valueNodes storable (by simp [startEq]) behindKey
      rw [← List.append_assoc] at behindKey
      exact .cons keyNode value
        (denoteEntries_entriesNodes others (by simp [startEq]; omega) behindKey)

end

end Denoting

/-! ## Values while they are made -/

/-- Whether something has been made of a node. -/
def IsMade (made : Array (Option Made)) (id : Nat) : Prop := ∃ x, made[id]? = some (some x)

/-- An entry of a mapping and what has been made of it: a text for the key, and the number of the
value, of which something has been made too. -/
def IsMadeEntry (nodes : Array Node) (isMade : Nat → Prop) (ids : Nat × Nat) (pair : Value × Nat) :
    Prop :=
  (∃ key, nodes[ids.1]? = some ⟨.text, .scalar key⟩ ∧ pair.1 = .text key) ∧
    pair.2 = ids.2 ∧ isMade ids.2

/-- What has been made of a node fits it: the value of a scalar, the entries of a mapping, or
nothing yet while the mapping waits. -/
inductive Fits (nodes : Array Node) (isMade waits : Nat → Prop) (id : Nat) : Made → Prop where
  | scalar {tag : Tag} {content : Text} {v : Value} :
      nodes[id]? = some ⟨tag, .scalar content⟩ → Scalar.value tag content = .ok v →
        Fits nodes isMade waits id (.leaf v)
  | waiting {ids : List (Nat × Nat)} :
      nodes[id]? = some ⟨.mapping, .mapping ids⟩ → waits id →
        Fits nodes isMade waits id (.mapping [])
  | mapping {ids : List (Nat × Nat)} {pairs : List (Value × Nat)} :
      nodes[id]? = some ⟨.mapping, .mapping ids⟩ →
        List.Forall₂ (IsMadeEntry nodes isMade) ids pairs →
          Fits nodes isMade waits id (.mapping pairs)

/-- The values of a document as far as they are made, where the mappings that wait are those in
`pending` and those that the maker knows of; the latter nest no deeper than `depth`. -/
structure Progress (nodes : Array Node) (depth : Nat) (pending : List Nat) (m : Maker) : Prop where
  nodesEq : m.nodes = nodes
  sizeEq : m.made.size = nodes.size
  fits :
    ∀ id x, m.made[id]? = some (some x) →
      Fits nodes (IsMade m.made) (fun id => id ∈ pending ∨ id ∈ m.waiting) id x
  levels :
    ∀ id ∈ m.waiting, ∃ entries,
      Denotes nodes id (.object entries) ∧ Value.nestingEntries entries < depth

/-- All that has been made stays made. -/
def Keeps (m later : Maker) : Prop := ∀ id, IsMade m.made id → IsMade later.made id

theorem Keeps.trans
    {first second third : Maker}
    (earlier : Keeps first second)
    (later : Keeps second third) :
    Keeps first third :=
  fun id made => later id (earlier id made)

theorem isMade_set
    {made : Array (Option Made)} {id : Nat} (x : Made) (other : Nat)
    (inRange : id < made.size) :
    IsMade (made.set! id (some x)) other ↔ other = id ∨ IsMade made other := by
  rw [IsMade, Array.set!_eq_setIfInBounds, Array.getElem?_setIfInBounds]
  by_cases same : id = other
  · subst same
    simp [inRange]
  · simp [same, Ne.symm same, IsMade]

theorem Fits.mono
    {nodes : Array Node} {isMade isMade' waits waits' : Nat → Prop} {id : Nat} {x : Made}
    (fits : Fits nodes isMade waits id x)
    (keeps : ∀ id, isMade id → isMade' id)
    (stillWaits : waits id → waits' id) :
    Fits nodes isMade' waits' id x := by
  cases fits with
  | scalar node value => exact .scalar node value
  | waiting node waits => exact .waiting node (stillWaits waits)
  | mapping node entries =>
      exact .mapping node (entries.imp fun _ _ ⟨key, same, made⟩ => ⟨key, same, keeps _ made⟩)

/-- What is made of a node, for the first time or again, has to fit; the others still fit. -/
theorem Progress.record
    {nodes : Array Node} {depth : Nat} {pending pending' waiting : List Nat} {m : Maker} {id : Nat}
    {x : Made}
    (progress : Progress nodes depth pending m)
    (inRange : id < nodes.size)
    (fits :
      Fits nodes (fun other => other = id ∨ IsMade m.made other)
        (fun id => id ∈ pending' ∨ id ∈ waiting) id x)
    (stillWaits :
      ∀ other, other ≠ id → other ∈ pending ∨ other ∈ m.waiting →
        other ∈ pending' ∨ other ∈ waiting)
    (levels :
      ∀ id ∈ waiting, ∃ entries,
        Denotes nodes id (.object entries) ∧ Value.nestingEntries entries < depth) :
    Progress nodes depth pending' ⟨m.nodes, m.made.set! id (some x), waiting⟩ := by
  rw [← progress.sizeEq] at inRange
  have isMade := fun other => isMade_set x other inRange
  refine ⟨progress.nodesEq, by simp [progress.sizeEq], ?_, levels⟩
  intro other y found
  rw [Array.set!_eq_setIfInBounds, Array.getElem?_setIfInBounds] at found
  by_cases same : id = other
  · subst same
    simp only [inRange, if_true, Option.some.injEq] at found
    subst found
    exact fits.mono (fun other => (isMade other).mpr) fun waits => waits
  · rw [if_neg same] at found
    exact (progress.fits other y found).mono (fun other made => (isMade other).mpr (.inr made))
      (stillWaits other (Ne.symm same))

/-- A round takes the mappings that wait, and those that wait after it are a level deeper. -/
theorem Progress.nextRound
    {nodes : Array Node} {depth : Nat} {m : Maker}
    (progress : Progress nodes (depth + 1) [] m) :
    Progress nodes depth m.waiting.reverse { m with waiting := [] } where
  nodesEq := progress.nodesEq
  sizeEq := progress.sizeEq
  fits id x made := by
    refine (progress.fits id x made).mono (fun _ made => made) ?_
    rintro (none | waits)
    · cases none
    · exact .inl (List.mem_reverse.mpr waits)
  levels := by nofun

/-- When none waits, the level does not matter. -/
theorem Progress.flat
    {nodes : Array Node} {depth : Nat} {pending : List Nat} {m : Maker}
    (progress : Progress nodes depth pending m)
    (none : m.waiting = []) :
    Progress nodes 0 pending m where
  nodesEq := progress.nodesEq
  sizeEq := progress.sizeEq
  fits := progress.fits
  levels := by
    rw [none]
    nofun

theorem keeps_set
    {m : Maker} {id : Nat} (x : Made) (waiting : List Nat)
    (inRange : id < m.made.size) :
    Keeps m ⟨m.nodes, m.made.set! id (some x), waiting⟩ :=
  fun other made => (isMade_set x other inRange).mpr (.inr made)

/-! ## Making values -/

namespace Make

section Runs

variable {stack : Stack} {m : Maker} {id : Nat}

theorem nodeAt_run
    {node : Node}
    (found : m.nodes[id]? = some node) :
    (nodeAt id).run m = .ok (node, m) := by
  simp only [nodeAt, StateT.run_bind, StateT.run_get, pure_bind, found]
  rfl

theorem contentAt_run
    {tag : Tag} {content : Text} (room : Nat)
    (found : m.nodes[id]? = some ⟨tag, .scalar content⟩) :
    (contentAt room id).run m = .ok (content, m) := by
  rw [contentAt]
  simp only [StateT.run_bind, nodeAt_run found, ok_bind]
  rfl

theorem visit_made
    {x : Made}
    (made : m.made[id]? = some (some x)) :
    (visit stack id).run m = .ok ((), m) := by
  simp only [visit, StateT.run_bind, StateT.run_get, pure_bind, made]
  rfl

/-- A node of which nothing has been made is looked at. -/
theorem visit_unmade
    {node : Node}
    (notMade : ¬IsMade m.made id)
    (found : m.nodes[id]? = some node) :
    (visit stack id).run m =
      (if node.tag.isValueless then throw .malformed
        else if node.tag.isCollection then do
          record id (if node.tag = .mapping then .mapping [] else .sized 0)
          modify fun m => { m with waiting := id :: m.waiting }
        else do
          let content ← contentAt stack.defaults id
          let v ← scalarValue node content
          record id (.leaf v) : Make Unit).run m := by
  cases madeEq : m.made[id]? with
  | none =>
      simp only [visit, StateT.run_bind, StateT.run_get, pure_bind, madeEq, nodeAt_run found,
        ok_bind]
  | some x =>
      cases x with
      | none =>
          simp only [visit, StateT.run_bind, StateT.run_get, pure_bind, madeEq, nodeAt_run found,
            ok_bind]
      | some x => exact absurd ⟨x, madeEq⟩ notMade

theorem scalarValue_run
    {tag : Tag} {content : Text} {v : Value}
    (value : Scalar.value tag content = .ok v) :
    (scalarValue ⟨tag, .scalar content⟩ content).run m = .ok (v, m) := by
  have runs : scalarValue ⟨tag, .scalar content⟩ content = liftM (Scalar.value tag content) := by
    cases tag <;> rfl
  rw [runs, value]
  rfl

theorem visit_scalar
    {tag : Tag} {content : Text} {v : Value}
    (notMade : ¬IsMade m.made id)
    (found : m.nodes[id]? = some ⟨tag, .scalar content⟩)
    (value : Scalar.value tag content = .ok v) :
    (visit stack id).run m = .ok ((), ⟨m.nodes, m.made.set! id (some (.leaf v)), m.waiting⟩) := by
  have kind := kind_of_value value
  have content := contentAt_run stack.defaults found
  rw [visit_unmade notMade found, kind.1, kind.2]
  simp only [Bool.false_eq_true, if_false, StateT.run_bind, content, scalarValue_run value, ok_bind]
  rfl

theorem visit_mapping
    {ids : List (Nat × Nat)}
    (notMade : ¬IsMade m.made id)
    (found : m.nodes[id]? = some ⟨.mapping, .mapping ids⟩) :
    (visit stack id).run m =
      .ok ((), ⟨m.nodes, m.made.set! id (some (.mapping [])), id :: m.waiting⟩) := by
  rw [visit_unmade notMade found]
  rfl

theorem visitEntries_cons
    {keyMade valueMade later : Maker} {key : Nat} {k : Value} {ids : List (Nat × Nat)}
    {pairs : List (Value × Nat)}
    (keyRun : (visit stack key).run m = .ok ((), keyMade))
    (keyEq : keyMade.made[key]? = some (some (.leaf k)))
    (valueRun : (visit stack id).run keyMade = .ok ((), valueMade))
    (others : (visitEntries stack ids).run valueMade = .ok (pairs, later)) :
    (visitEntries stack ((key, id) :: ids)).run m = .ok ((k, id) :: pairs, later) := by
  simp only [visitEntries, StateT.run_bind, keyRun, ok_bind, StateT.run_get, pure_bind, keyEq,
    valueRun, others]
  rfl

theorem entriesAt_run
    {tag : Tag} {ids : List (Nat × Nat)}
    (found : m.nodes[id]? = some ⟨tag, .mapping ids⟩) :
    (entriesAt id).run m = .ok (ids, m) := by
  simp only [entriesAt, StateT.run_bind, nodeAt_run found, ok_bind]
  rfl

theorem takeMerges_texts
    {flattenOther : Nat → Make Unit} {tag : Tag} {ids : List (Nat × Nat)} (fuel index : Nat)
    (found : m.nodes[id]? = some ⟨tag, .mapping ids⟩)
    (texts : ∀ entry ∈ ids, ∃ key, m.nodes[entry.1]? = some ⟨.text, .scalar key⟩) :
    (takeMerges flattenOther fuel id index).run m = .ok ([], m) := by
  induction fuel generalizing index with
  | zero => rfl
  | succ fuel induction =>
      cases entryEq : ids[index]? with
      | none =>
          simp only [takeMerges, StateT.run_bind, entriesAt_run found, ok_bind, entryEq]
          rfl
      | some entry =>
          rcases texts entry (List.mem_of_getElem? entryEq) with ⟨key, keyEq⟩
          simp only [takeMerges, StateT.run_bind, entriesAt_run found, ok_bind, entryEq,
            nodeAt_run keyEq]
          exact induction (index + 1)

/-- A mapping of texts has nothing to merge. -/
theorem flatten_texts
    {tag : Tag} {ids : List (Nat × Nat)} (room : Nat)
    (found : m.nodes[id]? = some ⟨tag, .mapping ids⟩)
    (texts : ∀ entry ∈ ids, ∃ key, m.nodes[entry.1]? = some ⟨.text, .scalar key⟩) :
    (flatten room id).run m = .ok ((), m) := by
  cases room <;>
    simp only [flatten, flattenWith, StateT.run_bind, entriesAt_run found, ok_bind,
      takeMerges_texts _ _ found texts] <;>
    rfl

theorem visitParts_run
    {later : Maker} {ids : List (Nat × Nat)} {pairs : List (Value × Nat)}
    (found : m.nodes[id]? = some ⟨.mapping, .mapping ids⟩)
    (texts : ∀ entry ∈ ids, ∃ key, m.nodes[entry.1]? = some ⟨.text, .scalar key⟩)
    (entriesRun : (visitEntries stack ids).run m = .ok (pairs, later)) :
    (visitParts stack id).run m =
      .ok ((), ⟨later.nodes, later.made.set! id (some (.mapping pairs)), later.waiting⟩) := by
  simp only [visitParts, StateT.run_bind, nodeAt_run found, ok_bind,
    flatten_texts stack.merges found texts, entriesAt_run found, entriesRun]
  rfl

theorem finish_done
    {fuel : Nat}
    (none : m.waiting = []) :
    (finish stack (fuel + 1)).run m = .ok ((), m) := by
  simp only [finish, StateT.run_bind, StateT.run_get, pure_bind, none]
  rfl

theorem finish_round
    {fuel : Nat}
    (waits : m.waiting ≠ []) :
    (finish stack (fuel + 1)).run m =
      (m.waiting.reverse.forM (visitParts stack)).run { m with waiting := [] } >>= fun (_, m) =>
        (finish stack fuel).run m := by
  have notEmpty : m.waiting.reverse.isEmpty = false := by simp [waits]
  simp only [finish, StateT.run_bind, StateT.run_get, pure_bind, notEmpty]
  rfl

end Runs

section Progress

variable (stack : Stack) {nodes : Array Node} {depth : Nat} {pending : List Nat} {m : Maker}

/-- Looking at a node makes its value, or lets it wait. -/
theorem visit_progress
    {id : Nat} {v : Value}
    (progress : Progress nodes depth pending m)
    (denotes : Denotes nodes id v)
    (shallow : v.nesting ≤ depth) :
    ∃ later,
      (visit stack id).run m = .ok ((), later) ∧ Progress nodes depth pending later ∧
        Keeps m later ∧ IsMade later.made id := by
  by_cases made : IsMade m.made id
  · rcases made with ⟨x, made⟩
    exact ⟨m, visit_made made, progress, fun _ made => made, x, made⟩
  · cases denotes with
    | scalar found value =>
        have inRange := inRange_of_found found
        have inMade := progress.sizeEq.symm ▸ inRange
        refine ⟨_, visit_scalar made (progress.nodesEq.symm ▸ found) value,
          progress.record inRange (.scalar found value) (fun _ _ waits => waits) progress.levels,
          keeps_set _ _ inMade, (isMade_set _ _ inMade).mpr (.inl rfl)⟩
    | @mapping _ ids entries found entriesDenote =>
        have inRange := inRange_of_found found
        have inMade := progress.sizeEq.symm ▸ inRange
        refine ⟨_, visit_mapping made (progress.nodesEq.symm ▸ found),
          progress.record inRange (.waiting found (.inr List.mem_cons_self))
            (fun _ _ waits => waits.imp_right (List.mem_cons_of_mem id)) ?_,
          keeps_set _ _ inMade, (isMade_set _ _ inMade).mpr (.inl rfl)⟩
        rw [Value.nesting] at shallow
        exact List.forall_mem_cons.mpr
          ⟨⟨entries, .mapping found entriesDenote, shallow⟩, progress.levels⟩

theorem made_text
    {key : Nat} {content : Text}
    (progress : Progress nodes depth pending m)
    (found : nodes[key]? = some ⟨.text, .scalar content⟩)
    (made : IsMade m.made key) :
    m.made[key]? = some (some (.leaf (.text content))) := by
  rcases made with ⟨x, made⟩
  rw [made]
  cases progress.fits key x made with
  | scalar node value =>
      cases node.symm.trans found
      cases value
      rfl
  | waiting node => cases node.symm.trans found
  | mapping node => cases node.symm.trans found

theorem visitEntries_progress
    {ids : List (Nat × Nat)} {entries : List (Text × Value)}
    (progress : Progress nodes depth pending m)
    (denote : DenoteEntries nodes ids entries)
    (shallow : Value.nestingEntries entries ≤ depth) :
    ∃ later pairs,
      (visitEntries stack ids).run m = .ok (pairs, later) ∧ Progress nodes depth pending later ∧
        Keeps m later ∧ List.Forall₂ (IsMadeEntry nodes (IsMade later.made)) ids pairs := by
  induction ids generalizing m entries with
  | nil => exact ⟨m, [], rfl, progress, fun _ made => made, .nil⟩
  | cons entry ids induction =>
      cases denote with
      | @cons key id content v _ entries keyNode value others =>
          rw [Value.nestingEntries] at shallow
          have keyDenotes : Denotes nodes key (.text content) := .scalar keyNode rfl
          rcases visit_progress stack progress keyDenotes (Nat.zero_le _) with
            ⟨keyMade, keyRun, keyProgress, keyKeeps, keyIsMade⟩
          rcases visit_progress stack keyProgress value (by omega) with
            ⟨valueMade, valueRun, valueProgress, valueKeeps, valueIsMade⟩
          rcases induction valueProgress others (by omega) with
            ⟨later, pairs, othersRun, progress, othersKeep, made⟩
          have keyMadeEq := made_text keyProgress keyNode keyIsMade
          exact ⟨later, _, visitEntries_cons keyRun keyMadeEq valueRun othersRun, progress,
            keyKeeps.trans (valueKeeps.trans othersKeep),
            .cons ⟨⟨content, keyNode, rfl⟩, rfl, othersKeep _ valueIsMade⟩ made⟩

theorem texts_of_denoteEntries
    {ids : List (Nat × Nat)} {entries : List (Text × Value)}
    (denote : DenoteEntries nodes ids entries) :
    ∀ entry ∈ ids, ∃ key, nodes[entry.1]? = some ⟨.text, .scalar key⟩ := by
  induction ids generalizing entries with
  | nil => nofun
  | cons entry ids induction =>
      cases denote with
      | cons keyNode _ others =>
          exact List.forall_mem_cons.mpr ⟨⟨_, keyNode⟩, induction others⟩

/-- A mapping that has waited gets its entries. -/
theorem visitParts_progress
    {id : Nat} {entries : List (Text × Value)}
    (progress : Progress nodes depth (id :: pending) m)
    (denotes : Denotes nodes id (.object entries))
    (shallow : Value.nestingEntries entries ≤ depth) :
    ∃ later,
      (visitParts stack id).run m = .ok ((), later) ∧ Progress nodes depth pending later ∧
        Keeps m later := by
  cases denotes with
  | scalar found value => exact absurd value (value_ne_object _ _ _)
  | @mapping _ ids _ found denote =>
      rcases visitEntries_progress stack progress denote shallow with
        ⟨later, pairs, entriesRun, laterProgress, keeps, made⟩
      have inRange := inRange_of_found found
      have inMade := laterProgress.sizeEq.symm ▸ inRange
      have found' := progress.nodesEq.symm ▸ found
      have texts := progress.nodesEq.symm ▸ texts_of_denoteEntries denote
      refine ⟨_, visitParts_run found' texts entriesRun, ?_, keeps.trans (keeps_set _ _ inMade)⟩
      refine laterProgress.record inRange (.mapping found ?_) ?_ laterProgress.levels
      · exact made.imp fun _ _ ⟨key, same, made⟩ => ⟨key, same, .inr made⟩
      · rintro other different (member | waits)
        · exact .inl (List.mem_of_ne_of_mem different member)
        · exact .inr waits

/-- All mappings that wait on one level get their entries. -/
theorem visitAll_progress
    (progress : Progress nodes depth pending m)
    (denote :
      ∀ id ∈ pending, ∃ entries,
        Denotes nodes id (.object entries) ∧ Value.nestingEntries entries ≤ depth) :
    ∃ later,
      (pending.forM (visitParts stack)).run m = .ok ((), later) ∧ Progress nodes depth [] later ∧
        Keeps m later := by
  induction pending generalizing m with
  | nil => exact ⟨m, rfl, progress, fun _ made => made⟩
  | cons id pending induction =>
      rcases List.forall_mem_cons.mp denote with ⟨⟨entries, denotes, shallow⟩, others⟩
      rcases visitParts_progress stack progress denotes shallow with
        ⟨next, first, nextProgress, keeps⟩
      rcases induction nextProgress others with ⟨later, rest, laterProgress, laterKeeps⟩
      refine ⟨later, ?_, laterProgress, keeps.trans laterKeeps⟩
      have runs :
          ((id :: pending).forM (visitParts stack)).run m =
            (visitParts stack id).run m >>= fun first =>
              (pending.forM (visitParts stack)).run first.2 :=
        rfl
      rw [runs, first]
      exact rest

/-- As many rounds as the mappings are deep make all values. -/
theorem finish_progress
    {fuel : Nat}
    (progress : Progress nodes depth [] m)
    (enough : depth ≤ fuel) :
    ∃ later,
      (finish stack fuel).run m = .ok ((), later) ∧ Progress nodes 0 [] later ∧ Keeps m later := by
  induction fuel generalizing depth m with
  | zero =>
      obtain rfl := Nat.le_zero.mp enough
      exact ⟨m, rfl, progress, fun _ made => made⟩
  | succ fuel induction =>
      by_cases waits : m.waiting = []
      · exact ⟨m, finish_done waits, progress.flat waits, fun _ made => made⟩
      · rcases List.exists_mem_of_ne_nil m.waiting waits with ⟨id, member⟩
        rcases progress.levels id member with ⟨_, _, below⟩
        rcases Nat.exists_eq_add_of_lt (Nat.zero_lt_of_lt below) with ⟨less, rfl⟩
        rw [Nat.zero_add] at progress enough
        have denote :
            ∀ id ∈ m.waiting.reverse, ∃ entries,
              Denotes nodes id (.object entries) ∧ Value.nestingEntries entries ≤ less := by
          intro id member
          rcases progress.levels id (List.mem_reverse.mp member) with ⟨entries, denotes, below⟩
          exact ⟨entries, denotes, Nat.le_of_lt_succ below⟩
        rcases visitAll_progress stack progress.nextRound denote with
          ⟨next, first, nextProgress, keeps⟩
        rcases induction nextProgress (Nat.le_of_succ_le_succ enough) with
          ⟨later, rest, laterProgress, laterKeeps⟩
        refine ⟨later, ?_, laterProgress, fun id made => laterKeeps id (keeps id made)⟩
        rw [finish_round waits, first]
        exact rest

end Progress

end Make

/-! ## Values of documents -/

/-- What has been made of a document when no mapping waits any more. -/
def IsFinished (nodes : Array Node) (made : Array (Option Made)) : Prop :=
  ∀ id x, made[id]? = some (some x) → Fits nodes (IsMade made) (fun _ => False) id x

theorem Progress.isFinished
    {nodes : Array Node} {m : Maker}
    (progress : Progress nodes 0 [] m) :
    IsFinished nodes m.made := by
  intro id x made
  refine (progress.fits id x made).mono (fun _ made => made) ?_
  rintro (none | waits)
  · cases none
  · rcases progress.levels id waits with ⟨_, _, below⟩
    exact Nat.not_lt_zero _ below

section Finished

variable {nodes : Array Node} {made : Array (Option Made)}

/-- What has been made of a scalar is its value. -/
theorem made_scalar
    {id : Nat} {tag : Tag} {content : Text} {v : Value}
    (finished : IsFinished nodes made)
    (found : nodes[id]? = some ⟨tag, .scalar content⟩)
    (value : Scalar.value tag content = .ok v)
    (isMade : IsMade made id) :
    made[id]? = some (some (.leaf v)) := by
  rcases isMade with ⟨x, madeEq⟩
  rw [madeEq]
  cases finished id x madeEq with
  | scalar node value' =>
      cases node.symm.trans found
      cases value'.symm.trans value
      rfl
  | waiting _ waits => exact waits.elim
  | mapping node => cases node.symm.trans found

theorem made_mapping
    {id : Nat} {ids : List (Nat × Nat)}
    (finished : IsFinished nodes made)
    (found : nodes[id]? = some ⟨.mapping, .mapping ids⟩)
    (isMade : IsMade made id) :
    ∃ pairs,
      made[id]? = some (some (.mapping pairs)) ∧
        List.Forall₂ (IsMadeEntry nodes (IsMade made)) ids pairs := by
  rcases isMade with ⟨x, madeEq⟩
  cases finished id x madeEq with
  | scalar node => cases node.symm.trans found
  | waiting _ waits => exact waits.elim
  | mapping node entries =>
      cases node.symm.trans found
      exact ⟨_, madeEq, entries⟩

/-- The entry of a mapping with a text for its key. -/
def entryOf? (made : Array (Option Made)) (depth : Nat) (pair : Value × Nat) :
    Option (Text × Value) :=
  match pair.1 with
  | .text key => some (key, unfold made depth pair.2)
  | _ => none

theorem unfold_mapping
    {id : Nat} {pairs : List (Value × Nat)} (depth : Nat)
    (madeEq : made[id]? = some (some (.mapping pairs))) :
    unfold made (depth + 1) id =
      .object (Value.entriesOf (pairs.filterMap (entryOf? made depth))) := by
  rw [unfold, madeEq]
  rfl

mutual

/-- The value of a node that has been made is the one that it denotes. -/
theorem unfold_of_denotes
    {id depth : Nat} {v : Value}
    (finished : IsFinished nodes made)
    (denotes : Denotes nodes id v)
    (storable : IsStorable v)
    (shallow : v.nesting ≤ depth)
    (isMade : IsMade made id) :
    unfold made depth id = v := by
  match v, denotes with
  | v, .scalar found value => rw [unfold, made_scalar finished found value isMade]
  | .object entries, .mapping found denote =>
      rw [Value.nesting] at shallow
      rcases Nat.exists_eq_add_of_le' (Nat.le_of_add_left_le shallow) with ⟨depth, rfl⟩
      rcases made_mapping finished found isMade with ⟨pairs, madeEq, areMade⟩
      cases storable with
      | scalar isScalar => cases isScalar
      | object _ distinct stored =>
          rw [unfold_mapping depth madeEq,
            filterMap_entryOf? finished denote stored (Nat.le_of_succ_le_succ shallow) areMade,
            Json.entriesOf_of_nodup distinct]

theorem filterMap_entryOf?
    {depth : Nat} {ids : List (Nat × Nat)} {entries : List (Text × Value)}
    {pairs : List (Value × Nat)}
    (finished : IsFinished nodes made)
    (denote : DenoteEntries nodes ids entries)
    (stored : AreStorable entries)
    (shallow : Value.nestingEntries entries ≤ depth)
    (areMade : List.Forall₂ (IsMadeEntry nodes (IsMade made)) ids pairs) :
    pairs.filterMap (entryOf? made depth) = entries := by
  match entries, denote with
  | [], .nil =>
      cases areMade
      rfl
  | (key, v) :: entries, .cons keyNode value others =>
      rw [Value.nestingEntries] at shallow
      cases stored with
      | cons _ storable othersStored =>
          cases areMade with
          | @cons _ pair _ pairs first rest =>
              rcases first with ⟨⟨content, found, keyEq⟩, idEq, isMade⟩
              cases found.symm.trans keyNode
              have valueEq :=
                unfold_of_denotes finished value storable (Nat.max_le.mp shallow).1 isMade
              have first : entryOf? made depth pair = some (key, v) := by
                rw [entryOf?, keyEq, idEq, valueEq]
              rw [List.filterMap_cons_some first,
                filterMap_entryOf? finished others othersStored (Nat.max_le.mp shallow).2 rest]

end

theorem isKeyedByText_of_denotes
    {id : Nat} {entries : List (Text × Value)}
    (finished : IsFinished nodes made)
    (denotes : Denotes nodes id (.object entries))
    (isMade : IsMade made id) :
    isKeyedByText made id = true := by
  cases denotes with
  | scalar _ value => exact absurd value (value_ne_object _ _ _)
  | mapping found denote =>
      rcases made_mapping finished found isMade with ⟨pairs, madeEq, areMade⟩
      rw [isKeyedByText, madeEq]
      clear madeEq found denote
      induction areMade with
      | nil => rfl
      | cons first _ induction =>
          rcases first with ⟨⟨key, _, keyEq⟩, _⟩
          simp only at induction ⊢
          rw [List.all_cons, keyEq, induction]
          rfl

end Finished

/-- A document of two levels of mappings is read as the value that its root denotes. -/
theorem ofGraph_of_denotes
    {nodes : Array Node} {entries : List (Text × Value)} {root : Nat} (stack : Stack)
    (denotes : Denotes nodes root (.object entries))
    (storable : IsStorable (.object entries))
    (shallow : Value.nestingEntries entries ≤ 1) :
    Document.ofGraph ⟨nodes, root⟩ stack = .ok ⟨.object entries, true⟩ := by
  have start : Progress nodes 2 [] ⟨nodes, Array.replicate nodes.size none, []⟩ :=
    { nodesEq := rfl
      sizeEq := Array.size_replicate
      fits := by
        intro id x made
        rw [Array.getElem?_replicate] at made
        split at made <;> cases made
      levels := by nofun }
  have nesting : (Value.object entries).nesting ≤ 2 := Nat.succ_le_succ shallow
  rcases Make.visit_progress stack start denotes nesting with ⟨m, visits, progress, _, isMade⟩
  have rounds : 2 ≤ nodes.size + 1 := by
    cases denotes with
    | scalar found => exact Nat.succ_le_succ (Nat.zero_lt_of_lt (inRange_of_found found))
    | mapping found => exact Nat.succ_le_succ (Nat.zero_lt_of_lt (inRange_of_found found))
  rcases Make.finish_progress stack progress rounds with ⟨later, finishes, laterProgress, keeps⟩
  have finished := laterProgress.isFinished
  have runs :
      Document.ofGraph ⟨nodes, root⟩ stack =
        ((Make.visit stack root).run ⟨nodes, Array.replicate nodes.size none, []⟩ >>= fun visited =>
            (Make.finish stack (nodes.size + 1)).run visited.2) >>=
          fun finished =>
            .ok ⟨unfold finished.2.made 2 root, isKeyedByText finished.2.made root⟩ :=
    rfl
  simp only [runs, visits, finishes, ok_bind]
  rw [unfold_of_denotes finished denotes storable nesting (keeps root isMade),
    isKeyedByText_of_denotes finished denotes (keeps root isMade)]

/-- What is written for a mapping is read as the mapping. -/
theorem load_writeEntries
    {entries : List (Text × Value)} (stack : Stack)
    (storable : IsStorable (.object entries))
    (shallow : Value.nestingEntries entries ≤ 1) :
    load (writeEntries 0 entries) stack = .ok ⟨.object entries, true⟩ := by
  cases storable with
  | scalar isScalar => cases isScalar
  | object nonempty distinct stored =>
      have written := isWritten_writeEntries 0 stored
      have tokens := tokensOf_writeEntries nonempty stored (Nat.le_trans shallow (by decide))
      have storable : IsStorable (.object entries) := .object nonempty distinct stored
      rcases graphOf_valueTokens stack storable shallow with ⟨nodes, graph, toListEq⟩
      have denotes : Denotes nodes 0 (.object entries) :=
        @denotes_valueNodes nodes _ 0 [] [] storable rfl (by simpa using toListEq)
      have allowed := all_isAllowed_of_isWritten written
      rw [load, Text.normalizeLineEnds_of_isPlain (isPlain_of_isWritten written), allowed, tokens,
        graph]
      exact ofGraph_of_denotes stack denotes storable shallow

end Shapewright.Yaml
