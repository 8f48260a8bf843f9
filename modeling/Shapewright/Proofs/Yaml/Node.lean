import Shapewright.Proofs.Yaml.Entries

/-!
# The nodes of written mappings

The tokens of a value are read as one node and the nodes of its parts.  Nodes are numbered as they
start, so a mapping comes before its entries, and a key before its value.
-/

namespace Shapewright.Yaml

open Shapewright.Outcome

mutual

/-- The nodes of a value, the first of which has the number `start`. -/
def valueNodes (start : Nat) : Value → List Node
  | .object entries =>
    ⟨.mapping, .mapping (entryIds (start + 1) entries)⟩ :: entriesNodes (start + 1) entries
  | v =>
    [⟨if isPlainScalar v then resolvePlain (scalarContent v) else .text, .scalar (scalarContent v)⟩]

/-- The nodes of the entries of a mapping. -/
def entriesNodes (start : Nat) : List (Text × Value) → List Node
  | [] => []
  | (key, v) :: rest =>
    ⟨.text, .scalar key⟩ ::
      (valueNodes (start + 1) v ++
        entriesNodes (start + 1 + (valueNodes (start + 1) v).length) rest)

/-- The numbers of the keys and values of the entries of a mapping. -/
def entryIds (start : Nat) : List (Text × Value) → List (Nat × Nat)
  | [] => []
  | (_, v) :: rest =>
    (start, start + 1) :: entryIds (start + 1 + (valueNodes (start + 1) v).length) rest

end

namespace Build

variable {fuel room : Nat} {place : Place} {tokens rest : List Token} {nodes after : Array Node}
  {anchors : List (Text × Nat)} {handles : List (Text × Text)}

theorem node_scalar
    (content : Text) (plain : Bool) :
    (node (fuel + 1) (room + 1) place).run
        ⟨.scalar content plain :: rest, nodes, anchors, handles⟩ =
      .ok (nodes.size,
        ⟨rest, nodes.push ⟨if plain then resolvePlain content else .text, .scalar content⟩, anchors,
          handles⟩) := by
  rfl

theorem node_mapping
    {entries : List (Nat × Nat)}
    (inBlock : place ≠ .flow)
    (reading :
      (blockEntries fuel room).run ⟨tokens, nodes.push ⟨.mapping, .mapping []⟩, anchors, handles⟩ =
        .ok (entries, ⟨rest, after, anchors, handles⟩)) :
    (node (fuel + 1) (room + 1) place).run ⟨.blockMappingStart :: tokens, nodes, anchors, handles⟩ =
      .ok (nodes.size,
        ⟨rest, after.modify nodes.size fun node => { node with content := .mapping entries },
          anchors, handles⟩) := by
  have runs :
      (node (fuel + 1) (room + 1) place).run
          ⟨.blockMappingStart :: tokens, nodes, anchors, handles⟩ =
        (blockEntries fuel room).run
            ⟨tokens, nodes.push ⟨.mapping, .mapping []⟩, anchors, handles⟩ >>=
          fun (entries, b) =>
            .ok (nodes.size,
              { b with
                nodes := b.nodes.modify nodes.size fun node =>
                  { node with content := .mapping entries } }) := by
    cases place with
    | flow => exact absurd rfl inBlock
    | block => rfl
    | blockValue => rfl
  rw [runs, reading]
  rfl

theorem blockEntries_end :
    (blockEntries (fuel + 1) room).run ⟨.blockEnd :: rest, nodes, anchors, handles⟩ =
      .ok ([], ⟨rest, nodes, anchors, handles⟩) := by
  rfl

theorem blockEntries_key
    {key : Text} {token : Token} {id : Nat} {entries : List (Nat × Nat)} {further : List Token}
    {middle : Array Node}
    (resolved : resolvePlain key = .text)
    (startsValue : endsBlockEntry token = false)
    (sound : ∀ error, token ≠ .broken error)
    (readsValue :
      (node fuel (room + 1) .blockValue).run
          ⟨token :: tokens, nodes.push ⟨.text, .scalar key⟩, anchors, handles⟩ =
        .ok (id, ⟨further, middle, anchors, handles⟩))
    (readsOthers :
      (blockEntries (fuel + 1) (room + 1)).run ⟨further, middle, anchors, handles⟩ =
        .ok (entries, ⟨rest, after, anchors, handles⟩)) :
    (blockEntries (fuel + 2) (room + 1)).run
        ⟨.key :: .scalar key true :: .value :: token :: tokens, nodes, anchors, handles⟩ =
      .ok ((nodes.size, id) :: entries, ⟨rest, after, anchors, handles⟩) := by
  have runs :
      (blockEntries (fuel + 2) (room + 1)).run
          ⟨.key :: .scalar key true :: .value :: token :: tokens, nodes, anchors, handles⟩ =
        (peek >>= fun token =>
            if endsBlockEntry token then addMissing (room + 1)
            else node fuel (room + 1) .blockValue).run
            ⟨token :: tokens, nodes.push ⟨resolvePlain key, .scalar key⟩, anchors, handles⟩ >>=
          fun (id, b) => (blockEntries (fuel + 1) (room + 1)).run b >>= fun (entries, b) =>
            .ok ((nodes.size, id) :: entries, b) :=
    rfl
  have peeks :
      peek.run ⟨token :: tokens, nodes.push ⟨.text, .scalar key⟩, anchors, handles⟩ =
        .ok (token, ⟨token :: tokens, nodes.push ⟨.text, .scalar key⟩, anchors, handles⟩) := by
    cases token with
    | broken error => exact absurd rfl (sound error)
    | _ => rfl
  rw [runs, resolved, StateT.run_bind, peeks, ok_bind, startsValue, if_neg (by decide), readsValue]
  simp only [ok_bind, readsOthers]

/-- A document that starts with a mapping is that mapping. -/
theorem document_node
    {id : Nat}
    (reading :
      (node (fuel + 1) room .block).run ⟨.blockMappingStart :: tokens, #[], [], defaultHandles⟩ =
        .ok (id, ⟨[.streamEnd], after, anchors, handles⟩)) :
    (document (fuel + 1) room).run ⟨.blockMappingStart :: tokens, #[], [], []⟩ =
      .ok (some id, ⟨[.streamEnd], after, anchors, handles⟩) := by
  have root :
      (root? (fuel + 1) room).run ⟨.blockMappingStart :: tokens, #[], [], []⟩ =
        (node (fuel + 1) room .block).run
            ⟨.blockMappingStart :: tokens, #[], [], defaultHandles⟩ >>=
          fun (id, b) => .ok (some id, b) :=
    rfl
  rw [reading, ok_bind] at root
  rw [document, StateT.run_bind, root]
  -- Behind the root, the document ends with the stream.
  rfl

end Build

/-! ## Nodes of values -/

theorem valueNodes_of_isScalar
    {v : Value} (start : Nat)
    (isScalar : IsScalar v) :
    valueNodes start v =
      [⟨if isPlainScalar v then resolvePlain (scalarContent v) else .text,
        .scalar (scalarContent v)⟩] := by
  cases isScalar <;> rfl

/-- A value starts with a token that is no error and does not end an entry. -/
theorem exists_cons_valueTokens
    {v : Value}
    (storable : IsStorable v) :
    ∃ token more,
      valueTokens v = token :: more ∧ Build.endsBlockEntry token = false ∧
        ∀ error, token ≠ .broken error := by
  cases storable with
  | scalar isScalar => exact ⟨_, _, valueTokens_of_isScalar isScalar, rfl, by simp⟩
  | object =>
      rw [valueTokens]
      exact ⟨_, _, rfl, rfl, by simp⟩

theorem toList_modify_of_append
    {nodes after : Array Node} {node : Node} {more : List Node} (change : Node → Node)
    (toListEq : after.toList = (nodes.push node).toList ++ more) :
    (after.modify nodes.size change).toList = nodes.toList ++ change node :: more := by
  rw [Array.toList_modify, toListEq, Array.toList_push, List.append_assoc,
    List.modify_eq_take_drop, ← Array.length_toList]
  simp

section Reading

variable {anchors : List (Text × Nat)} {handles : List (Text × Text)}

mutual

/-- The tokens of a value are read as its nodes. -/
theorem node_valueTokens
    {v : Value} {fuel room : Nat} {place : Build.Place} (nodes : Array Node) (rest : List Token)
    (storable : IsStorable v)
    (enough : (valueTokens v).length ≤ fuel)
    (roomy : v.nesting < room)
    (inBlock : place ≠ .flow) :
    ∃ after,
      (Build.node fuel room place).run ⟨valueTokens v ++ rest, nodes, anchors, handles⟩ =
          .ok (nodes.size, ⟨rest, after, anchors, handles⟩) ∧
        after.toList = nodes.toList ++ valueNodes nodes.size v := by
  match v, storable with
  | v, .scalar isScalar =>
      rw [valueTokens_of_isScalar isScalar] at enough ⊢
      rcases Nat.exists_eq_add_of_le' enough with ⟨less, rfl⟩
      rcases Nat.exists_eq_add_of_le' (Nat.zero_lt_of_lt roomy) with ⟨room, rfl⟩
      refine ⟨_, Build.node_scalar _ _, ?_⟩
      rw [valueNodes_of_isScalar _ isScalar, Array.toList_push]
  | .object entries, .object _ _ stored =>
      rw [valueTokens, List.length_cons, List.length_append] at enough
      rcases Nat.exists_eq_add_of_le' (Nat.le_of_add_left_le enough) with ⟨less, rfl⟩
      rw [Value.nesting] at roomy
      rcases Nat.exists_eq_add_of_le' (Nat.zero_lt_of_lt roomy) with ⟨room, rfl⟩
      rcases blockEntries_entriesTokens (nodes.push ⟨.mapping, .mapping []⟩) rest stored
          (Nat.le_of_succ_le_succ enough) (Nat.lt_of_succ_lt_succ roomy) with
        ⟨after, reading, toListEq⟩
      rw [Array.size_push] at reading toListEq
      rw [valueTokens, List.cons_append, List.append_assoc, valueNodes]
      exact ⟨_, Build.node_mapping inBlock reading, toList_modify_of_append _ toListEq⟩

/-- The tokens of entries are read as their nodes. -/
theorem blockEntries_entriesTokens
    {entries : List (Text × Value)} {fuel room : Nat} (nodes : Array Node) (rest : List Token)
    (stored : AreStorable entries)
    (enough : (entriesTokens entries).length < fuel)
    (roomy : Value.nestingEntries entries < room) :
    ∃ after,
      (Build.blockEntries fuel room).run
          ⟨entriesTokens entries ++ .blockEnd :: rest, nodes, anchors, handles⟩ =
          .ok (entryIds nodes.size entries, ⟨rest, after, anchors, handles⟩) ∧
        after.toList = nodes.toList ++ entriesNodes nodes.size entries := by
  match entries, stored with
  | [], .nil =>
      rcases Nat.exists_eq_add_of_le' enough with ⟨less, rfl⟩
      exact ⟨nodes, Build.blockEntries_end, by rw [entriesNodes, List.append_nil]⟩
  | (key, v) :: more, .cons isKey storable others =>
      rw [entriesTokens, List.length_cons, List.length_cons, List.length_cons,
        List.length_append] at enough
      rw [Value.nestingEntries] at roomy
      rcases Nat.exists_eq_add_of_le' (by omega : 2 ≤ fuel) with ⟨less, rfl⟩
      rcases Nat.exists_eq_add_of_le' (Nat.zero_lt_of_lt roomy) with ⟨room, rfl⟩
      rcases node_valueTokens (nodes.push ⟨.text, .scalar key⟩)
          (entriesTokens more ++ .blockEnd :: rest) storable (by omega : _ ≤ less)
          (by omega : _ < room + 1) (by decide : Build.Place.blockValue ≠ .flow) with
        ⟨middle, readsValue, middleEq⟩
      rcases blockEntries_entriesTokens middle rest others (by omega : _ < less + 1)
          (by omega : _ < room + 1) with
        ⟨after, readsOthers, afterEq⟩
      have middleSize :
          middle.size = nodes.size + 1 + (valueNodes (nodes.size + 1) v).length := by
        rw [← Array.length_toList, middleEq, List.length_append, Array.length_toList,
          Array.size_push]
      rcases exists_cons_valueTokens storable with
        ⟨token, tokens, tokensEq, startsValue, sound⟩
      rw [tokensEq, List.cons_append] at readsValue
      have reads := Build.blockEntries_key isKey.resolved startsValue sound readsValue readsOthers
      refine ⟨after, ?_, ?_⟩
      · rw [entriesTokens, entryIds, tokensEq, ← middleSize]
        simpa using reads
      · rw [afterEq, middleEq, entriesNodes, ← middleSize]
        simp

end

end Reading

/-- A written mapping is the root of its document. -/
theorem graphOf_valueTokens
    {entries : List (Text × Value)} (stack : Stack)
    (storable : IsStorable (.object entries))
    (shallow : Value.nestingEntries entries ≤ 1) :
    ∃ nodes : Array Node,
      graphOf (valueTokens (.object entries) ++ [.streamEnd]) stack = .ok (some ⟨nodes, 0⟩) ∧
        nodes.toList = valueNodes 0 (.object entries) := by
  rcases exists_cons_valueTokens storable with ⟨token, tokens, tokensEq, _⟩
  obtain rfl : token = .blockMappingStart := by
    rw [valueTokens] at tokensEq
    exact (List.cons.inj tokensEq).1.symm
  have fuel :
      ∃ fuel, 4 * (valueTokens (.object entries) ++ [Token.streamEnd]).length + 8 = fuel + 1 :=
    ⟨_, rfl⟩
  rcases fuel with ⟨fuel, fuelEq⟩
  have enough : (valueTokens (.object entries)).length ≤ fuel + 1 := by
    rw [List.length_append] at fuelEq
    omega
  have roomy : (Value.object entries).nesting < stack.nodes := by
    have := stack.roomy
    rw [Value.nesting]
    omega
  rcases @node_valueTokens [] Build.defaultHandles _ (fuel + 1) _ .block #[] [.streamEnd] storable
      enough roomy (by decide) with
    ⟨nodes, reading, toListEq⟩
  refine ⟨nodes, ?_, toListEq⟩
  rw [graphOf]
  simp only [fuelEq]
  rw [tokensEq, List.cons_append] at reading ⊢
  rw [Build.document_node reading]
  rfl

end Shapewright.Yaml
