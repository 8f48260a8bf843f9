import Shapewright.Text.Lines
import Shapewright.Yaml.Scalar
import Shapewright.Yaml.TokenStream

/-!
# YAML documents

The values of a document are made level by level: the value of a scalar where it is met, the parts
of a collection only after all collections that were met before it.  So of two errors the one on the
higher level is found first.
-/

namespace Shapewright.Yaml

/-- What has been made of a node.  Settings do not look into sequences and sets, so only their
sizes are kept. -/
inductive Made where
  | leaf (v : Value)
  | sized (count : Nat)
  | mapping (entries : List (Value × Nat))

/-- The values of a document as far as they are made. -/
structure Maker where
  nodes : Array Node
  made : Array (Option Made)
  /-- The collections whose parts are still to be made, the last one first. -/
  waiting : List Nat

/-- A step of making values. -/
abbrev Make (α : Type) := StateT Maker (Except Error) α

namespace Make

/-- The node with a number. -/
def nodeAt (id : Nat) : Make Node := do
  match (← get).nodes[id]? with
  | some node => pure node
  | none => throw .malformed

/-- The entries of the mapping with a number. -/
def entriesAt (id : Nat) : Make (List (Nat × Nat)) := do
  match (← nodeAt id).content with
  | .mapping entries => pure entries
  | _ => throw .malformed

/-- Gives a mapping other entries. -/
def setEntries (id : Nat) (entries : List (Nat × Nat)) : Make Unit :=
  modify fun m =>
    { m with nodes := m.nodes.modify id fun node => { node with content := .mapping entries } }

/-- Gives a node another tag. -/
def setTag (id : Nat) (tag : Tag) : Make Unit :=
  modify fun m => { m with nodes := m.nodes.modify id fun node => { node with tag } }

/-- Records what has been made of a node. -/
def record (id : Nat) (made : Made) : Make Unit :=
  modify fun m => { m with made := m.made.set! id (some made) }

/-- The content of a scalar.  A mapping with a default entry stands for the scalar there, if there
is some room on the stack. -/
def contentAt (room id : Nat) : Make Text := do
  match (← nodeAt id).content with
  | .scalar content => pure content
  | .sequence _ => throw .malformed
  | .mapping entries => do
    let defaults ← entries.filterM fun (key, _) => do pure ((← nodeAt key).tag == .default)
    match defaults with
    | [] => throw .malformed
    | (_, value) :: _ =>
      match room with
      | 0 => throw .exhausted
      | room + 1 => contentAt room value

/-- The entries that are merged for a node: those of a mapping, or of several mappings, the last one
first.  `flattenOther` takes the merge entries out of a mapping before. -/
def mergedEntries (flattenOther : Nat → Make Unit) (id : Nat) : Make (List (Nat × Nat)) := do
  match (← nodeAt id).content with
  | .mapping _ => do
    flattenOther id
    entriesAt id
  | .sequence items => do
    let merged ← items.mapM fun item => do
      let _ ← entriesAt item
      flattenOther item
      entriesAt item
    pure merged.reverse.flatten
  | .scalar _ => throw .malformed

/-- Takes the merge entries out of a mapping from an index on, and answers with the entries that are
merged for them.  A default key becomes an ordinary one.  `fuel` bounds the number of entries that
are looked at: if the mapping is merged into itself, there may be more in the end, but no merge
entries are left among them. -/
def takeMerges (flattenOther : Nat → Make Unit) (fuel id index : Nat) :
    Make (List (Nat × Nat)) := do
  match fuel with
  | 0 => pure []
  | fuel + 1 => do
    let entries ← entriesAt id
    match entries[index]? with
    | none => pure []
    | some (key, value) => do
      match (← nodeAt key).tag with
      | .merge => do
        setEntries id (entries.eraseIdx index)
        let merged ← mergedEntries flattenOther value
        let others ← takeMerges flattenOther fuel id index
        pure (merged ++ others)
      | .default => do
        setTag key .text
        takeMerges flattenOther fuel id (index + 1)
      | _ => takeMerges flattenOther fuel id (index + 1)

/-- Takes the merge entries out of a mapping and puts the entries that are merged for them in front
of the others. -/
def flattenWith (flattenOther : Nat → Make Unit) (id : Nat) : Make Unit := do
  let merged ← takeMerges flattenOther (← entriesAt id).length id 0
  if merged.isEmpty then pure () else setEntries id (merged ++ (← entriesAt id))

/-- Takes the merge entries out of a mapping, and before that out of the mappings they name, as long
as there is some room on the stack. -/
def flatten : Nat → Nat → Make Unit
  | 0, id => flattenWith (fun _ => throw .exhausted) id
  | room + 1, id => flattenWith (flatten room) id

/-- The value of a scalar.  A timestamp has to be one itself and not by a default. -/
def scalarValue (node : Node) (content : Text) : Make Value :=
  match node.tag, node.content with
  | .timestamp, .mapping _ => throw .malformed
  | tag, _ => liftM (Scalar.value tag content)

/-- Makes the value of a node, unless it is made already; the parts of a collection have to wait. -/
def visit (stack : Stack) (id : Nat) : Make Unit := do
  let m ← get
  match m.made[id]? with
  | some (some _) => pure ()
  | _ => do
    let node ← nodeAt id
    if node.tag.isValueless then throw .malformed
    else if node.tag.isCollection then do
      record id (if node.tag = .mapping then .mapping [] else .sized 0)
      modify fun m => { m with waiting := id :: m.waiting }
    else do
      let content ← contentAt stack.defaults id
      let v ← scalarValue node content
      record id (.leaf v)

/-- Makes the entries of a mapping. -/
def visitEntries (stack : Stack) : List (Nat × Nat) → Make (List (Value × Nat))
  | [] => pure []
  | (key, value) :: rest => do
    visit stack key
    match (← get).made[key]? with
    | some (some (.leaf k)) => do
      visit stack value
      let others ← visitEntries stack rest
      pure ((k, value) :: others)
    | _ => throw .malformed

/-- Makes the items of a sequence of mappings with one entry each. -/
def visitPairs (stack : Stack) : List Nat → Make Unit
  | [] => pure ()
  | item :: rest => do
    match ← entriesAt item with
    | [(key, value)] => do
      visit stack key
      visit stack value
      visitPairs stack rest
    | _ => throw .malformed

/-- Makes the parts of a collection. -/
def visitParts (stack : Stack) (id : Nat) : Make Unit := do
  let node ← nodeAt id
  match node.tag, node.content with
  | .mapping, .mapping _ => do
    flatten stack.merges id
    let entries ← visitEntries stack (← entriesAt id)
    record id (.mapping entries)
  | .set, .mapping _ => do
    flatten stack.merges id
    let entries ← visitEntries stack (← entriesAt id)
    record id (.sized entries.length)
  | .sequence, .sequence items => do
    items.forM (visit stack)
    record id (.sized items.length)
  | .orderedMap, .sequence items => do
    visitPairs stack items
    record id (.sized items.length)
  | .pairs, .sequence items => do
    visitPairs stack items
    record id (.sized items.length)
  | _, _ => throw .malformed

/-- Makes the parts of the collections that wait, level by level; `fuel` bounds the number of
levels. -/
def finish (stack : Stack) (fuel : Nat) : Make Unit := do
  match fuel with
  | 0 => pure ()
  | fuel + 1 => do
    let waiting := (← get).waiting.reverse
    if waiting.isEmpty then pure ()
    else do
      modify fun m => { m with waiting := [] }
      waiting.forM (visitParts stack)
      finish stack fuel

end Make

/-- The value of a node.  A collection that is more than `depth` mappings deep is a leaf; a
document may contain itself. -/
def unfold (made : Array (Option Made)) (depth : Nat) (id : Nat) : Value :=
  match made[id]? with
  | some (some (.leaf v)) => v
  | some (some (.sized count)) => .array (List.replicate count .foreign)
  | some (some (.mapping entries)) =>
    match depth with
    | 0 => if entries.isEmpty then .object [] else .foreign
    | depth + 1 =>
      .object (Value.entriesOf (entries.filterMap fun (key, value) =>
        match key with
        | .text key => some (key, unfold made depth value)
        | _ => none))
  | _ => .null

/-- A document: its value, two mappings deep, and whether all keys of its root are texts.  Keys of
other kinds are left out of mappings. -/
structure Document where
  root : Value
  keyedByText : Bool

/-- Whether all keys of the mapping of a node are texts. -/
def isKeyedByText (made : Array (Option Made)) (id : Nat) : Bool :=
  match made[id]? with
  | some (some (.mapping entries)) =>
    entries.all fun (key, _) =>
      match key with
      | .text _ => true
      | _ => false
  | _ => true

/-- The document of a graph of nodes. -/
def Document.ofGraph (graph : Graph) (stack : Stack := .usual) : Except Error Document := do
  let start : Maker := ⟨graph.nodes, Array.replicate graph.nodes.size none, []⟩
  let build : Make Unit := do
    Make.visit stack graph.root
    Make.finish stack (graph.nodes.size + 1)
  let (_, m) ← build.run start
  .ok ⟨unfold m.made 2 graph.root, isKeyedByText m.made graph.root⟩

/-- Reads a text that consists of at most one document; a text without one is read as null. -/
def load (t : Text) (stack : Stack := .usual) : Except Error Document := do
  let t := t.normalizeLineEnds
  if !t.all isAllowed then .error .malformed
  else
    match ← graphOf (tokensOf t) stack with
    | none => .ok ⟨.null, true⟩
    | some graph => Document.ofGraph graph stack

end Shapewright.Yaml
