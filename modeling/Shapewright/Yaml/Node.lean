import Shapewright.Yaml.Tag
import Shapewright.Yaml.Timestamp
import Shapewright.Yaml.Token

/-!
# Nodes

The nodes of a document, numbered in the order in which they start.  A collection names its parts by
their numbers, so that a node with an anchor can be a part of several collections, its own included.
-/

namespace Shapewright.Yaml

/-- What a node holds. -/
inductive Content where
  | scalar (content : Text)
  | sequence (items : List Nat)
  | mapping (entries : List (Nat × Nat))

/-- A node. -/
structure Node where
  tag : Tag
  content : Content

/-- The tag of a scalar without one.  A line feed alone is a text. -/
def resolvePlain (content : Text) : Tag :=
  let t := if content.getLast? = some (.char '\n') then content.dropLast else content
  if t.isEmpty && !content.isEmpty then .text
  else if Spelling.isBoolean t then .boolean
  else if Spelling.isFloat t then .float
  else if Spelling.isInteger t then .integer
  else if t = Text.ofString "<<" then .merge
  else if Spelling.isNull t then .null
  else if Timestamp.isSpelled t then .timestamp
  else if t = Text.ofString "=" then .default
  else .text

/-- A tag as it is written at a node. -/
inductive WrittenTag where
  | none
  | plain
  | named (tag : Tag)
deriving DecidableEq

/-- How deep a reader may go: into nodes, from a mapping to its default, and from a mapping to one
that is merged into it.  The host sets the limits; a few nodes always find room. -/
structure Stack where
  nodes : Nat
  defaults : Nat
  merges : Nat
  roomy : 8 ≤ nodes

/-- The limits that a host usually sets. -/
def Stack.usual : Stack := ⟨480, 960, 960, by decide⟩

/-- The nodes of a document as far as they have been read, with the tokens that are left. -/
structure Builder where
  tokens : List Token
  nodes : Array Node
  anchors : List (Text × Nat)
  handles : List (Text × Text)

/-- A step of reading nodes. -/
abbrev Build (α : Type) := StateT Builder (Except Error) α

namespace Build

/-- The next token.  The error that ends the reading of tokens is met here. -/
def peek : Build Token := do
  match (← get).tokens with
  | .broken error :: _ => throw error
  | token :: _ => pure token
  | [] => throw .malformed

/-- Passes the next token. -/
def skip : Build Unit := modify fun b => { b with tokens := b.tokens.drop 1 }

/-- Goes into a node where there is some room on the stack, and answers with the room for its
parts. -/
def enter : Nat → Build Nat
  | 0 => throw .exhausted
  | room + 1 => pure room

/-- Adds a node and answers with its number. -/
def add (node : Node) : Build Nat := do
  let b ← get
  set { b with nodes := b.nodes.push node }
  pure b.nodes.size

/-- Gives the node with a number its content. -/
def fill (id : Nat) (content : Content) : Build Unit :=
  modify fun b => { b with nodes := b.nodes.modify id fun node => { node with content } }

/-- A scalar that is not there: a null. -/
def addMissing (room : Nat) : Build Nat := do
  let _ ← enter room
  add ⟨.null, .scalar []⟩

/-- The anchor at a node, if it has one. -/
def anchor? : Build (Option Text) := do
  match ← peek with
  | .anchor name => skip; pure (some name)
  | _ => pure none

/-- The full name of a tag. -/
def expandTag (handle : Option Text) (suffix : Text) : Build Text := do
  match handle with
  | none => pure suffix
  | some handle =>
    match (← get).handles.find? (fun (h, _) => h = handle) with
    | some (_, expansion) => pure (expansion ++ suffix)
    | none => throw .malformed

/-- The handle and the suffix of the tag at a node, if it has one. -/
def tag? : Build (Option (Option Text × Text)) := do
  match ← peek with
  | .tag handle suffix => skip; pure (some (handle, suffix))
  | _ => pure none

/-- The anchor and the tag at a node, in either order. -/
def properties : Build (Option Text × WrittenTag) := do
  let first ← anchor?
  let tag ← tag?
  let anchor ←
    match first, tag with
    | none, some _ => anchor?
    | first, _ => pure first
  match tag with
  | none => pure (anchor, .none)
  | some (handle, suffix) => do
    let name ← expandTag handle suffix
    pure (anchor, if name = Text.ofString "!" then .plain else .named (Tag.ofName name))

/-- Makes a name an anchor of the node that is read next. -/
def declareAnchor (anchor : Option Text) : Build Unit := do
  match anchor with
  | none => pure ()
  | some name =>
    let b ← get
    if b.anchors.any (fun (other, _) => other = name) then throw .malformed
    else set { b with anchors := (name, b.nodes.size) :: b.anchors }

/-- The number of the node with an anchor. -/
def resolveAlias (name : Text) : Build Nat := do
  match (← get).anchors.find? (fun (other, _) => other = name) with
  | some (_, id) => pure id
  | none => throw .malformed

/-- The tag of a scalar. -/
def scalarTag (written : WrittenTag) (plain : Bool) (content : Text) : Tag :=
  match written with
  | .named tag => tag
  | .plain => resolvePlain content
  | .none => if plain then resolvePlain content else .text

/-- The tag of a collection. -/
def collectionTag (written : WrittenTag) (usual : Tag) : Tag :=
  match written with
  | .named tag => tag
  | _ => usual

/-- Where a node may stand: in a block, in a block where a sequence need not be indented, or in a
flow collection. -/
inductive Place where
  | block
  | blockValue
  | flow
deriving DecidableEq

/-- Whether a token ends an entry of a block mapping. -/
def endsBlockEntry : Token → Bool
  | .key | .value | .blockEnd => true
  | _ => false

/-- A node that consists of an anchor or a tag only is an empty scalar. -/
def missing (anchor : Option Text) (written : WrittenTag) : Build Nat := do
  if anchor.isNone && written = .none then throw .malformed
  else do
    declareAnchor anchor
    add ⟨scalarTag written true [], .scalar []⟩

mutual

/-- Reads a node where there is some room on the stack.  `fuel` bounds the number of steps. -/
def node (fuel room : Nat) (place : Place) : Build Nat := do
  match fuel with
  | 0 => throw .malformed
  | fuel + 1 => do
    let room ← enter room
    match ← peek with
    | .alias name => do
      skip
      resolveAlias name
    | _ => do
      let (anchor, written) ← properties
      let token ← peek
      let inBlock := place != .flow
      match token with
      | .blockEntry =>
        if place = .blockValue then do
          declareAnchor anchor
          let id ← add ⟨collectionTag written .sequence, .sequence []⟩
          let items ← plainItems fuel room
          fill id (.sequence items)
          pure id
        else missing anchor written
      | .scalar content plain => do
        skip
        declareAnchor anchor
        add ⟨scalarTag written plain content, .scalar content⟩
      | .flowSequenceStart => do
        skip
        declareAnchor anchor
        let id ← add ⟨collectionTag written .sequence, .sequence []⟩
        let items ← flowItems fuel room true
        fill id (.sequence items)
        pure id
      | .flowMappingStart => do
        skip
        declareAnchor anchor
        let id ← add ⟨collectionTag written .mapping, .mapping []⟩
        let entries ← flowEntries fuel room true
        fill id (.mapping entries)
        pure id
      | .blockSequenceStart =>
        if inBlock then do
          skip
          declareAnchor anchor
          let id ← add ⟨collectionTag written .sequence, .sequence []⟩
          let items ← blockItems fuel room
          fill id (.sequence items)
          pure id
        else missing anchor written
      | .blockMappingStart =>
        if inBlock then do
          skip
          declareAnchor anchor
          let id ← add ⟨collectionTag written .mapping, .mapping []⟩
          let entries ← blockEntries fuel room
          fill id (.mapping entries)
          pure id
        else missing anchor written
      | _ => missing anchor written
termination_by structural fuel

/-- Reads the entries of a sequence that is not indented. -/
def plainItems (fuel room : Nat) : Build (List Nat) := do
  match fuel with
  | 0 => throw .malformed
  | fuel + 1 =>
    match ← peek with
    | .blockEntry => do
      skip
      let token ← peek
      let item ←
        if token = .blockEntry || endsBlockEntry token then addMissing room
        else node fuel room .block
      let items ← plainItems fuel room
      pure (item :: items)
    | _ => pure []
termination_by structural fuel

/-- Reads the entries of an indented sequence, and its end. -/
def blockItems (fuel room : Nat) : Build (List Nat) := do
  match fuel with
  | 0 => throw .malformed
  | fuel + 1 =>
    match ← peek with
    | .blockEntry => do
      skip
      let token ← peek
      let item ←
        if token = .blockEntry || token = .blockEnd then addMissing room else node fuel room .block
      let items ← blockItems fuel room
      pure (item :: items)
    | .blockEnd => do
      skip
      pure []
    | _ => throw .malformed
termination_by structural fuel

/-- Reads the entries of a block mapping, and its end. -/
def blockEntries (fuel room : Nat) : Build (List (Nat × Nat)) := do
  match fuel with
  | 0 => throw .malformed
  | fuel + 1 =>
    match ← peek with
    | .key => do
      skip
      let key ← if endsBlockEntry (← peek) then addMissing room else node fuel room .blockValue
      let value ← blockValue fuel room
      let entries ← blockEntries fuel room
      pure ((key, value) :: entries)
    | .blockEnd => do
      skip
      pure []
    | _ => throw .malformed
termination_by structural fuel

/-- Reads the value of an entry of a block mapping, which may be missing. -/
def blockValue (fuel room : Nat) : Build Nat := do
  match fuel with
  | 0 => throw .malformed
  | fuel + 1 =>
    match ← peek with
    | .value => do
      skip
      if endsBlockEntry (← peek) then addMissing room else node fuel room .blockValue
    | _ => addMissing room
termination_by structural fuel

/-- Reads the items of a flow sequence, and its end.  A key among them is a mapping of one entry. -/
def flowItems (fuel room : Nat) (first : Bool) : Build (List Nat) := do
  match fuel with
  | 0 => throw .malformed
  | fuel + 1 =>
    match ← peek with
    | .flowSequenceEnd => do
      skip
      pure []
    | token => do
      if !first then
        if token = .flowEntry then skip else throw .malformed
      match ← peek with
      | .flowSequenceEnd => do
        skip
        pure []
      | .key => do
        let inner ← enter room
        let id ← add ⟨.mapping, .mapping []⟩
        skip
        let key ← flowPart fuel inner
        let value ← flowValue fuel inner
        fill id (.mapping [(key, value)])
        let items ← flowItems fuel room false
        pure (id :: items)
      | _ => do
        let item ← node fuel room .flow
        let items ← flowItems fuel room false
        pure (item :: items)
termination_by structural fuel

/-- Reads the entries of a flow mapping, and its end. -/
def flowEntries (fuel room : Nat) (first : Bool) : Build (List (Nat × Nat)) := do
  match fuel with
  | 0 => throw .malformed
  | fuel + 1 =>
    match ← peek with
    | .flowMappingEnd => do
      skip
      pure []
    | token => do
      if !first then
        if token = .flowEntry then skip else throw .malformed
      match ← peek with
      | .flowMappingEnd => do
        skip
        pure []
      | .key => do
        skip
        let key ← flowPart fuel room
        let value ← flowValue fuel room
        let entries ← flowEntries fuel room false
        pure ((key, value) :: entries)
      | _ => do
        let key ← node fuel room .flow
        let value ← addMissing room
        let entries ← flowEntries fuel room false
        pure ((key, value) :: entries)
termination_by structural fuel

/-- Reads the key of an entry of a flow collection, which may be missing. -/
def flowPart (fuel room : Nat) : Build Nat := do
  match fuel with
  | 0 => throw .malformed
  | fuel + 1 =>
    match ← peek with
    | .value | .flowEntry | .flowSequenceEnd | .flowMappingEnd => addMissing room
    | _ => node fuel room .flow
termination_by structural fuel

/-- Reads the value of an entry of a flow collection, which may be missing. -/
def flowValue (fuel room : Nat) : Build Nat := do
  match fuel with
  | 0 => throw .malformed
  | fuel + 1 =>
    match ← peek with
    | .value => do
      skip
      match ← peek with
      | .flowEntry | .flowSequenceEnd | .flowMappingEnd => addMissing room
      | _ => node fuel room .flow
    | _ => addMissing room
termination_by structural fuel

end

/-- The handles that every document has. -/
def defaultHandles : List (Text × Text) :=
  [(Text.ofString "!", Text.ofString "!"), (Text.ofString "!!", tagBase)]

/-- Reads the directives in front of a document: at most one version, which has to be 1, and no
handle twice.  `versioned` says whether a version has been read. -/
def directives (fuel : Nat) (versioned : Bool) (handles : List (Text × Text)) : Build Unit := do
  match fuel with
  | 0 => throw .malformed
  | fuel + 1 =>
    match ← peek with
    | .versionDirective major _ => do
      skip
      if versioned || major != 1 then throw .malformed else directives fuel true handles
    | .tagDirective handle expansion => do
      skip
      if handles.any (fun (h, _) => h = handle) then throw .malformed
      else directives fuel versioned ((handle, expansion) :: handles)
    | .otherDirective => do
      skip
      directives fuel versioned handles
    | _ => modify fun b => { b with handles := handles ++ defaultHandles }

/-- Passes the marks of document ends. -/
def skipDocumentEnds (fuel : Nat) : Build Unit := do
  match fuel with
  | 0 => throw .malformed
  | fuel + 1 =>
    match ← peek with
    | .documentEnd => do
      skip
      skipDocumentEnds fuel
    | _ => pure ()

/-- Reads the root of a document that starts with directives or with a mark; it may be missing. -/
def markedRoot (fuel room : Nat) : Build Nat := do
  directives fuel false []
  match ← peek with
  | .documentStart => do
    skip
    match ← peek with
    | .versionDirective .. | .tagDirective .. | .otherDirective | .documentStart
    | .documentEnd | .streamEnd => addMissing room
    | _ => node fuel room .block
  | _ => throw .malformed

/-- Reads the root of a document, if there is a document. -/
def root? (fuel room : Nat) : Build (Option Nat) := do
  match ← peek with
  | .streamEnd => pure none
  | .versionDirective .. | .tagDirective .. | .otherDirective | .documentStart => do
    let id ← markedRoot fuel room
    pure (some id)
  | _ => do
    modify fun b => { b with handles := defaultHandles }
    let id ← node fuel room .block
    pure (some id)

/-- Reads the document that a stream of tokens consists of, and answers with the number of its root,
if there is a document.  The directives of another document are read before it is rejected. -/
def document (fuel room : Nat) : Build (Option Nat) := do
  let root ← root? fuel room
  skipDocumentEnds fuel
  match ← peek with
  | .streamEnd => pure root
  | _ => do
    directives fuel false []
    throw .malformed

end Build

/-- The nodes of a document, and the number of its root. -/
structure Graph where
  nodes : Array Node
  root : Nat

/-- The document that the tokens of a text make up; none for a text without a document. -/
def graphOf (tokens : List Token) (stack : Stack := .usual) : Except Error (Option Graph) := do
  let fuel := 4 * tokens.length + 8
  let (root, b) ← (Build.document fuel stack.nodes).run ⟨tokens, #[], [], []⟩
  .ok (root.map fun root => ⟨b.nodes, root⟩)

end Shapewright.Yaml
