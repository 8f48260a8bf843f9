import Shapewright.Declaration.Kind
import Shapewright.Declaration.Line
import Shapewright.Declaration.Name

/-!
# Generating declarations

A document is declared by walking its objects: an object becomes a class, an entry that is an
object a class inside of it, an entry that is an array a wrapper class with a collection member
typed from the first item, and any other entry a member.

The walk keeps a stack of open classes, each with the entries that are still to be declared, so
that the nesting of a document is limited by the settings only.
-/

namespace Shapewright

/-- Why a document has no declaration. -/
inductive GenerateError where
  | tooDeep (limit : Nat)
  | unusableName (error : UnusableName)

/-- The wording of a generation error. -/
def GenerateError.message : GenerateError → Text
  | .tooDeep limit => Text.ofString "Document nests deeper than max_depth=" ++ Text.ofNat 10 limit
  | .unusableName error => error.message

namespace Declaration

/-- The name of the collection member of a wrapper class. -/
def itemsMember : Text := "Items"

/-- What the name of an item class has behind the name of its wrapper class. -/
def itemTypeSuffix : Text := "Item"

/-- The name of a seed by a rule. -/
def named (rule : NameRule) (seed : Value) : Except GenerateError Text :=
  (rule.apply seed).mapError .unusableName

/-- Checks that one more class may be opened at a level. -/
def descend (settings : Settings) (level : Nat) : Except GenerateError Unit :=
  match settings.maxDepth with
  | none => .ok ()
  | some limit => if limit < level + 1 then .error (.tooDeep limit) else .ok ()

/-- The text of a member of a type. -/
def memberText (declaredType name : Text) : Text :=
  Text.ofString "public " ++ declaredType ++ .char ' ' :: name ++
    Text.ofString " \x7b get; set; \x7d"

/-- The member of a type, with the name of a seed. -/
def member (declaredType : Text) (seed : Value) : Except GenerateError Text := do
  let name ← named memberNameRule seed
  .ok (memberText declaredType name)

/-- The text that opens a class. -/
def classText (name : Text) : Text := Text.ofString "public class " ++ name

/-- The blanks of one level. -/
def pad (settings : Settings) : Text := List.replicate settings.indent (.char ' ')

/-- A line behind the blanks of one level; an empty line stays empty. -/
def padded (pad line : Text) : Text := if line.isEmpty then [] else pad ++ line

/-- The lines of a class with a body, which is padded one level deeper. -/
def classBlock (pad name : Text) (body : List Text) : List Text :=
  classText name :: Text.ofString "\x7b" :: (body.map (padded pad) ++ [Text.ofString "\x7d"])

/-- The wrapper class of an array whose items are all of one declared type. -/
def plainWrapper (pad name collection : Text) : Except GenerateError (List Text) := do
  let items ← member collection (.text itemsMember)
  .ok (classBlock pad name [items])

/-- The members of an item class, one for each entry; what an entry holds is not expanded. -/
def itemMembers (types : TypeNames) : List (Text × Value) → Except GenerateError (List Text)
  | [] => .ok []
  | (key, v) :: rest => do
    let line ← member (types.memberType v) (.text key)
    let lines ← itemMembers types rest
    .ok (line :: lines)

/-- The wrapper class of an array of objects: a constructor that makes an empty collection, the
collection, and the class of its items. -/
def objectWrapper (pad : Text) (types : TypeNames) (name : Text) (entries : List (Text × Value)) :
    Except GenerateError (List Text) := do
  let itemName := name ++ itemTypeSuffix
  let collection := types.collectionOf itemName
  let members ← itemMembers types entries
  let items ← member collection (.text itemsMember)
  .ok (classBlock pad name (
    [Text.ofString "public " ++ name ++ Text.ofString "()",
      Text.ofString "\x7b",
      pad ++ itemsMember ++ Text.ofString " = new " ++ collection ++ Text.ofString "();",
      Text.ofString "\x7d",
      [],
      items,
      []] ++
    classBlock pad itemName members))

/-- The wrapper class of an array by its name.  Only the first item is looked at. -/
def wrapperNamed (pad : Text) (types : TypeNames) (name : Text) :
    List Value → Except GenerateError (List Text)
  | [] => plainWrapper pad name (types.collectionOf types.generic)
  | .object entries :: _ => objectWrapper pad types name entries
  | sample :: _ => plainWrapper pad name (types.collectionOf (types.memberType sample))

/-- The wrapper class of an array, named after a seed. -/
def wrapper (pad : Text) (types : TypeNames) (items : List Value) (seed : Value) :
    Except GenerateError (List Text) := do
  let name ← named typeNameRule seed
  wrapperNamed pad types name items

/-- The declaration of a value that is no object, at a level.  Its lines are padded from that level
on. -/
def flat (settings : Settings) (v : Value) (seed : Value) (level : Nat) :
    Except GenerateError (List Text) :=
  match v with
  | .array items => do
    descend settings level
    wrapper (pad settings) settings.types items seed
  | v => do
    let line ← member (settings.types.memberType v) seed
    .ok [line]

/-- An open class: its level, and the entries of its object that are not declared yet. -/
structure Frame where
  level : Nat
  pending : List (Text × Value)

/-- A walk: the lines so far, the last one first, and the open classes, the innermost one first. -/
structure Walk where
  emitted : List Line
  stack : List Frame

/-- The lines that open the class of an object at a level. -/
def openLines (settings : Settings) (seed : Value) (level : Nat) :
    Except GenerateError (List Line) := do
  descend settings level
  let name ← named typeNameRule seed
  .ok [⟨level, classText name⟩, ⟨level, "\x7b"⟩]

/-- The next object among the entries of an open class: its key, its entries, and the entries that
come after it. -/
structure Nested where
  key : Text
  entries : List (Text × Value)
  pending : List (Text × Value)

/-- The lines of the entries of an open class up to its next object, and that object. -/
def consume (settings : Settings) (level : Nat) :
    List (Text × Value) → Except GenerateError (List Line × Option Nested)
  | [] => .ok ([], none)
  | (key, .object entries) :: rest => .ok ([], some ⟨key, entries, rest⟩)
  | (key, v) :: rest => do
    let lines ← flat settings v (.text key) (level + 1)
    let (more, nested) ← consume settings level rest
    .ok (lines.map (Line.mk (level + 1)) ++ more, nested)

/-- One step of a walk: declares entries of the innermost class up to its next object, and opens
the class of that object, or closes the class if no object is left. -/
def step (settings : Settings) (walk : Walk) : Except GenerateError Walk :=
  match walk.stack with
  | [] => .ok walk
  | frame :: below => do
    let (lines, nested) ← consume settings frame.level frame.pending
    let emitted := lines.reverse ++ walk.emitted
    match nested with
    | none => .ok ⟨⟨frame.level, "\x7d"⟩ :: emitted, below⟩
    | some nested =>
      let opening ← openLines settings (.text nested.key) (frame.level + 1)
      .ok ⟨opening.reverse ++ emitted,
        ⟨frame.level + 1, nested.entries⟩ :: ⟨frame.level, nested.pending⟩ :: below⟩

/-- A number of steps of a walk. -/
def run (settings : Settings) : Nat → Walk → Except GenerateError Walk
  | 0, walk => .ok walk
  | steps + 1, walk => do
    let walk ← step settings walk
    run settings steps walk

mutual

/-- The number of objects that are reached from a value through entries of objects. -/
def objectCount : Value → Nat
  | .object entries => objectCountEntries entries + 1
  | _ => 0

/-- The number of objects that are reached from the entries of an object. -/
def objectCountEntries : List (Text × Value) → Nat
  | [] => 0
  | (_, v) :: rest => objectCount v + objectCountEntries rest

end

/-- The lines of an object.  Each object but the root is opened in one step and each is closed in
one, so the walk ends after twice their number less one. -/
def objectLines (settings : Settings) (entries : List (Text × Value)) (seed : Value) :
    Except GenerateError (List Line) := do
  let opening ← openLines settings seed 0
  let walk ← run settings (2 * objectCountEntries entries + 1) ⟨opening.reverse, [⟨0, entries⟩]⟩
  .ok walk.emitted.reverse

/-- The lines of a value. -/
def lines (settings : Settings) (v : Value) (seed : Value) : Except GenerateError (List Line) :=
  match v with
  | .object entries => objectLines settings entries seed
  | v => do
    let lines ← flat settings v seed 0
    .ok (lines.map (Line.mk 0))

/-- The declaration of a value, named after a seed. -/
def generate (settings : Settings) (v : Value) (seed : Value) : Except GenerateError Text := do
  let lines ← lines settings v seed
  .ok (Line.renderAll settings.indent lines)

end Declaration

end Shapewright
