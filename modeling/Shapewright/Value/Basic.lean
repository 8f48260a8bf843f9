import Shapewright.Number.Shortest
import Shapewright.Text.Quoted

/-!
# Values

The values that documents and settings files hold: the JSON values, and two kinds of leaf outside
of them, bytes and all else.  Objects keep the order of their entries.
-/

namespace Shapewright

/-- A JSON value, or a leaf outside the JSON model. -/
inductive Value where
  | null
  | boolean (b : Bool)
  | integer (n : Int)
  | float (x : Binary64)
  | text (t : Text)
  | array (items : List Value)
  | object (entries : List (Text × Value))
  | bytes (content : List UInt8)
  | foreign

namespace Value

instance : Inhabited Value := ⟨.null⟩

/-- Sets the value of a key: a key that is there keeps its place, a new one comes last. -/
def put (key : Text) (value : Value) : List (Text × Value) → List (Text × Value)
  | [] => [(key, value)]
  | (k, v) :: rest => if k = key then (k, value) :: rest else (k, v) :: put key value rest

/-- The entries of an object that is written with the given members in order: a repeated key keeps
its first place and its last value. -/
def entriesOf (members : List (Text × Value)) : List (Text × Value) :=
  members.foldl (fun entries member => put member.1 member.2 entries) []

/-- The value of a key in the entries of an object. -/
def find? (key : Text) (entries : List (Text × Value)) : Option Value :=
  (entries.find? (fun entry => entry.1 = key)).map (·.2)

/-- Whether a value says nothing: null, false, a zero, or an empty text, collection or byte
sequence. -/
def isBlank : Value → Bool
  | .null => true
  | .boolean b => !b
  | .integer n => n == 0
  | .float x => x.isZero
  | .text t => t.isEmpty
  | .array items => items.isEmpty
  | .object entries => entries.isEmpty
  | .bytes content => content.isEmpty
  | .foreign => false

mutual

/-- How a message shows a value. -/
def shown : Value → Text
  | .null => "None"
  | .boolean true => "True"
  | .boolean false => "False"
  | .integer n => Text.ofInt n
  | .float x => x.text
  | .text t => t.quoted
  | .array items => .char '[' :: shownItems items ++ [.char ']']
  | .object entries => .char '\x7b' :: shownEntries entries ++ [.char '\x7d']
  | .bytes _ => "bytes"
  | .foreign => "object"

/-- The items of an array as a message shows them. -/
def shownItems : List Value → Text
  | [] => []
  | [v] => shown v
  | v :: rest => shown v ++ Text.ofString ", " ++ shownItems rest

/-- The entries of an object as a message shows them. -/
def shownEntries : List (Text × Value) → Text
  | [] => []
  | [(k, v)] => k.quoted ++ Text.ofString ": " ++ shown v
  | (k, v) :: rest => k.quoted ++ Text.ofString ": " ++ shown v ++ Text.ofString ", " ++
      shownEntries rest

end

end Value

end Shapewright
