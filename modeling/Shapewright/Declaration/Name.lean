import Shapewright.Text.Letter
import Shapewright.Value.Basic

/-!
# Names

Names of declared types and members are derived from seeds: the keys of the document and the name
that the caller gives.  A rule drops some code points of the seed and, if what is left does not
start with a letter, puts a word in front of it.  If nothing is left, or the seed is no text, there
is no name.
-/

namespace Shapewright

/-- What a name is for. -/
inductive NameRole where
  | type
  | member
deriving DecidableEq

/-- The word for a role. -/
def NameRole.label : NameRole → Text
  | .type => "type"
  | .member => "member"

/-- A seed from which no name can be derived. -/
structure UnusableName where
  seed : Value
  role : NameRole

/-- The wording for a seed without a name. -/
def UnusableName.message (e : UnusableName) : Text :=
  Text.ofString "Cannot derive a " ++ e.role.label ++ Text.ofString " name from " ++ e.seed.shown ++
    Text.ofString ": no usable characters remain"

/-- How a name is derived: the code points that are dropped and the word for a name that would not
start with a letter.  The word starts with a letter itself, and nothing of it is dropped. -/
structure NameRule where
  role : NameRole
  drops : CodePoint → Bool
  lead : Text
  lead_letter : lead.head?.any CodePoint.isLetter = true := by decide
  lead_kept : lead.all (fun c => !drops c) = true := by decide

namespace NameRule

/-- The name of a text, if any of it is left. -/
def normalize? (rule : NameRule) (seed : Text) : Option Text :=
  match seed.filter (fun c => !rule.drops c) with
  | [] => none
  | c :: rest => some (if c.isLetter then c :: rest else rule.lead ++ c :: rest)

/-- The name of a seed. -/
def apply (rule : NameRule) (seed : Value) : Except UnusableName Text :=
  match seed with
  | .text t =>
    match rule.normalize? t with
    | some name => .ok name
    | none => .error ⟨seed, rule.role⟩
  | _ => .error ⟨seed, rule.role⟩

end NameRule

/-- Whether a code point may not stand in a file name on every platform. -/
def CodePoint.isInvalidInFileName (c : CodePoint) : Bool :=
  c.toNat < 0x20 || (Text.ofString "\"<>|:*?\\/").contains c

/-- The rule for type names: neither spaces nor what is invalid in a file name. -/
def typeNameRule : NameRule where
  role := .type
  drops c := c = .char ' ' || c.isInvalidInFileName
  lead := "Class"

/-- The rule for member names: neither spaces nor hyphens. -/
def memberNameRule : NameRule where
  role := .member
  drops c := c = .char ' ' || c = .char '-'
  lead := "Property"

end Shapewright
