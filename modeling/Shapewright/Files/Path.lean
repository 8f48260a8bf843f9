import Shapewright.Text.Basic

/-!
# Paths

A path is a root and a list of parts.  Empty parts and parts that are a single point vanish; a part
of two points stays.  Exactly two slashes at the start are a root of their own.
-/

namespace Shapewright

/-- Where a path starts. -/
inductive PathRoot where
  | relative
  | slash
  | doubleSlash
deriving DecidableEq

/-- A path; no part is empty, a single point, or holds a slash. -/
structure Path where
  root : PathRoot
  parts : List Text
deriving DecidableEq

namespace Path

/-- The root of a path in text. -/
def rootOf : Text → PathRoot
  | .char '/' :: .char '/' :: .char '/' :: _ => .slash
  | .char '/' :: .char '/' :: _ => .doubleSlash
  | .char '/' :: _ => .slash
  | _ => .relative

/-- Whether a piece between slashes is a part. -/
def isPart (piece : Text) : Bool := !piece.isEmpty && piece != [.char '.']

/-- The path that a text stands for. -/
def ofText (t : Text) : Path := ⟨rootOf t, (t.splitOn (.char '/')).filter isPart⟩

/-- The text of a root. -/
def rootText : PathRoot → Text
  | .relative => []
  | .slash => "/"
  | .doubleSlash => "//"

/-- The text of a path; a path without a root or a part is a point. -/
def toText (p : Path) : Text :=
  match p.root, p.parts with
  | .relative, [] => "."
  | root, parts => rootText root ++ Text.join "/" parts

/-- A path taken from the place of another one. -/
def join (base p : Path) : Path :=
  match p.root with
  | .relative => ⟨base.root, base.parts ++ p.parts⟩
  | _ => p

/-- The path without its last part. -/
def parent (p : Path) : Path := { p with parts := p.parts.dropLast }

/-- The last part of a path. -/
def name (p : Path) : Text := p.parts.getLast?.getD []

/-- The end of a name from its last point on, if something stands before and behind that point. -/
def suffixOf (name : Text) : Text :=
  let tail := (name.reverse.takeWhile (· != .char '.')).reverse
  let before := name.length - tail.length
  if 1 < before && !tail.isEmpty then .char '.' :: tail else []

/-- The suffix of the last part of a path. -/
def suffix (p : Path) : Text := suffixOf p.name

end Path

end Shapewright
