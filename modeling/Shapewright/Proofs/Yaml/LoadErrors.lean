import Shapewright.Proofs.Yaml.NodeErrors
import Shapewright.Proofs.Yaml.ScalarErrors
import Shapewright.Proofs.Yaml.TokenErrors
import Shapewright.Proofs.Yaml.ValueErrors

/-!
# Texts that stop the reader

A text that holds no document is malformed, with a few exceptions that are known by what the text
holds: an escape that is too large, nodes or references that lead too deep, and scalars whose
content and tag are among those that fail in ways of their own.
-/

namespace Shapewright.Yaml

open Shapewright.Outcome

/-- What in a text can make it fail other than by being malformed, and with which error. -/
inductive CanStop (stack : Stack) (t : Text) : Error → Prop where
  /-- An escape stands for a number that is far too large. -/
  | escape
      (large : HasLargeEscape t.normalizeLineEnds) :
      CanStop stack t .escapeTooLarge
  /-- There are at least as many tokens as nodes have room on the stack. -/
  | nesting
      (enough : stack.nodes ≤ (tokensOf t.normalizeLineEnds).length) :
      CanStop stack t .exhausted
  /-- There is a merge key or a default key. -/
  | reference {graph : Graph} {node : Node}
      (nodes : graphOf (tokensOf t.normalizeLineEnds) stack = .ok (some graph))
      (member : node ∈ graph.nodes)
      (refers : node.tag = .merge ∨ node.tag = .default) :
      CanStop stack t .exhausted
  /-- The content and the tag of a node do not go together. -/
  | scalar {graph : Graph} {node : Node} {content : Text} {error : Error}
      (nodes : graphOf (tokensOf t.normalizeLineEnds) stack = .ok (some graph))
      (member : node ∈ graph.nodes)
      (standsFor : StandsFor graph.nodes node content)
      (fails : Scalar.FailsApart node.tag content error) :
      CanStop stack t error

section Loading

variable {stack : Stack} {t : Text} {error : Error}

theorem CanStop.ne_malformed
    (canStop : CanStop stack t error) :
    error ≠ .malformed := by
  cases canStop with
  | escape => nofun
  | nesting => nofun
  | reference => nofun
  | scalar _ _ _ fails => exact fails.ne_malformed

/-- A text whose tokens make up no document. -/
theorem canStop_of_graphOf
    (failed : graphOf (tokensOf t.normalizeLineEnds) stack = .error error)
    (notMalformed : error ≠ .malformed) :
    CanStop stack t error := by
  rcases graphOf_eq_error failed with malformed | broken | ⟨rfl, enough⟩
  · exact absurd malformed notMalformed
  · cases canBreak_of_mem_tokensOf broken with
    | malformed => exact absurd rfl notMalformed
    | escape large => exact .escape large
  · exact .nesting enough

/-- A text whose nodes have no values. -/
theorem canStop_of_ofGraph
    {graph : Graph}
    (nodes : graphOf (tokensOf t.normalizeLineEnds) stack = .ok (some graph))
    (failed : Document.ofGraph graph stack = .error error)
    (notMalformed : error ≠ .malformed) :
    CanStop stack t error := by
  cases canFail_of_ofGraph failed with
  | malformed => exact absurd rfl notMalformed
  | exhausted member refers => exact .reference nodes member refers
  | scalar member standsFor valueEq =>
      exact .scalar nodes member standsFor ((Scalar.value_eq_error_iff notMalformed).mp valueEq)

/-- If a text fails other than by being malformed, then there is something in it that can make it
fail with that error. -/
theorem canStop_of_load
    (failed : load t stack = .error error)
    (notMalformed : error ≠ .malformed) :
    CanStop stack t error := by
  unfold load at failed
  dsimp only at failed
  split at failed
  next => exact absurd (Except.error.inj failed).symm notMalformed
  next =>
    cases nodes : graphOf (tokensOf t.normalizeLineEnds) stack with
    | error other =>
        rw [nodes, error_bind] at failed
        cases failed
        exact canStop_of_graphOf nodes notMalformed
    | ok answer =>
        rw [nodes, ok_bind] at failed
        cases answer with
        | none => cases failed
        | some graph => exact canStop_of_ofGraph nodes failed notMalformed

end Loading

/-- A default that refers to itself has no end. -/
example : failure? (load "x: !!str &a \x7b=: *a\x7d") = some .exhausted := by decide +kernel

/-- A key may follow the bracket, so the escape is met before the comma. -/
example : failure? (load "[,\"\\U80000000\"]") = some .escapeTooLarge := by decide +kernel

end Shapewright.Yaml
