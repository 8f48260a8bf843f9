import Shapewright.Declaration.Generate
import Shapewright.Proofs.Outcome

/-!
# The walk as a recursion

A walk over the objects of a document keeps a stack of open classes, each with the entries that are
not declared yet.  This module states the recursion that the stack unfolds: an object is its opening
lines, its entries one level deeper, and a closing brace.

The lines that a walk has emitted, followed by the lines that the recursion still finds on its
stack, stay the same along a walk, and so does the error that the recursion still finds there.  A
step of a walk also uses up one unit of the work that its stack holds, so the stack is empty when
the walk ends.  Both facts together make a walk equal to the recursion, on success and on failure.
-/

namespace Shapewright.Declaration

open Shapewright.Outcome

/-! ## The recursion -/

mutual

/-- The lines of a value at a level, by recursion on the value. -/
def declared (settings : Settings) : Value → Value → Nat → Except GenerateError (List Line)
  | .object entries, seed, level => do
    let opening ← openLines settings seed level
    let body ← declaredEntries settings entries (level + 1)
    .ok (opening ++ (body ++ [⟨level, "\x7d"⟩]))
  | v, seed, level => do
    let lines ← flat settings v seed level
    .ok (lines.map (Line.mk level))

/-- The lines of the entries of an object at a level. -/
def declaredEntries (settings : Settings) :
    List (Text × Value) → Nat → Except GenerateError (List Line)
  | [], _ => .ok []
  | (key, v) :: rest, level => do
    let lines ← declared settings v (.text key) level
    let more ← declaredEntries settings rest level
    .ok (lines ++ more)

end

/-- The lines from the next object of an open class on, up to the brace that closes the class. -/
def declaredFrom (settings : Settings) (level : Nat) :
    Option Nested → Except GenerateError (List Line)
  | none => .ok []
  | some nested =>
    declaredEntries settings
      ((nested.key, .object nested.entries) :: nested.pending) (level + 1)

/-- The lines that a stack of open classes still stands for. -/
def declaredStack (settings : Settings) :
    List Frame → Except GenerateError (List Line)
  | [] => .ok []
  | frame :: below => do
    let body ← declaredEntries settings frame.pending (frame.level + 1)
    let more ← declaredStack settings below
    .ok (body ++ ⟨frame.level, "\x7d"⟩ :: more)

/-- All lines of a walk: the emitted ones, and those that its stack still stands for. -/
def completed (settings : Settings) (walk : Walk) : Except GenerateError (List Line) := do
  let more ← declaredStack settings walk.stack
  .ok (walk.emitted.reverse ++ more)

/-! ## One step -/

/-- The entries of an open class are those that are consumed up to its next object, and those from
that object on. -/
theorem declaredEntries_eq_consume
    (settings : Settings) (level : Nat) (entries : List (Text × Value)) :
    declaredEntries settings entries (level + 1) =
      (consume settings level entries >>= fun consumed => do
        let more ← declaredFrom settings level consumed.2
        .ok (consumed.1 ++ more)) := by
  induction entries with
  | nil =>
      rfl
  | cons entry rest induction =>
      rcases entry with ⟨key, v⟩
      cases v with
      | object entries =>
          simp only [consume, ok_bind, declaredFrom, List.nil_append]
          cases declaredEntries settings ((key, .object entries) :: rest) (level + 1) <;> rfl
      | _ =>
          simp only [declaredEntries, declared, consume, induction, bind_assoc, ok_bind,
            List.append_assoc]

/-- A step of a walk changes neither the lines of the walk nor its error. -/
theorem step_completed
    (settings : Settings) (walk : Walk) :
    (step settings walk >>= completed settings) = completed settings walk := by
  rcases walk with ⟨emitted, stack⟩
  cases stack with
  | nil =>
      rfl
  | cons frame below =>
      -- Both sides start with what the step consumes of the innermost class.
      simp only [step, completed, declaredStack, declaredEntries_eq_consume, bind_assoc]
      cases consume settings frame.level frame.pending with
      | error error =>
          rfl
      | ok consumed =>
          rcases consumed with ⟨lines, next⟩
          cases next with
          | none =>
              simp [declaredFrom, completed]
          | some nested =>
              simp [declaredFrom, declaredEntries, declared, completed, declaredStack,
                bind_assoc]

/-! ## The work on a stack -/

/-- The number of objects that are reached from the next object of an open class on. -/
def objectCountFrom : Option Nested → Nat
  | none => 0
  | some nested => objectCountEntries nested.entries + 1 + objectCountEntries nested.pending

/-- The number of steps that a stack still takes: each open class is closed in one step, and each
object that is not reached yet is opened in one and closed in another. -/
def stackWork : List Frame → Nat
  | [] => 0
  | frame :: below => 2 * objectCountEntries frame.pending + 1 + stackWork below

/-- No object is consumed before the next one. -/
theorem objectCountEntries_of_consume
    {settings : Settings} {level : Nat} {entries : List (Text × Value)}
    {consumed : List Line × Option Nested}
    (success : consume settings level entries = .ok consumed) :
    objectCountEntries entries = objectCountFrom consumed.2 := by
  induction entries generalizing consumed with
  | nil =>
      cases success
      rfl
  | cons entry rest induction =>
      rcases entry with ⟨key, v⟩
      cases v with
      | object entries =>
          cases success
          rfl
      | _ =>
          simp only [consume, bind_eq_ok_iff] at success
          rcases success with ⟨lines, _, more, restSuccess, equal⟩
          cases equal
          simpa [objectCountEntries, objectCount] using induction restSuccess

/-- A step uses up one unit of work. -/
theorem step_work
    {settings : Settings} {walk next : Walk}
    (isOpen : walk.stack ≠ [])
    (success : step settings walk = .ok next) :
    stackWork next.stack + 1 = stackWork walk.stack := by
  rcases walk with ⟨emitted, stack⟩
  cases stack with
  | nil =>
      exact absurd rfl isOpen
  | cons frame below =>
      simp only [step, bind_eq_ok_iff] at success
      rcases success with ⟨⟨lines, found⟩, consumeSuccess, success⟩
      have count := objectCountEntries_of_consume consumeSuccess
      cases found with
      | none =>
          cases success
          simp only [objectCountFrom] at count
          simp only [stackWork]
          omega
      | some nested =>
          simp only [bind_eq_ok_iff] at success
          rcases success with ⟨opening, _, equal⟩
          cases equal
          simp only [objectCountFrom] at count
          simp only [stackWork]
          omega

/-! ## A whole walk -/

/-- No step of a walk changes its lines or its error. -/
theorem run_completed
    (settings : Settings) (steps : Nat) (walk : Walk) :
    (run settings steps walk >>= completed settings) = completed settings walk := by
  induction steps generalizing walk with
  | zero =>
      rfl
  | succ steps induction =>
      simp only [run, bind_assoc, induction]
      exact step_completed settings walk

/-- A walk ends with all classes closed. -/
theorem run_stack
    {settings : Settings} {steps : Nat} {walk final : Walk}
    (enough : stackWork walk.stack = steps)
    (success : run settings steps walk = .ok final) :
    final.stack = [] := by
  induction steps generalizing walk with
  | zero =>
      cases success
      cases stackEq : final.stack with
      | nil =>
          rfl
      | cons frame below =>
          rw [stackEq] at enough
          simp only [stackWork] at enough
          omega
  | succ steps induction =>
      simp only [run, bind_eq_ok_iff] at success
      rcases success with ⟨next, stepSuccess, success⟩
      have isOpen : walk.stack ≠ [] := by
        intro closed
        rw [closed] at enough
        simp [stackWork] at enough
      have work := step_work isOpen stepSuccess
      exact induction (by omega) success

/-- A walk that takes all steps of its stack gives the lines that the recursion finds. -/
theorem run_eq_completed
    {settings : Settings} {walk : Walk} {steps : Nat}
    (enough : stackWork walk.stack = steps) :
    (run settings steps walk >>= fun final => .ok final.emitted.reverse) =
      completed settings walk := by
  rw [← run_completed settings steps walk]
  cases runResult : run settings steps walk with
  | error error =>
      rfl
  | ok final =>
      simp [completed, run_stack enough runResult, declaredStack]

/-- The walk over an object is the recursion. -/
theorem objectLines_eq_declared
    (settings : Settings) (entries : List (Text × Value)) (seed : Value) :
    objectLines settings entries seed = declared settings (.object entries) seed 0 := by
  simp only [objectLines, declared]
  congr 1
  funext opening
  rw [run_eq_completed (by simp [stackWork])]
  simp [completed, declaredStack, bind_assoc]

/-- A declaration is rendered from the lines of the recursion. -/
theorem generate_eq_declared
    (settings : Settings) (v seed : Value) :
    generate settings v seed =
      (declared settings v seed 0 >>= fun lines =>
        .ok (Line.renderAll settings.indent lines)) := by
  have linesEq : lines settings v seed = declared settings v seed 0 := by
    cases v with
    | object entries =>
        exact objectLines_eq_declared settings entries seed
    | _ =>
        rfl
  rw [generate, linesEq]

end Shapewright.Declaration
