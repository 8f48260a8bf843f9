import Shapewright.Proofs.Declaration.Walk

/-!
# The loop of a walk

A walk is a loop on a stack of open classes.  Here it is given by its rounds, without a bound on
their number.  A round takes entries from the innermost class; their declarations are copied, unless
they are objects, and then the round opens or closes a class with lines of its own.

At the start of every round, the stack is a path of objects from the root of the document, each
class one level below the class around it.  What the rounds have taken, followed by what is still
reached from the stack, are the entries of the document in their order.  The braces that the rounds
have opened and not closed are those of the stack.  The number of rounds so far and the work that is
left on the stack are twice the number of objects less one, so the loop ends, and it is known when.
-/

namespace Shapewright.Declaration

open Shapewright.Outcome

/-! ## Rounds -/

/-- What happens in a round: the entries that are taken, the lines that are copied from the
declarations of those that are no objects, and the lines of the walk itself. -/
structure Round where
  taken : List (Text × Value)
  copied : List Line
  own : List Line

/-- The lines of a round. -/
def Round.lines (round : Round) : List Line := round.copied ++ round.own

/-- A round of the loop closes the innermost class, or opens the class of its next object. -/
inductive Turns (settings : Settings) : Walk → Round → Walk → Prop where
  | closes {emitted copied : List Line} {level : Nat} {pending : List (Text × Value)}
      {below : List Frame} :
      consume settings level pending = .ok (copied, none) →
        Turns settings ⟨emitted, ⟨level, pending⟩ :: below⟩
          ⟨pending, copied, [⟨level, "\x7d"⟩]⟩
          ⟨⟨level, "\x7d"⟩ :: (copied.reverse ++ emitted), below⟩
  | opens {emitted copied opening : List Line} {level : Nat} {front : List (Text × Value)}
      {nested : Nested} {below : List Frame} :
      consume settings level
          (front ++ (nested.key, .object nested.entries) :: nested.pending) =
        .ok (copied, some nested) →
      openLines settings (.text nested.key) (level + 1) = .ok opening →
        Turns settings
          ⟨emitted,
            ⟨level, front ++ (nested.key, .object nested.entries) :: nested.pending⟩ :: below⟩
          ⟨front ++ [(nested.key, .object nested.entries)], copied, opening⟩
          ⟨opening.reverse ++ (copied.reverse ++ emitted),
            ⟨level + 1, nested.entries⟩ :: ⟨level, nested.pending⟩ :: below⟩

/-- The rounds of the loop from a walk on, up to another one. -/
inductive Loops (settings : Settings) (start : Walk) : List Round → Walk → Prop where
  | start : Loops settings start [] start
  | turn {rounds : List Round} {walk next : Walk} {round : Round} :
      Loops settings start rounds walk → Turns settings walk round next →
        Loops settings start (rounds ++ [round]) next

/-- The entries from the next object of an open class on. -/
def fromNested : Option Nested → List (Text × Value)
  | none => []
  | some nested => (nested.key, .object nested.entries) :: nested.pending

/-- What is consumed of an open class before its next object holds no object. -/
theorem consume_split
    {settings : Settings} {level : Nat} {entries : List (Text × Value)}
    {consumed : List Line × Option Nested}
    (success : consume settings level entries = .ok consumed) :
    ∃ front : List (Text × Value),
      entries = front ++ fromNested consumed.2 ∧
        ∀ entry ∈ front, ∀ inner, entry.2 ≠ .object inner := by
  induction entries generalizing consumed with
  | nil =>
      cases success
      exact ⟨[], rfl, by simp⟩
  | cons entry rest induction =>
      rcases entry with ⟨key, v⟩
      cases v with
      | object inner =>
          cases success
          exact ⟨[], rfl, by simp⟩
      | _ =>
          simp only [consume, bind_eq_ok_iff] at success
          rcases success with ⟨lines, _, ⟨more, found⟩, restSuccess, equal⟩
          cases equal
          rcases induction restSuccess with ⟨front, split, noObject⟩
          exact ⟨_ :: front, congrArg _ split, List.forall_mem_cons.mpr ⟨by simp, noObject⟩⟩

/-- A step of a walk with an open class is a round of the loop. -/
theorem step_eq_ok_iff
    {settings : Settings} {walk next : Walk}
    (isOpen : walk.stack ≠ []) :
    step settings walk = .ok next ↔ ∃ round, Turns settings walk round next := by
  constructor
  · intro success
    rcases walk with ⟨emitted, stack⟩
    cases stack with
    | nil =>
        exact absurd rfl isOpen
    | cons frame below =>
        rcases frame with ⟨level, pending⟩
        simp only [step, bind_eq_ok_iff] at success
        rcases success with ⟨⟨copied, found⟩, consumed, success⟩
        rcases consume_split consumed with ⟨front, split, _⟩
        cases found with
        | none =>
            cases success
            exact ⟨_, .closes consumed⟩
        | some nested =>
            simp only [bind_eq_ok_iff] at success
            rcases success with ⟨opening, opened, equal⟩
            cases equal
            subst split
            exact ⟨_, .opens consumed opened⟩
  · rintro ⟨round, turns⟩
    cases turns with
    | closes consumed => simp [step, consumed]
    | opens consumed opened => simp [step, consumed, opened]

/-! ## Levels and the path from the root -/

/-- The levels of open classes, from the outermost one on, count up from zero. -/
def AreLevels (stack : List Frame) : Prop :=
  stack.reverse.map Frame.level = List.range stack.length

theorem areLevels_cons_iff
    {frame : Frame} {below : List Frame} :
    AreLevels (frame :: below) ↔ AreLevels below ∧ frame.level = below.length := by
  rw [AreLevels, AreLevels, List.reverse_cons, List.map_append, List.length_cons,
    List.range_succ]
  constructor
  · intro equal
    have split := List.append_inj' equal rfl
    exact ⟨split.1, by simpa using split.2⟩
  · rintro ⟨levels, level⟩
    rw [levels, ← level]
    rfl

/-- An object on the way: the entries that are taken from it, and those that are not. -/
structure Visit where
  taken : List (Text × Value)
  pending : List (Text × Value)

/-- The entries of a visited object. -/
def Visit.entries (visit : Visit) : List (Text × Value) := visit.taken ++ visit.pending

/-- Visits of the objects on a path from the root, the innermost one first: the entry that was taken
last from an object holds the object below it. -/
inductive IsPath (root : List (Text × Value)) : List Visit → Prop where
  | left : IsPath root []
  | root {visit : Visit} : visit.entries = root → IsPath root [visit]
  | inner {visit outer : Visit} {outers : List Visit} {key : Text} :
      outer.taken.getLast? = some (key, .object visit.entries) →
        IsPath root (outer :: outers) → IsPath root (visit :: outer :: outers)

namespace IsPath

variable {root : List (Text × Value)} {visit : Visit} {visits : List Visit}

theorem tail
    (path : IsPath root (visit :: visits)) :
    IsPath root visits := by
  cases path with
  | root _ => exact .left
  | inner _ outer => exact outer

/-- Taking entries from the innermost object keeps the path. -/
theorem advance
    {further : Visit}
    (sameEntries : further.entries = visit.entries)
    (path : IsPath root (visit :: visits)) :
    IsPath root (further :: visits) := by
  cases path with
  | root isRoot => exact .root (sameEntries.trans isRoot)
  | inner last outer => exact .inner (sameEntries ▸ last) outer

end IsPath

/-- The open classes stand for the objects on a path from the root. -/
def StandsFor (root : List (Text × Value)) (stack : List Frame) : Prop :=
  ∃ visits : List Visit, visits.map Visit.pending = stack.map Frame.pending ∧ IsPath root visits

/-! ## Entries -/

mutual

/-- The entries that are reached from a value through entries of objects, in their order. -/
def reached : Value → List (Text × Value)
  | .object entries => reachedEntries entries
  | _ => []

/-- Entries of an object, each followed by those that are reached from its value. -/
def reachedEntries : List (Text × Value) → List (Text × Value)
  | [] => []
  | (key, v) :: rest => (key, v) :: (reached v ++ reachedEntries rest)

end

/-- Nothing is reached from entries that are no objects. -/
theorem reachedEntries_append
    {front : List (Text × Value)} (rest : List (Text × Value))
    (noObject : ∀ entry ∈ front, ∀ inner, entry.2 ≠ .object inner) :
    reachedEntries (front ++ rest) = front ++ reachedEntries rest := by
  induction front with
  | nil =>
      rfl
  | cons entry more induction =>
      rcases entry with ⟨key, v⟩
      rw [List.forall_mem_cons] at noObject
      rw [List.cons_append, reachedEntries, induction noObject.2, List.cons_append]
      cases v with
      | object inner => exact absurd rfl (noObject.1 inner)
      | _ => rfl

/-- The entries that are still to be taken by a loop. -/
def reachedStack (stack : List Frame) : List (Text × Value) :=
  stack.flatMap fun frame => reachedEntries frame.pending

/-! ## Braces -/

/-- The levels of the braces that lines leave open within others that are open already, the last one
first; there are none if a closing brace does not fit. -/
def unclosedWithin (outer : List Nat) : List Line → Option (List Nat)
  | [] => some outer
  | line :: rest =>
    if line.text = "\x7b" then unclosedWithin (line.level :: outer) rest
    else if line.text = "\x7d" then
      match outer with
      | [] => none
      | level :: outer => if line.level = level then unclosedWithin outer rest else none
    else unclosedWithin outer rest

/-- The levels of the braces that lines leave open, the last one first. -/
def unclosed (lines : List Line) : Option (List Nat) := unclosedWithin [] lines

theorem unclosedWithin_append
    (outer : List Nat) (lines more : List Line) :
    unclosedWithin outer (lines ++ more) =
      (unclosedWithin outer lines).bind fun inner => unclosedWithin inner more := by
  induction lines generalizing outer with
  | nil =>
      rfl
  | cons line rest induction =>
      simp only [List.cons_append, unclosedWithin, induction]
      split
      · rfl
      · split
        · cases outer with
          | nil => rfl
          | cons level others =>
              simp only
              split <;> rfl
        · rfl

theorem unclosedWithin_openLines
    {settings : Settings} {seed : Value} {level : Nat} {opening : List Line}
    (outer : List Nat)
    (opened : openLines settings seed level = .ok opening) :
    unclosedWithin outer opening = some (level :: outer) := by
  simp only [openLines, bind_eq_ok_iff] at opened
  rcases opened with ⟨_, _, name, _, equal⟩
  cases equal
  simp [unclosedWithin, classText, Text.ofString]

theorem unclosedWithin_closing
    (outer : List Nat) (level : Nat) :
    unclosedWithin (level :: outer) [⟨level, "\x7d"⟩] = some outer := by
  simp [unclosedWithin, Text.ofString]

/-! ## The invariant of the loop -/

/-- What holds at the start of a round, behind the rounds before it. -/
structure LoopInvariant (root : List (Text × Value)) (opening : List Line) (rounds : List Round)
    (walk : Walk) : Prop where
  levels : AreLevels walk.stack
  path : StandsFor root walk.stack
  braces :
    unclosed (opening ++ rounds.flatMap Round.own) = some (walk.stack.map Frame.level)
  emitted : walk.emitted.reverse = opening ++ rounds.flatMap Round.lines
  taken : rounds.flatMap Round.taken ++ reachedStack walk.stack = reachedEntries root
  count : rounds.length + stackWork walk.stack = 2 * objectCount (.object root) - 1

namespace LoopInvariant

variable {settings : Settings} {root : List (Text × Value)} {opening : List Line}
  {rounds : List Round} {round : Round} {walk next : Walk}

theorem start
    {seed : Value}
    (opened : openLines settings seed 0 = .ok opening) :
    LoopInvariant root opening [] ⟨opening.reverse, [⟨0, root⟩]⟩ where
  levels := rfl
  path := ⟨[⟨[], root⟩], rfl, .root rfl⟩
  braces := by simpa [unclosed] using unclosedWithin_openLines [] opened
  emitted := by simp
  taken := by simp [reachedStack]
  count := by simp only [stackWork, objectCount, List.length_nil]; omega

theorem levels_of_turns
    (levels : AreLevels walk.stack)
    (turns : Turns settings walk round next) :
    AreLevels next.stack := by
  cases turns with
  | closes _ =>
      exact (areLevels_cons_iff.mp levels).1
  | opens _ _ =>
      rcases areLevels_cons_iff.mp levels with ⟨below, level⟩
      exact areLevels_cons_iff.mpr
        ⟨areLevels_cons_iff.mpr ⟨below, level⟩, congrArg (· + 1) level⟩

theorem path_of_turns
    (path : StandsFor root walk.stack)
    (turns : Turns settings walk round next) :
    StandsFor root next.stack := by
  rcases path with ⟨visits, pendings, path⟩
  cases visits with
  | nil =>
      cases turns <;> cases pendings
  | cons visit outers =>
      rcases visit with ⟨taken, left⟩
      cases turns with
      | closes _ =>
          exact ⟨outers, (List.cons.inj pendings).2, path.tail⟩
      | @opens _ _ _ _ front nested _ _ _ =>
          rcases List.cons.inj pendings with ⟨rfl, others⟩
          let inner : Visit := ⟨[], nested.entries⟩
          let outer : Visit :=
            ⟨taken ++ front ++ [(nested.key, .object nested.entries)], nested.pending⟩
          have entered : outer.taken.getLast? = some (nested.key, .object inner.entries) := by
            simp [inner, outer, Visit.entries]
          refine ⟨inner :: outer :: outers, by simp [inner, outer, others],
            .inner entered (path.advance ?_)⟩
          simp [outer, Visit.entries]

theorem braces_of_turns
    (braces :
      unclosed (opening ++ rounds.flatMap Round.own) = some (walk.stack.map Frame.level))
    (turns : Turns settings walk round next) :
    unclosed (opening ++ (rounds ++ [round]).flatMap Round.own) =
      some (next.stack.map Frame.level) := by
  rw [List.flatMap_append, List.flatMap_singleton, ← List.append_assoc, unclosed,
    unclosedWithin_append, ← unclosed, braces, Option.bind_some]
  cases turns with
  | closes _ => exact unclosedWithin_closing _ _
  | opens _ opened => exact unclosedWithin_openLines _ opened

theorem taken_of_turns
    (turns : Turns settings walk round next) :
    round.taken ++ reachedStack next.stack = reachedStack walk.stack := by
  cases turns with
  | closes consumed =>
      rcases consume_split consumed with ⟨front, rfl, noObject⟩
      have all : reachedEntries front = front := by
        simpa [reachedEntries] using reachedEntries_append [] noObject
      simp [reachedStack, fromNested, all]
  | @opens _ _ _ _ front nested _ consumed _ =>
      rcases consume_split consumed with ⟨others, split, noObject⟩
      have sameFront : front = others := List.append_cancel_right split
      subst sameFront
      simp [reachedStack, reachedEntries_append _ noObject, reachedEntries, reached]

/-- Each round keeps the invariant. -/
theorem turn
    (holds : LoopInvariant root opening rounds walk)
    (turns : Turns settings walk round next) :
    LoopInvariant root opening (rounds ++ [round]) next where
  levels := levels_of_turns holds.levels turns
  path := path_of_turns holds.path turns
  braces := braces_of_turns holds.braces turns
  emitted := by
    have lines : next.emitted.reverse = walk.emitted.reverse ++ round.lines := by
      cases turns <;> simp [Round.lines]
    rw [lines, holds.emitted, List.flatMap_append, List.flatMap_singleton, List.append_assoc]
  taken := by
    rw [List.flatMap_append, List.flatMap_singleton, List.append_assoc, taken_of_turns turns]
    exact holds.taken
  count := by
    have isOpen : walk.stack ≠ [] := by cases turns <;> simp
    have work := step_work isOpen ((step_eq_ok_iff isOpen).mpr ⟨round, turns⟩)
    rw [← holds.count, List.length_append, List.length_singleton]
    omega

/-- The invariant holds at the start of every round. -/
theorem of_loops
    {seed : Value}
    (opened : openLines settings seed 0 = .ok opening)
    (loops : Loops settings ⟨opening.reverse, [⟨0, root⟩]⟩ rounds walk) :
    LoopInvariant root opening rounds walk := by
  induction loops with
  | start => exact .start opened
  | turn _ turns holds => exact holds.turn turns

end LoopInvariant

/-! ## The end of the loop -/

/-- A run goes on with rounds until the stack is empty or a step fails. -/
theorem exists_loops_of_run
    {settings : Settings} {start walk : Walk} {rounds : List Round} (steps : Nat)
    (loops : Loops settings start rounds walk)
    (enough : stackWork walk.stack = steps) :
    ∃ more last,
      Loops settings start (rounds ++ more) last ∧
        ((last.stack = [] ∧ run settings steps walk = .ok last) ∨
          ∃ error, last.stack ≠ [] ∧ step settings last = .error error ∧
            run settings steps walk = .error error) := by
  induction steps generalizing walk rounds with
  | zero =>
      have ended : run settings 0 walk = .ok walk := rfl
      exact ⟨[], walk, by simpa using loops, .inl ⟨run_stack enough ended, ended⟩⟩
  | succ steps induction =>
      have isOpen : walk.stack ≠ [] := by
        intro closed
        rw [closed] at enough
        cases enough
      cases stepped : step settings walk with
      | error error =>
          refine ⟨[], walk, by simpa using loops, .inr ⟨error, isOpen, stepped, ?_⟩⟩
          rw [run, stepped, error_bind]
      | ok next =>
          rcases (step_eq_ok_iff isOpen).mp stepped with ⟨round, turns⟩
          have work := step_work isOpen stepped
          rcases induction (loops.turn turns) (by omega) with ⟨more, last, further, ends⟩
          refine ⟨round :: more, last, by simpa using further, ?_⟩
          rw [run, stepped, ok_bind]
          exact ends

/-- The loop over the objects of a document, whose first class has been opened.

At the start of every round, the open classes have the levels from zero on and stand for a path of
objects from the root; the braces that the walk itself has opened and not closed are theirs; the
lines so far are those of the rounds, one after the other; what the rounds have taken and what is
still to be taken are the entries of all objects in order; and the number of rounds is bounded.

The loop ends.  If no step fails, there are twice as many rounds as objects, less one; the stack is
empty then, every entry has been taken once, and every brace is closed. -/
theorem objectLines_loops
    {settings : Settings} {root : List (Text × Value)} {seed : Value} {opening : List Line}
    (opened : openLines settings seed 0 = .ok opening) :
    (∀ walk next, walk.stack ≠ [] →
        (step settings walk = .ok next ↔ ∃ round, Turns settings walk round next)) ∧
      (∀ rounds walk, Loops settings ⟨opening.reverse, [⟨0, root⟩]⟩ rounds walk →
        LoopInvariant root opening rounds walk) ∧
      ∃ rounds last,
        Loops settings ⟨opening.reverse, [⟨0, root⟩]⟩ rounds last ∧
          match objectLines settings root seed with
          | .ok lines =>
            last.stack = [] ∧ lines = last.emitted.reverse ∧
              rounds.length = 2 * objectCount (.object root) - 1 ∧
              rounds.flatMap Round.taken = reachedEntries root ∧
              unclosed (opening ++ rounds.flatMap Round.own) = some []
          | .error error =>
            last.stack ≠ [] ∧ step settings last = .error error ∧
              rounds.length < 2 * objectCount (.object root) - 1 := by
  refine ⟨fun walk next => step_eq_ok_iff, fun rounds walk => .of_loops opened, ?_⟩
  let first : Walk := ⟨opening.reverse, [⟨0, root⟩]⟩
  have started : Loops settings first [] first := .start
  rcases exists_loops_of_run (2 * objectCountEntries root + 1) started
      (by simp [first, stackWork]) with
    ⟨rounds, last, loops, ends⟩
  rw [List.nil_append] at loops
  have holds := LoopInvariant.of_loops opened loops
  refine ⟨rounds, last, loops, ?_⟩
  rcases ends with ⟨closed, ran⟩ | ⟨error, isOpen, failed, ran⟩
  · have lines : objectLines settings root seed = .ok last.emitted.reverse := by
      rw [objectLines, opened, ok_bind, ran, ok_bind]
    rw [lines]
    have count := holds.count
    have taken := holds.taken
    have braces := holds.braces
    rw [closed] at count taken braces
    exact ⟨closed, rfl, count, by simpa [reachedStack] using taken, braces⟩
  · have lines : objectLines settings root seed = .error error := by
      rw [objectLines, opened, ok_bind, ran, error_bind]
    rw [lines]
    have count := holds.count
    refine ⟨isOpen, failed, ?_⟩
    cases stack : last.stack with
    | nil =>
        exact absurd stack isOpen
    | cons frame below =>
        rw [stack, stackWork] at count
        omega

/-- Entries with an object between two others, and an object inside of it. -/
def shipment : List (Text × Value) :=
  [("no", .integer 7),
    ("to", .object [("geo", .object []), ("zip", .text "N1")]),
    ("rows", .array [.null])]

/-- Three objects take five rounds. -/
theorem objectLines_loops_shipment :
    ∃ opening rounds last,
      openLines {} (.text "Order") 0 = .ok opening ∧
        Loops {} ⟨opening.reverse, [⟨0, shipment⟩]⟩ rounds last ∧
        last.stack = [] ∧ rounds.length = 5 ∧
        rounds.flatMap Round.taken =
          ([("no", .integer 7),
            ("to", .object [("geo", .object []), ("zip", .text "N1")]),
            ("geo", .object []),
            ("zip", .text "N1"),
            ("rows", .array [.null])] : List (Text × Value)) := by
  have opened :
      openLines {} (.text "Order") 0 = .ok [⟨0, "public class Order"⟩, ⟨0, "\x7b"⟩] := by
    rfl
  have succeeds : failure? (objectLines {} shipment (.text "Order")) = none := by
    rfl
  rcases failure?_eq_none_iff.mp succeeds with ⟨lines, isLines⟩
  rcases (@objectLines_loops _ shipment _ _ opened).2.2 with ⟨rounds, last, loops, ends⟩
  rw [isLines] at ends
  exact ⟨_, rounds, last, opened, loops, ends.1, ends.2.2.1, ends.2.2.2.1⟩

end Shapewright.Declaration
