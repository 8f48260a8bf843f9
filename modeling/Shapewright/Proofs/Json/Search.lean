import Mathlib.Algebra.Order.BigOperators.Group.List
import Mathlib.Algebra.Order.Group.Nat
import Mathlib.Data.List.Lex
import Shapewright.Proofs.Json.Completeness
import Shapewright.Proofs.Json.Document

/-!
# Which number the search finds

The search for numbers that are not finite is a loop on a stack.  Here it is given by its rounds,
without a bound on their number; it ends, and what it finds is the last such number of the document
in the order of the document.

A number has a position in the document: the indices of the children on the way to it.  An earlier
child comes before a later one, whatever is inside of them, so the order of the document is the
lexicographic order of the positions.

The numbers of a text are not those of its document.  Where an object repeats a key, only the last
value of the key is in the document, and nothing of the values before it is left to be found.
-/

namespace Shapewright.Value

/-! ## Positions -/

/-- The value at a position, which lists the indices of the children on the way to it. -/
def valueAt? : List Nat → Value → Option Value
  | [], v => some v
  | i :: position, v => v.children[i]?.bind (valueAt? position)

/-- A position of a value holds a NaN or an infinity. -/
structure HoldsNonFinite (v : Value) (position : List Nat) (x : Binary64) : Prop where
  found : valueAt? position v = some (.float x)
  nonFinite : x = .nan ∨ ∃ negative, x = .infinite negative

/-- No later position of a value holds a NaN or an infinity. -/
structure HoldsLast (v : Value) (position : List Nat) (x : Binary64) : Prop
    extends HoldsNonFinite v position x where
  last : ∀ later y, List.Lex (· < ·) position later → ¬HoldsNonFinite v later y

theorem isFinite_eq_false_iff
    {x : Binary64} :
    x.isFinite = false ↔ x = .nan ∨ ∃ negative, x = .infinite negative := by
  cases x <;> simp [Binary64.isFinite]

theorem holdsNonFinite_nil_iff
    {v : Value} {x : Binary64} :
    v.HoldsNonFinite [] x ↔ nonFinite? v = some x := by
  constructor
  · rintro ⟨found, nonFinite⟩
    cases found
    simp [nonFinite?, isFinite_eq_false_iff.mpr nonFinite]
  · intro isNumber
    cases v with
    | float y =>
        simp only [nonFinite?] at isNumber
        split at isNumber
        · cases isNumber
        next infinite =>
          cases isNumber
          exact ⟨rfl, isFinite_eq_false_iff.mp (by simpa using infinite)⟩
    | _ => cases isNumber

theorem holdsNonFinite_cons_iff
    {v : Value} {i : Nat} {position : List Nat} {x : Binary64} :
    v.HoldsNonFinite (i :: position) x ↔
      ∃ child, v.children[i]? = some child ∧ child.HoldsNonFinite position x := by
  constructor
  · rintro ⟨found, nonFinite⟩
    rcases Option.bind_eq_some_iff.mp found with ⟨child, isChild, found⟩
    exact ⟨child, isChild, found, nonFinite⟩
  · rintro ⟨child, isChild, found, nonFinite⟩
    exact ⟨by rw [valueAt?, isChild]; exact found, nonFinite⟩

/-- A value with children is no number. -/
theorem nonFinite?_of_children
    {v : Value}
    (children : v.children ≠ []) :
    nonFinite? v = none := by
  cases v with
  | float x => exact absurd rfl children
  | _ => rfl

/-- The numbers at the positions of a value are listed in the order of the document. -/
theorem HoldsNonFinite.mem
    {v : Value} {position : List Nat} {x : Binary64}
    (holds : v.HoldsNonFinite position x) :
    x ∈ v.nonFiniteNumbers := by
  induction position generalizing v with
  | nil =>
      rw [nonFiniteNumbers_of_nonFinite? (holdsNonFinite_nil_iff.mp holds)]
      exact List.mem_singleton_self x
  | cons i position induction =>
      rcases holdsNonFinite_cons_iff.mp holds with ⟨child, isChild, holdsChild⟩
      have member := List.mem_of_getElem? isChild
      rw [nonFiniteNumbers_of_children (nonFinite?_of_children (List.ne_nil_of_mem member))]
      exact List.mem_flatMap.mpr ⟨child, member, induction holdsChild⟩

theorem count_lt_of_mem_children
    {v child : Value}
    (member : child ∈ v.children) :
    child.count < v.count := by
  rw [count_eq_sum_children v]
  exact Nat.lt_succ_of_le (List.le_sum_of_mem (List.mem_map_of_mem member))

/-- What holds of a value if it holds of its children holds of every value. -/
@[elab_as_elim]
theorem inductionOnChildren
    {motive : Value → Prop} (v : Value)
    (step : ∀ v, (∀ child ∈ v.children, motive child) → motive v) :
    motive v :=
  step v fun child _ => inductionOnChildren child step
termination_by v.count
decreasing_by exact count_lt_of_mem_children ‹_›

/-- A number that is not finite has no positions below its own. -/
theorem not_holdsNonFinite_cons_of_number
    {v : Value} {x y : Binary64} {i : Nat} {position : List Nat}
    (number : nonFinite? v = some x) :
    ¬v.HoldsNonFinite (i :: position) y := by
  intro holds
  rcases holdsNonFinite_cons_iff.mp holds with ⟨child, isChild, _⟩
  have noNumber := nonFinite?_of_children (List.ne_nil_of_mem (List.mem_of_getElem? isChild))
  rw [number] at noNumber
  cases noNumber

/-- The last position below a child is the last position below the value, if the children behind
have no numbers that are not finite. -/
theorem HoldsLast.of_child
    {v child : Value} {earlier later : List Value} {position : List Nat} {x : Binary64}
    (children : v.children = earlier ++ child :: later)
    (holds : child.HoldsLast position x)
    (finite : ∀ w ∈ later, w.nonFiniteNumbers = []) :
    v.HoldsLast (earlier.length :: position) x := by
  have isChild : v.children[earlier.length]? = some child := by simp [children]
  refine ⟨holdsNonFinite_cons_iff.mpr ⟨child, isChild, holds.toHoldsNonFinite⟩,
    fun other y isLater holdsOther => ?_⟩
  cases isLater with
  | @rel _ _ j other behind =>
      rcases holdsNonFinite_cons_iff.mp holdsOther with ⟨found, isFound, holdsFound⟩
      rcases Nat.exists_eq_add_of_lt behind with ⟨k, rfl⟩
      have member : found ∈ later := by
        rw [children, List.getElem?_append_right (by omega), Nat.add_assoc,
          Nat.add_sub_cancel_left, List.getElem?_cons_succ] at isFound
        exact List.mem_of_getElem? isFound
      exact absurd (finite found member ▸ holdsFound.mem) List.not_mem_nil
  | cons isLater =>
      rcases holdsNonFinite_cons_iff.mp holdsOther with ⟨found, isFound, holdsFound⟩
      cases isChild.symm.trans isFound
      exact holds.last _ y isLater holdsFound

/-- The last number that is not finite stands at the last position that holds one. -/
theorem exists_holdsLast_of_getLast?
    (v : Value) {x : Binary64}
    (last : v.nonFiniteNumbers.getLast? = some x) :
    ∃ position, v.HoldsLast position x := by
  induction v using inductionOnChildren with
  | step v induction =>
      cases number : nonFinite? v with
      | some y =>
          rw [nonFiniteNumbers_of_nonFinite? number] at last
          cases last
          refine ⟨[], holdsNonFinite_nil_iff.mpr number, fun later z isLater => ?_⟩
          cases isLater
          exact not_holdsNonFinite_cons_of_number number
      | none =>
          rw [nonFiniteNumbers_of_children number, List.getLast?_flatMap,
            List.findSome?_eq_some_iff] at last
          rcases last with ⟨later, child, earlier, split, lastOfChild, finite⟩
          have children : v.children = earlier.reverse ++ child :: later.reverse := by
            rw [← List.reverse_reverse v.children, split]
            simp
          rcases induction child (by simp [children]) lastOfChild with ⟨position, holds⟩
          refine ⟨_, .of_child children holds fun w member => ?_⟩
          exact List.getLast?_eq_none_iff.mp (finite w (List.mem_reverse.mp member))

/-! ## The loop -/

/-- The loop of the search, with the number of its rounds and what it finds. -/
inductive Searches : List Value → Nat → Option Binary64 → Prop where
  | exhausted : Searches [] 0 none
  | found {v : Value} {rest : List Value} {x : Binary64} :
      nonFinite? v = some x → Searches (v :: rest) 1 (some x)
  | pushed {v : Value} {rest : List Value} {rounds : Nat} {outcome : Option Binary64} :
      nonFinite? v = none → Searches (v.children.reverse ++ rest) rounds outcome →
        Searches (v :: rest) (rounds + 1) outcome

/-- A round of the loop is determined by the stack. -/
theorem Searches.unique
    {stack : List Value} {rounds others : Nat} {outcome other : Option Binary64}
    (searches : Searches stack rounds outcome)
    (searchesToo : Searches stack others other) :
    others = rounds ∧ other = outcome := by
  induction searches generalizing others other with
  | exhausted =>
      cases searchesToo
      exact ⟨rfl, rfl⟩
  | found number =>
      cases searchesToo with
      | found numberToo => exact ⟨rfl, numberToo.symm.trans number⟩
      | pushed noNumber _ =>
          rw [number] at noNumber
          cases noNumber
  | pushed noNumber _ induction =>
      cases searchesToo with
      | found number =>
          rw [noNumber] at number
          cases number
      | pushed _ more =>
          rcases induction more with ⟨rfl, rfl⟩
          exact ⟨rfl, rfl⟩

/-- The loop ends: it looks at every value on the stack at most once. -/
theorem searches_searchNonFinite
    {fuel : Nat} {stack : List Value}
    (enough : (stack.map count).sum ≤ fuel) :
    ∃ rounds ≤ (stack.map count).sum, Searches stack rounds (searchNonFinite fuel stack) := by
  induction fuel generalizing stack with
  | zero =>
      cases stack with
      | nil => exact ⟨0, le_rfl, .exhausted⟩
      | cons v rest =>
          rw [← sum_count_pushed] at enough
          omega
  | succ fuel induction =>
      cases stack with
      | nil => exact ⟨0, le_rfl, .exhausted⟩
      | cons v rest =>
          rw [← sum_count_pushed] at enough ⊢
          rw [searchNonFinite]
          cases number : nonFinite? v with
          | some x => exact ⟨1, Nat.le_add_left _ _, .found number⟩
          | none =>
              rcases induction (Nat.le_of_succ_le_succ enough) with ⟨rounds, bound, searches⟩
              exact ⟨rounds + 1, Nat.succ_le_succ bound, .pushed number searches⟩

theorem searches_findNonFinite
    (v : Value) :
    ∃ rounds ≤ v.count, Searches [v] rounds v.findNonFinite := by
  have enough : ([v].map count).sum ≤ v.count := by simp
  rcases searches_searchNonFinite enough with ⟨rounds, bound, searches⟩
  exact ⟨rounds, bound.trans enough, searches⟩

/-! ## What the search finds -/

/-- The search meets the numbers of a document from the last one to the first. -/
theorem findNonFinite_eq_getLast?
    (v : Value) :
    v.findNonFinite = v.nonFiniteNumbers.getLast? := by
  rw [findNonFinite, searchNonFinite_eq_head? (by simp)]
  simp

theorem findNonFinite_eq_some_iff
    {v : Value} {x : Binary64} :
    v.findNonFinite = some x ↔ ∃ position, v.HoldsLast position x := by
  rw [findNonFinite_eq_getLast?]
  constructor
  · exact exists_holdsLast_of_getLast? v
  · rintro ⟨position, holds⟩
    cases last : v.nonFiniteNumbers.getLast? with
    | none =>
        have empty := List.getLast?_eq_none_iff.mp last
        exact absurd (empty ▸ holds.mem) List.not_mem_nil
    | some y =>
        rcases exists_holdsLast_of_getLast? v last with ⟨other, holdsOther⟩
        have same : other = position := by
          rcases Std.Trichotomous.rel_or_eq_or_rel_swap (r := List.Lex (· < ·))
            (a := other) (b := position) with isLater | same | isEarlier
          · exact absurd holds.toHoldsNonFinite (holdsOther.last position x isLater)
          · exact same
          · exact absurd holdsOther.toHoldsNonFinite (holds.last other y isEarlier)
        have found := holdsOther.found
        rw [same, holds.found] at found
        cases found
        rfl

theorem findNonFinite_ne_none_iff
    {v : Value} :
    v.findNonFinite ≠ none ↔ ∃ position x, v.HoldsNonFinite position x := by
  constructor
  · intro found
    rcases Option.ne_none_iff_exists'.mp found with ⟨x, isFound⟩
    rcases findNonFinite_eq_some_iff.mp isFound with ⟨position, holds⟩
    exact ⟨position, x, holds.toHoldsNonFinite⟩
  · rintro ⟨position, x, holds⟩ notFound
    exact absurd (findNonFinite_eq_none_iff.mp notFound ▸ holds.mem) List.not_mem_nil

/-! ## Repeated keys -/

theorem put_put
    (key : Text) (v w : Value) (entries : List (Text × Value)) :
    put key v (put key w entries) = put key v entries := by
  induction entries with
  | nil => simp [put]
  | cons entry rest induction =>
      rcases entry with ⟨other, u⟩
      by_cases same : other = key
      · simp [put, same]
      · simp [put, same, induction]

/-- The value of a key that is there may be set before or after that of another key. -/
theorem put_put_of_ne
    {key other : Text} {entries : List (Text × Value)} (v w : Value)
    (distinct : other ≠ key)
    (present : key ∈ entries.map (·.1)) :
    put other w (put key v entries) = put key v (put other w entries) := by
  induction entries with
  | nil => cases present
  | cons entry rest induction =>
      rcases entry with ⟨first, u⟩
      by_cases isKey : first = key
      · simp [put, isKey, distinct.symm]
      · have presentRest : key ∈ rest.map (·.1) := by
          simpa [Ne.symm isKey] using present
        by_cases isOther : first = other
        · simp [put, isOther, distinct]
        · simp [put, isKey, isOther, induction presentRest]

theorem mem_put
    {key other : Text} {v : Value} {entries : List (Text × Value)} :
    key ∈ (put other v entries).map (·.1) ↔ key = other ∨ key ∈ entries.map (·.1) := by
  induction entries with
  | nil => simp [put]
  | cons entry rest induction =>
      rcases entry with ⟨first, u⟩
      by_cases same : first = other
      · simp [put, same]
      · simp only [put, same, if_false, List.map_cons, List.mem_cons, induction]
        tauto

/-- A value that is set and then set again leaves nothing behind. -/
theorem foldl_put_overwritten
    {key : Text} {members entries : List (Text × Value)} (v : Value)
    (present : key ∈ entries.map (·.1))
    (later : key ∈ members.map (·.1)) :
    members.foldl (fun entries member => put member.1 member.2 entries) (put key v entries) =
      members.foldl (fun entries member => put member.1 member.2 entries) entries := by
  induction members generalizing entries with
  | nil => cases later
  | cons member rest induction =>
      rcases member with ⟨other, w⟩
      by_cases same : other = key
      · simp only [List.foldl_cons, same, put_put]
      · have laterRest : key ∈ rest.map (·.1) := by
          simpa [Ne.symm same] using later
        simp only [List.foldl_cons]
        rw [put_put_of_ne v w same present]
        exact induction (mem_put.mpr (.inr present)) laterRest

/-- The value of a member whose key comes again makes no difference to the object. -/
theorem entriesOf_overwritten
    {key : Text} {before after : List (Text × Value)} (v w : Value)
    (later : key ∈ after.map (·.1)) :
    entriesOf (before ++ (key, v) :: after) = entriesOf (before ++ (key, w) :: after) := by
  have erased : ∀ u, entriesOf (before ++ (key, u) :: after) =
      after.foldl (fun entries member => put member.1 member.2 entries)
        (put key .null (entriesOf before)) := by
    intro u
    have present : key ∈ (put key .null (entriesOf before)).map (·.1) := mem_put.mpr (.inl rfl)
    rw [← foldl_put_overwritten u present later, put_put, entriesOf, List.foldl_append,
      List.foldl_cons]
    rfl
  rw [erased v, erased w]

end Shapewright.Value

namespace Shapewright.Json

/-! ## Documents -/

/-- A text that can be read is judged by the search. -/
theorem parse_of_read
    {t : Text} {v : Value}
    (reading : read t.trimBlanks = .ok v) :
    parse t =
      match v.findNonFinite with
      | some x => .error (.nonFinite x)
      | none => .ok v := by
  have nonempty : t.trimBlanks.isEmpty = false := by
    cases trimmed : t.trimBlanks with
    | nil =>
        rw [trimmed] at reading
        cases reading
    | cons c rest => rfl
  simp only [parse, nonempty, reading]
  rfl

/-- A text that cannot be read is refused for that, or for being empty. -/
theorem parse_of_read_error
    {t : Text} {error : ReadError}
    (reading : read t.trimBlanks = .error error) :
    t.trimBlanks = [] ∧ parse t = .error .empty ∨ parse t = .error (.unreadable error) := by
  cases nonempty : t.trimBlanks.isEmpty with
  | true => exact .inl ⟨List.isEmpty_iff.mp nonempty, by simp [parse, nonempty]⟩
  | false => exact .inr (by simp [parse, nonempty, reading])

theorem parse_eq_nonFinite_iff
    {t : Text} {x : Binary64} :
    parse t = .error (.nonFinite x) ↔
      ∃ v, read t.trimBlanks = .ok v ∧ v.findNonFinite = some x := by
  cases reading : read t.trimBlanks with
  | error error => rcases parse_of_read_error reading with ⟨_, parsed⟩ | parsed <;> simp [parsed]
  | ok v => cases found : v.findNonFinite <;> simp [parse_of_read reading, found]

theorem findNonFinite_of_parse
    {t : Text} {v : Value}
    (parsed : parse t = .ok v) :
    v.findNonFinite = none := by
  cases reading : read t.trimBlanks with
  | error error =>
      rcases parse_of_read_error reading with ⟨_, refused⟩ | refused <;>
        rw [refused] at parsed <;>
        cases parsed
  | ok w =>
      rw [parse_of_read reading] at parsed
      cases found : w.findNonFinite with
      | some x =>
          rw [found] at parsed
          cases parsed
      | none =>
          rw [found] at parsed
          cases parsed
          exact found

/-- The reader is what decides on a text of a value whose numbers are all finite. -/
theorem parse_of_derivesSpaced
    {t : Text} {v : Value}
    (derives : Grammar.lenient.DerivesSpaced v t.trimBlanks)
    (finite : v.findNonFinite = none) :
    parse t = .ok v ∨ ∃ error, error.IsLimit ∧ parse t = .error (.unreadable error) := by
  rcases gives_read derives with reading | ⟨error, reading, limit⟩
  · left
    rw [parse_of_read reading, finite]
  · rcases parse_of_read_error reading with ⟨empty, _⟩ | refused
    · -- No limit is in the way of an empty text.
      rw [empty] at reading
      cases reading
      cases limit
    · exact .inr ⟨error, limit, refused⟩

/-- The search for numbers that are not finite, in every value and in every text.

The loop ends, whatever it is given, and has one outcome.  It finds a number exactly if some
position holds a NaN or an infinity, and what it finds is at the last such position, which is the
last such number that a traversal in the order of the document meets.

So no position in the document of a text holds such a number, and a text is refused for the last one
that the value of the text holds.  A text of a value without such numbers is refused only at a limit
of the reader, whatever members its objects have overwritten: these leave no trace in the value. -/
theorem findNonFinite_reports_last :
    (∀ v : Value,
        (∃ rounds ≤ v.count, Value.Searches [v] rounds v.findNonFinite) ∧
        (∀ rounds outcome, Value.Searches [v] rounds outcome →
          rounds ≤ v.count ∧ outcome = v.findNonFinite) ∧
        (v.findNonFinite ≠ none ↔ ∃ position x, v.HoldsNonFinite position x) ∧
        (∀ x, v.findNonFinite = some x ↔ ∃ position, v.HoldsLast position x) ∧
        v.findNonFinite = v.nonFiniteNumbers.getLast?) ∧
      (∀ t v, parse t = .ok v → ∀ position x, ¬v.HoldsNonFinite position x) ∧
      (∀ t x, parse t = .error (.nonFinite x) ↔
        ∃ v, read t.trimBlanks = .ok v ∧ ∃ position, v.HoldsLast position x) ∧
      (∀ t v, Grammar.lenient.DerivesSpaced v t.trimBlanks →
        (∀ position x, ¬v.HoldsNonFinite position x) →
          parse t = .ok v ∨ ∃ error, error.IsLimit ∧ parse t = .error (.unreadable error)) ∧
      ∀ (key : Text) (before after : List (Text × Value)) (v w : Value),
        key ∈ after.map (·.1) →
          Value.entriesOf (before ++ (key, v) :: after) =
            Value.entriesOf (before ++ (key, w) :: after) := by
  have holdsNone :
      ∀ v : Value, (∀ position x, ¬v.HoldsNonFinite position x) ↔ v.findNonFinite = none := by
    intro v
    rw [← not_iff_not, ← ne_eq, Value.findNonFinite_ne_none_iff]
    push Not
    rfl
  refine ⟨fun v => ?_, fun t v parsed => (holdsNone v).mpr (findNonFinite_of_parse parsed),
    fun t x => ?_,
    fun t v derives finite => parse_of_derivesSpaced derives ((holdsNone v).mp finite),
    fun key before after v w => Value.entriesOf_overwritten v w⟩
  · rcases Value.searches_findNonFinite v with ⟨rounds, bound, searches⟩
    refine ⟨⟨rounds, bound, searches⟩, fun others outcome searchesToo => ?_,
      Value.findNonFinite_ne_none_iff, fun x => Value.findNonFinite_eq_some_iff,
      Value.findNonFinite_eq_getLast? v⟩
    rcases searches.unique searchesToo with ⟨rfl, same⟩
    exact ⟨bound, same⟩
  · simp only [parse_eq_nonFinite_iff, Value.findNonFinite_eq_some_iff]

/-- The infinity comes behind the NaN, though it is one level deeper. -/
example :
    (Value.array [.float .nan, .array [.null, .float (.infinite true)], .null]).findNonFinite =
      some (.infinite true) := by
  rfl

end Shapewright.Json
