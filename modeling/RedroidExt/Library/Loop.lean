import Mathlib.Logic.Basic

/-!
# Loops with an early exit

The body of a `while` or `for` loop is one function: it either goes round again
with a new state or leaves the loop with a result. `run` bounds the number of
rounds; `Returns` is the statement without a bound.
-/

namespace RedroidExt.Library.Loop

set_option autoImplicit false

variable {State Result : Type*}

/-- At most `rounds` evaluations of the body; `none` when they do not suffice. -/
def run (body : State → State ⊕ Result) : Nat → State → Option Result
  | 0, _ => none
  | rounds + 1, state =>
      match body state with
      | .inl next => run body rounds next
      | .inr result => some result

def Returns (body : State → State ⊕ Result) (state : State) (result : Result) : Prop :=
  ∃ rounds, run body rounds state = some result

theorem run_next {body : State → State ⊕ Result} {state next : State}
    (again : body state = .inl next) (rounds : Nat) :
    run body (rounds + 1) state = run body rounds next := by
  simp only [run, again]

theorem run_exit {body : State → State ⊕ Result} {state : State} {result : Result}
    (leave : body state = .inr result) (rounds : Nat) :
    run body (rounds + 1) state = some result := by
  simp only [run, leave]

theorem returns_exit {body : State → State ⊕ Result} {state : State} {result : Result}
    (leave : body state = .inr result) : Returns body state result :=
  ⟨1, run_exit leave 0⟩

theorem returns_next {body : State → State ⊕ Result} {state next : State} {result : Result}
    (again : body state = .inl next) (rest : Returns body next result) :
    Returns body state result := by
  obtain ⟨rounds, finished⟩ := rest
  exact ⟨rounds + 1, (run_next again rounds).trans finished⟩

theorem run_add {body : State → State ⊕ Result} {state : State} {result : Result}
    {rounds : Nat} (finished : run body rounds state = some result) (extra : Nat) :
    run body (rounds + extra) state = some result := by
  induction rounds generalizing state with
  | zero => simp [run] at finished
  | succ rounds ih =>
      rw [Nat.add_right_comm]
      cases taken : body state with
      | inl next =>
          rw [run_next taken] at finished ⊢
          exact ih finished
      | inr value =>
          rw [run_exit taken] at finished ⊢
          exact finished

theorem returns_unique {body : State → State ⊕ Result} {state : State} {first second : Result}
    (left : Returns body state first) (right : Returns body state second) : first = second := by
  obtain ⟨leftRounds, leftRun⟩ := left
  obtain ⟨rightRounds, rightRun⟩ := right
  have extendedLeft := run_add leftRun rightRounds
  have extendedRight := run_add rightRun leftRounds
  rw [Nat.add_comm rightRounds leftRounds, extendedLeft] at extendedRight
  exact Option.some.inj extendedRight

/-- A measure that every further round decreases bounds the number of rounds. -/
theorem run_some_of_measure {body : State → State ⊕ Result} (measure : State → Nat)
    (decreases : ∀ state next, body state = .inl next → measure next < measure state)
    (state : State) (rounds : Nat) (enough : measure state < rounds) :
    ∃ result, run body rounds state = some result := by
  induction rounds generalizing state with
  | zero => omega
  | succ rounds ih =>
      cases taken : body state with
      | inl next =>
          rw [run_next taken]
          have smaller := decreases state next taken
          exact ih next (by omega)
      | inr value => exact ⟨value, run_exit taken rounds⟩

/-- With enough rounds for the measure, the bounded run is the loop's result. -/
theorem run_eq_of_returns {body : State → State ⊕ Result} (measure : State → Nat)
    (decreases : ∀ state next, body state = .inl next → measure next < measure state)
    {state : State} {result : Result} (returned : Returns body state result)
    (rounds : Nat) (enough : measure state < rounds) : run body rounds state = some result := by
  obtain ⟨value, finished⟩ := run_some_of_measure measure decreases state rounds enough
  rw [finished, returns_unique ⟨rounds, finished⟩ returned]

/-- The loop rule: an invariant of the rounds gives the postcondition of the exit. -/
theorem run_invariant {body : State → State ⊕ Result} (invariant : State → Prop)
    (post : Result → Prop)
    (keeps : ∀ state next, invariant state → body state = .inl next → invariant next)
    (exits : ∀ state result, invariant state → body state = .inr result → post result)
    {state : State} (start : invariant state) {rounds : Nat} {result : Result}
    (finished : run body rounds state = some result) : post result := by
  induction rounds generalizing state with
  | zero => simp [run] at finished
  | succ rounds ih =>
      cases taken : body state with
      | inl next =>
          rw [run_next taken] at finished
          exact ih (keeps state next start taken) finished
      | inr value =>
          rw [run_exit taken] at finished
          exact exits state result start (taken.trans (congrArg Sum.inr (Option.some.inj finished)))

/-! ## Visited states -/

/-- The states in which the body is evaluated. -/
inductive Visits (body : State → State ⊕ Result) (start : State) : State → Prop
  | first : Visits body start start
  | later {state next : State} (before : Visits body start state)
      (again : body state = .inl next) : Visits body start next

theorem visits_trans {body : State → State ⊕ Result} {start middle state : State}
    (before : Visits body start middle) (after : Visits body middle state) :
    Visits body start state := by
  induction after with
  | first => exact before
  | later _ again ih => exact .later ih again

/-- The loop rule for the states that are visited. -/
theorem visits_invariant {body : State → State ⊕ Result} {start state : State}
    (invariant : State → Prop) (first : invariant start)
    (keeps : ∀ state next, invariant state → body state = .inl next → invariant next)
    (visited : Visits body start state) : invariant state := by
  induction visited with
  | first => exact first
  | later _ again ih => exact keeps _ _ ih again

/-- What a visited state leaves the loop with is the loop's result. -/
theorem returns_of_visits {body : State → State ⊕ Result} {start state : State} {result : Result}
    (visited : Visits body start state) (returned : Returns body state result) :
    Returns body start result := by
  induction visited with
  | first => exact returned
  | later _ again ih => exact ih (returns_next again returned)

/-- A loop that returns does so in a visited state. -/
theorem visits_of_returns {body : State → State ⊕ Result} {start : State} {result : Result}
    (returned : Returns body start result) :
    ∃ last, Visits body start last ∧ body last = .inr result := by
  obtain ⟨rounds, finished⟩ := returned
  refine run_invariant (Visits body start)
    (fun result => ∃ last, Visits body start last ∧ body last = .inr result) ?_ ?_ .first finished
  · exact fun state next before again => .later before again
  · exact fun state result before leaves => ⟨state, before, leaves⟩

/-- Bodies that agree on the visited states return the same. -/
theorem returns_congr {left right : State → State ⊕ Result} {start : State} {result : Result}
    (same : ∀ state, Visits left start state → left state = right state)
    (returned : Returns left start result) : Returns right start result := by
  obtain ⟨last, visited, leaves⟩ := visits_of_returns returned
  have followed : ∀ state, Visits left start state → Visits right start state := by
    intro state visited
    induction visited with
    | first => exact .first
    | later before again ih => exact .later ih ((same _ before).symm.trans again)
  exact returns_of_visits (followed last visited)
    (returns_exit ((same last visited).symm.trans leaves))

/-! ## Loops over a list -/

section Items

variable {Item : Type*} {Progress : Type} {body : Progress → Item → Option Progress}

/-- A loop whose body does nothing for any of the items. -/
theorem foldlM_idle {items : List Item}
    (idle : ∀ item ∈ items, ∀ state, body state item = some state) (state : Progress) :
    items.foldlM body state = some state := by
  induction items with
  | nil => rfl
  | cons first rest ih =>
      rw [List.foldlM_cons, idle first List.mem_cons_self]
      exact ih fun item member => idle item (List.mem_cons_of_mem _ member)

/-- A loop whose body does something for one of the items only. -/
theorem foldlM_only {items : List Item} {member : Item} (distinct : items.Nodup)
    (present : member ∈ items)
    (idle : ∀ other, other ≠ member → ∀ state, body state other = some state)
    (state : Progress) : items.foldlM body state = body state member := by
  induction items with
  | nil => cases present
  | cons first rest ih =>
      rcases List.nodup_cons.mp distinct with ⟨fresh, distinct⟩
      rw [List.foldlM_cons]
      rcases List.mem_cons.mp present with same | later
      · subst same
        cases body state member with
        | none => rfl
        | some next =>
            apply foldlM_idle
            intro item here
            apply idle
            rintro rfl
            exact fresh here
      · rw [idle first fun same => fresh (same ▸ later)]
        exact ih distinct later

end Items

section Reading

variable {Item Value Abstract Thrown : Type} {Progress : Type}

/-- Read the items in order; an item may have no value, and what is thrown ends the reading. -/
def readAll (read : Item → Except Thrown (Option Value)) : List Item → Except Thrown (List Value)
  | [] => .ok []
  | item :: rest => do
      let value ← read item
      let values ← readAll read rest
      return value.toList ++ values

/-- Both throw the same, or both return and the results are related. -/
inductive Agree {Result : Type} (related : Progress → Result → Prop) :
    Except Thrown Progress → Except Thrown Result → Prop
  | ok {state : Progress} {result : Result} (holds : related state result) :
      Agree related (.ok state) (.ok result)
  | error (thrown : Thrown) : Agree related (.error thrown) (.error thrown)

/-- A loop whose body reads its item, and for the rest follows a loop that throws nothing. -/
theorem foldlM_simulates {body : Progress → Item → Except Thrown Progress}
    {read : Item → Except Thrown (Option Value)} {take : Abstract → Value → Abstract}
    {related : Progress → Abstract → Prop}
    (step : ∀ state abstract item, related state abstract →
      Agree (fun next value => related next (value.toList.foldl take abstract))
        (body state item) (read item))
    (items : List Item) {state : Progress} {abstract : Abstract}
    (start : related state abstract) :
    Agree (fun last values => related last (values.foldl take abstract))
      (items.foldlM body state) (readAll read items) := by
  induction items generalizing state abstract with
  | nil => exact .ok start
  | cons item rest ih =>
      rw [List.foldlM_cons, readAll]
      have first := step state abstract item start
      generalize body state item = next at first
      generalize read item = value at first
      cases first with
      | error thrown => exact .error thrown
      | @ok next value holds =>
          have later := ih holds
          change Agree _ (rest.foldlM body next)
            ((readAll read rest).bind fun values => .ok (value.toList ++ values))
          generalize rest.foldlM body next = last at later
          generalize readAll read rest = values at later
          cases later with
          | error thrown => exact .error thrown
          | ok holds =>
              apply Agree.ok
              rw [List.foldl_append]
              exact holds

end Reading

end RedroidExt.Library.Loop
