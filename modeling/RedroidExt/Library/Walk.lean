import Mathlib.Data.Nat.Basic

/-!
# Walks along positions in a buffer

The loop `for (p = start; p; p = next(p)) body(p)`, where the body may change what
`next` reads. If it never changes what steers the walk, the loop is a fold over the
positions of the undisturbed walk. A walk that never goes back ends unless it
reaches a position that is its own successor.
-/

namespace RedroidExt.Library.Walk

set_option autoImplicit false

/-- At most `rounds` tests of the position; `none` when they do not suffice. -/
def forEach {State : Type*} (next : State → Nat → Option Nat) (body : Nat → State → State) :
    Nat → Option Nat → State → Option State
  | 0, _, _ => none
  | _ + 1, none, state => some state
  | rounds + 1, some position, state =>
      let after := body position state
      forEach next body rounds (next after position) after

/-- The positions of a walk, in order. -/
def positions (next : Nat → Option Nat) : Nat → Option Nat → Option (List Nat)
  | 0, _ => none
  | _ + 1, none => some []
  | rounds + 1, some position =>
      (positions next rounds (next position)).map fun later => position :: later

inductive Visits (next : Nat → Option Nat) (start : Option Nat) : Nat → Prop
  | first {position : Nat} (starts : start = some position) : Visits next start position
  | later {position after : Nat} (before : Visits next start position)
      (moved : next position = some after) : Visits next start after

def Ends (next : Nat → Option Nat) (start : Option Nat) : Prop :=
  ∃ rounds, (positions next rounds start).isSome = true

section Loop

variable {State : Type*} {next : State → Nat → Option Nat} {body : Nat → State → State}
variable {fixed : Nat → Option Nat} (onPath : Nat → Prop) (agrees : State → Prop)

/-- A body that keeps what `next` reads at the positions of the walk leaves the walk alone. -/
theorem for_each_eq_foldl
    (closed : ∀ position after, onPath position → fixed position = some after → onPath after)
    (keeps : ∀ position state, onPath position → agrees state → agrees (body position state))
    (reads : ∀ position state, onPath position → agrees state →
      next state position = fixed position)
    (rounds : Nat) {start : Option Nat} (starts : ∀ position, start = some position → onPath position)
    {state : State} (before : agrees state) :
    forEach next body rounds start state =
      (positions fixed rounds start).map fun visited =>
        visited.foldl (fun state position => body position state) state := by
  induction rounds generalizing start state with
  | zero => rfl
  | succ rounds ih =>
      cases start with
      | none => rfl
      | some position =>
          have here := starts position rfl
          have after := keeps position state here before
          have behind := ih (fun later moved => closed position later here moved) after
          simp only [forEach, positions, Option.map_map]
          rw [reads position _ here after, behind]
          rfl

end Loop

section Ends

variable {next : Nat → Option Nat} {bound : Nat}

theorem ends_none : Ends next none := ⟨1, rfl⟩

theorem ends_some_iff (position : Nat) :
    Ends next (some position) ↔ Ends next (next position) := by
  constructor
  · intro ends
    rcases ends with ⟨rounds, finished⟩
    cases rounds with
    | zero => cases finished
    | succ rounds => exact ⟨rounds, by simpa only [positions, Option.isSome_map] using finished⟩
  · intro ends
    rcases ends with ⟨rounds, finished⟩
    exact ⟨rounds + 1, by simpa only [positions, Option.isSome_map] using finished⟩

/-- A position that is its own successor is visited forever. -/
theorem stuck_not_ends {position : Nat} (stuck : next position = some position) :
    ¬ Ends next (some position) := by
  intro ends
  rcases ends with ⟨rounds, finished⟩
  induction rounds with
  | zero => cases finished
  | succ rounds ih =>
      simp only [positions, Option.isSome_map, stuck] at finished
      exact ih finished

theorem visits_some_iff {start position : Nat} :
    Visits next (some start) position ↔ position = start ∨ Visits next (next start) position := by
  constructor
  · intro visited
    induction visited with
    | first starts => exact .inl (Option.some.inj starts).symm
    | later _ moved ih =>
        right
        rcases ih with same | later
        · exact .first (by rw [← same]; exact moved)
        · exact .later later moved
  · intro found
    rcases found with same | visited
    · exact .first (congrArg some same.symm)
    · induction visited with
      | first starts => exact .later (.first rfl) starts
      | later _ moved ih => exact .later ih moved

theorem not_visits_none (position : Nat) : ¬ Visits next none position := by
  intro visits
  induction visits with
  | first starts => cases starts
  | later _ _ never => exact never

/-- The positions of a walk that ends are the visited ones. -/
theorem mem_positions_iff {rounds : Nat} {start : Option Nat} {visited : List Nat}
    (walked : positions next rounds start = some visited) (position : Nat) :
    position ∈ visited ↔ Visits next start position := by
  induction rounds generalizing start visited with
  | zero => cases walked
  | succ rounds ih =>
      cases start with
      | none =>
          rw [← Option.some.inj walked]
          constructor
          · exact fun member => nomatch member
          · exact fun visits => absurd visits (not_visits_none position)
      | some first =>
          obtain ⟨later, rest, same⟩ := Option.map_eq_some_iff.mp walked
          rw [← same, List.mem_cons, ih rest, visits_some_iff]

/-- A position of a walk that ends is not its own successor. -/
theorem moves_of_ends {start : Option Nat} (ends : Ends next start) {position : Nat}
    (visited : Visits next start position) : next position ≠ some position := by
  have endsHere : Ends next (some position) := by
    induction visited with
    | first starts => exact starts ▸ ends
    | later _ moved ih =>
        rw [← moved]
        exact (ends_some_iff _).mp ih
  exact fun stuck => stuck_not_ends stuck endsHere

/-- A bounded walk that never goes back ends when every step moves on. -/
theorem ends_of_moves (forward : ∀ position after, next position = some after →
      position ≤ after ∧ after < bound) {start : Option Nat}
    (moves : ∀ position, Visits next start position → next position ≠ some position) :
    Ends next start := by
  cases start with
  | none => exact ends_none
  | some position =>
      induction distance : bound - position using Nat.strong_induction_on generalizing position with
      | h distance ih =>
          rw [ends_some_iff]
          cases moved : next position with
          | none => exact ends_none
          | some after =>
              obtain ⟨notBack, inside⟩ := forward position after moved
              have on : after ≠ position := by
                intro same
                exact moves position (.first rfl) (same ▸ moved)
              refine ih (bound - after) (by omega) after ?_ rfl
              intro later visited
              apply moves
              rw [visits_some_iff, moved]
              exact .inr visited

theorem ends_iff (forward : ∀ position after, next position = some after →
      position ≤ after ∧ after < bound) (start : Option Nat) :
    Ends next start ↔ ∀ position, Visits next start position → next position ≠ some position :=
  ⟨fun ends _ visited => moves_of_ends ends visited, ends_of_moves forward⟩

end Ends

end RedroidExt.Library.Walk
