import Mathlib.Logic.Basic

/-!
# Labelled transition systems

States reachable from the initial ones, the invariant rule, and the same system
with its steps restricted to the allowed ones.
-/

namespace RedroidExt.Library

set_option autoImplicit false

structure TransitionSystem (State Label : Type*) where
  initial : State → Prop
  step : State → Label → State → Prop

namespace TransitionSystem

variable {State Label : Type*} (system : TransitionSystem State Label)

inductive Reachable : State → Prop
  | start {state : State} (first : system.initial state) : Reachable state
  | next {state after : State} {label : Label} (before : Reachable state)
      (taken : system.step state label after) : Reachable after

/-- Only the steps that `allowed` admits. -/
def restrict (allowed : State → Label → Prop) : TransitionSystem State Label where
  initial := system.initial
  step := fun state label after => allowed state label ∧ system.step state label after

variable {system}

theorem reachable_invariant (invariant : State → Prop)
    (first : ∀ state, system.initial state → invariant state)
    (keeps : ∀ state label after, invariant state → system.step state label after →
      invariant after)
    {state : State} (reached : system.Reachable state) : invariant state := by
  induction reached with
  | start initial => exact first _ initial
  | next _ taken ih => exact keeps _ _ _ ih taken

/-! ## Executable runs -/

/-- Every step of the run passes the check. -/
def checkRun (next : State → Label → State) (check : State → Label → Bool) :
    State → List Label → Bool
  | _, [] => true
  | state, label :: rest => check state label && checkRun next check (next state label) rest

/-- A run whose steps are computed and checked reaches the state it ends in. -/
theorem reachable_of_check (system : TransitionSystem State Label) (next : State → Label → State)
    (check : State → Label → Bool) (labels : List Label)
    (steps : ∀ state, ∀ label ∈ labels, check state label = true →
      system.step state label (next state label))
    {state : State} (reached : system.Reachable state)
    (checked : checkRun next check state labels = true) :
    system.Reachable (labels.foldl next state) := by
  induction labels generalizing state with
  | nil => exact reached
  | cons label rest ih =>
      obtain ⟨first, later⟩ := Bool.and_eq_true_iff.mp checked
      have stepped := steps state label List.mem_cons_self first
      refine ih ?_ (.next reached stepped) later
      intro state other member
      exact steps state other (List.mem_cons_of_mem _ member)

/-- The system whose steps are computed; a label without a step is blocked. -/
def ofNext (first : State → Prop) (next : State → Label → Option State) :
    TransitionSystem State Label where
  initial := first
  step := fun state label after => next state label = some after

/-- What a computed run ends in is reachable when its start is. -/
theorem reachable_of_run {first : State → Prop} {next : State → Label → Option State}
    (labels : List Label) {state after : State}
    (reached : (ofNext first next).Reachable state)
    (taken : labels.foldlM next state = some after) : (ofNext first next).Reachable after := by
  induction labels generalizing state with
  | nil =>
      rw [List.foldlM_nil] at taken
      exact Option.some.inj taken ▸ reached
  | cons label rest ih =>
      rw [List.foldlM_cons] at taken
      cases stepped : next state label with
      | none => simp [stepped] at taken
      | some middle =>
          rw [stepped] at taken
          exact ih (.next reached stepped) taken

end TransitionSystem

end RedroidExt.Library
