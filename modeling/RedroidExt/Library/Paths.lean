import RedroidExt.Library.TransitionSystem

/-!
# Paths of a transition system

The labels that are taken one after the other from any state, not only from an
initial one: what can still happen, and what can no longer.
-/

namespace RedroidExt.Library.TransitionSystem

set_option autoImplicit false

variable {State Label : Type*}

inductive Takes (system : TransitionSystem State Label) (start : State) :
    List Label → State → Prop
  | stops : Takes system start [] start
  | goes {labels : List Label} {label : Label} {state after : State}
      (before : Takes system start labels state) (taken : system.step state label after) :
      Takes system start (labels ++ [label]) after

variable {system : TransitionSystem State Label}

theorem takes_append {start middle state : State} {first second : List Label}
    (before : system.Takes start first middle) (behind : system.Takes middle second state) :
    system.Takes start (first ++ second) state := by
  induction behind with
  | stops =>
      rw [List.append_nil]
      exact before
  | goes _ taken ih =>
      rw [← List.append_assoc]
      exact .goes ih taken

theorem takes_invariant (invariant : State → Prop)
    (keeps : ∀ state label after, invariant state → system.step state label after →
      invariant after)
    {start state : State} {labels : List Label} (first : invariant start)
    (path : system.Takes start labels state) : invariant state := by
  induction path with
  | stops => exact first
  | goes _ taken ih => exact keeps _ _ _ ih taken

/-- The invariant rule for paths on which only some labels occur. -/
theorem takes_keeps (invariant : State → Prop) (admitted : Label → Prop)
    (keeps : ∀ state label after, invariant state → admitted label →
      system.step state label after → invariant after)
    {start state : State} {labels : List Label} (first : invariant start)
    (path : system.Takes start labels state) (all : ∀ label ∈ labels, admitted label) :
    invariant state := by
  induction path with
  | stops => exact first
  | @goes labels label before after path taken ih =>
      have earlier := ih fun other member => all other (List.mem_append_left _ member)
      exact keeps _ _ _ earlier (all label (List.mem_append_right _ List.mem_cons_self)) taken

theorem reachable_of_takes {start state : State} {labels : List Label}
    (reached : system.Reachable start) (path : system.Takes start labels state) :
    system.Reachable state := by
  induction path with
  | stops => exact reached
  | goes _ taken ih => exact .next ih taken

/-- A run whose steps are computed and checked is a path. -/
theorem takes_of_check (system : TransitionSystem State Label) (next : State → Label → State)
    (check : State → Label → Bool)
    (steps : ∀ state label, check state label = true →
      system.step state label (next state label))
    (labels : List Label) {start : State} (checked : checkRun next check start labels = true) :
    system.Takes start labels (labels.foldl next start) := by
  induction labels generalizing start with
  | nil => exact .stops
  | cons label rest ih =>
      rcases Bool.and_eq_true_iff.mp checked with ⟨first, later⟩
      have one : system.Takes start [label] (next start label) := .goes .stops (steps _ _ first)
      exact takes_append one (ih later)

/-- A computed run is a path. -/
theorem takes_of_run {first : State → Prop} {next : State → Label → Option State}
    (labels : List Label) {start after : State} (taken : labels.foldlM next start = some after) :
    (ofNext first next).Takes start labels after := by
  induction labels generalizing start with
  | nil =>
      rw [List.foldlM_nil] at taken
      exact Option.some.inj taken ▸ .stops
  | cons label rest ih =>
      rw [List.foldlM_cons] at taken
      cases stepped : next start label with
      | none => simp [stepped] at taken
      | some middle =>
          rw [stepped] at taken
          have one : (ofNext first next).Takes start [label] middle := .goes .stops stepped
          exact takes_append one (ih taken)

/-- A path of allowed steps is one of the whole system. -/
theorem reachable_of_restrict {allowed : State → Label → Prop} {state : State}
    (reached : (system.restrict allowed).Reachable state) : system.Reachable state := by
  induction reached with
  | start first => exact .start first
  | next _ taken ih => exact .next ih taken.2

theorem reachable_of_weaker {allowed admitted : State → Label → Prop} {state : State}
    (weaker : ∀ state label, allowed state label → admitted state label)
    (reached : (system.restrict allowed).Reachable state) :
    (system.restrict admitted).Reachable state := by
  induction reached with
  | start first => exact .start first
  | next _ taken ih => exact .next ih ⟨weaker _ _ taken.1, taken.2⟩

end RedroidExt.Library.TransitionSystem
