import Mathlib.Data.List.Basic

/-!
# Noninterference by unwinding

A machine takes labels and gives an output for each. What the visible labels get
does not depend on the others when a relation between states satisfies two local
conditions: a hidden label stays inside the relation, and a visible one gets the
same output in related states.
-/

namespace RedroidExt.Library.Noninterference

set_option autoImplicit false

variable {State Label Output : Type*}

/-- The outputs of the visible labels, in order. -/
def outputs (step : State → Label → Output × State) (visible : Label → Bool) :
    State → List Label → List Output
  | _, [] => []
  | state, label :: rest =>
      if visible label then (step state label).1 :: outputs step visible (step state label).2 rest
      else outputs step visible (step state label).2 rest

structure Unwinding (step : State → Label → Output × State) (visible : Label → Bool)
    (same : State → State → Prop) : Prop where
  hidden : ∀ left right label, same left right → visible label = false →
    same (step left label).2 right
  output : ∀ left right label, same left right → visible label = true →
    (step left label).1 = (step right label).1
  next : ∀ left right label, same left right → visible label = true →
    same (step left label).2 (step right label).2

variable {step : State → Label → Output × State} {visible : Label → Bool}
variable {same : State → State → Prop}

/-- Hidden labels can be left out on one side. -/
theorem outputs_eq_filter (unwinding : Unwinding step visible same) (labels : List Label)
    {left right : State} (related : same left right) :
    outputs step visible left labels = outputs step visible right (labels.filter visible) := by
  induction labels generalizing left right with
  | nil => rfl
  | cons label rest ih =>
      cases seen : visible label with
      | true =>
          rw [List.filter_cons_of_pos seen]
          simp only [outputs, seen, if_true]
          rw [unwinding.output left right label related seen,
            ih (unwinding.next left right label related seen)]
      | false =>
          rw [List.filter_cons_of_neg (by rw [seen]; decide)]
          simp only [outputs, seen]
          exact ih (unwinding.hidden left right label related seen)

/-- Two runs with the same visible labels get the same outputs for them. -/
theorem outputs_eq (unwinding : Unwinding step visible same) {left right : State}
    (related : same left right) (refl : same right right) {first second : List Label}
    (agree : first.filter visible = second.filter visible) :
    outputs step visible left first = outputs step visible right second := by
  calc outputs step visible left first
      = outputs step visible right (first.filter visible) :=
        outputs_eq_filter unwinding first related
    _ = outputs step visible right (second.filter visible) := by rw [agree]
    _ = outputs step visible right second := (outputs_eq_filter unwinding second refl).symm

end RedroidExt.Library.Noninterference
