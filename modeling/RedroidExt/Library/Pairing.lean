import Mathlib.Data.List.Basic

/-!
# Collecting one of each kind

A collector keeps the last item of each of two kinds. When it has both and is told that
something new begins, it hands them over as a pair and starts again. If every arrival
begins something new, then what it has handed over last is the last of the disjoint
pairs of neighbours that are of different kinds.
-/

namespace RedroidExt.Library

set_option autoImplicit false

variable {Left Right : Type*}

structure Collector (Left Right : Type*) where
  left : Option Left
  right : Option Right
  /-- The last pair that was handed over. -/
  last : Option (Left × Right)

/-- What arrives: whether something new begins, and an item or none. -/
structure Arrival (Left Right : Type*) where
  begins : Bool
  item : Option (Left ⊕ Right)

namespace Collector

variable (Left Right) in
def empty : Collector Left Right := { left := none, right := none, last := none }

/-- What is complete. -/
def pair (collector : Collector Left Right) : Option (Left × Right) :=
  match collector.left, collector.right with
  | some left, some right => some (left, right)
  | _, _ => none

/-- Hand over what is complete. -/
def flush (collector : Collector Left Right) : Collector Left Right :=
  match collector.pair with
  | none => collector
  | some pair => { left := none, right := none, last := some pair }

def put (collector : Collector Left Right) : Option (Left ⊕ Right) → Collector Left Right
  | none => collector
  | some (.inl item) => { collector with left := some item }
  | some (.inr item) => { collector with right := some item }

def collect (collector : Collector Left Right) (arrival : Arrival Left Right) :
    Collector Left Right :=
  (if arrival.begins then collector.flush else collector).put arrival.item

/-- Neighbours of different kinds, from the first ones on, without an overlap. -/
def pairUp : List (Left ⊕ Right) → List (Left × Right)
  | [] => []
  | [_] => []
  | .inl left :: .inr right :: rest => (left, right) :: pairUp rest
  | .inr right :: .inl left :: rest => (left, right) :: pairUp rest
  | .inl _ :: .inl next :: rest => pairUp (.inl next :: rest)
  | .inr _ :: .inr next :: rest => pairUp (.inr next :: rest)

example : pairUp [.inl 1, .inl 2, .inr 3, .inl 4] = [(2, 3)] := by decide

theorem flush_flush (collector : Collector Left Right) : collector.flush.flush = collector.flush := by
  rcases collector with ⟨left, right, last⟩
  cases left with
  | none => rfl
  | some left =>
      cases right with
      | none => rfl
      | some right => rfl

/-! ## Every arrival begins something -/

theorem collect_begins {collector : Collector Left Right} {arrival : Arrival Left Right}
    (begins : arrival.begins = true) :
    collector.collect arrival = collector.flush.put arrival.item := by
  unfold collect
  rw [if_pos begins]

theorem foldl_flush (collector : Collector Left Right) (arrivals : List (Arrival Left Right))
    (begins : ∀ arrival ∈ arrivals, arrival.begins = true) :
    (arrivals.foldl collect collector).flush =
      (arrivals.foldl collect collector.flush).flush := by
  cases arrivals with
  | nil => exact (flush_flush collector).symm
  | cons arrival rest =>
      have first := begins arrival List.mem_cons_self
      have same : collector.flush.collect arrival = collector.collect arrival := by
        rw [collect_begins first, collect_begins first, flush_flush]
      rw [List.foldl_cons, List.foldl_cons, same]

/-- What a collector waits with that is not complete: one item or none. -/
inductive Waits : Collector Left Right → List (Left ⊕ Right) → Prop
  | nothing (last : Option (Left × Right)) : Waits ⟨none, none, last⟩ []
  | left (item : Left) (last : Option (Left × Right)) : Waits ⟨some item, none, last⟩ [.inl item]
  | right (item : Right) (last : Option (Left × Right)) :
      Waits ⟨none, some item, last⟩ [.inr item]

theorem getLast_cons_or {Item : Type*} (first : Item) (rest : List Item) (last : Option Item) :
    (first :: rest).getLast?.or last = rest.getLast?.or (some first) := by
  rw [List.getLast?_cons]
  cases rest.getLast? with
  | none => rfl
  | some item => rfl

theorem collect_last {collector : Collector Left Right} {waiting : List (Left ⊕ Right)}
    (waits : Waits collector waiting) (arrivals : List (Arrival Left Right))
    (begins : ∀ arrival ∈ arrivals, arrival.begins = true) :
    (arrivals.foldl collect collector).flush.last =
      (pairUp (waiting ++ arrivals.filterMap Arrival.item)).getLast?.or collector.last := by
  induction arrivals generalizing collector waiting with
  | nil =>
      cases waits with
      | nothing last => rfl
      | left item last => rfl
      | right item last => rfl
  | cons arrival rest ih =>
      rw [List.foldl_cons, collect_begins (begins arrival List.mem_cons_self)]
      have ih := fun {collector} {waiting} (waits : Waits collector waiting) =>
        ih waits fun other member => begins other (List.mem_cons_of_mem _ member)
      have flushed := fun collector => foldl_flush collector rest
        fun other member => begins other (List.mem_cons_of_mem _ member)
      rcases arrival with ⟨begins, item⟩
      cases item with
      | none =>
          cases waits with
          | nothing last => exact ih (.nothing last)
          | left item last => exact ih (.left item last)
          | right item last => exact ih (.right item last)
      | some item =>
          cases waits with
          | nothing last =>
              cases item with
              | inl left => exact ih (.left left last)
              | inr right => exact ih (.right right last)
          | left waiting last =>
              cases item with
              | inl left => exact ih (.left left last)
              | inr right =>
                  -- the collector is complete, which the next arrival or the end turns into a pair
                  rw [flushed]
                  exact (ih (.nothing (some (waiting, right)))).trans (getLast_cons_or _ _ _).symm
          | right waiting last =>
              cases item with
              | inr right => exact ih (.right right last)
              | inl left =>
                  rw [flushed]
                  exact (ih (.nothing (some (left, waiting)))).trans (getLast_cons_or _ _ _).symm

/-- The last pair that is handed over, the end included. -/
theorem collected_pair (arrivals : List (Arrival Left Right))
    (begins : ∀ arrival ∈ arrivals, arrival.begins = true) :
    (arrivals.foldl collect (empty Left Right)).flush.last =
      (pairUp (arrivals.filterMap Arrival.item)).getLast? := by
  have collected := collect_last (.nothing none) arrivals begins
  rw [Option.or_none] at collected
  exact collected

/-- A pair is made of neighbours. -/
theorem pair_up_neighbours {items : List (Left ⊕ Right)} {left : Left} {right : Right}
    (paired : (left, right) ∈ pairUp items) :
    [.inl left, .inr right] <:+: items ∨ [.inr right, .inl left] <:+: items := by
  induction items using pairUp.induct with
  | case1 => cases paired
  | case2 item => cases paired
  | case3 first second rest ih =>
      rcases List.mem_cons.mp paired with same | later
      · cases same
        exact .inl ⟨[], rest, rfl⟩
      · exact (ih later).imp (fun found => found.trans ⟨[.inl first, .inr second], [], by simp⟩)
          fun found => found.trans ⟨[.inl first, .inr second], [], by simp⟩
  | case4 second first rest ih =>
      rcases List.mem_cons.mp paired with same | later
      · cases same
        exact .inr ⟨[], rest, rfl⟩
      · exact (ih later).imp (fun found => found.trans ⟨[.inr second, .inl first], [], by simp⟩)
          fun found => found.trans ⟨[.inr second, .inl first], [], by simp⟩
  | case5 first next rest ih =>
      exact (ih paired).imp (fun found => found.trans (List.infix_cons List.infix_rfl))
        fun found => found.trans (List.infix_cons List.infix_rfl)
  | case6 first next rest ih =>
      exact (ih paired).imp (fun found => found.trans (List.infix_cons List.infix_rfl))
        fun found => found.trans (List.infix_cons List.infix_rfl)

/-! ## Any arrivals -/

theorem flush_some_iff (collector : Collector Left Right) :
    collector.flush.last.isSome ↔
      collector.last.isSome ∨ collector.left.isSome ∧ collector.right.isSome := by
  rcases collector with ⟨left, right, last⟩
  cases left with
  | none => simp [flush, pair]
  | some left =>
      cases right with
      | none => simp [flush, pair]
      | some right => simp [flush, pair]

/-- There is a pair behind the end as soon as both kinds have arrived. -/
theorem collected_some_iff (collector : Collector Left Right)
    (arrivals : List (Arrival Left Right)) :
    (arrivals.foldl collect collector).flush.last.isSome ↔
      collector.last.isSome ∨
        (collector.left.isSome ∨ ∃ item, some (.inl item) ∈ arrivals.map Arrival.item) ∧
          (collector.right.isSome ∨ ∃ item, some (.inr item) ∈ arrivals.map Arrival.item) := by
  induction arrivals generalizing collector with
  | nil =>
      rw [List.foldl_nil, flush_some_iff]
      simp
  | cons arrival rest ih =>
      rw [List.foldl_cons, ih]
      rcases arrival with ⟨begins, item⟩
      rcases collector with ⟨left, right, last⟩
      cases item with
      | none => cases begins <;> cases left <;> cases right <;> simp [collect, flush, pair, put]
      | some item =>
          cases item with
          | inl item => cases begins <;> cases left <;> cases right <;> simp [collect, flush, pair, put]
          | inr item => cases begins <;> cases left <;> cases right <;> simp [collect, flush, pair, put]

end Collector

end RedroidExt.Library
