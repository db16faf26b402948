import Mathlib.Logic.Function.Basic
import Mathlib.Tactic.SplitIfs
import RedroidExt.Library.Paths

/-!
# Objects under a mutex

Threads that see and change a shared object in sections, one statement after the other and
with the mutex held. What they do otherwise concerns their own data only. Every run of
statements is then a run of whole sections, each taking effect when it gives the mutex back.
-/

namespace RedroidExt.Library

set_option autoImplicit false

/-- The sections of a thread, and what it does without the mutex. -/
structure Monitor (Thread Value : Type*) (Local Section Act : Thread → Type*) where
  may : ∀ thread, Local thread → Section thread → Bool
  body : ∀ thread, Section thread → List (Value × Local thread → Value × Local thread)
  alone : ∀ thread, Local thread → Act thread → Option (Local thread)

namespace Monitor

variable {Thread Value : Type*} {Local Section Act : Thread → Type*}

/-- The object and the threads' own data, with the sections that were left so far. -/
structure Shared (Value : Type*) (Local Section : Thread → Type*) where
  value : Value
  locals : ∀ thread, Local thread
  history : List (Sigma Section)

/-- The thread that has the mutex, with the statements that are left of its section. -/
structure Holder (Value : Type*) (Local Section : Thread → Type*) where
  thread : Thread
  entered : Section thread
  rest : List (Value × Local thread → Value × Local thread)

structure State (Value : Type*) (Local Section : Thread → Type*) where
  shared : Shared Value Local Section
  holder : Option (Holder Value Local Section)

inductive Label (Section Act : Thread → Type*)
  | lock (thread : Thread) (entered : Section thread)
  | statement
  | unlock
  | alone (thread : Thread) (act : Act thread)

inductive WholeLabel (Section Act : Thread → Type*)
  | runs (thread : Thread) (entered : Section thread)
  | alone (thread : Thread) (act : Act thread)

/-- Statements one after the other. -/
def exec {thread : Thread} (statements : List (Value × Local thread → Value × Local thread))
    (start : Value × Local thread) : Value × Local thread :=
  statements.foldl (fun now statement => statement now) start

theorem exec_concat {thread : Thread}
    (statements : List (Value × Local thread → Value × Local thread))
    (statement : Value × Local thread → Value × Local thread) (start : Value × Local thread) :
    exec (statements ++ [statement]) start = statement (exec statements start) := by
  unfold exec
  rw [List.foldl_append]
  rfl

variable [DecidableEq Thread]

namespace Shared

def seen (shared : Shared Value Local Section) (thread : Thread) : Value × Local thread :=
  (shared.value, shared.locals thread)

def setLocal (shared : Shared Value Local Section) (thread : Thread) (own : Local thread) :
    Shared Value Local Section :=
  { shared with locals := Function.update shared.locals thread own }

def set (shared : Shared Value Local Section) (thread : Thread) (now : Value × Local thread) :
    Shared Value Local Section :=
  { shared.setLocal thread now.2 with value := now.1 }

def leave (shared : Shared Value Local Section) (thread : Thread) (entered : Section thread) :
    Shared Value Local Section :=
  { shared with history := shared.history ++ [⟨thread, entered⟩] }

variable (shared : Shared Value Local Section) {thread other : Thread}

theorem set_seen : shared.set thread (shared.seen thread) = shared := by
  unfold set setLocal seen
  dsimp only
  rw [Function.update_eq_self]

theorem seen_set (now : Value × Local thread) : (shared.set thread now).seen thread = now := by
  unfold seen set setLocal
  dsimp only
  rw [Function.update_self]

theorem set_set (first second : Value × Local thread) :
    (shared.set thread first).set thread second = shared.set thread second := by
  unfold set setLocal
  dsimp only
  rw [Function.update_idem]

theorem set_local_self (thread : Thread) (own : Local thread) :
    (shared.setLocal thread own).locals thread = own :=
  Function.update_self _ _ _

theorem set_self (thread : Thread) (now : Value × Local thread) :
    (shared.set thread now).locals thread = now.2 :=
  Function.update_self _ _ _

theorem set_local_of_ne (different : other ≠ thread) (now : Value × Local thread) :
    (shared.set thread now).locals other = shared.locals other :=
  Function.update_of_ne different _ _

theorem seen_set_local (different : other ≠ thread) (own : Local other) :
    (shared.setLocal other own).seen thread = shared.seen thread := by
  unfold seen setLocal
  dsimp only
  rw [Function.update_of_ne (Ne.symm different)]

theorem set_local_comm (different : other ≠ thread) (now : Value × Local thread)
    (own : Local other) :
    (shared.set thread now).setLocal other own = (shared.setLocal other own).set thread now := by
  unfold set setLocal
  dsimp only
  rw [Function.update_comm different]

end Shared

/-! ## The two systems -/

variable (monitor : Monitor Thread Value Local Section Act)

/-- A label that is not possible has no step. -/
def next (state : State Value Local Section) :
    Label Section Act → Option (State Value Local Section)
  | .lock thread entered =>
      match state.holder with
      | some _ => none
      | none =>
          if monitor.may thread (state.shared.locals thread) entered then
            some { state with holder := some ⟨thread, entered, monitor.body thread entered⟩ }
          else none
  | .statement =>
      match state.holder with
      | some ⟨thread, entered, statement :: rest⟩ =>
          some
            { shared := state.shared.set thread (statement (state.shared.seen thread))
              holder := some ⟨thread, entered, rest⟩ }
      | _ => none
  | .unlock =>
      match state.holder with
      | some ⟨thread, entered, []⟩ =>
          some { shared := state.shared.leave thread entered, holder := none }
      | _ => none
  | .alone thread act =>
      if state.holder.map Holder.thread = some thread then none
      else
        (monitor.alone thread (state.shared.locals thread) act).map fun own =>
          { state with shared := state.shared.setLocal thread own }

/-- Sections as single steps. -/
def wholeNext (shared : Shared Value Local Section) :
    WholeLabel Section Act → Option (Shared Value Local Section)
  | .runs thread entered =>
      if monitor.may thread (shared.locals thread) entered then
        some ((shared.set thread
          (exec (monitor.body thread entered) (shared.seen thread))).leave thread entered)
      else none
  | .alone thread act =>
      (monitor.alone thread (shared.locals thread) act).map fun own => shared.setLocal thread own

def system (first : Shared Value Local Section → Prop) :
    TransitionSystem (State Value Local Section) (Label Section Act) :=
  .ofNext (fun state => first state.shared ∧ state.holder = none) monitor.next

def wholeSystem (first : Shared Value Local Section → Prop) :
    TransitionSystem (Shared Value Local Section) (WholeLabel Section Act) :=
  .ofNext first monitor.wholeNext

/-! ## Sections are atomic -/

/-- The state of whole sections that a state stands for: a section that was entered has not run. -/
inductive Refines : State Value Local Section → Shared Value Local Section → Prop
  | free (shared : Shared Value Local Section) : Refines ⟨shared, none⟩ shared
  | held {shared : Shared Value Local Section} {thread : Thread} {entered : Section thread}
      {done rest : List (Value × Local thread → Value × Local thread)}
      (may : monitor.may thread (shared.locals thread) entered = true)
      (split : monitor.body thread entered = done ++ rest) :
      Refines ⟨shared.set thread (exec done (shared.seen thread)), some ⟨thread, entered, rest⟩⟩
        shared

variable {monitor} {state after : State Value Local Section} {shared : Shared Value Local Section}

/-- A step is one of no section, or one of a whole section. -/
theorem refines_step (refines : monitor.Refines state shared) {label : Label Section Act}
    (taken : monitor.next state label = some after) :
    monitor.Refines after shared ∨ ∃ label later, monitor.wholeNext shared label = some later ∧
      monitor.Refines after later := by
  cases refines with
  | free =>
      cases label with
      | statement => exact nomatch taken
      | unlock => exact nomatch taken
      | lock thread entered =>
          left
          unfold next at taken
          dsimp only at taken
          split_ifs at taken with may
          rw [← Option.some.inj taken]
          have begun : monitor.Refines ⟨shared.set thread (exec [] (shared.seen thread)),
              some ⟨thread, entered, monitor.body thread entered⟩⟩ shared :=
            .held may (List.nil_append _).symm
          rw [show exec [] (shared.seen thread) = shared.seen thread from rfl,
            shared.set_seen] at begun
          exact begun
      | alone thread act =>
          right
          rcases Option.map_eq_some_iff.mp taken with ⟨own, goes, rfl⟩
          exact ⟨.alone thread act, shared.setLocal thread own,
            Option.map_eq_some_iff.mpr ⟨own, goes, rfl⟩, .free _⟩
  | @held shared thread entered done rest may split =>
      cases label with
      | lock other op => exact nomatch taken
      | statement =>
          cases rest with
          | nil => exact nomatch taken
          | cons statement rest =>
              left
              rw [← Option.some.inj taken]
              dsimp only
              rw [shared.seen_set, shared.set_set, ← exec_concat done statement]
              apply Refines.held may
              rw [split, List.append_assoc]
              rfl
      | unlock =>
          cases rest with
          | cons statement rest => exact nomatch taken
          | nil =>
              right
              rw [List.append_nil] at split
              rw [← Option.some.inj taken, ← split]
              refine ⟨.runs thread entered, _, ?_, .free _⟩
              exact if_pos may
      | alone other act =>
          right
          unfold next at taken
          dsimp only at taken
          split_ifs at taken with same
          have different : other ≠ thread := fun equal => same (congrArg some equal.symm)
          rcases Option.map_eq_some_iff.mp taken with ⟨own, goes, rfl⟩
          rw [shared.set_local_of_ne different] at goes
          refine ⟨.alone other act, shared.setLocal other own,
            Option.map_eq_some_iff.mpr ⟨own, goes, rfl⟩, ?_⟩
          rw [shared.set_local_comm different, ← shared.seen_set_local different own]
          refine .held ?_ split
          rw [show (shared.setLocal other own).locals thread = shared.locals thread from
            Function.update_of_ne (Ne.symm different) _ _]
          exact may

theorem refined_history (refines : monitor.Refines state shared) :
    state.shared.history = shared.history := by
  cases refines with
  | free => rfl
  | held may split => rfl

variable {first : Shared Value Local Section → Prop}

theorem refines_reachable (reached : (monitor.system first).Reachable state) :
    ∃ shared, (monitor.wholeSystem first).Reachable shared ∧ monitor.Refines state shared := by
  induction reached with
  | @start state started =>
      refine ⟨state.shared, .start started.1, ?_⟩
      rcases state with ⟨shared, holder⟩
      rw [show holder = none from started.2]
      exact .free shared
  | next _ taken ih =>
      rcases ih with ⟨shared, before, refines⟩
      rcases refines_step refines taken with same | ⟨label, later, goes, refines⟩
      · exact ⟨shared, before, same⟩
      · exact ⟨later, .next before goes, refines⟩

theorem refines_takes (refines : monitor.Refines state shared)
    {labels : List (Label Section Act)} (path : (monitor.system first).Takes state labels after) :
    ∃ whole later, (monitor.wholeSystem first).Takes shared whole later ∧
      monitor.Refines after later := by
  induction path with
  | stops => exact ⟨[], shared, .stops, refines⟩
  | goes _ taken ih =>
      rcases ih with ⟨whole, later, before, refines⟩
      rcases refines_step refines taken with same | ⟨label, latest, goes, refines⟩
      · exact ⟨whole, later, before, same⟩
      · exact ⟨whole ++ [label], latest, .goes before goes, refines⟩

end Monitor

end RedroidExt.Library
