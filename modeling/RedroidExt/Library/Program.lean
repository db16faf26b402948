import Mathlib.Data.List.Basic

/-!
# Programs that make calls

A program has returned, or it makes a call and goes on with the answer, whatever that
is. A run is one path through this tree: the calls with their answers, in order, and
what is returned behind them.
-/

namespace RedroidExt.Library

set_option autoImplicit false

inductive Program (Call : Type) (Answer : Call → Type) (Result : Type) where
  | done (result : Result)
  | ask (call : Call) (next : Answer call → Program Call Answer Result)

namespace Program

variable {Call : Type} {Answer : Call → Type} {Result Next : Type}

def bind : Program Call Answer Result → (Result → Program Call Answer Next) →
    Program Call Answer Next
  | done result, rest => rest result
  | ask call next, rest => ask call fun answer => (next answer).bind rest

instance : Monad (Program Call Answer) where
  pure := done
  bind := bind

/-- Make one call and return its answer. -/
def call (call : Call) : Program Call Answer (Answer call) := ask call done

/-- A call with its answer. -/
abbrev Event (Call : Type) (Answer : Call → Type) := (call : Call) × Answer call

inductive Runs : Program Call Answer Result → List (Event Call Answer) → Result → Prop
  | done (result : Result) : Runs (.done result) [] result
  | ask {call : Call} {next : Answer call → Program Call Answer Result} (answer : Answer call)
      {events : List (Event Call Answer)} {result : Result}
      (rest : Runs (next answer) events result) :
      Runs (.ask call next) (⟨call, answer⟩ :: events) result

section Runs

variable {program : Program Call Answer Result} {events : List (Event Call Answer)}
variable {result : Result}

theorem runs_pure {value : Result}
    (ran : Runs (pure value : Program Call Answer Result) events result) :
    events = [] ∧ result = value := by
  cases ran with
  | done => exact ⟨rfl, rfl⟩

theorem runs_call {call : Call} {answer : Answer call} {events : List (Event Call Answer)}
    (ran : Runs (Program.call call) events answer) : events = [⟨call, answer⟩] := by
  cases ran with
  | ask answer rest =>
      cases rest with
      | done => rfl

/-- The run of a composition is a run of the first program and one of the second behind it. -/
theorem runs_bind {rest : Result → Program Call Answer Next} {value : Next}
    (ran : Runs (program >>= rest) events value) :
    ∃ first second result, events = first ++ second ∧ Runs program first result ∧
      Runs (rest result) second value := by
  change Runs (program.bind rest) events value at ran
  induction program generalizing events with
  | done result => exact ⟨[], events, result, rfl, .done result, ran⟩
  | ask call next ih =>
      cases ran with
      | ask answer later =>
          obtain ⟨first, second, result, split, before, after⟩ := ih answer later
          exact ⟨⟨call, answer⟩ :: first, second, result, congrArg _ split, .ask answer before, after⟩

/-- Behind its first call a program goes on with the answer. -/
theorem runs_call_bind {call : Call} {rest : Answer call → Program Call Answer Next} {value : Next}
    (ran : Runs (Program.call call >>= rest) events value) :
    ∃ answer later, events = ⟨call, answer⟩ :: later ∧ Runs (rest answer) later value := by
  obtain ⟨first, later, answer, split, asked, after⟩ := runs_bind ran
  rw [runs_call asked] at split
  exact ⟨answer, later, split, after⟩

/-- A program that goes on only if the first one returns `true`. -/
theorem runs_guard {check : Program Call Answer Bool} {rest : Program Call Answer Result}
    {other : Result}
    (ran : Runs (do if ← check then rest else return other) events result) :
    (∃ first second, events = first ++ second ∧ Runs check first true ∧ Runs rest second result) ∨
      (Runs check events false ∧ result = other) := by
  obtain ⟨first, second, checked, split, before, after⟩ := runs_bind ran
  cases checked with
  | true => exact .inl ⟨first, second, split, before, after⟩
  | false =>
      obtain ⟨ended, same⟩ := runs_pure after
      rw [split, ended, List.append_nil]
      exact .inr ⟨before, same⟩

end Runs

/-! ## Executable runs -/

/-- The path along which every call gets the answer that the oracle has for it. -/
def runWith (oracle : (call : Call) → Answer call) :
    Program Call Answer Result → List (Event Call Answer) × Result
  | done result => ([], result)
  | ask call next =>
      let later := (next (oracle call)).runWith oracle
      (⟨call, oracle call⟩ :: later.1, later.2)

theorem runs_with (oracle : (call : Call) → Answer call) (program : Program Call Answer Result) :
    Runs program (program.runWith oracle).1 (program.runWith oracle).2 := by
  induction program with
  | done result => exact .done result
  | ask call next ih => exact .ask _ (ih (oracle call))

end Program

end RedroidExt.Library
