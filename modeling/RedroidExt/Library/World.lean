import RedroidExt.Library.Program

/-!
# Programs in a world

The world has a state that the calls change, and it only gives answers that this state
allows. What a program ensures is what holds behind every run in such a world; the rules
follow the program's syntax.
-/

namespace RedroidExt.Library

set_option autoImplicit false

structure World (Call : Type) (Answer : Call → Type) (State : Type*) where
  allowed : State → (call : Call) → Answer call → Prop
  advance : State → (call : Call) → Answer call → State

namespace World

variable {Call : Type} {Answer : Call → Type} {State : Type*} {Result Next : Type}
variable (world : World Call Answer State)

/-- Every answer is one that the world allows when it is given. -/
def Allowed : State → List (Program.Event Call Answer) → Prop
  | _, [] => True
  | state, event :: rest =>
      world.allowed state event.1 event.2 ∧
        Allowed (world.advance state event.1 event.2) rest

def after (state : State) (events : List (Program.Event Call Answer)) : State :=
  events.foldl (fun state event => world.advance state event.1 event.2) state

/-- The weakest precondition. -/
def Ensures (post : Result → State → Prop) : Program Call Answer Result → State → Prop
  | .done result, state => post result state
  | .ask call next, state =>
      ∀ answer, world.allowed state call answer →
        Ensures post (next answer) (world.advance state call answer)

variable {world} {program : Program Call Answer Result} {state : State}

theorem ensures_runs {post : Result → State → Prop} (ensured : world.Ensures post program state)
    {events : List (Program.Event Call Answer)} {result : Result}
    (ran : Program.Runs program events result) (allowed : world.Allowed state events) :
    post result (world.after state events) := by
  induction ran generalizing state with
  | done result => exact ensured
  | ask answer rest ih => exact ih (ensured answer allowed.1) allowed.2

theorem ensures_pure {post : Result → State → Prop} {result : Result} (holds : post result state) :
    world.Ensures post (pure result) state := holds

theorem ensures_call {call : Call} {post : Answer call → State → Prop}
    (holds : ∀ answer, world.allowed state call answer →
      post answer (world.advance state call answer)) :
    world.Ensures post (Program.call call) state := holds

theorem ensures_bind {rest : Result → Program Call Answer Next} {post : Next → State → Prop}
    (ensured : world.Ensures (fun result state => world.Ensures post (rest result) state) program
      state) : world.Ensures post (program >>= rest) state := by
  change world.Ensures post (program.bind rest) state
  induction program generalizing state with
  | done result => exact ensured
  | ask call next ih => exact fun answer allowed => ih answer (ensured answer allowed)

theorem ensures_mono {weak strong : Result → State → Prop}
    (ensured : world.Ensures strong program state)
    (implied : ∀ result state, strong result state → weak result state) :
    world.Ensures weak program state := by
  induction program generalizing state with
  | done result => exact implied result state ensured
  | ask call next ih => exact fun answer allowed => ih answer (ensured answer allowed)

theorem ensures_and {first second : Result → State → Prop}
    (one : world.Ensures first program state) (other : world.Ensures second program state) :
    world.Ensures (fun result state => first result state ∧ second result state) program state := by
  induction program generalizing state with
  | done result => exact ⟨one, other⟩
  | ask call next ih => exact fun answer allowed => ih answer (one answer allowed) (other answer allowed)

/-- A program and what comes behind it, by what the program ensures. -/
theorem ensures_seq {rest : Result → Program Call Answer Next} {post : Next → State → Prop}
    {middle : Result → State → Prop} (first : world.Ensures middle program state)
    (second : ∀ result state, middle result state → world.Ensures post (rest result) state) :
    world.Ensures post (program >>= rest) state :=
  ensures_bind (ensures_mono first second)

/-- A call and what comes behind it. -/
theorem ensures_call_bind {call : Call} {rest : Answer call → Program Call Answer Next}
    {post : Next → State → Prop}
    (holds : ∀ answer, world.allowed state call answer →
      world.Ensures post (rest answer) (world.advance state call answer)) :
    world.Ensures post (Program.call call >>= rest) state := holds

/-- A program that goes on in one of two ways. -/
theorem ensures_guard {check : Program Call Answer Bool} {rest other : Program Call Answer Next}
    {post : Next → State → Prop} {middle : Bool → State → Prop}
    (checked : world.Ensures middle check state)
    (passed : ∀ state, middle true state → world.Ensures post rest state)
    (refused : ∀ state, middle false state → world.Ensures post other state) :
    world.Ensures post (do if ← check then rest else other) state := by
  apply ensures_seq checked
  intro decided state holds
  cases decided with
  | true => exact passed state holds
  | false => exact refused state holds

variable (world) in
/-- Whatever is answered, the state stays. -/
def Quiet (program : Program Call Answer Result) : Prop :=
  ∀ state, world.Ensures (fun _ after => after = state) program state

theorem quiet_pure (result : Result) : world.Quiet (pure result) := fun _ => rfl

theorem quiet_call {call : Call} (idle : ∀ state answer, world.advance state call answer = state) :
    world.Quiet (Program.call call) := fun state answer _ => idle state answer

theorem quiet_bind {rest : Result → Program Call Answer Next} (first : world.Quiet program)
    (second : ∀ result, world.Quiet (rest result)) : world.Quiet (program >>= rest) := by
  intro state
  apply ensures_seq (first state)
  rintro result after rfl
  exact second result after

/-- What holds in front of a quiet program holds behind it. -/
theorem ensures_quiet (quiet : world.Quiet program) {post : State → Prop} (holds : post state) :
    world.Ensures (fun _ after => post after) program state := by
  apply ensures_mono (quiet state)
  rintro result after rfl
  exact holds

/-! ## Every moment -/

variable (world) in
/-- The invariant holds at every moment, also in the middle of the program. -/
def Always (invariant : State → Prop) : Program Call Answer Result → State → Prop
  | .done _, state => invariant state
  | .ask call next, state =>
      invariant state ∧ ∀ answer, world.allowed state call answer →
        Always invariant (next answer) (world.advance state call answer)

variable {invariant : State → Prop}

theorem always_start (always : world.Always invariant program state) : invariant state := by
  cases program with
  | done result => exact always
  | ask call next => exact always.1

/-- A moment of a run is the state behind the first of its events. -/
theorem always_moments (always : world.Always invariant program state)
    {events : List (Program.Event Call Answer)} {result : Result}
    (ran : Program.Runs program events result) (allowed : world.Allowed state events)
    (count : Nat) : invariant (world.after state (events.take count)) := by
  induction ran generalizing state count with
  | done result =>
      rw [List.take_nil]
      exact always
  | ask answer rest ih =>
      cases count with
      | zero => exact always.1
      | succ count => exact ih (always.2 answer allowed.1) allowed.2 count

theorem always_pure {result : Result} (holds : invariant state) :
    world.Always invariant (pure result) state := holds

theorem always_call_bind {call : Call} {rest : Answer call → Program Call Answer Next}
    (holds : invariant state)
    (later : ∀ answer, world.allowed state call answer →
      world.Always invariant (rest answer) (world.advance state call answer)) :
    world.Always invariant (Program.call call >>= rest) state := ⟨holds, later⟩

/-- A program and what comes behind it, by what the program ensures. -/
theorem always_seq {rest : Result → Program Call Answer Next} {middle : Result → State → Prop}
    (always : world.Always invariant program state)
    (first : world.Ensures middle program state)
    (second : ∀ result state, middle result state → world.Always invariant (rest result) state) :
    world.Always invariant (program >>= rest) state := by
  change world.Always invariant (program.bind rest) state
  induction program generalizing state with
  | done result => exact second result state first
  | ask call next ih =>
      refine ⟨always.1, fun answer allowed => ?_⟩
      exact ih answer (always.2 answer allowed) (first answer allowed)

/-! ## Executable runs -/

/-- The run in which every answer is chosen by the state. -/
def follow (world : World Call Answer State) (answers : State → (call : Call) → Answer call) :
    Program Call Answer Result → State → List (Program.Event Call Answer) × Result
  | .done result, _ => ([], result)
  | .ask call next, state =>
      let answer := answers state call
      let later := follow world answers (next answer) (world.advance state call answer)
      (⟨call, answer⟩ :: later.1, later.2)

theorem follow_runs {answers : State → (call : Call) → Answer call}
    (permitted : ∀ state call, world.allowed state call (answers state call))
    (program : Program Call Answer Result) (state : State) :
    Program.Runs program (world.follow answers program state).1
        (world.follow answers program state).2 ∧
      world.Allowed state (world.follow answers program state).1 := by
  induction program generalizing state with
  | done result => exact ⟨.done result, trivial⟩
  | ask call next ih =>
      rcases ih (answers state call) (world.advance state call (answers state call)) with
        ⟨ran, allowed⟩
      exact ⟨.ask _ ran, permitted state call, allowed⟩

end World

end RedroidExt.Library
