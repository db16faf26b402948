import RedroidExt.Gnss.GnssMeasurementInterface
import Mathlib.Logic.Relation

/-!
# Measurement workers beside each other

A start sets the flag that the stop in front of it cleared, so a worker that did not
look in between goes on beside the new one. When every start finds the earlier workers
gone, the mutex keeps the starts apart and one worker is left.
-/

namespace RedroidExt.Gnss.GnssMeasurementInterface

open RedroidExt.Library

set_option autoImplicit false

/-! ## One reporter -/

section Property

variable {Callback : Type}

/-- A step of a worker, while no call is made or goes on. -/
def WorkerMoves (state after : State Callback) : Prop :=
  ∃ worker, nextWorker state worker = some after

/-- If only workers move, the worker can get through a test of the flag and deliver behind it. -/
def CanDeliver (state : State Callback) (worker : Nat) : Prop :=
  ∃ tested after later callback, Relation.ReflTransGen WorkerMoves state tested ∧
    tested.workers worker = .test ∧ Relation.ReflTransGen WorkerMoves tested after ∧
      after.delivered = tested.delivered ++ later ∧ (worker, callback) ∈ later

/-- When no call is in progress, at most one worker can still deliver. -/
def AtMostOneReporter (state : State Callback) : Prop :=
  (∀ client, state.clients client = .idle) →
    ∀ left right, CanDeliver state left → CanDeliver state right → left = right

/-- The worker has not left its loop. -/
def WorkerAt.live : WorkerAt Callback → Bool
  | .notStarted => false
  | .exited => false
  | _ => true

/-- `start` sets the flag only when every earlier worker has left its loop. -/
def StartsAlone (state : State Callback) : Label Callback → Prop
  | .client client => state.clients client = .start →
      ∀ worker, (state.workers worker).live = false
  | _ => True

/-! ## What a step can do -/

theorem set_client_self (state : State Callback) (client : Nat) (place : ClientAt Callback) :
    (state.setClient client place).clients client = place := Function.update_self _ _ _

theorem set_client_other (state : State Callback) {client other : Nat} (apart : other ≠ client)
    (place : ClientAt Callback) :
    (state.setClient client place).clients other = state.clients other :=
  Function.update_of_ne apart _ _

theorem set_worker_self (state : State Callback) (worker : Nat) (place : WorkerAt Callback) :
    (state.setWorker worker place).workers worker = place := Function.update_self _ _ _

theorem set_worker_other (state : State Callback) {worker other : Nat} (apart : other ≠ worker)
    (place : WorkerAt Callback) :
    (state.setWorker worker place).workers other = state.workers other :=
  Function.update_of_ne apart _ _

/-- Between the lock and its release. -/
def ClientAt.holds : ClientAt Callback → Bool
  | .write _ => true
  | .testActive => true
  | .stop caller => caller = .setCallback
  | .start => true
  | .spawn => true
  | .unlock => true
  | _ => false

def WorkerAt.holds : WorkerAt Callback → Bool
  | .copy => true
  | .unlock _ => true
  | _ => false

/-- The moves of a worker. -/
structure WorkerChange (state after : State Callback) (worker : Nat) : Prop where
  clients : after.clients = state.clients
  others : ∀ other, other ≠ worker → after.workers other = state.workers other
  alive : (state.workers worker).live = true
  mutex : (after.mMutex = state.mMutex ∧
      (after.workers worker).holds = (state.workers worker).holds) ∨
    (state.mMutex = none ∧ after.mMutex = some (.worker worker)) ∨
    ((state.workers worker).holds = true ∧ (after.workers worker).holds = false ∧
      after.mMutex = none)

theorem worker_change_of {state after : State Callback} {worker : Nat} (place : WorkerAt Callback)
    (clients : after.clients = state.clients)
    (workers : after.workers = (state.setWorker worker place).workers)
    (alive : (state.workers worker).live = true)
    (mutex : (after.mMutex = state.mMutex ∧ place.holds = (state.workers worker).holds) ∨
      (state.mMutex = none ∧ after.mMutex = some (.worker worker)) ∨
      ((state.workers worker).holds = true ∧ place.holds = false ∧ after.mMutex = none)) :
    WorkerChange state after worker where
  clients := clients
  others := by
    intro other apart
    rw [workers, set_worker_other state apart]
  alive := alive
  mutex := by
    rw [workers, set_worker_self]
    exact mutex

theorem worker_change {state after : State Callback} {worker : Nat}
    (moved : nextWorker state worker = some after) : WorkerChange state after worker := by
  unfold nextWorker at moved
  cases place : state.workers worker with
  | notStarted => simp [place] at moved
  | test =>
      rw [place] at moved
      cases moved
      refine worker_change_of _ rfl rfl (by rw [place]; rfl) (.inl ⟨rfl, ?_⟩)
      rw [place]
      cases state.mIsActive <;> rfl
  | lock =>
      rw [place] at moved
      dsimp only at moved
      by_cases free : state.mMutex = none
      · rw [if_pos free] at moved
        cases moved
        exact worker_change_of _ rfl rfl (by rw [place]; rfl) (.inr (.inl ⟨free, rfl⟩))
      · rw [if_neg free] at moved
        cases moved
  | copy =>
      rw [place] at moved
      cases moved
      exact worker_change_of _ rfl rfl (by rw [place]; rfl) (.inl ⟨rfl, by rw [place]; rfl⟩)
  | unlock callbackCopy =>
      rw [place] at moved
      have holding : (state.workers worker).holds = true := by
        rw [place]
        rfl
      cases callbackCopy with
      | none =>
          cases moved
          exact worker_change_of _ rfl rfl (by rw [place]; rfl) (.inr (.inr ⟨holding, rfl, rfl⟩))
      | some callback =>
          cases moved
          exact worker_change_of _ rfl rfl (by rw [place]; rfl) (.inr (.inr ⟨holding, rfl, rfl⟩))
  | report callback =>
      rw [place] at moved
      cases moved
      exact worker_change_of _ rfl rfl (by rw [place]; rfl) (.inl ⟨rfl, by rw [place]; rfl⟩)
  | sleep =>
      rw [place] at moved
      cases moved
      exact worker_change_of _ rfl rfl (by rw [place]; rfl) (.inl ⟨rfl, by rw [place]; rfl⟩)
  | exited => simp [place] at moved

/-- What a call does with the mutex and the workers. -/
inductive ClientPhase (state after : State Callback) (client : Nat) : Prop
  | outside (behind : (after.clients client).holds = false) (mutex : after.mMutex = state.mMutex)
      (workers : after.workers = state.workers)
  | acquired (free : state.mMutex = none) (mutex : after.mMutex = some (.client client))
      (place : after.clients client ≠ .spawn) (workers : after.workers = state.workers)
  | inside (before : (state.clients client).holds = true) (mutex : after.mMutex = state.mMutex)
      (spawns : after.clients client = .spawn → state.clients client = .start)
      (workers : after.workers = state.workers)
  | spawned (before : state.clients client = .spawn) (behind : after.clients client = .unlock)
      (mutex : after.mMutex = state.mMutex)
      (workers : after.workers = Function.update state.workers state.started .test)
  | released (before : (state.clients client).holds = true)
      (behind : (after.clients client).holds = false) (mutex : after.mMutex = none)
      (workers : after.workers = state.workers)

theorem client_others {state after : State Callback} {client : Nat}
    (moved : nextClient state client = some after) :
    ∀ other, other ≠ client → after.clients other = state.clients other := by
  intro other apart
  unfold nextClient at moved
  split at moved
  · cases moved
  · split at moved
    · cases moved
      exact set_client_other state apart _
    · cases moved
  all_goals
    cases moved
    exact set_client_other state apart _

/-- A statement under the lock that spawns nothing. -/
theorem client_inside {state after : State Callback} {client : Nat} (place : ClientAt Callback)
    (clients : after.clients = (state.setClient client place).clients)
    (mutex : after.mMutex = state.mMutex) (workers : after.workers = state.workers)
    (before : (state.clients client).holds = true) (quiet : place ≠ .spawn) :
    ClientPhase state after client := by
  refine .inside before mutex ?_ workers
  intro spawns
  rw [clients, set_client_self] at spawns
  exact absurd spawns quiet

theorem client_phase {state after : State Callback} {client : Nat}
    (moved : nextClient state client = some after) : ClientPhase state after client := by
  unfold nextClient at moved
  cases place : state.clients client with
  | idle => simp [place] at moved
  | lock call =>
      rw [place] at moved
      dsimp only at moved
      by_cases free : state.mMutex = none
      · rw [if_pos free] at moved
        cases moved
        refine .acquired free rfl ?_ rfl
        rw [show (State.clients _ client) = _ from set_client_self state client (.write call)]
        exact nofun
      · rw [if_neg free] at moved
        cases moved
  | write call =>
      rw [place] at moved
      have holding : (state.clients client).holds = true := by
        rw [place]
        rfl
      cases call with
      | setCallback callback =>
          cases moved
          exact client_inside _ rfl rfl rfl holding nofun
      | close =>
          cases moved
          exact client_inside _ rfl rfl rfl holding nofun
  | testActive =>
      rw [place] at moved
      cases moved
      refine client_inside _ rfl rfl rfl (by rw [place]; rfl) ?_
      cases state.mIsActive <;> exact nofun
  | stop caller =>
      rw [place] at moved
      cases moved
      cases caller with
      | setCallback => exact client_inside _ rfl rfl rfl (by rw [place]; rfl) nofun
      | close =>
          refine .outside ?_ rfl rfl
          rw [show (State.clients _ client) = _ from
            set_client_self state client (afterStop .close)]
          rfl
  | start =>
      rw [place] at moved
      cases moved
      exact .inside (by rw [place]; rfl) rfl (fun _ => place) rfl
  | spawn =>
      rw [place] at moved
      cases moved
      exact .spawned place (set_client_self state client .unlock) rfl rfl
  | unlock =>
      rw [place] at moved
      cases moved
      refine .released (by rw [place]; rfl) ?_ rfl rfl
      rw [show (State.clients _ client) = _ from set_client_self state client .idle]
      rfl

/-! ## Starting alone -/

/-- Who owns the mutex, and that at most one worker is in its loop. -/
structure OneReporter (state : State Callback) : Prop where
  clientOwns : ∀ client, (state.clients client).holds = true →
    state.mMutex = some (.client client)
  workerOwns : ∀ worker, (state.workers worker).holds = true →
    state.mMutex = some (.worker worker)
  spawning : ∀ client, state.clients client = .spawn →
    ∀ worker, (state.workers worker).live = false
  single : ∀ left right, (state.workers left).live = true → (state.workers right).live = true →
    left = right

section Invariant

variable {state after : State Callback}

theorem owner_unique (one : OneReporter state) {left right : Nat}
    (leftHolds : (state.clients left).holds = true)
    (rightHolds : (state.clients right).holds = true) : left = right := by
  have both := (one.clientOwns left leftHolds).symm.trans (one.clientOwns right rightHolds)
  exact Owner.client.inj (Option.some.inj both)

theorem spawn_holds {place : ClientAt Callback} (spawns : place = .spawn) :
    place.holds = true := by
  rw [spawns]
  rfl

/-- A step of a client that does not spawn a worker. -/
theorem keeps_without_spawn {client : Nat} (one : OneReporter state)
    (workers : after.workers = state.workers)
    (clientOwns : ∀ other, (after.clients other).holds = true →
      after.mMutex = some (.client other))
    (workerOwns : ∀ worker, (state.workers worker).holds = true →
      after.mMutex = some (.worker worker))
    (others : ∀ other, other ≠ client → after.clients other = state.clients other)
    (spawns : after.clients client = .spawn → ∀ worker, (state.workers worker).live = false) :
    OneReporter after where
  clientOwns := clientOwns
  workerOwns := by
    rw [workers]
    exact workerOwns
  spawning := by
    intro other place
    rw [workers]
    by_cases same : other = client
    · rw [same] at place
      exact spawns place
    · rw [others other same] at place
      exact one.spawning other place
  single := by
    rw [workers]
    exact one.single

/-- Who holds the mutex behind a client's step is the client, or held it before. -/
theorem holds_after {client other : Nat}
    (others : ∀ other, other ≠ client → after.clients other = state.clients other)
    (holds : (after.clients other).holds = true) :
    other = client ∧ (after.clients client).holds = true ∨
      other ≠ client ∧ (state.clients other).holds = true := by
  by_cases same : other = client
  · exact .inl ⟨same, same ▸ holds⟩
  · rw [others other same] at holds
    exact .inr ⟨same, holds⟩

/-- The spawned worker is the only one in its loop. -/
theorem spawn_keeps {client : Nat} (one : OneReporter state)
    (others : ∀ other, other ≠ client → after.clients other = state.clients other)
    (before : state.clients client = .spawn) (behind : after.clients client = .unlock)
    (mutex : after.mMutex = state.mMutex)
    (workers : after.workers = Function.update state.workers state.started .test) :
    OneReporter after := by
  have nobody := one.spawning client before
  have here := spawn_holds before
  constructor
  · intro other holds
    rcases holds_after others holds with ⟨same, -⟩ | ⟨-, held⟩
    · rw [same]
      exact mutex.trans (one.clientOwns client here)
    · exact mutex.trans (one.clientOwns other held)
  · intro worker holds
    rw [workers] at holds
    by_cases new : worker = state.started
    · rw [new, Function.update_self] at holds
      cases holds
    · rw [Function.update_of_ne new] at holds
      exact mutex.trans (one.workerOwns worker holds)
  · intro other place
    rcases holds_after others (spawn_holds place) with ⟨same, -⟩ | ⟨apart, held⟩
    · rw [same, behind] at place
      cases place
    · exact absurd (owner_unique one held here) apart
  · have new : ∀ worker, (after.workers worker).live = true → worker = state.started := by
      intro worker live
      by_contra old
      rw [workers, Function.update_of_ne old, nobody worker] at live
      cases live
    intro left right leftLive rightLive
    exact (new left leftLive).trans (new right rightLive).symm

theorem client_keeps {client : Nat} (one : OneReporter state)
    (others : ∀ other, other ≠ client → after.clients other = state.clients other)
    (phase : ClientPhase state after client)
    (alone : state.clients client = .start → ∀ worker, (state.workers worker).live = false) :
    OneReporter after := by
  cases phase with
  | outside behind mutex workers =>
      refine keeps_without_spawn one workers ?_ ?_ others ?_
      · intro other holds
        rcases holds_after others holds with ⟨-, here⟩ | ⟨-, held⟩
        · rw [behind] at here
          cases here
        · exact mutex.trans (one.clientOwns other held)
      · exact fun worker holds => mutex.trans (one.workerOwns worker holds)
      · intro spawns
        rw [spawn_holds spawns] at behind
        cases behind
  | acquired free mutex place workers =>
      have nobody : ∀ owner, state.mMutex ≠ some owner := by
        intro owner owned
        rw [free] at owned
        cases owned
      refine keeps_without_spawn one workers ?_ ?_ others ?_
      · intro other holds
        rcases holds_after others holds with ⟨same, -⟩ | ⟨-, held⟩
        · rw [same]
          exact mutex
        · exact absurd (one.clientOwns other held) (nobody _)
      · exact fun worker holds => absurd (one.workerOwns worker holds) (nobody _)
      · exact fun spawns => absurd spawns place
  | inside before mutex spawns workers =>
      refine keeps_without_spawn one workers ?_ ?_ others ?_
      · intro other holds
        rcases holds_after others holds with ⟨same, -⟩ | ⟨-, held⟩
        · rw [same, mutex]
          exact one.clientOwns client before
        · exact mutex.trans (one.clientOwns other held)
      · exact fun worker holds => mutex.trans (one.workerOwns worker holds)
      · exact fun place => alone (spawns place)
  | spawned before behind mutex workers =>
      exact spawn_keeps one others before behind mutex workers
  | released before behind mutex workers =>
      have owned := one.clientOwns client before
      refine keeps_without_spawn one workers ?_ ?_ others ?_
      · intro other holds
        rcases holds_after others holds with ⟨-, here⟩ | ⟨apart, held⟩
        · rw [behind] at here
          cases here
        · exact absurd (owner_unique one held before) apart
      · intro worker holds
        have both := owned.symm.trans (one.workerOwns worker holds)
        cases both
      · intro spawns
        rw [spawn_holds spawns] at behind
        cases behind

theorem live_before {worker : Nat} (change : WorkerChange state after worker) {other : Nat}
    (live : (after.workers other).live = true) : (state.workers other).live = true := by
  by_cases same : other = worker
  · rw [same]
    exact change.alive
  · rw [change.others other same] at live
    exact live

theorem worker_keeps {worker : Nat} (one : OneReporter state)
    (change : WorkerChange state after worker) : OneReporter after where
  clientOwns := by
    intro client holds
    rw [change.clients] at holds
    have owned := one.clientOwns client holds
    rcases change.mutex with ⟨same, -⟩ | ⟨free, -⟩ | ⟨held, -, -⟩
    · exact same.trans owned
    · rw [free] at owned
      cases owned
    · have both := owned.symm.trans (one.workerOwns worker held)
      cases both
  workerOwns := by
    intro other holds
    rcases change.mutex with ⟨mutex, place⟩ | ⟨free, mutex⟩ | ⟨held, released, -⟩
    · by_cases same : other = worker
      · rw [same, place] at holds
        rw [same, mutex]
        exact one.workerOwns worker holds
      · rw [change.others other same] at holds
        exact mutex.trans (one.workerOwns other holds)
    · by_cases same : other = worker
      · rw [same]
        exact mutex
      · rw [change.others other same] at holds
        have owned := one.workerOwns other holds
        rw [free] at owned
        cases owned
    · by_cases same : other = worker
      · rw [same, released] at holds
        cases holds
      · rw [change.others other same] at holds
        have both := (one.workerOwns worker held).symm.trans (one.workerOwns other holds)
        exact absurd (Owner.worker.inj (Option.some.inj both)).symm same
  spawning := by
    intro client place
    rw [change.clients] at place
    have alive := change.alive
    rw [one.spawning client place worker] at alive
    cases alive
  single := by
    intro left right leftLive rightLive
    exact one.single left right (live_before change leftLive) (live_before change rightLive)

theorem constructed_one_reporter (mIsActive : Bool) :
    OneReporter (constructed Callback mIsActive) where
  clientOwns := fun _ holds => nomatch holds
  workerOwns := fun _ holds => nomatch holds
  spawning := fun _ place => nomatch place
  single := fun _ _ live => nomatch live

/-- Beginning a call takes no lock. -/
theorem begin_phase {client : Nat} (call : Call (Option Callback)) :
    ClientPhase state (state.setClient client (begin call)) client := by
  refine .outside ?_ rfl rfl
  rw [set_client_self]
  cases call <;> rfl

theorem call_begins {client : Nat} {call : Call (Option Callback)}
    (moved : next state (.call client call) = some after) :
    state.clients client = .idle ∧ after = state.setClient client (begin call) := by
  simp only [next] at moved
  cases place : state.clients client with
  | idle =>
      rw [place] at moved
      exact ⟨rfl, (Option.some.inj moved).symm⟩
  | _ => simp [place] at moved

theorem reachable_one_reporter
    (reached : ((system Callback).restrict StartsAlone).Reachable state) : OneReporter state := by
  apply TransitionSystem.reachable_invariant OneReporter _ _ reached
  · intro first start
    obtain ⟨mIsActive, same⟩ := start
    rw [same]
    exact constructed_one_reporter mIsActive
  · intro before label after one step
    obtain ⟨alone, moved⟩ := step
    cases label with
    | call client call =>
        obtain ⟨place, same⟩ := call_begins moved
        rw [same]
        refine client_keeps one (fun other apart => set_client_other before apart _)
          (begin_phase call) ?_
        rw [place]
        exact nofun
    | client client => exact client_keeps one (client_others moved) (client_phase moved) alone
    | worker worker => exact worker_keeps one (worker_change moved)

/-- A worker that can deliver is in its loop. -/
theorem can_deliver_live {worker : Nat} (can : CanDeliver state worker) :
    (state.workers worker).live = true := by
  obtain ⟨tested, after, later, callback, moves, place, -⟩ := can
  have live : (tested.workers worker).live = true := by
    rw [place]
    rfl
  clear place
  induction moves with
  | refl => exact live
  | tail _ moved ih =>
      obtain ⟨other, step⟩ := moved
      exact ih (live_before (worker_change step) live)

end Invariant

end Property

/-- When every start finds the earlier workers gone, at most one can deliver in every state. -/
theorem at_most_one_reporter (Callback : Type) (state : State Callback)
    (reached : ((system Callback).restrict StartsAlone).Reachable state) :
    AtMostOneReporter state := by
  have one := reachable_one_reporter reached
  intro _ left right leftDelivers rightDelivers
  exact one.single left right (can_deliver_live leftDelivers) (can_deliver_live rightDelivers)

theorem at_most_one_reporter_registered :
    ∃ state, ((system Unit).restrict StartsAlone).Reachable state ∧
      (state.workers 0).live = true ∧ AtMostOneReporter state := by
  have constructed : ((system Unit).restrict StartsAlone).Reachable (constructed Unit false) :=
    .start ⟨false, rfl⟩
  have called := @TransitionSystem.Reachable.next _ _ _ _ _
    (Label.call 0 (.setCallback (some ()))) constructed ⟨trivial, rfl⟩
  have locked := @TransitionSystem.Reachable.next _ _ _ _ _ (Label.client 0) called
    ⟨nofun, rfl⟩
  have written := @TransitionSystem.Reachable.next _ _ _ _ _ (Label.client 0) locked
    ⟨nofun, rfl⟩
  have tested := @TransitionSystem.Reachable.next _ _ _ _ _ (Label.client 0) written
    ⟨nofun, rfl⟩
  have started := @TransitionSystem.Reachable.next _ _ _ _ _ (Label.client 0) tested
    ⟨fun _ _ => rfl, rfl⟩
  have spawned := @TransitionSystem.Reachable.next _ _ _ _ _ (Label.client 0) started
    ⟨nofun, rfl⟩
  exact ⟨_, spawned, rfl, at_most_one_reporter Unit _ spawned⟩

/-! ## Registering twice -/

theorem worker_moves_of_run {Callback : Type} {state after : State Callback} (workers : List Nat)
    (ran : workers.foldlM nextWorker state = some after) :
    Relation.ReflTransGen WorkerMoves state after := by
  induction workers generalizing state with
  | nil =>
      rw [List.foldlM_nil] at ran
      rw [Option.some.inj ran]
  | cons worker rest ih =>
      rw [List.foldlM_cons] at ran
      obtain ⟨middle, moved, later⟩ := Option.bind_eq_some_iff.mp ran
      exact .head ⟨worker, moved⟩ (ih later)

/-- A client registers a callback, the worker delivers once and sleeps, and the client registers
again. -/
def registerTwice : List (Label Unit) :=
  .call 0 (.setCallback (some ())) :: List.replicate 6 (.client 0) ++
    List.replicate 5 (.worker 0) ++
    .call 0 (.setCallback (some ())) :: List.replicate 7 (.client 0)

theorem can_deliver_of_runs {Callback : Type} {state tested after : State Callback} {worker : Nat}
    {callback : Callback} (first second : List Nat)
    (ran : first.foldlM nextWorker state = some tested) (place : tested.workers worker = .test)
    (delivering : second.foldlM nextWorker tested = some after)
    (delivers : after.delivered = tested.delivered ++ [(worker, callback)]) :
    CanDeliver state worker :=
  ⟨tested, after, [(worker, callback)], callback, worker_moves_of_run first ran, place,
    worker_moves_of_run second delivering, delivers, List.mem_singleton_self _⟩

theorem registered_twice_reports_twice :
    ∃ state, (system Unit).Reachable state ∧ CanDeliver state 0 ∧ CanDeliver state 1 ∧
      ¬ AtMostOneReporter state := by
  have run : ∃ state firstTested firstAfter secondAfter : State Unit,
      registerTwice.foldlM next (constructed Unit false) = some state ∧
      (∀ client, state.clients client = .idle) ∧
      ([0].foldlM nextWorker state = some firstTested ∧ firstTested.workers 0 = .test ∧
        (List.replicate 5 0).foldlM nextWorker firstTested = some firstAfter ∧
        firstAfter.delivered = firstTested.delivered ++ [(0, ())]) ∧
      (state.workers 1 = .test ∧
        (List.replicate 5 1).foldlM nextWorker state = some secondAfter ∧
        secondAfter.delivered = state.delivered ++ [(1, ())]) := by
    refine ⟨_, _, _, _, rfl, ?_, ⟨rfl, rfl, rfl, rfl⟩, rfl, rfl, rfl⟩
    intro client
    cases client with
    | zero => rfl
    | succ other => rfl
  obtain ⟨state, firstTested, firstAfter, secondAfter, ran, idle, ⟨woken, firstPlace, firstRan,
    firstDelivers⟩, secondPlace, secondRan, secondDelivers⟩ := run
  have start : (system Unit).Reachable (constructed Unit false) := .start ⟨false, rfl⟩
  have reached : (system Unit).Reachable state :=
    TransitionSystem.reachable_of_run registerTwice start ran
  have first := can_deliver_of_runs [0] (List.replicate 5 0) woken firstPlace firstRan firstDelivers
  have second := can_deliver_of_runs [] (List.replicate 5 1) rfl secondPlace secondRan
    secondDelivers
  refine ⟨state, reached, first, second, ?_⟩
  intro single
  exact absurd (single idle 0 1 first second) Nat.zero_ne_one

end RedroidExt.Gnss.GnssMeasurementInterface
