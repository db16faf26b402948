import RedroidExt.Gnss.LookupErrors
import RedroidExt.Library.Paths

/-!
# The end of a session

`stop` clears `mIsActive`, reports the end of the session and waits for the thread. What
the thread still does then is bounded by where it stands in its loop, and from the return
of `stop` to the next `start` there is no thread.
-/

namespace RedroidExt.Gnss.GnssTemplate

open RedroidExt.Library

set_option autoImplicit false

variable {Callback Number : Type}

def Message.isSvStatus : Message Number → Bool
  | .gnssSvStatusCb => true
  | _ => false

def Invocation.isSvStatus (invocation : Invocation Callback Number) : Bool :=
  invocation.message.isSvStatus

def Step.isReporter : Step Number → Bool
  | .client => false
  | .reporter _ => true

/-! ## What the thread has left -/

/-- How many statements are left when the flag is clear. -/
def LoopAt.left : LoopAt Number → Nat
  | .exited => 0
  | .test => 1
  | .sleep => 2
  | .report _ => 3
  | .mock => 4
  | .lookup => 5
  | .svStatus => 6

def LoopAt.svLeft : LoopAt Number → Nat
  | .svStatus => 1
  | _ => 0

/-- Whether the pass has still to report its location. -/
def LoopAt.locationLeft (place : LoopAt Number) : Nat := if place.outside then 0 else 1

/-- Nothing is left without a thread, or when the process is gone. -/
def State.left (state : State Callback Number) (measure : LoopAt Number → Nat) : Nat :=
  if state.terminated then 0 else (state.mThread.map measure).getD 0

/-- What happens while the flag is clear. -/
structure WindsDown (state : State Callback Number) (steps : List (Step Number))
    (after : State Callback Number) : Prop where
  /-- No pass of the loop is begun. -/
  rounds : after.rounds = state.rounds
  statements : steps.countP Step.isReporter + after.left LoopAt.left ≤ state.left LoopAt.left
  sent : ∃ added, after.sent = state.sent ++ added ∧
    added.countP Invocation.isSvStatus + after.left LoopAt.svLeft ≤ state.left LoopAt.svLeft ∧
    added.countP Invocation.isLocation + after.left LoopAt.locationLeft ≤
      state.left LoopAt.locationLeft

variable {state middle after : State Callback Number}

theorem winds_down_refl (state : State Callback Number) : WindsDown state [] state where
  rounds := rfl
  statements := Nat.le_of_eq (Nat.zero_add _)
  sent := ⟨[], (List.append_nil _).symm, Nat.le_of_eq (Nat.zero_add _),
    Nat.le_of_eq (Nat.zero_add _)⟩

theorem winds_down_trans {first second : List (Step Number)}
    (before : WindsDown state first middle) (behind : WindsDown middle second after) :
    WindsDown state (first ++ second) after := by
  rcases before.sent with ⟨early, sent, svEarly, locationEarly⟩
  rcases behind.sent with ⟨late, sentLate, svLate, locationLate⟩
  have statements := before.statements
  have later := behind.statements
  constructor
  · exact behind.rounds.trans before.rounds
  · rw [List.countP_append]
    omega
  · refine ⟨early ++ late, ?_, ?_, ?_⟩
    · rw [sentLate, sent, List.append_assoc]
    · rw [List.countP_append]
      omega
    · rw [List.countP_append]
      omega

theorem left_of_thread (alive : state.terminated = false) {mThread : Option (LoopAt Number)}
    (place : state.mThread = mThread) (measure : LoopAt Number → Nat) :
    state.left measure = (mThread.map measure).getD 0 := by
  unfold State.left
  rw [alive, place]
  rfl

theorem left_none (measure : LoopAt Number → Nat) (gone : state.mThread = none) :
    state.left measure = 0 := by
  unfold State.left
  rw [gone]
  exact ite_self _

theorem left_at_most (place : LoopAt Number) :
    place.left ≤ 6 ∧ place.svLeft ≤ 1 ∧ place.locationLeft ≤ 1 := by
  cases place with
  | _ => simp [LoopAt.left, LoopAt.svLeft, LoopAt.locationLeft, LoopAt.outside]

theorem left_bounded (one : OneThread state) (inactive : state.mIsActive = false)
    {measure : LoopAt Number → Nat} {bound : Nat} (bounded : ∀ place, measure place ≤ bound) :
    state.left measure ≤ if state.client.stopping then bound else 0 := by
  cases thread : state.mThread with
  | none =>
      rw [left_none measure thread]
      exact Nat.zero_le _
  | some place =>
      have stopping : state.client.stopping = true := by
        rcases one.running (by simp [thread]) with active | stopping
        · rw [inactive] at active
          cases active
        · exact stopping
      rw [if_pos stopping]
      unfold State.left
      rw [thread]
      split
      · exact Nat.zero_le _
      · exact bounded place

/-! ## The client -/

theorem invoke_countP_zero (callbacks : Callbacks Callback) (version : Version)
    {messages : List (Message Number)} {kind : Message Number → Bool}
    (none : messages.countP kind = 0) :
    (callbacks.invoke version messages).countP (fun invocation => kind invocation.message) = 0 := by
  unfold Callbacks.invoke
  cases callbacks.get version with
  | none => rfl
  | some callback =>
      rw [List.countP_map]
      exact none

/-- A statement of the client sends no data. -/
theorem winds_down_silent {added : List (Invocation Callback Number)}
    (rounds : after.rounds = state.rounds) (sent : after.sent = state.sent ++ added)
    (sv : added.countP Invocation.isSvStatus = 0)
    (location : added.countP Invocation.isLocation = 0)
    (less : ∀ measure, after.left measure ≤ state.left measure) :
    WindsDown state [.client] after where
  rounds := rounds
  statements := Nat.le_trans (Nat.le_of_eq (Nat.zero_add _)) (less _)
  sent := by
    refine ⟨added, sent, ?_, ?_⟩
    · rw [sv, Nat.zero_add]
      exact less _
    · rw [location, Nat.zero_add]
      exact less _

theorem winds_down_unsent (rounds : after.rounds = state.rounds) (sent : after.sent = state.sent)
    (less : ∀ measure, after.left measure ≤ state.left measure) :
    WindsDown state [.client] after :=
  winds_down_silent rounds (sent.trans (List.append_nil _).symm) List.countP_nil List.countP_nil
    less

theorem begin_winds_down (state : State Callback Number) (call : Call Callback) :
    WindsDown state [.client] (state.begin call) := by
  cases call with
  | register version callback =>
      cases callback with
      | none => exact winds_down_unsent rfl rfl fun _ => Nat.le_refl _
      | some callback => exact winds_down_unsent rfl rfl fun _ => Nat.le_refl _
  | cleanup => exact winds_down_unsent rfl rfl fun _ => Nat.le_refl _
  | start => exact winds_down_unsent rfl rfl fun _ => Nat.le_refl _
  | stop => exact winds_down_unsent rfl rfl fun _ => Nat.le_refl _

theorem client_winds_down (one : OneThread state) (inactive : state.mIsActive = false)
    (taken : nextClient state = some after) :
    WindsDown state [.client] after := by
  cases place : state.client with
  | idle =>
      simp only [nextClient, place] at taken
      cases calls : state.calls with
      | nil => simp [calls] at taken
      | cons call rest =>
          rw [calls] at taken
          cases taken
          have begun := begin_winds_down { state with client := .idle, calls := rest } call
          exact ⟨begun.rounds, begun.statements, begun.sent⟩
  | announce version =>
      simp only [nextClient, place] at taken
      cases taken
      exact winds_down_silent rfl rfl (invoke_countP_zero _ _ (by cases version <;> rfl))
        (invoke_countP_zero _ _ (by cases version <;> rfl)) fun _ => Nat.le_refl _
  | testActive =>
      simp only [nextClient, place] at taken
      cases taken
      exact winds_down_unsent rfl rfl fun _ => Nat.le_refl _
  | stop caller =>
      simp only [nextClient, place] at taken
      cases taken
      exact winds_down_unsent rfl rfl fun _ => Nat.le_refl _
  | sessionEnd caller =>
      simp only [nextClient, place] at taken
      cases taken
      exact winds_down_silent rfl rfl (invoke_countP_zero _ _ rfl) (invoke_countP_zero _ _ rfl)
        fun _ => Nat.le_refl _
  | join caller =>
      have joined : ∀ measure, State.left { state with client := afterStop caller, mThread := none }
          measure ≤ state.left measure :=
        fun measure => Nat.le_trans (Nat.le_of_eq (left_none measure rfl)) (Nat.zero_le _)
      simp only [nextClient, place] at taken
      cases thread : state.mThread with
      | none =>
          simp only [thread] at taken
          cases taken
          exact winds_down_unsent rfl rfl joined
      | some reporter =>
          simp only [thread] at taken
          cases reporter with
          | exited =>
              cases taken
              exact winds_down_unsent rfl rfl joined
          | _ => cases taken
  | start =>
      simp only [nextClient, place] at taken
      cases taken
      exact winds_down_unsent rfl rfl fun _ => Nat.le_refl _
  | sessionBegin =>
      exact absurd (one.active (.inl place)) (by simp [inactive])
  | spawn =>
      exact absurd (one.active (.inr place)) (by simp [inactive])

/-- The thread has ended, and `stop` can return. -/
theorem join_returns {caller : Caller} (joining : state.client = .join caller)
    (ended : state.mThread = none ∨ state.mThread = some .exited) :
    ∃ after, nextClient state = some after := by
  rcases ended with none | exited
  · exact ⟨_, by simp only [nextClient, joining, none]; rfl⟩
  · exact ⟨_, by simp only [nextClient, joining, exited]; rfl⟩

/-! ## The thread -/

theorem invoke_countP_le (callbacks : Callbacks Callback) (version : Version)
    (message : Message Number) (kind : Message Number → Bool) :
    (callbacks.invoke version [message]).countP (fun invocation => kind invocation.message) ≤
      1 := by
  unfold Callbacks.invoke
  cases callbacks.get version with
  | none => exact Nat.zero_le _
  | some callback => exact List.countP_le_length

theorem report_location_countP (callbacks : Callbacks Callback)
    (location : ReportedLocation Number) :
    (reportLocation callbacks location).countP Invocation.isSvStatus = 0 ∧
      (reportLocation callbacks location).countP Invocation.isLocation ≤ 1 := by
  have one := fun version => invoke_countP_le callbacks version (.gnssLocationCb location)
    Message.isLocation
  have other : [Message.gnssLocationCb location].countP Message.isSvStatus = 0 := rfl
  have none := fun version => invoke_countP_zero callbacks version other
  cases location with
  | v1_0 location =>
      simp only [reportLocation]
      split
      · exact ⟨none _, one _⟩
      · exact ⟨none _, one _⟩
  | v2_0 location =>
      simp only [reportLocation]
      split
      · exact ⟨none _, one _⟩
      · exact ⟨none _, one _⟩

/-- A statement of the thread that leads closer to the end of the loop. -/
theorem winds_down_thread {place next : LoopAt Number} {added : List (Invocation Callback Number)}
    (surroundings : Surroundings Number) (alive : state.terminated = false)
    (still : after.terminated = false) (before : state.mThread = some place)
    (behind : after.mThread = some next) (rounds : after.rounds = state.rounds)
    (sent : after.sent = state.sent ++ added) (closer : next.left < place.left)
    (sv : added.countP Invocation.isSvStatus + next.svLeft ≤ place.svLeft)
    (location : added.countP Invocation.isLocation + next.locationLeft ≤ place.locationLeft) :
    WindsDown state [.reporter surroundings] after := by
  have first := left_of_thread alive before
  have last := left_of_thread still behind
  constructor
  · exact rounds
  · rw [first, last]
    exact Nat.one_add_le_iff.mpr closer
  · refine ⟨added, sent, ?_, ?_⟩
    · rw [first, last]
      exact sv
    · rw [first, last]
      exact location

variable [NatCast Number] {std : Conversions Number} {surroundings : Surroundings Number}

theorem reporter_winds_down (alive : state.terminated = false) (inactive : state.mIsActive = false)
    (taken : nextReporter std surroundings state = some after) :
    WindsDown state [.reporter surroundings] after := by
  have unsent := (List.append_nil state.sent).symm
  cases loop_step taken with
  | enter place => simp [nextReporter, place, inactive] at taken
  | leave place =>
      exact winds_down_thread surroundings alive alive place rfl rfl unsent (Nat.lt_succ_self _)
        (Nat.le_refl _) (Nat.le_refl _)
  | svStatus place =>
      have other : [(.gnssSvStatusCb : Message Number)].countP Message.isLocation = 0 := rfl
      have sv := invoke_countP_le state.callbacks .v2_1 (.gnssSvStatusCb : Message Number)
        Message.isSvStatus
      have location := invoke_countP_zero state.callbacks .v2_1 other
      exact winds_down_thread surroundings alive alive place rfl rfl rfl (Nat.lt_succ_self _) sv
        (Nat.le_of_eq (congrArg (· + 1) location))
  | throws place =>
      have gone : ∀ measure, State.left { state with terminated := true } measure = 0 :=
        fun _ => if_pos rfl
      refine ⟨rfl, ?_, [], unsent, ?_, ?_⟩
      · rw [gone, left_of_thread alive place]
        exact (by decide : 1 ≤ 5)
      · rw [gone]
        exact Nat.zero_le _
      · rw [gone]
        exact Nat.zero_le _
  | found place location =>
      exact winds_down_thread surroundings alive alive place rfl rfl unsent
        (by decide : 3 < 5) (Nat.le_refl _) (Nat.le_refl _)
  | mock place location =>
      exact winds_down_thread surroundings alive alive place rfl rfl unsent (Nat.lt_succ_self _)
        (Nat.le_refl _) (Nat.le_refl _)
  | @report location place =>
      rcases report_location_countP state.callbacks location with ⟨sv, one⟩
      exact winds_down_thread surroundings alive alive place rfl rfl rfl (Nat.lt_succ_self _)
        (Nat.le_of_eq sv) one
  | wake place =>
      exact winds_down_thread surroundings alive alive place rfl rfl unsent (Nat.lt_succ_self _)
        (Nat.le_refl _) (Nat.le_refl _)

/-! ## Whole runs -/

theorem next_alive {step : Step Number} (taken : next std state step = some after) :
    state.terminated = false := by
  cases alive : state.terminated with
  | false => rfl
  | true => simp [next, alive] at taken

theorem reporter_keeps_one (one : OneThread state)
    (taken : nextReporter std surroundings state = some after) : OneThread after := by
  have started : state.mThread ≠ none := by
    intro none
    simp [nextReporter, none] at taken
  have same : after.client = state.client ∧ after.mIsActive = state.mIsActive := by
    cases loop_step taken with
    | _ => exact ⟨rfl, rfl⟩
  rcases same with ⟨client, active⟩
  constructor
  · rw [client]
    exact fun starting => absurd (one.alone starting) started
  · rw [client, active]
    exact one.active
  · rw [client, active]
    exact fun _ => one.running started

theorem reachable_one {calls : List (Call Callback)}
    (reached : (system std calls).Reachable state) : OneThread state := by
  apply TransitionSystem.reachable_invariant _ _ _ reached
  · rintro first ⟨mIsActive, rfl⟩
    exact ⟨fun _ => rfl, by simp [constructed], by simp [constructed]⟩
  · intro before step next one taken
    rcases next_cases taken with client | ⟨surroundings, reporter⟩
    · exact (client_one_thread one client).1
    · exact reporter_keeps_one one reporter

theorem step_winds_down (one : OneThread state) (inactive : state.mIsActive = false)
    {step : Step Number} (taken : next std state step = some after) :
    WindsDown state [step] after := by
  have alive := next_alive taken
  simp only [next, alive] at taken
  cases step with
  | client => exact client_winds_down one inactive taken
  | reporter surroundings => exact reporter_winds_down alive inactive taken

/-- Only steps that are taken while the flag is clear. -/
def whileInactive (std : Conversions Number) (calls : List (Call Callback)) :
    TransitionSystem (State Callback Number) (Step Number) :=
  (system std calls).restrict fun state _ => state.mIsActive = false

theorem inactive_winds_down {calls : List (Call Callback)} {steps : List (Step Number)}
    (reached : (system std calls).Reachable state)
    (path : (whileInactive std calls).Takes state steps after) :
    (system std calls).Reachable after ∧ WindsDown state steps after := by
  induction path with
  | stops => exact ⟨reached, winds_down_refl state⟩
  | goes before taken ih =>
      rcases ih with ⟨arrived, down⟩
      rcases taken with ⟨inactive, taken⟩
      exact ⟨.next arrived taken,
        winds_down_trans down (step_winds_down (reachable_one arrived) inactive taken)⟩

theorem reporter_goes_on (std : Conversions Number) (surroundings : Surroundings Number)
    {place : LoopAt Number} (thread : state.mThread = some place) (running : place ≠ .exited) :
    ∃ after, nextReporter std surroundings state = some after := by
  cases place with
  | exited => exact absurd rfl running
  | lookup =>
      cases found : getLocationFromHW std surroundings with
      | error thrown => exact ⟨_, by simp only [nextReporter, thread, found]; rfl⟩
      | ok current =>
          rcases location_from_hw_not_null found with ⟨location, rfl⟩
          exact ⟨_, by simp only [nextReporter, thread, found]; rfl⟩
  | test =>
      simp only [nextReporter, thread]
      split
      · exact ⟨_, rfl⟩
      · exact ⟨_, rfl⟩
  | mock =>
      simp only [nextReporter, thread]
      split
      · exact ⟨_, rfl⟩
      · exact ⟨_, rfl⟩
  | _ => exact ⟨_, by simp only [nextReporter, thread]; rfl⟩

/-- Where `stop` waits, the client goes on or the thread does. -/
theorem join_not_blocked {calls : List (Call Callback)} (alive : state.terminated = false)
    {caller : Caller} (joining : state.client = .join caller) (surroundings : Surroundings Number) :
    ∃ step after, (system std calls).step state step after ∧
      (step = .client ∨ step = .reporter surroundings) := by
  have running : ∀ step, next std state step = match step with
      | .client => nextClient state
      | .reporter surroundings => nextReporter std surroundings state :=
    fun step => by simp only [next, alive]; rfl
  by_cases ended : state.mThread = none ∨ state.mThread = some .exited
  · rcases join_returns joining ended with ⟨after, taken⟩
    exact ⟨.client, after, (running .client).trans taken, .inl rfl⟩
  · rcases not_or.mp ended with ⟨some, exited⟩
    rcases Option.ne_none_iff_exists'.mp some with ⟨place, thread⟩
    rw [thread] at exited
    rcases reporter_goes_on std surroundings thread (fun same => exited (congrArg _ same)) with
      ⟨after, taken⟩
    exact ⟨.reporter surroundings, after, (running _).trans taken, .inr rfl⟩

/-- What is left of a session whose flag is clear: at most six statements of the thread and one
report of each kind, and nothing at all outside of `stop`. -/
structure SessionEnds (std : Conversions Number) (calls : List (Call Callback))
    (state : State Callback Number) (steps : List (Step Number))
    (after : State Callback Number) : Prop where
  rounds : after.rounds = state.rounds
  statements : steps.countP Step.isReporter ≤
    if state.client.stopping then 6 else 0
  sent : ∃ added, after.sent = state.sent ++ added ∧
    added.countP Invocation.isSvStatus ≤ (if state.client.stopping then 1 else 0) ∧
    added.countP Invocation.isLocation ≤ if state.client.stopping then 1 else 0
  waits : ∀ caller, after.client = .join caller → after.terminated = false →
    ∀ surroundings, ∃ step next, (system std calls).step after step next ∧
      (step = .client ∨ step = .reporter surroundings)

/-- From any reachable state in which the flag is clear, and over every interleaving that does not
set it again: the thread ends its pass, begins no other one, and `stop`, which waits for
it, is never blocked. Outside of `stop` nothing is delivered. -/
theorem stop_ends_session {calls : List (Call Callback)} {steps : List (Step Number)}
    (reached : (system std calls).Reachable state) (inactive : state.mIsActive = false)
    (path : (whileInactive std calls).Takes state steps after) :
    SessionEnds std calls state steps after := by
  rcases inactive_winds_down reached path with ⟨arrived, down⟩
  rcases down.sent with ⟨added, sent, sv, location⟩
  have one := reachable_one reached
  have statements := left_bounded one inactive fun place => (left_at_most place).1
  have svLeft := left_bounded one inactive fun place => (left_at_most place).2.1
  have locationLeft := left_bounded one inactive fun place => (left_at_most place).2.2
  have total := down.statements
  constructor
  · exact down.rounds
  · omega
  · exact ⟨added, sent, by omega, by omega⟩
  · exact fun caller joining alive => join_not_blocked alive joining

/-! ## A session that is stopped -/

/-- `stop` is called while the thread is in its first pass. -/
def stoppedInPass : List (Step Int) :=
  List.replicate 7 .client ++ List.replicate 2 (.reporter completeFile) ++ List.replicate 2 .client

/-- The end is reported, the thread ends its pass, and `stop` returns. -/
def untilReturned : List (Step Int) :=
  [.client] ++ List.replicate 4 (.reporter completeFile) ++ [.client]

theorem stop_ends_session_in_pass :
    ∃ state after : State Nat Int, state.mThread = some .lookup ∧ after.mThread = none ∧
      after.client = .idle ∧
      SessionEnds threeOnly [setCallback_2_1 (some 1), .start, .stop] state untilReturned after := by
  have reached : ∃ state : State Nat Int,
      (system threeOnly [setCallback_2_1 (some 1), .start, .stop]).Reachable state ∧
      state.mThread = some .lookup ∧ state.mIsActive = false ∧
      TransitionSystem.checkRun (fun state step => (next threeOnly state step).getD state)
        (fun state step => (next threeOnly state step).isSome && !state.mIsActive) state
        untilReturned = true ∧
      (untilReturned.foldl (fun state step => (next threeOnly state step).getD state) state).mThread =
        none ∧
      (untilReturned.foldl (fun state step => (next threeOnly state step).getD state) state).client =
        .idle :=
    ⟨_, TransitionSystem.reachable_of_run stoppedInPass (.start ⟨false, rfl⟩) rfl, rfl, rfl,
      by decide +kernel, by decide +kernel, by decide +kernel⟩
  rcases reached with ⟨state, reached, thread, inactive, checked, gone, idle⟩
  have path := TransitionSystem.takes_of_check
    (whileInactive threeOnly [setCallback_2_1 (some 1), .start, .stop]) _ _
    (by
      intro state step allowed
      rcases Bool.and_eq_true_iff.mp allowed with ⟨taken, inactive⟩
      refine ⟨(Bool.not_eq_true' _).mp inactive, (Option.some_get taken).symm.trans ?_⟩
      rw [Option.get_eq_getD])
    untilReturned checked
  exact ⟨state, _, thread, gone, idle, stop_ends_session reached inactive path⟩

end RedroidExt.Gnss.GnssTemplate
