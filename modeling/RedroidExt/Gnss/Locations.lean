import RedroidExt.Gnss.GnssTemplate

/-!
# Who gets the locations

`getLocationFromHW` never returns a null pointer, so every pass of the loop takes the
overload of `reportLocation` that serves versions 2.1 and 2.0 only.
-/

namespace RedroidExt.Gnss.GnssTemplate

open RedroidExt.Library

set_option autoImplicit false

variable {Callback Number : Type}

/-! ## Registered versions -/

/-- The newest registered version with its callback. -/
def Callbacks.newest (callbacks : Callbacks Callback) : Option (Version × Callback) :=
  [Version.v2_1, .v2_0, .v1_1, .v1_0].findSome? fun version =>
    (callbacks.get version).map fun callback => (version, callback)

def Message.isLocation : Message Number → Bool
  | .gnssLocationCb _ => true
  | _ => false

def Invocation.isLocation (invocation : Invocation Callback Number) : Bool :=
  invocation.message.isLocation

/-- The pass delivered exactly one location, to the newest registered version. -/
def Served (iteration : Iteration Callback Number) : Prop :=
  ∀ version callback, iteration.registered.newest = some (version, callback) →
    ∃ location, iteration.delivered = [⟨version, callback, .gnssLocationCb location⟩]

/-- The overload for 2.x locations reaches the newest version when that is a 2.x version,
and nobody when only older ones are registered. -/
theorem served_by_2_0_iff (callbacks : Callbacks Callback) (location : GnssLocation_2_0 Number) :
    Served ⟨callbacks, reportLocation callbacks (.v2_0 location)⟩ ↔
      callbacks.sGnssCallback_2_1 ≠ none ∨ callbacks.sGnssCallback_2_0 ≠ none ∨
        callbacks.newest = none := by
  obtain ⟨newest, second, third, oldest⟩ := callbacks
  cases newest with
  | some callback =>
      simp [Served, Callbacks.newest, Callbacks.get, reportLocation, Callbacks.invoke]
  | none =>
      cases second with
      | some callback =>
          simp [Served, Callbacks.newest, Callbacks.get, reportLocation, Callbacks.invoke]
      | none =>
          cases third <;> cases oldest <;>
            simp [Served, Callbacks.newest, Callbacks.get, reportLocation, Callbacks.invoke]

/-! ## Which invocations are locations -/

theorem invoke_no_location (callbacks : Callbacks Callback) (version : Version)
    {messages : List (Message Number)} (others : messages.any Message.isLocation = false) :
    (callbacks.invoke version messages).filter Invocation.isLocation = [] := by
  rw [Callbacks.invoke]
  cases callbacks.get version with
  | none => rfl
  | some callback =>
      apply List.filter_eq_nil_iff.mpr
      intro invocation member
      obtain ⟨message, within, rfl⟩ := List.mem_map.mp member
      exact List.any_eq_false.mp others message within

theorem invoke_location (callbacks : Callbacks Callback) (version : Version)
    (location : ReportedLocation Number) :
    (callbacks.invoke version [.gnssLocationCb location]).filter Invocation.isLocation =
      callbacks.invoke version [.gnssLocationCb location] := by
  rw [Callbacks.invoke]
  cases callbacks.get version with
  | none => rfl
  | some callback => rfl

theorem report_location_filter (callbacks : Callbacks Callback)
    (location : ReportedLocation Number) :
    (reportLocation callbacks location).filter Invocation.isLocation =
      reportLocation callbacks location := by
  cases location with
  | v1_0 location =>
      simp only [reportLocation]
      split
      · exact invoke_location _ _ _
      · exact invoke_location _ _ _
  | v2_0 location =>
      simp only [reportLocation]
      split
      · exact invoke_location _ _ _
      · exact invoke_location _ _ _

/-! ## A step of the client reports no location -/

/-- Not between the test of `mIsActive` and the end of `reportLocation`. -/
def LoopAt.outside : LoopAt Number → Bool
  | .test => true
  | .sleep => true
  | .exited => true
  | _ => false

structure Unreported (state after : State Callback Number) : Prop where
  iterations : after.iterations = state.iterations
  rounds : after.rounds = state.rounds
  locations : after.sent.filter Invocation.isLocation = state.sent.filter Invocation.isLocation
  thread : after.mThread = state.mThread ∨
    state.mThread.all LoopAt.outside = true ∧ after.mThread.all LoopAt.outside = true

variable {state after : State Callback Number}

theorem unreported_same (iterations : after.iterations = state.iterations)
    (rounds : after.rounds = state.rounds) (sent : after.sent = state.sent)
    (thread : after.mThread = state.mThread) : Unreported state after :=
  ⟨iterations, rounds, by rw [sent], .inl thread⟩

theorem unreported_sends {others : List (Invocation Callback Number)}
    (iterations : after.iterations = state.iterations) (rounds : after.rounds = state.rounds)
    (sent : after.sent = state.sent ++ others)
    (none : others.filter Invocation.isLocation = []) (thread : after.mThread = state.mThread) :
    Unreported state after :=
  ⟨iterations, rounds, by rw [sent, List.filter_append, none, List.append_nil], .inl thread⟩

theorem begin_unreported (state : State Callback Number) (call : Call Callback) :
    Unreported state (state.begin call) := by
  cases call with
  | register version callback =>
      cases callback with
      | none => exact unreported_same rfl rfl rfl rfl
      | some callback => exact unreported_same rfl rfl rfl rfl
  | cleanup => exact unreported_same rfl rfl rfl rfl
  | start => exact unreported_same rfl rfl rfl rfl
  | stop => exact unreported_same rfl rfl rfl rfl

theorem client_unreported (taken : nextClient state = some after) : Unreported state after := by
  cases place : state.client with
  | idle =>
      simp only [nextClient, place] at taken
      cases calls : state.calls with
      | nil => simp [calls] at taken
      | cons call rest =>
          rw [calls] at taken
          cases taken
          have begun := begin_unreported { state with client := .idle, calls := rest } call
          exact ⟨begun.iterations, begun.rounds, begun.locations, begun.thread⟩
  | announce version =>
      simp only [nextClient, place] at taken
      cases taken
      exact unreported_sends rfl rfl rfl
        (invoke_no_location _ _ (by cases version <;> rfl)) rfl
  | testActive =>
      simp only [nextClient, place] at taken
      cases taken
      exact unreported_same rfl rfl rfl rfl
  | stop caller =>
      simp only [nextClient, place] at taken
      cases taken
      exact unreported_same rfl rfl rfl rfl
  | sessionEnd caller =>
      simp only [nextClient, place] at taken
      cases taken
      exact unreported_sends rfl rfl rfl (invoke_no_location _ _ rfl) rfl
  | join caller =>
      simp only [nextClient, place] at taken
      split at taken
      · cases taken
        exact unreported_same rfl rfl rfl rfl
      · rename_i exited
        cases taken
        exact ⟨rfl, rfl, rfl, .inr ⟨by rw [exited]; rfl, rfl⟩⟩
      · simp at taken
  | start =>
      simp only [nextClient, place] at taken
      cases taken
      exact unreported_same rfl rfl rfl rfl
  | sessionBegin =>
      simp only [nextClient, place] at taken
      cases taken
      exact unreported_sends rfl rfl rfl (invoke_no_location _ _ rfl) rfl
  | spawn =>
      simp only [nextClient, place] at taken
      cases thread : state.mThread with
      | none =>
          simp only [thread, Option.isSome_none] at taken
          cases taken
          exact ⟨rfl, rfl, rfl, .inr ⟨by rw [thread]; rfl, rfl⟩⟩
      | some reporter =>
          simp only [thread, Option.isSome_some] at taken
          cases taken
          exact unreported_same rfl rfl rfl thread.symm

/-! ## Every location belongs to one pass of the loop -/

/-- Every entry of the loop body has its record, and the records hold every location that
was sent. -/
structure Accounted (state : State Callback Number) : Prop where
  rounds : state.rounds =
    state.iterations.length + if state.mThread.all LoopAt.outside then 0 else 1
  locations : state.sent.filter Invocation.isLocation =
    state.iterations.flatMap Iteration.delivered

/-- The reporter only ever passes 2.x locations on. -/
structure Modern (state : State Callback Number) : Prop where
  unmocked : state.mThread ≠ some .mock
  carried : ∀ location, state.mThread = some (.report location) →
    ∃ found, location = .v2_0 found
  recorded : ∀ iteration ∈ state.iterations,
    ∃ found, iteration.delivered = reportLocation iteration.registered (.v2_0 found)

theorem unreported_accounted (unreported : Unreported state after)
    (accounted : Accounted state) : Accounted after := by
  obtain ⟨iterations, rounds, locations, thread⟩ := unreported
  constructor
  · rw [rounds, iterations, accounted.rounds]
    rcases thread with same | ⟨before, later⟩
    · rw [same]
    · rw [before, later]
  · rw [locations, iterations, accounted.locations]

theorem unreported_modern (unreported : Unreported state after) (modern : Modern state) :
    Modern after := by
  obtain ⟨iterations, _, _, thread⟩ := unreported
  rcases thread with same | ⟨_, later⟩
  · exact ⟨same ▸ modern.unmocked, same ▸ modern.carried, iterations ▸ modern.recorded⟩
  · constructor
    · intro mocked
      rw [mocked] at later
      cases later
    · intro location reporting
      rw [reporting] at later
      cases later
    · exact iterations ▸ modern.recorded

/-! ## A step of the loop -/

/-- What a step of the loop can be. No step leads to `mock`, because the lookup never
returns a null pointer. -/
inductive LoopStep (state : State Callback Number) : State Callback Number → Prop
  | enter (place : state.mThread = some .test) :
      LoopStep state { state with mThread := some .svStatus, rounds := state.rounds + 1 }
  | leave (place : state.mThread = some .test) :
      LoopStep state { state with mThread := some .exited }
  | svStatus (place : state.mThread = some .svStatus) :
      LoopStep state { state with
        mThread := some .lookup
        sent := state.sent ++ reportSvStatus state.callbacks }
  | throws (place : state.mThread = some .lookup) :
      LoopStep state { state with terminated := true }
  | found (place : state.mThread = some .lookup) (location : GnssLocation_2_0 Number) :
      LoopStep state { state with mThread := some (.report (.v2_0 location)) }
  | mock (place : state.mThread = some .mock) (location : ReportedLocation Number) :
      LoopStep state { state with mThread := some (.report location) }
  | report {location : ReportedLocation Number}
      (place : state.mThread = some (.report location)) :
      LoopStep state { state with
        mThread := some .sleep
        sent := state.sent ++ reportLocation state.callbacks location
        iterations := state.iterations ++
          [⟨state.callbacks, reportLocation state.callbacks location⟩] }
  | wake (place : state.mThread = some .sleep) :
      LoopStep state { state with mThread := some .test }

theorem loop_accounted (accounted : Accounted state) (step : LoopStep state after) :
    Accounted after := by
  obtain ⟨rounds, locations⟩ := accounted
  cases step with
  | enter place =>
      rw [place] at rounds
      exact ⟨congrArg Nat.succ rounds, locations⟩
  | leave place =>
      rw [place] at rounds
      exact ⟨rounds, locations⟩
  | svStatus place =>
      rw [place] at rounds
      constructor
      · exact rounds
      · rw [List.filter_append, reportSvStatus, invoke_no_location _ _ rfl, List.append_nil]
        exact locations
  | throws place => exact ⟨rounds, locations⟩
  | found place location =>
      rw [place] at rounds
      exact ⟨rounds, locations⟩
  | mock place location =>
      rw [place] at rounds
      exact ⟨rounds, locations⟩
  | report place =>
      rw [place] at rounds
      constructor
      · rw [List.length_append]
        exact rounds
      · rw [List.filter_append, report_location_filter, List.flatMap_append, locations]
        simp
  | wake place =>
      rw [place] at rounds
      exact ⟨rounds, locations⟩

theorem loop_modern (modern : Modern state) (step : LoopStep state after) : Modern after := by
  obtain ⟨unmocked, carried, recorded⟩ := modern
  cases step with
  | enter place => exact ⟨by simp, by simp, recorded⟩
  | leave place => exact ⟨by simp, by simp, recorded⟩
  | svStatus place => exact ⟨by simp, by simp, recorded⟩
  | throws place => exact ⟨unmocked, carried, recorded⟩
  | found place location => exact ⟨by simp, by simp, recorded⟩
  | mock place location => exact absurd place unmocked
  | @report location place =>
      obtain ⟨found, same⟩ := carried location place
      constructor
      · simp
      · simp
      · intro iteration member
        rcases List.mem_append.mp member with earlier | last
        · exact recorded iteration earlier
        · rw [List.mem_singleton.mp last, same]
          exact ⟨found, rfl⟩
  | wake place => exact ⟨by simp, by simp, recorded⟩

variable [NatCast Number] {std : Conversions Number} {surroundings : Surroundings Number}

theorem loop_step (taken : nextReporter std surroundings state = some after) :
    LoopStep state after := by
  cases thread : state.mThread with
  | none => simp [nextReporter, thread] at taken
  | some place =>
      cases place with
      | test =>
          simp only [nextReporter, thread] at taken
          split at taken
          · cases taken
            exact .enter thread
          · cases taken
            exact .leave thread
      | svStatus =>
          simp only [nextReporter, thread] at taken
          cases taken
          exact .svStatus thread
      | lookup =>
          cases found : getLocationFromHW std surroundings with
          | error thrown =>
              simp only [nextReporter, thread, found] at taken
              cases taken
              have thrown := LoopStep.throws thread
              rwa [thread] at thrown
          | ok current =>
              obtain ⟨location, present⟩ := location_from_hw_not_null found
              simp only [nextReporter, thread, found, present] at taken
              cases taken
              exact .found thread location
      | mock =>
          simp only [nextReporter, thread] at taken
          split at taken
          · cases taken
            exact .mock thread _
          · cases taken
            exact .mock thread _
      | report location =>
          simp only [nextReporter, thread] at taken
          cases taken
          exact .report thread
      | sleep =>
          simp only [nextReporter, thread] at taken
          cases taken
          exact .wake thread
      | exited => simp [nextReporter, thread] at taken

/-- A step of the system is one of the client or one of the loop. -/
theorem next_cases {step : Step Number} (taken : next std state step = some after) :
    nextClient state = some after ∨
      ∃ surroundings, nextReporter std surroundings state = some after := by
  simp only [next] at taken
  split at taken
  · cases taken
  · cases step with
    | client => exact .inl taken
    | reporter surroundings => exact .inr ⟨surroundings, taken⟩

theorem reachable_accounted {calls : List (Call Callback)}
    (reached : (system std calls).Reachable state) : Accounted state ∧ Modern state := by
  apply TransitionSystem.reachable_invariant _ _ _ reached
  · rintro first ⟨mIsActive, rfl⟩
    constructor
    · exact ⟨rfl, rfl⟩
    · constructor <;> simp [constructed]
  · intro before step next invariant taken
    rcases next_cases taken with client | ⟨surroundings, reporter⟩
    · have unreported := client_unreported client
      exact ⟨unreported_accounted unreported invariant.1, unreported_modern unreported invariant.2⟩
    · have step := loop_step reporter
      exact ⟨loop_accounted invariant.1 step, loop_modern invariant.2 step⟩

/-- Every pass of the loop has its record, the records hold every location that was sent,
and a pass serves the newest registered version exactly when a 2.1 or a 2.0 callback is
registered, or none at all. -/
theorem locations_reach_newest_iff {calls : List (Call Callback)}
    (reached : (system std calls).Reachable state) :
    Accounted state ∧ ∀ iteration ∈ state.iterations,
      (Served iteration ↔ iteration.registered.sGnssCallback_2_1 ≠ none ∨
        iteration.registered.sGnssCallback_2_0 ≠ none ∨ iteration.registered.newest = none) := by
  obtain ⟨accounted, modern⟩ := reachable_accounted reached
  constructor
  · exact accounted
  · intro iteration member
    obtain ⟨found, delivered⟩ := modern.recorded iteration member
    have same : iteration =
        ⟨iteration.registered, reportLocation iteration.registered (.v2_0 found)⟩ := by
      rw [← delivered]
    rw [same]
    exact served_by_2_0_iff iteration.registered found

section Runs

/-- One registration, `start` and the first pass of the loop. -/
def firstPass (surroundings : Surroundings Int) : List (Step Int) :=
  List.replicate 7 .client ++ List.replicate 4 (.reporter surroundings)

def threeOnly : Conversions Int where
  stof text := if text = bytesOf "3" then .ok 3 else .error .invalid_argument
  stol _ := .error .invalid_argument

def onTheGround (file : Option (List (List UInt8))) : Surroundings Int where
  mock := ⟨37, -122, 1, 0, 0⟩
  time := 1000
  elapsedRealtimeNano := 5000
  mockTimestamp := 1519930775453
  file := file

/-- A 2.1 client is served from a file with one line. -/
theorem locations_reach_newest_iff_2_1 :
    ∃ state : State Nat Int, ∃ iteration ∈ state.iterations,
      iteration.registered.newest = some (.v2_1, 1) ∧ Served iteration := by
  have reached : ∃ state : State Nat Int,
      (system threeOnly [setCallback_2_1 (some 1), .start]).Reachable state ∧
      state.iterations.map Iteration.registered = [⟨some 1, none, none, none⟩] :=
    ⟨_, TransitionSystem.reachable_of_run
      (firstPass (onTheGround (some [bytesOf "LatitudeDegrees=3\n"]))) (.start ⟨false, rfl⟩) rfl,
      rfl⟩
  obtain ⟨state, reached, passes⟩ := reached
  obtain ⟨iteration, member, registered⟩ := List.mem_map.mp
    (passes.symm ▸ List.mem_singleton_self _ : _ ∈ state.iterations.map Iteration.registered)
  have served := (locations_reach_newest_iff reached).2 iteration member
  rw [registered] at served
  exact ⟨state, iteration, member, by rw [registered]; rfl, served.mpr (.inl (by simp))⟩

/-- A client of version 1.0 alone gets nothing from a pass of the loop. -/
theorem old_client_gets_nothing :
    ∃ state : State Nat Int,
      (system threeOnly [setCallback (some 1), .start]).Reachable state ∧
      ∃ iteration ∈ state.iterations, iteration.registered.newest = some (.v1_0, 1) ∧
        iteration.delivered = [] ∧ ¬ Served iteration := by
  refine ⟨_, TransitionSystem.reachable_of_run (firstPass (onTheGround none))
    (.start ⟨false, rfl⟩) rfl, _, List.mem_singleton_self _, rfl, rfl, ?_⟩
  intro served
  obtain ⟨location, delivered⟩ := served .v1_0 1 rfl
  cases delivered

end Runs

end RedroidExt.Gnss.GnssTemplate
