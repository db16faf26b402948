import RedroidExt.Gnss.ReporterRuns
import Mathlib.Data.List.Chain

/-!
# Deadlock between a setter and the reporter it stops

A setter that finds a running reporter joins it with `mMutex` held. The calls that
can meet a deadlock are exactly the registrations that follow another one without a
`close` in between, unless neither leaves a callback that a report would lock for.
-/

namespace RedroidExt.Gnss

open RedroidExt.Library

set_option autoImplicit false

variable {Callbacks Registration Report Callback : Type}
  {extension : Extension Callbacks Registration Report Callback}
  {state after : ReporterState Callbacks Registration Report Callback}

/-! ## A deadlocked state is stuck, and nothing else is -/

theorem deadlocked_stuck (deadlocked : Deadlocked state) (thread : Thread) :
    extension.next state thread = none := by
  obtain ⟨caller, joins⟩ := deadlocked.joins
  obtain ⟨report, waits⟩ := deadlocked.waits
  cases thread with
  | client => simp [Extension.next, Extension.nextClient, joins, waits]
  | reporter => simp [Extension.next, Extension.nextReporter, waits, deadlocked.owned]

/-- The client has made all its calls and no reporter can move. -/
def Finished (state : ReporterState Callbacks Registration Report Callback) : Prop :=
  state.client = .idle ∧ state.calls = [] ∧
    (state.mThread = none ∨ state.mThread = some .exited)

theorem reporter_blocked (coherent : Coherent state)
    (blocked : extension.nextReporter state = none) :
    state.mThread = none ∨ state.mThread = some .exited ∨
      (∃ report, state.mThread = some (.lock report)) ∧ state.mMutex = some .client := by
  cases thread : state.mThread with
  | none => exact .inl rfl
  | some place =>
      cases place with
      | lock report =>
          right
          right
          cases owner : state.mMutex with
          | none => simp [Extension.nextReporter, thread, owner] at blocked
          | some thread' =>
              cases thread' with
              | client => exact ⟨⟨report, rfl⟩, rfl⟩
              | reporter =>
                  have holding := coherent.reporterOwns.mp owner
                  simp [thread] at holding
      | exited => exact .inr (.inl rfl)
      | choose =>
          cases chosen : extension.chosen state.callbacks <;>
            simp [Extension.nextReporter, thread, chosen] at blocked
      | test => simp [Extension.nextReporter, thread] at blocked
      | report report => simp [Extension.nextReporter, thread] at blocked
      | unlock => simp [Extension.nextReporter, thread] at blocked
      | sleep => simp [Extension.nextReporter, thread] at blocked

theorem client_blocked (coherent : Coherent state)
    (blocked : extension.nextClient state = none) :
    state.client = .idle ∧ state.calls = [] ∨
      (∃ call, state.client = .lock call) ∧ state.mMutex ≠ none ∨
      (∃ caller, state.client = .join caller) ∧ state.mThread ≠ none ∧
        state.mThread ≠ some .exited := by
  cases place : state.client with
  | idle =>
      cases calls : state.calls with
      | nil => simp
      | cons call rest => simp [Extension.nextClient, place, calls] at blocked
  | lock call =>
      right
      left
      by_cases free : state.mMutex = none
      · simp [Extension.nextClient, place, free] at blocked
      · exact ⟨⟨call, rfl⟩, free⟩
  | join caller =>
      right
      right
      cases thread : state.mThread with
      | none => simp [Extension.nextClient, place, thread] at blocked
      | some reporter => 
          cases reporter <;> simp_all [Extension.nextClient]
  | write call => cases call <;> simp [Extension.nextClient, place] at blocked
  | testActive => simp [Extension.nextClient, place] at blocked
  | stop caller => simp [Extension.nextClient, place] at blocked
  | start => simp [Extension.nextClient, place] at blocked
  | spawn => 
      have absent := coherent.joined (by simp [place])
      simp [Extension.nextClient, place, absent] at blocked
  | unlock => simp [Extension.nextClient, place] at blocked
  | terminated => exact absurd place coherent.running

/-- A taken mutex is held by the client or by a reporter in the middle of a report. -/
theorem taken_mutex (coherent : Coherent state) (taken : state.mMutex ≠ none) :
    state.client.holds = true ∨ state.mThread.any ReporterAt.holds = true := by
  cases owner : state.mMutex with
  | none => exact absurd owner taken
  | some thread =>
      cases thread with
      | client => exact .inl (coherent.clientOwns.mp owner)
      | reporter => exact .inr (coherent.reporterOwns.mp owner)

theorem finished_stuck (finished : Finished state) (thread : Thread) :
    extension.next state thread = none := by
  obtain ⟨idle, done, absent | exited⟩ := finished
  · cases thread with
    | client => simp [Extension.next, Extension.nextClient, idle, done]
    | reporter => simp [Extension.next, Extension.nextReporter, absent]
  · cases thread with
    | client => simp [Extension.next, Extension.nextClient, idle, done]
    | reporter => simp [Extension.next, Extension.nextReporter, exited]

theorem stuck_iff (coherent : Coherent state) :
    (∀ thread, extension.next state thread = none) ↔ Deadlocked state ∨ Finished state := by
  constructor
  · intro stuck
    have reporter := reporter_blocked coherent (stuck .reporter)
    rcases client_blocked coherent (stuck .client) with
      ⟨idle, done⟩ | ⟨⟨call, place⟩, taken⟩ | ⟨joins, present, working⟩
    · right
      rcases reporter with absent | exited | ⟨_, owned⟩
      · exact ⟨idle, done, .inl absent⟩
      · exact ⟨idle, done, .inr exited⟩
      · have holding := coherent.clientOwns.mp owned
        simp [idle] at holding
    · rcases taken_mutex coherent taken with holding | holding
      · simp [place] at holding
      · rcases reporter with absent | exited | ⟨⟨report, waits⟩, _⟩
        · simp [absent] at holding
        · simp [exited] at holding
        · simp [waits] at holding
    · left
      rcases reporter with absent | exited | ⟨waits, owned⟩
      · exact absurd absent present
      · exact absurd exited working
      · exact ⟨joins, waits, owned⟩
  · intro ends thread
    rcases ends with deadlocked | finished
    · exact deadlocked_stuck deadlocked thread
    · exact finished_stuck finished thread

/-! ## Calls that close before they register again -/

/-- No registration finds a reporter that may be on its way to the lock. -/
def Extension.ClosesFirst (extension : Extension Callbacks Registration Report Callback) :
    Callbacks → Bool → List (Call Registration) → Prop
  | _, _, [] => True
  | _, _, .close :: rest => extension.ClosesFirst extension.cleared false rest
  | callbacks, running, .setCallback registration :: rest =>
      (running = true → extension.chosen callbacks = none ∧
        extension.chosen (extension.register callbacks registration) = none) ∧
      extension.ClosesFirst (extension.register callbacks registration) true rest

/-- What the calls still to come satisfy at each statement of the client. -/
def Extension.Scheduled (extension : Extension Callbacks Registration Report Callback)
    (state : ReporterState Callbacks Registration Report Callback) : Prop :=
  match state.client with
  | .idle | .unlock =>
      extension.ClosesFirst state.callbacks state.mThread.isSome state.calls
  | .lock (.setCallback registration) | .write (.setCallback registration) =>
      extension.ClosesFirst state.callbacks state.mThread.isSome
        (.setCallback registration :: state.calls)
  | .testActive | .stop .setCallback | .join .setCallback =>
      (state.mThread ≠ none → extension.chosen state.callbacks = none) ∧
        extension.ClosesFirst state.callbacks true state.calls
  | .start | .spawn => extension.ClosesFirst state.callbacks true state.calls
  | .stop .close | .join .close | .lock .close | .write .close =>
      extension.ClosesFirst extension.cleared false state.calls
  | .terminated => False

/-- From the choice of a report to the release of the lock. -/
@[simp] def ReporterAt.reports : ReporterAt Report → Bool
  | .lock _ => true
  | .report _ => true
  | .unlock => true
  | _ => false

structure Careful (extension : Extension Callbacks Registration Report Callback)
    (state : ReporterState Callbacks Registration Report Callback) : Prop where
  scheduled : extension.Scheduled state
  quiet : extension.chosen state.callbacks = none →
    state.mThread.any ReporterAt.reports = false

theorem constructed_careful {calls : List (Call Registration)}
    (closes : extension.ClosesFirst extension.cleared false calls) (mIsActive : Bool) :
    Careful extension (extension.constructed mIsActive calls) where
  scheduled := closes
  quiet := by simp [Extension.constructed]

theorem client_keeps_careful (coherent : Coherent state) (careful : Careful extension state)
    (step : ClientStep extension state after) : Careful extension after := by
  obtain ⟨scheduled, quiet⟩ := careful
  cases step with
  | @begin call rest place calls =>
      rw [Extension.Scheduled, place] at scheduled
      dsimp only at scheduled
      rw [calls] at scheduled
      cases call with
      | setCallback registration => exact ⟨scheduled, quiet⟩
      | close => exact ⟨scheduled, quiet⟩
  | @lock call place free =>
      rw [Extension.Scheduled, place] at scheduled
      cases call with
      | setCallback registration => exact ⟨scheduled, quiet⟩
      | close => exact ⟨scheduled, quiet⟩
  | @register registration place =>
      rw [Extension.Scheduled, place] at scheduled
      obtain ⟨unwanted, later⟩ := scheduled
      constructor
      · exact ⟨fun present => (unwanted (Option.isSome_iff_ne_none.mpr present)).2, later⟩
      · intro none
        cases thread : state.mThread with
        | none => rfl
        | some reporter =>
            rw [← thread]
            exact quiet (unwanted (by rw [thread]; rfl)).1
  | clear place =>
      have absent := coherent.joined (by simp [place])
      rw [Extension.Scheduled, place] at scheduled
      constructor
      · rw [Extension.Scheduled, absent, Option.isSome_none]
        exact scheduled
      · simp [absent]
  | alreadySet place set =>
      rw [Extension.Scheduled, place] at scheduled
      exact ⟨scheduled, quiet⟩
  | notSet place unset =>
      rw [Extension.Scheduled, place] at scheduled
      exact ⟨scheduled.2, quiet⟩
  | @stop caller place =>
      rw [Extension.Scheduled, place] at scheduled
      cases caller with
      | setCallback => exact ⟨scheduled, quiet⟩
      | close => exact ⟨scheduled, quiet⟩
  | @join caller place ended =>
      rw [Extension.Scheduled, place] at scheduled
      cases caller with
      | setCallback => exact ⟨scheduled.2, fun _ => rfl⟩
      | close => exact ⟨scheduled, fun _ => rfl⟩
  | start place =>
      rw [Extension.Scheduled, place] at scheduled
      exact ⟨scheduled, quiet⟩
  | spawn place absent =>
      rw [Extension.Scheduled, place] at scheduled
      exact ⟨scheduled, fun _ => rfl⟩
  | terminate place present => exact absurd (coherent.joined (by simp [place])) present
  | unlock place =>
      rw [Extension.Scheduled, place] at scheduled
      exact ⟨scheduled, quiet⟩

theorem reporter_frame (step : ReporterStep extension state after) :
    after.client = state.client ∧ after.calls = state.calls ∧
      after.callbacks = state.callbacks ∧ after.mThread.isSome = state.mThread.isSome := by
  cases step <;> simp_all

/-- The schedule depends on whether a reporter exists, not on where it is. -/
theorem reporter_keeps_scheduled (scheduled : extension.Scheduled state)
    (step : ReporterStep extension state after) : extension.Scheduled after := by
  obtain ⟨client, calls, callbacks, thread⟩ := reporter_frame step
  have present : after.mThread ≠ none ↔ state.mThread ≠ none := by
    rw [← Option.isSome_iff_ne_none, ← Option.isSome_iff_ne_none, thread]
  simpa only [Extension.Scheduled, client, calls, callbacks, thread, present] using scheduled

theorem reporter_keeps_careful (careful : Careful extension state)
    (step : ReporterStep extension state after) : Careful extension after := by
  constructor
  · exact reporter_keeps_scheduled careful.scheduled step
  · intro none
    have before : state.mThread.any ReporterAt.reports = false := by
      rw [(reporter_frame step).2.2.1] at none
      exact careful.quiet none
    cases step with
    | enter place set => rfl
    | leave place unset => rfl
    | choose place chosen => exact absurd (chosen.symm.trans none) (Option.some_ne_none _)
    | skip place unwanted => rfl
    | lock place free => simp [place] at before
    | report place => simp [place] at before
    | unlock place => rfl
    | wake place => rfl

theorem reachable_careful {calls : List (Call Registration)}
    (closes : extension.ClosesFirst extension.cleared false calls)
    (reached : (extension.system calls).Reachable state) : Careful extension state := by
  induction reached with
  | start first =>
      obtain ⟨mIsActive, rfl⟩ := first
      exact constructed_careful closes mIsActive
  | @next before after label reached taken careful =>
      cases label with
      | client =>
          exact client_keeps_careful (reachable_coherent reached) careful (client_step taken)
      | reporter => exact reporter_keeps_careful careful (reporter_step taken)

theorem careful_not_deadlocked (coherent : Coherent state) (careful : Careful extension state) :
    ¬ Deadlocked state := by
  intro deadlocked
  obtain ⟨caller, joins⟩ := deadlocked.joins
  obtain ⟨report, waits⟩ := deadlocked.waits
  have holding := coherent.clientOwns.mp deadlocked.owned
  have scheduled := careful.scheduled
  rw [Extension.Scheduled, joins] at scheduled
  cases caller with
  | close => simp [joins] at holding
  | setCallback =>
      have silent := careful.quiet (scheduled.1 (by simp [waits]))
      simp [waits] at silent

/-! ## A schedule that deadlocks -/

section Schedules

/-- Between two calls, with a reporter that has not run since it was spawned. -/
def settled (callbacks : Callbacks) (running mIsActive : Bool)
    (calls : List (Call Registration)) :
    ReporterState Callbacks Registration Report Callback where
  client := .idle
  calls := calls
  callbacks := callbacks
  mMutex := none
  mIsActive := mIsActive
  mThread := if running then some .test else none
  delivered := []

variable {whole rest : List (Call Registration)} {callbacks : Callbacks}

/-- A setter completes when the reporter it finds leaves its loop before the join. -/
theorem registration_completes (running mIsActive : Bool) (flag : running = true → mIsActive = true)
    (registration : Registration)
    (reached : (extension.system whole).Reachable
      (settled callbacks running mIsActive (.setCallback registration :: rest))) :
    (extension.system whole).Reachable
      (settled (extension.register callbacks registration) true true rest) := by
  cases running with
  | true =>
      cases flag rfl
      exact TransitionSystem.reachable_of_run
        [.client, .client, .client, .client, .client, .reporter, .client, .client, .client, .client]
        reached rfl
  | false =>
      cases mIsActive with
      | true =>
          exact TransitionSystem.reachable_of_run
            [.client, .client, .client, .client, .client, .client, .client, .client, .client]
            reached rfl
      | false =>
          exact TransitionSystem.reachable_of_run
            [.client, .client, .client, .client, .client, .client, .client] reached rfl

theorem close_completes (running mIsActive : Bool)
    (reached : (extension.system whole).Reachable
      (settled callbacks running mIsActive (.close :: rest))) :
    (extension.system whole).Reachable
      (settled extension.cleared false false rest) := by
  cases running with
  | true =>
      exact TransitionSystem.reachable_of_run
        [.client, .client, .reporter, .client, .client, .client, .client] reached rfl
  | false =>
      exact TransitionSystem.reachable_of_run
        [.client, .client, .client, .client, .client, .client] reached rfl

/-- The setter joins with the lock held while the reporter waits for it. -/
def stranded (callbacks : Callbacks) (report : Report) (calls : List (Call Registration)) :
    ReporterState Callbacks Registration Report Callback where
  client := .join .setCallback
  calls := calls
  callbacks := callbacks
  mMutex := some .client
  mIsActive := false
  mThread := some (.lock report)
  delivered := []

theorem stranded_deadlocked (callbacks : Callbacks) (report : Report)
    (calls : List (Call Registration)) :
    Deadlocked (stranded callbacks report calls :
      ReporterState Callbacks Registration Report Callback) where
  joins := ⟨.setCallback, rfl⟩
  waits := ⟨report, rfl⟩
  owned := rfl

/-- The reporter chooses its report before the setter takes the lock. -/
theorem chosen_before_strands {registration : Registration} {report : Report}
    (chosen : extension.chosen callbacks = some report)
    (reached : (extension.system whole).Reachable
      (settled callbacks true true (.setCallback registration :: rest))) :
    (extension.system whole).Reachable
      (stranded (extension.register callbacks registration) report rest) := by
  apply TransitionSystem.reachable_of_run
    [.reporter, .reporter, .client, .client, .client, .client, .client] reached
  simp [settled, stranded, Extension.next, Extension.nextClient, Extension.nextReporter,
    Extension.begin, chosen]

/-- The reporter chooses its report by the callback the setter has just stored. -/
theorem chosen_after_strands {registration : Registration} {report : Report}
    (chosen : extension.chosen (extension.register callbacks registration) = some report)
    (reached : (extension.system whole).Reachable
      (settled callbacks true true (.setCallback registration :: rest))) :
    (extension.system whole).Reachable
      (stranded (extension.register callbacks registration) report rest) := by
  apply TransitionSystem.reachable_of_run
    [.reporter, .client, .client, .client, .reporter, .client, .client] reached
  simp [settled, stranded, Extension.next, Extension.nextClient, Extension.nextReporter,
    Extension.begin, chosen]

theorem deadlock_reachable (calls : List (Call Registration)) (callbacks : Callbacks)
    (running mIsActive : Bool) (flag : running = true → mIsActive = true)
    (hurried : ¬ extension.ClosesFirst callbacks running calls)
    (reached : (extension.system whole).Reachable (settled callbacks running mIsActive calls)) :
    ∃ state, (extension.system whole).Reachable state ∧ Deadlocked state := by
  induction calls generalizing callbacks running mIsActive with
  | nil => exact absurd trivial hurried
  | cons call rest ih =>
      cases call with
      | close =>
          exact ih extension.cleared false false (by simp) hurried
            (close_completes running mIsActive reached)
      | setCallback registration =>
          by_cases unwanted : running = true → extension.chosen callbacks = none ∧
              extension.chosen (extension.register callbacks registration) = none
          · have later : ¬ extension.ClosesFirst (extension.register callbacks registration)
                true rest := fun closes => hurried ⟨unwanted, closes⟩
            exact ih _ true true (fun _ => rfl) later
              (registration_completes running mIsActive flag registration reached)
          · obtain ⟨spawned, wanted⟩ := Classical.not_imp.mp unwanted
            rw [spawned, flag spawned] at reached
            cases before : extension.chosen callbacks with
            | some report =>
                exact ⟨_, chosen_before_strands before reached, stranded_deadlocked _ _ _⟩
            | none =>
                cases stored : extension.chosen (extension.register callbacks registration) with
                | some report =>
                    exact ⟨_, chosen_after_strands stored reached, stranded_deadlocked _ _ _⟩
                | none => exact absurd ⟨before, stored⟩ wanted

end Schedules

/-- Exactly the call sequences that close first never meet the deadlock. -/
theorem deadlock_free_iff (calls : List (Call Registration)) :
    (∀ state, (extension.system calls).Reachable state → ¬ Deadlocked state) ↔
      extension.ClosesFirst extension.cleared false calls := by
  constructor
  · intro free
    by_contra hurried
    have first : (extension.system calls).Reachable
        (settled extension.cleared false false calls) := .start ⟨false, rfl⟩
    obtain ⟨state, reached, deadlocked⟩ :=
      deadlock_reachable calls extension.cleared false false (by simp) hurried first
    exact free state reached deadlocked
  · intro closes state reached
    exact careful_not_deadlocked (reachable_coherent reached) (reachable_careful closes reached)

/-! ## The two extensions -/

theorem gnss_measurement_closes_first_iff
    (calls : List (Call (GnssMeasurement.Registration Callback)))
    (callbacks : GnssMeasurement.Callbacks Callback) (running : Bool) :
    (gnssMeasurement Callback).ClosesFirst callbacks running calls ↔
      (running = true → ∀ call ∈ calls.head?, call = .close) ∧
        calls.IsChain fun first second => first = .close ∨ second = .close := by
  induction calls generalizing callbacks running with
  | nil => simp [Extension.ClosesFirst]
  | cons call rest ih =>
      rw [List.isChain_cons]
      cases call with
      | close => simp [Extension.ClosesFirst, ih]
      | setCallback registration =>
          have chosen : (gnssMeasurement Callback).chosen callbacks ≠ none := by
            simp only [gnssMeasurement]
            split <;> simp
          simp [Extension.ClosesFirst, ih, chosen]

theorem gnss_antenna_info_closes_first_iff (calls : List (Call (Option Callback)))
    (callbacks : Option Callback) (running : Bool) :
    (gnssAntennaInfo Callback).ClosesFirst callbacks running calls ↔
      (running = true → ∀ call ∈ calls.head?,
        call = .close ∨ callbacks = none ∧ call = .setCallback none) ∧
        calls.IsChain fun first second => first = .close ∨ second = .close ∨
          first = .setCallback none ∧ second = .setCallback none := by
  induction calls generalizing callbacks running with
  | nil => simp [Extension.ClosesFirst]
  | cons call rest ih =>
      rw [List.isChain_cons]
      cases call with
      | close => simp [Extension.ClosesFirst, ih]
      | setCallback registration =>
          have chosen (stored : Option Callback) :
              (gnssAntennaInfo Callback).chosen stored = none ↔ stored = none := by
            cases stored <;> simp [gnssAntennaInfo]
          have stored : (gnssAntennaInfo Callback).register callbacks registration =
              registration := rfl
          simp [Extension.ClosesFirst, ih, chosen, stored]

/-- A registration is safe from the deadlock exactly when the reporter of the one before
it is closed first; `GnssAntennaInfo` also survives null callbacks in a row, for which
its loop never takes the lock. -/
theorem deadlock_free_iff_closed_between (Callback : Type) :
    (∀ calls : List (Call (GnssMeasurement.Registration Callback)),
      (∀ state, ((gnssMeasurement Callback).system calls).Reachable state →
        ¬ Deadlocked state) ↔
        calls.IsChain fun first second => first = .close ∨ second = .close) ∧
    (∀ calls : List (Call (Option Callback)),
      (∀ state, ((gnssAntennaInfo Callback).system calls).Reachable state →
        ¬ Deadlocked state) ↔
        calls.IsChain fun first second => first = .close ∨ second = .close ∨
          first = .setCallback none ∧ second = .setCallback none) := by
  constructor
  · intro calls
    rw [deadlock_free_iff, gnss_measurement_closes_first_iff]
    simp
  · intro calls
    rw [deadlock_free_iff, gnss_antenna_info_closes_first_iff]
    simp

/-- The first setter runs to its end, the reporter chooses a report, the second setter
runs into its `join`. -/
def secondSetterFirst : List Thread :=
  [.client, .client, .client, .client, .client, .client, .client, .reporter, .reporter,
    .client, .client, .client, .client, .client]

/-- The second registration joins with the lock held while the reporter of the first
waits for it, in either extension. -/
theorem registering_twice_deadlocks :
    (∃ state, ((gnssMeasurement Nat).system [.setCallback (.setCallback_2_0 (some 1)),
      .setCallback (.setCallback_2_1 (some 2))]).Reachable state ∧ Deadlocked state) ∧
    (∃ state, ((gnssAntennaInfo Nat).system [.setCallback (some 1),
      .setCallback (some 2)]).Reachable state ∧ Deadlocked state) := by
  constructor
  · exact ⟨_, TransitionSystem.reachable_of_run secondSetterFirst (.start ⟨false, rfl⟩) rfl,
      ⟨.setCallback, rfl⟩, ⟨.reportMeasurement_2_0, rfl⟩, rfl⟩
  · exact ⟨_, TransitionSystem.reachable_of_run secondSetterFirst (.start ⟨false, rfl⟩) rfl,
      ⟨.setCallback, rfl⟩, ⟨.reportAntennaInfo, rfl⟩, rfl⟩

end RedroidExt.Gnss
