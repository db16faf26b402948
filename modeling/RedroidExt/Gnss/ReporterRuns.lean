import RedroidExt.Gnss.Reporter

/-!
# Runs of the client and the reporting thread

What one step of either thread can be, and from it who owns the mutex, when a
reporting thread exists and when `mIsActive` is set in every state that some order
of steps reaches.
-/

namespace RedroidExt.Gnss

open RedroidExt.Library

set_option autoImplicit false

variable {Callbacks Registration Report Callback : Type}
  {extension : Extension Callbacks Registration Report Callback}

/-! ## The steps of the two threads -/

section Steps

variable (extension)
variable (state : ReporterState Callbacks Registration Report Callback)

inductive ClientStep : ReporterState Callbacks Registration Report Callback → Prop
  | begin {call : Call Registration} {rest : List (Call Registration)}
      (place : state.client = .idle) (calls : state.calls = call :: rest) :
      ClientStep { state with client := Extension.begin call, calls := rest }
  | lock {call : Call Registration} (place : state.client = .lock call)
      (free : state.mMutex = none) :
      ClientStep { state with client := .write call, mMutex := some .client }
  | register {registration : Registration}
      (place : state.client = .write (.setCallback registration)) :
      ClientStep { state with
        client := .testActive
        callbacks := extension.register state.callbacks registration }
  | clear (place : state.client = .write .close) :
      ClientStep { state with client := .unlock, callbacks := extension.cleared }
  | alreadySet (place : state.client = .testActive) (set : state.mIsActive = true) :
      ClientStep { state with client := .stop .setCallback }
  | notSet (place : state.client = .testActive) (unset : state.mIsActive = false) :
      ClientStep { state with client := .start }
  | stop {caller : Caller} (place : state.client = .stop caller) :
      ClientStep { state with client := .join caller, mIsActive := false }
  | join {caller : Caller} (place : state.client = .join caller)
      (ended : state.mThread = none ∨ state.mThread = some .exited) :
      ClientStep { state with client := Extension.afterStop caller, mThread := none }
  | start (place : state.client = .start) :
      ClientStep { state with client := .spawn, mIsActive := true }
  | spawn (place : state.client = .spawn) (absent : state.mThread = none) :
      ClientStep { state with client := .unlock, mThread := some .test }
  | terminate (place : state.client = .spawn) (present : state.mThread ≠ none) :
      ClientStep { state with client := .terminated }
  | unlock (place : state.client = .unlock) :
      ClientStep { state with client := .idle, mMutex := none }

inductive ReporterStep : ReporterState Callbacks Registration Report Callback → Prop
  | enter (place : state.mThread = some .test) (set : state.mIsActive = true) :
      ReporterStep { state with mThread := some .choose }
  | leave (place : state.mThread = some .test) (unset : state.mIsActive = false) :
      ReporterStep { state with mThread := some .exited }
  | choose {report : Report} (place : state.mThread = some .choose)
      (chosen : extension.chosen state.callbacks = some report) :
      ReporterStep { state with mThread := some (.lock report) }
  | skip (place : state.mThread = some .choose)
      (none : extension.chosen state.callbacks = none) :
      ReporterStep { state with mThread := some .sleep }
  | lock {report : Report} (place : state.mThread = some (.lock report))
      (free : state.mMutex = none) :
      ReporterStep { state with mThread := some (.report report), mMutex := some .reporter }
  | report {report : Report} (place : state.mThread = some (.report report)) :
      ReporterStep { state with
        mThread := some .unlock
        delivered := state.delivered ++
          ((extension.receiver state.callbacks report).map fun callback =>
            (report, callback)).toList }
  | unlock (place : state.mThread = some .unlock) :
      ReporterStep { state with mThread := some .sleep, mMutex := none }
  | wake (place : state.mThread = some .sleep) :
      ReporterStep { state with mThread := some .test }

end Steps

variable {state after : ReporterState Callbacks Registration Report Callback}

theorem client_step (taken : extension.nextClient state = some after) :
    ClientStep extension state after := by
  cases place : state.client with
  | idle =>
      simp only [Extension.nextClient, place] at taken
      cases calls : state.calls with
      | nil => simp [calls] at taken
      | cons call rest =>
          rw [calls] at taken
          cases taken
          exact .begin place calls
  | lock call =>
      simp only [Extension.nextClient, place] at taken
      by_cases free : state.mMutex = none
      · rw [if_pos free] at taken
        cases taken
        exact .lock place free
      · simp [free] at taken
  | write call =>
      cases call with
      | setCallback registration =>
          simp only [Extension.nextClient, place] at taken
          cases taken
          exact .register place
      | close =>
          simp only [Extension.nextClient, place] at taken
          cases taken
          exact .clear place
  | testActive =>
      simp only [Extension.nextClient, place] at taken
      by_cases set : state.mIsActive = true
      · rw [if_pos set] at taken
        cases taken
        exact .alreadySet place set
      · rw [if_neg set] at taken
        cases taken
        exact .notSet place (Bool.eq_false_iff.mpr set)
  | stop caller =>
      simp only [Extension.nextClient, place] at taken
      cases taken
      exact .stop place
  | join caller =>
      simp only [Extension.nextClient, place] at taken
      split at taken
      · rename_i absent
        cases taken
        have joined : ClientStep extension state { state with
            client := Extension.afterStop caller, mThread := none } := .join place (.inl absent)
        rwa [← absent] at joined
      · rename_i exited
        cases taken
        exact .join place (.inr exited)
      · simp at taken
  | start =>
      simp only [Extension.nextClient, place] at taken
      cases taken
      exact .start place
  | spawn =>
      simp only [Extension.nextClient, place] at taken
      by_cases absent : state.mThread = none
      · simp only [absent, Option.isSome_none] at taken
        cases taken
        exact .spawn place absent
      · rw [if_pos (Option.isSome_iff_ne_none.mpr absent)] at taken
        cases taken
        exact .terminate place absent
  | unlock =>
      simp only [Extension.nextClient, place] at taken
      cases taken
      exact .unlock place
  | terminated => simp [Extension.nextClient, place] at taken

theorem reporter_step (taken : extension.nextReporter state = some after) :
    ReporterStep extension state after := by
  cases thread : state.mThread with
  | none => simp [Extension.nextReporter, thread] at taken
  | some place =>
      cases place with
      | test =>
          simp only [Extension.nextReporter, thread] at taken
          by_cases set : state.mIsActive = true
          · rw [if_pos set] at taken
            cases taken
            exact .enter thread set
          · rw [if_neg set] at taken
            cases taken
            exact .leave thread (Bool.eq_false_iff.mpr set)
      | choose =>
          simp only [Extension.nextReporter, thread] at taken
          cases chosen : extension.chosen state.callbacks with
          | none =>
              rw [chosen] at taken
              cases taken
              exact .skip thread chosen
          | some report =>
              rw [chosen] at taken
              cases taken
              exact .choose thread chosen
      | lock report =>
          simp only [Extension.nextReporter, thread] at taken
          by_cases free : state.mMutex = none
          · rw [if_pos free] at taken
            cases taken
            exact .lock thread free
          · simp [free] at taken
      | report report =>
          simp only [Extension.nextReporter, thread] at taken
          cases taken
          exact .report thread
      | unlock =>
          simp only [Extension.nextReporter, thread] at taken
          cases taken
          exact .unlock thread
      | sleep =>
          simp only [Extension.nextReporter, thread] at taken
          cases taken
          exact .wake thread
      | exited => simp [Extension.nextReporter, thread] at taken

/-! ## The mutex, the thread and the flag -/

/-- Between the lock and its release. -/
@[simp] def ClientAt.holds : ClientAt Registration → Bool
  | .write _ => true
  | .testActive => true
  | .stop caller => caller = .setCallback
  | .join caller => caller = .setCallback
  | .start => true
  | .spawn => true
  | .unlock => true
  | _ => false

@[simp] def ClientAt.joins : ClientAt Registration → Bool
  | .join _ => true
  | _ => false

/-- After a `join` and before the next reporter is spawned. -/
@[simp] def ClientAt.joined : ClientAt Registration → Bool
  | .lock .close => true
  | .write .close => true
  | .start => true
  | .spawn => true
  | _ => false

@[simp] def ReporterAt.holds : ReporterAt Report → Bool
  | .report _ => true
  | .unlock => true
  | _ => false

structure Coherent (state : ReporterState Callbacks Registration Report Callback) : Prop where
  clientOwns : state.mMutex = some .client ↔ state.client.holds = true
  reporterOwns : state.mMutex = some .reporter ↔ state.mThread.any ReporterAt.holds = true
  started : state.client = .spawn → state.mIsActive = true
  active : state.mThread ≠ none → state.mIsActive = true ∨ state.client.joins = true
  joined : state.client.joined = true → state.mThread = none
  running : state.client ≠ .terminated

theorem constructed_coherent (mIsActive : Bool) (calls : List (Call Registration)) :
    Coherent (extension.constructed mIsActive calls) := by
  constructor <;> simp [Extension.constructed]

theorem client_keeps_coherent (coherent : Coherent state)
    (step : ClientStep extension state after) : Coherent after := by
  obtain ⟨clientOwns, reporterOwns, started, active, joined, running⟩ := coherent
  cases step with
  | @begin call _ place _ =>
      cases call <;> constructor <;> simp_all [Extension.begin]
  | @lock call place free =>
      cases call <;> constructor <;> simp_all
  | register place => constructor <;> simp_all
  | clear place => constructor <;> simp_all
  | alreadySet place set => constructor <;> simp_all
  | notSet place unset => constructor <;> simp_all
  | stop place => constructor <;> simp_all
  | @join caller place ended =>
      cases caller <;> rcases ended with ended | ended <;> constructor <;>
        simp_all [Extension.afterStop]
  | start place => constructor <;> simp_all
  | spawn place absent => constructor <;> simp_all
  | terminate place present => exact absurd (joined (by simp [place])) present
  | unlock place => constructor <;> simp_all

theorem reporter_keeps_coherent (coherent : Coherent state)
    (step : ReporterStep extension state after) : Coherent after := by
  obtain ⟨clientOwns, reporterOwns, started, active, joined, running⟩ := coherent
  cases step <;> constructor <;> simp_all

theorem reachable_coherent {calls : List (Call Registration)}
    (reached : (extension.system calls).Reachable state) : Coherent state := by
  apply TransitionSystem.reachable_invariant Coherent _ _ reached
  · rintro first ⟨mIsActive, rfl⟩
    exact constructed_coherent mIsActive calls
  · intro before label next coherent taken
    cases label with
    | client => exact client_keeps_coherent coherent (client_step taken)
    | reporter => exact reporter_keeps_coherent coherent (reporter_step taken)

/-- The callbacks are written by the owner of the mutex only. -/
theorem writes_guarded (coherent : Coherent state) (step : ClientStep extension state after)
    (changed : after.callbacks ≠ state.callbacks) : state.mMutex = some .client := by
  cases step with
  | register place => exact coherent.clientOwns.mpr (by simp [place])
  | clear place => exact coherent.clientOwns.mpr (by simp [place])
  | _ => exact absurd rfl changed

/-- A report is delivered by the owner of the mutex only. -/
theorem deliveries_guarded (coherent : Coherent state)
    (step : ReporterStep extension state after) (changed : after.delivered ≠ state.delivered) :
    state.mMutex = some .reporter := by
  cases step with
  | report place => exact coherent.reporterOwns.mpr (by simp [place])
  | _ => exact absurd rfl changed

end RedroidExt.Gnss
