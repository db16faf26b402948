import RedroidExt.Library.TransitionSystem

/-!
# Reporting threads of the 2.1 extensions

`GnssMeasurement` and `GnssAntennaInfo` register callbacks and report to them in
the same way: a setter takes `mMutex`, stores the callback, stops a running
reporter and starts a new one; the reporter takes `mMutex` for each report. What
the two do not share is an `Extension`.
-/

namespace RedroidExt.Gnss

open RedroidExt.Library

set_option autoImplicit false

structure Extension (Callbacks Registration Report Callback : Type) where
  /-- The assignment a setter makes under the lock. -/
  register : Callbacks → Registration → Callbacks
  /-- The callbacks after `close`, and before the first registration. -/
  cleared : Callbacks
  /-- The test of the reporting loop, made without the lock. -/
  chosen : Callbacks → Option Report
  /-- The callback a report invokes, read again under the lock. -/
  receiver : Callbacks → Report → Option Callback

inductive Thread
  | client
  | reporter
deriving DecidableEq, Repr

inductive Call (Registration : Type)
  | setCallback (registration : Registration)
  | close
deriving DecidableEq, Repr

/-- The two places `stop()` is called from. -/
inductive Caller
  | setCallback
  | close
deriving DecidableEq, Repr

/-- The statement the client thread is about to execute. -/
inductive ClientAt (Registration : Type)
  | idle
  | lock (call : Call Registration)
  | write (call : Call Registration)
  | testActive
  | stop (caller : Caller)
  | join (caller : Caller)
  | start
  | spawn
  | unlock
  | terminated
deriving DecidableEq, Repr

/-- The statement the reporting thread is about to execute. -/
inductive ReporterAt (Report : Type)
  | test
  | choose
  | lock (report : Report)
  | report (report : Report)
  | unlock
  | sleep
  | exited
deriving DecidableEq, Repr

structure ReporterState (Callbacks Registration Report Callback : Type) where
  client : ClientAt Registration
  /-- The calls the client has still to make. -/
  calls : List (Call Registration)
  callbacks : Callbacks
  mMutex : Option Thread
  mIsActive : Bool
  /-- `none` while `mThread` is not joinable. -/
  mThread : Option (ReporterAt Report)
  delivered : List (Report × Callback)
deriving DecidableEq, Repr

namespace Extension

variable {Callbacks Registration Report Callback : Type}

/-- Where `stop()` returns to. -/
def afterStop : Caller → ClientAt Registration
  | .setCallback => .start
  | .close => .lock .close

def begin : Call Registration → ClientAt Registration
  | .setCallback registration => .lock (.setCallback registration)
  | .close => .stop .close

variable (extension : Extension Callbacks Registration Report Callback)

def nextClient (state : ReporterState Callbacks Registration Report Callback) :
    Option (ReporterState Callbacks Registration Report Callback) :=
  match state.client with
  | .idle =>
      match state.calls with
      | [] => none
      | call :: rest => some { state with client := begin call, calls := rest }
  | .lock call =>
      if state.mMutex = none then
        some { state with client := .write call, mMutex := some .client }
      else none
  | .write (.setCallback registration) =>
      some { state with
        client := .testActive
        callbacks := extension.register state.callbacks registration }
  | .write .close =>
      some { state with client := .unlock, callbacks := extension.cleared }
  | .testActive =>
      some { state with client := if state.mIsActive then .stop .setCallback else .start }
  | .stop caller => some { state with client := .join caller, mIsActive := false }
  | .join caller =>
      match state.mThread with
      | none => some { state with client := afterStop caller }
      | some .exited => some { state with client := afterStop caller, mThread := none }
      | some _ => none
  | .start => some { state with client := .spawn, mIsActive := true }
  | .spawn =>
      -- Assigning to a joinable `std::thread` calls `std::terminate`.
      if state.mThread.isSome then some { state with client := .terminated }
      else some { state with client := .unlock, mThread := some .test }
  | .unlock => some { state with client := .idle, mMutex := none }
  | .terminated => none

def nextReporter (state : ReporterState Callbacks Registration Report Callback) :
    Option (ReporterState Callbacks Registration Report Callback) :=
  match state.mThread with
  | none => none
  | some .test =>
      some { state with mThread := some (if state.mIsActive then .choose else .exited) }
  | some .choose =>
      match extension.chosen state.callbacks with
      | some report => some { state with mThread := some (.lock report) }
      | none => some { state with mThread := some .sleep }
  | some (.lock report) =>
      if state.mMutex = none then
        some { state with mThread := some (.report report), mMutex := some .reporter }
      else none
  | some (.report report) =>
      some { state with
        mThread := some .unlock
        delivered := state.delivered ++
          ((extension.receiver state.callbacks report).map fun callback =>
            (report, callback)).toList }
  | some .unlock => some { state with mThread := some .sleep, mMutex := none }
  | some .sleep => some { state with mThread := some .test }
  | some .exited => none

def next (state : ReporterState Callbacks Registration Report Callback) :
    Thread → Option (ReporterState Callbacks Registration Report Callback)
  | .client => extension.nextClient state
  | .reporter => extension.nextReporter state

/-- The state after construction; the constructor leaves `mIsActive` unset. -/
def constructed (mIsActive : Bool) (calls : List (Call Registration)) :
    ReporterState Callbacks Registration Report Callback where
  client := .idle
  calls := calls
  callbacks := extension.cleared
  mMutex := none
  mIsActive := mIsActive
  mThread := none
  delivered := []

/-- Every interleaving of a client that makes these calls with the reporter. -/
def system (calls : List (Call Registration)) :
    TransitionSystem (ReporterState Callbacks Registration Report Callback) Thread :=
  .ofNext (fun state => ∃ mIsActive, state = extension.constructed mIsActive calls) extension.next

end Extension

/-- The client waits in `join` for a reporter that waits for the client's mutex. -/
structure Deadlocked {Callbacks Registration Report Callback : Type}
    (state : ReporterState Callbacks Registration Report Callback) : Prop where
  joins : ∃ caller, state.client = .join caller
  waits : ∃ report, state.mThread = some (.lock report)
  owned : state.mMutex = some .client

/-! ## GnssMeasurement -/

namespace GnssMeasurement

structure Callbacks (Callback : Type) where
  sCallback_2_1 : Option Callback
  sCallback_2_0 : Option Callback
deriving DecidableEq, Repr

inductive Registration (Callback : Type)
  | setCallback_2_0 (callback : Option Callback)
  | setCallback_2_1 (callback : Option Callback)
deriving DecidableEq, Repr

/-- The two overloads of `reportMeasurement`. -/
inductive Report
  | reportMeasurement_2_1
  | reportMeasurement_2_0
deriving DecidableEq, Repr

end GnssMeasurement

def gnssMeasurement (Callback : Type) :
    Extension (GnssMeasurement.Callbacks Callback) (GnssMeasurement.Registration Callback)
      GnssMeasurement.Report Callback where
  register callbacks registration :=
    match registration with
    | .setCallback_2_0 callback => { callbacks with sCallback_2_0 := callback }
    | .setCallback_2_1 callback => { callbacks with sCallback_2_1 := callback }
  cleared := { sCallback_2_1 := none, sCallback_2_0 := none }
  chosen callbacks :=
    if callbacks.sCallback_2_1.isSome then some .reportMeasurement_2_1
    else some .reportMeasurement_2_0
  receiver callbacks report :=
    match report with
    | .reportMeasurement_2_1 => callbacks.sCallback_2_1
    | .reportMeasurement_2_0 => callbacks.sCallback_2_0

/-! ## GnssAntennaInfo -/

namespace GnssAntennaInfo

inductive Report
  | reportAntennaInfo
deriving DecidableEq, Repr

end GnssAntennaInfo

def gnssAntennaInfo (Callback : Type) :
    Extension (Option Callback) (Option Callback) GnssAntennaInfo.Report Callback where
  register _ callback := callback
  cleared := none
  chosen sCallback := if sCallback.isSome then some .reportAntennaInfo else none
  receiver sCallback _ := sCallback

end RedroidExt.Gnss
