import RedroidExt.Gnss.Reporter
import Mathlib.Logic.Function.Basic

/-!
# The measurement interface of the AIDL service

`setCallback` starts a detached worker, and `stop` only clears `mIsActive`. Any number
of clients call at the same time, each making one call after the other; what a
measurement contains plays no part.
-/

namespace RedroidExt.Gnss.GnssMeasurementInterface

open RedroidExt.Library

set_option autoImplicit false

/-! ## The threads -/

inductive Owner
  | client (client : Nat)
  | worker (worker : Nat)
deriving DecidableEq, Repr

/-- The statement a client's thread is about to execute; `spawn` is the creation of the thread
with the `detach` behind it. -/
inductive ClientAt (Callback : Type)
  | idle
  | lock (call : Call (Option Callback))
  | write (call : Call (Option Callback))
  | testActive
  | stop (caller : Caller)
  | start
  | spawn
  | unlock
deriving DecidableEq, Repr

/-- The statement a worker is about to execute; `unlock` carries the copy of the callback, if one
is registered. -/
inductive WorkerAt (Callback : Type)
  | notStarted
  | test
  | lock
  | copy
  | unlock (callbackCopy : Option Callback)
  | report (callback : Callback)
  | sleep
  | exited
deriving DecidableEq, Repr

structure State (Callback : Type) where
  clients : Nat → ClientAt Callback
  workers : Nat → WorkerAt Callback
  /-- How many workers were started. -/
  started : Nat
  mIsActive : Bool
  mMutex : Option Owner
  sCallback : Option Callback
  /-- The measurements that were delivered, with the worker that did. -/
  delivered : List (Nat × Callback)

inductive Label (Callback : Type)
  | call (client : Nat) (call : Call (Option Callback))
  | client (client : Nat)
  | worker (worker : Nat)
deriving DecidableEq, Repr

section Steps

variable {Callback : Type}

def begin : Call (Option Callback) → ClientAt Callback
  | .setCallback callback => .lock (.setCallback callback)
  | .close => .stop .close

/-- Where `stop()` returns to. -/
def afterStop : Caller → ClientAt Callback
  | .setCallback => .start
  | .close => .lock .close

namespace State

variable (state : State Callback)

def setClient (client : Nat) (place : ClientAt Callback) : State Callback :=
  { state with clients := Function.update state.clients client place }

def setWorker (worker : Nat) (place : WorkerAt Callback) : State Callback :=
  { state with workers := Function.update state.workers worker place }

end State

variable (state : State Callback)

def nextClient (client : Nat) : Option (State Callback) :=
  match state.clients client with
  | .idle => none
  | .lock call =>
      if state.mMutex = none then
        some { state.setClient client (.write call) with mMutex := some (.client client) }
      else none
  | .write (.setCallback callback) =>
      some { state.setClient client .testActive with sCallback := callback }
  | .write .close => some { state.setClient client .unlock with sCallback := none }
  | .testActive =>
      some (state.setClient client (if state.mIsActive then .stop .setCallback else .start))
  | .stop caller => some { state.setClient client (afterStop caller) with mIsActive := false }
  | .start => some { state.setClient client .spawn with mIsActive := true }
  | .spawn =>
      some { (state.setClient client .unlock).setWorker state.started .test with
        started := state.started + 1 }
  | .unlock => some { state.setClient client .idle with mMutex := none }

def nextWorker (worker : Nat) : Option (State Callback) :=
  match state.workers worker with
  | .notStarted => none
  | .test => some (state.setWorker worker (if state.mIsActive then .lock else .exited))
  | .lock =>
      if state.mMutex = none then
        some { state.setWorker worker .copy with mMutex := some (.worker worker) }
      else none
  | .copy => some (state.setWorker worker (.unlock state.sCallback))
  | .unlock none => some { state.setWorker worker .sleep with mMutex := none }
  | .unlock (some callback) =>
      some { state.setWorker worker (.report callback) with mMutex := none }
  | .report callback =>
      some { state.setWorker worker .sleep with
        delivered := state.delivered ++ [(worker, callback)] }
  | .sleep => some (state.setWorker worker .test)
  | .exited => none

def next : Label Callback → Option (State Callback)
  | .call client call =>
      match state.clients client with
      | .idle => some (state.setClient client (begin call))
      | _ => none
  | .client client => nextClient state client
  | .worker worker => nextWorker state worker

end Steps

/-- The state after construction; the constructor leaves `mIsActive` unset. -/
def constructed (Callback : Type) (mIsActive : Bool) : State Callback where
  clients := fun _ => .idle
  workers := fun _ => .notStarted
  started := 0
  mIsActive := mIsActive
  mMutex := none
  sCallback := none
  delivered := []

/-- Every interleaving of the calls and the workers. -/
def system (Callback : Type) :
    TransitionSystem (State Callback) (Label Callback) :=
  .ofNext (fun state => ∃ mIsActive, state = constructed Callback mIsActive) next

end RedroidExt.Gnss.GnssMeasurementInterface
