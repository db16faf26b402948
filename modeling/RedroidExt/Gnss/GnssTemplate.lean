import RedroidExt.Gnss.LocationFile
import RedroidExt.Library.TransitionSystem

/-!
# GnssTemplate

Four callbacks, one for each interface version, and the thread that `start` spawns
and `stop` joins. `mMutex` is held within a single step here: every `report…`
function takes and releases it, and no setter takes it.
-/

namespace RedroidExt.Gnss.GnssTemplate

open RedroidExt.Library

set_option autoImplicit false

/-- The versions of `IGnssCallback`. -/
inductive Version
  | v1_0
  | v1_1
  | v2_0
  | v2_1
deriving DecidableEq, Repr

structure Callbacks (Callback : Type) where
  sGnssCallback_2_1 : Option Callback
  sGnssCallback_2_0 : Option Callback
  sGnssCallback_1_1 : Option Callback
  sGnssCallback_1_0 : Option Callback
deriving DecidableEq, Repr

inductive Capability
  | SCHEDULING
  | MEASUREMENTS
  | MEASUREMENT_CORRECTIONS
  | LOW_POWER_MODE
  | SATELLITE_BLACKLIST
  | ANTENNA_INFO
deriving DecidableEq, Repr

inductive GnssStatusValue
  | SESSION_BEGIN
  | SESSION_END
deriving DecidableEq, Repr

/-- The argument of the two overloads of `reportLocation`. -/
inductive ReportedLocation (Number : Type)
  | v1_0 (location : GnssLocation_1_0 Number)
  | v2_0 (location : GnssLocation_2_0 Number)
deriving DecidableEq, Repr

/-- A method of a callback with its argument. -/
inductive Message (Number : Type)
  | gnssSetCapabilitiesCb (capabilities : List Capability)
  | gnssSetSystemInfoCb (yearOfHw : Nat)
  | gnssNameCb (name : String)
  | gnssStatusCb (status : GnssStatusValue)
  | gnssSvStatusCb
  | gnssLocationCb (location : ReportedLocation Number)
deriving DecidableEq, Repr

structure Invocation (Callback Number : Type) where
  version : Version
  callback : Callback
  message : Message Number
deriving DecidableEq, Repr

/-- The calls of a client; a setter stands for the interface version of its callback. -/
inductive Call (Callback : Type)
  | register (version : Version) (callback : Option Callback)
  | cleanup
  | start
  | stop
deriving DecidableEq, Repr

/-- The two places `stop()` runs from. -/
inductive Caller
  | start
  | stop
deriving DecidableEq, Repr

/-- The statement the client thread is about to execute. -/
inductive ClientAt
  | idle
  | announce (version : Version)
  | testActive
  | stop (caller : Caller)
  | sessionEnd (caller : Caller)
  | join (caller : Caller)
  | start
  | sessionBegin
  | spawn
deriving DecidableEq, Repr

/-- The statement of the reporting loop that is executed next. -/
inductive LoopAt (Number : Type)
  | test
  | svStatus
  | lookup
  | mock
  | report (location : ReportedLocation Number)
  | sleep
  | exited
deriving DecidableEq, Repr

/-- What is recorded of one pass of the loop: the callbacks `reportLocation` found and
the invocations it made. -/
structure Iteration (Callback Number : Type) where
  registered : Callbacks Callback
  delivered : List (Invocation Callback Number)
deriving DecidableEq, Repr

structure State (Callback Number : Type) where
  client : ClientAt
  calls : List (Call Callback)
  callbacks : Callbacks Callback
  mIsActive : Bool
  /-- `none` while `mThread` is not joinable. -/
  mThread : Option (LoopAt Number)
  sent : List (Invocation Callback Number)
  /-- How often the loop body was entered. -/
  rounds : Nat
  iterations : List (Iteration Callback Number)
  terminated : Bool
deriving DecidableEq, Repr

section Functions

variable {Callback Number : Type}

/-! ## The source's functions -/

def setCallback (callback : Option Callback) : Call Callback := .register .v1_0 callback
def setCallback_1_1 (callback : Option Callback) : Call Callback := .register .v1_1 callback
def setCallback_2_0 (callback : Option Callback) : Call Callback := .register .v2_0 callback
def setCallback_2_1 (callback : Option Callback) : Call Callback := .register .v2_1 callback

def Callbacks.get (callbacks : Callbacks Callback) : Version → Option Callback
  | .v1_0 => callbacks.sGnssCallback_1_0
  | .v1_1 => callbacks.sGnssCallback_1_1
  | .v2_0 => callbacks.sGnssCallback_2_0
  | .v2_1 => callbacks.sGnssCallback_2_1

def Callbacks.set (callbacks : Callbacks Callback) (callback : Callback) :
    Version → Callbacks Callback
  | .v1_0 => { callbacks with sGnssCallback_1_0 := some callback }
  | .v1_1 => { callbacks with sGnssCallback_1_1 := some callback }
  | .v2_0 => { callbacks with sGnssCallback_2_0 := some callback }
  | .v2_1 => { callbacks with sGnssCallback_2_1 := some callback }

/-- `cleanup` leaves the callbacks of the first two versions in place. -/
def Callbacks.cleanup (callbacks : Callbacks Callback) : Callbacks Callback :=
  { callbacks with sGnssCallback_2_1 := none, sGnssCallback_2_0 := none }

/-- What a setter tells its new callback. -/
def announcements : Version → List (Message Number)
  | .v1_0 =>
      [.gnssSetCapabilitiesCb [.MEASUREMENTS, .SCHEDULING],
        .gnssSetSystemInfoCb 2018]
  | .v1_1 =>
      [.gnssSetCapabilitiesCb [],
        .gnssSetSystemInfoCb 2018,
        .gnssNameCb "Google Mock GNSS Implementation v2.1"]
  | .v2_0 =>
      [.gnssSetCapabilitiesCb [.MEASUREMENTS, .MEASUREMENT_CORRECTIONS, .LOW_POWER_MODE,
          .SATELLITE_BLACKLIST],
        .gnssSetSystemInfoCb 2019,
        .gnssNameCb "Google Mock GNSS Implementation v2.1"]
  | .v2_1 =>
      [.gnssSetCapabilitiesCb [.MEASUREMENTS, .MEASUREMENT_CORRECTIONS, .LOW_POWER_MODE,
          .SATELLITE_BLACKLIST, .ANTENNA_INFO],
        .gnssSetSystemInfoCb 2020,
        .gnssNameCb "Android Mock GNSS Implementation v2.1"]

def Callbacks.invoke (callbacks : Callbacks Callback) (version : Version)
    (messages : List (Message Number)) : List (Invocation Callback Number) :=
  match callbacks.get version with
  | none => []
  | some callback => messages.map fun message => ⟨version, callback, message⟩

def reportGnssStatusValue (callbacks : Callbacks Callback) (value : GnssStatusValue) :
    List (Invocation Callback Number) :=
  callbacks.invoke .v2_1 [.gnssStatusCb value]

def reportSvStatus (callbacks : Callbacks Callback) : List (Invocation Callback Number) :=
  callbacks.invoke .v2_1 [.gnssSvStatusCb]

/-- Each overload serves two of the four versions. -/
def reportLocation (callbacks : Callbacks Callback) (location : ReportedLocation Number) :
    List (Invocation Callback Number) :=
  match location with
  | .v1_0 _ =>
      if callbacks.sGnssCallback_1_1.isSome then
        callbacks.invoke .v1_1 [.gnssLocationCb location]
      else callbacks.invoke .v1_0 [.gnssLocationCb location]
  | .v2_0 _ =>
      if callbacks.sGnssCallback_2_1.isSome then
        callbacks.invoke .v2_1 [.gnssLocationCb location]
      else callbacks.invoke .v2_0 [.gnssLocationCb location]

/-! ## The client thread -/

def afterStop : Caller → ClientAt
  | .start => .start
  | .stop => .idle

def State.begin (state : State Callback Number) : Call Callback → State Callback Number
  | .register version (some callback) =>
      { state with
        client := .announce version
        callbacks := state.callbacks.set callback version }
  | .register _ none => state
  | .cleanup => { state with callbacks := state.callbacks.cleanup }
  | .start => { state with client := .testActive }
  | .stop => { state with client := .stop .stop }

def nextClient (state : State Callback Number) : Option (State Callback Number) :=
  match state.client with
  | .idle =>
      match state.calls with
      | [] => none
      | call :: rest => some ({ state with calls := rest }.begin call)
  | .announce version =>
      some { state with
        client := .idle
        sent := state.sent ++ state.callbacks.invoke version (announcements version) }
  | .testActive =>
      some { state with client := if state.mIsActive then .stop .start else .start }
  | .stop caller => some { state with client := .sessionEnd caller, mIsActive := false }
  | .sessionEnd caller =>
      some { state with
        client := .join caller
        sent := state.sent ++ reportGnssStatusValue state.callbacks .SESSION_END }
  | .join caller =>
      match state.mThread with
      | none => some { state with client := afterStop caller }
      | some .exited => some { state with client := afterStop caller, mThread := none }
      | some _ => none
  | .start => some { state with client := .sessionBegin, mIsActive := true }
  | .sessionBegin =>
      some { state with
        client := .spawn
        sent := state.sent ++ reportGnssStatusValue state.callbacks .SESSION_BEGIN }
  | .spawn =>
      -- Assigning to a joinable `std::thread` calls `std::terminate`.
      if state.mThread.isSome then some { state with terminated := true }
      else some { state with client := .idle, mThread := some .test }

/-! ## The reporting thread -/

variable [NatCast Number] (std : Conversions Number)

def nextReporter (surroundings : Surroundings Number) (state : State Callback Number) :
    Option (State Callback Number) :=
  match state.mThread with
  | none => none
  | some .test =>
      if state.mIsActive then
        some { state with mThread := some .svStatus, rounds := state.rounds + 1 }
      else some { state with mThread := some .exited }
  | some .svStatus =>
      some { state with
        mThread := some .lookup
        sent := state.sent ++ reportSvStatus state.callbacks }
  | some .lookup =>
      match getLocationFromHW std surroundings with
      -- An exception that leaves the thread's function calls `std::terminate`.
      | .error _ => some { state with terminated := true }
      | .ok (some location) => some { state with mThread := some (.report (.v2_0 location)) }
      | .ok none => some { state with mThread := some .mock }
  | some .mock =>
      if state.callbacks.sGnssCallback_2_1.isSome || state.callbacks.sGnssCallback_2_0.isSome then
        some { state with mThread := some (.report (.v2_0 (getMockLocationV2_0 surroundings))) }
      else
        some { state with mThread := some (.report (.v1_0 (getMockLocationV1_0 surroundings))) }
  | some (.report location) =>
      let delivered := reportLocation state.callbacks location
      some { state with
        mThread := some .sleep
        sent := state.sent ++ delivered
        iterations := state.iterations ++ [⟨state.callbacks, delivered⟩] }
  | some .sleep => some { state with mThread := some .test }
  | some .exited => none

inductive Step (Number : Type)
  | client
  | reporter (surroundings : Surroundings Number)

def next (state : State Callback Number) (step : Step Number) : Option (State Callback Number) :=
  if state.terminated then none
  else
    match step with
    | .client => nextClient state
    | .reporter surroundings => nextReporter std surroundings state

/-- No callback is registered; the constructor leaves `mIsActive` unset. -/
def constructed (mIsActive : Bool) (calls : List (Call Callback)) : State Callback Number where
  client := .idle
  calls := calls
  callbacks := ⟨none, none, none, none⟩
  mIsActive := mIsActive
  mThread := none
  sent := []
  rounds := 0
  iterations := []
  terminated := false

/-- Every interleaving of a client that makes these calls with the reporting loop. -/
def system (calls : List (Call Callback)) :
    TransitionSystem (State Callback Number) (Step Number) :=
  .ofNext (fun state => ∃ mIsActive, state = constructed mIsActive calls) (next std)

end Functions

end RedroidExt.Gnss.GnssTemplate
