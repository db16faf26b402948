import RedroidExt.Ipv6Proxy.ProxyRuns
import RedroidExt.Library.Loop
import Mathlib.Data.List.FinRange

/-!
# The poll loop of the proxy

`run` behind the initialisation and `receiveIfPossible`: every entry of the array
is compared with the sockets of all interfaces. With one socket for an entry this
amounts to one `recv` for each readable socket, and to the handler of its interface.
-/

namespace RedroidExt.Ipv6Proxy

open RedroidExt.Library RedroidExt.Library.ByteMemory

set_option autoImplicit false

/-- An entry of the array behind `ppoll`; `readable` is `revents & POLLIN`. -/
structure PollFd where
  fd : Int
  readable : Bool

/-- What `ppoll` returns: a negative status, zero, or which entries are readable. -/
inductive PollStatus where
  | failed
  | nothing
  | ready (readable : Nat → Bool)

/-- The proxy with the descriptors of its IP sockets, and what lies outside: the answers to the
calls of `recv`, one after the other, and `inet_ntop`. -/
structure Polling where
  proxy : Proxy
  outerSocket : Int
  innerSocket : Fin proxy.mInnerIfs.length → Int
  recv : Nat → Except String (List UInt8)
  inetNtop : In6Addr → Option String

namespace Polling

variable (polling : Polling)

/-- The one message buffer and the number of `recv` calls; `handled` is history. -/
structure State where
  message : Message
  received : Nat
  handled : List (Handled polling.proxy)

def fds (readable : Nat → Bool) : List PollFd :=
  { fd := polling.outerSocket, readable := readable 0 } ::
    (List.finRange polling.proxy.mInnerIfs.length).map fun index =>
      { fd := polling.innerSocket index, readable := readable (index.val + 1) }

variable {polling}

/-- The message that was received, if the function returns `true`. -/
def receiveIfPossible (fd : PollFd) (socket : Int) (state : polling.State) :
    Option (List UInt8) × polling.State :=
  if fd.fd ≠ socket then (none, state)
  else if ¬ fd.readable then (none, state)
  else
    let received := state.received + 1
    match polling.recv state.received with
    | .error _ => (none, { state with received := received })
    | .ok datagram =>
        (some datagram,
          { state with message := state.message.receive datagram, received := received })

/-- The handler of the interface that the event is about; the message stays as it leaves it. -/
def handle (rounds : Nat) (event : ProxyEvent polling.proxy) (state : polling.State) :
    Option polling.State :=
  (handleMessage rounds polling.proxy polling.inetNtop state.message event).map fun result =>
    { state with
      message := result.1
      handled := state.handled ++
        [{ event := event, received := state.message, calls := result.2 }] }

/-- The body of the loop over the inner interfaces. -/
def tryInner (rounds : Nat) (fd : PollFd) (state : polling.State)
    (index : Fin polling.proxy.mInnerIfs.length) : Option polling.State :=
  let tried := receiveIfPossible fd (polling.innerSocket index) state
  match tried.1 with
  | none => some tried.2
  | some datagram => handle rounds (.inner index datagram) tried.2

/-- The body of the loop over the array. -/
def pollEntry (rounds : Nat) (state : polling.State) (fd : PollFd) : Option polling.State :=
  let tried := receiveIfPossible fd polling.outerSocket state
  match tried.1 with
  | some datagram => handle rounds (.outer datagram) tried.2
  | none => (List.finRange polling.proxy.mInnerIfs.length).foldlM (tryInner rounds fd) tried.2

/-- The loop of `run`, which a negative status ends. -/
def pollLoop (rounds : Nat) : List PollStatus → polling.State → Option polling.State
  | [], state => some state
  | .failed :: _, state => some state
  | .nothing :: rest, state => pollLoop rounds rest state
  | .ready readable :: rest, state => do
      let state ← (polling.fds readable).foldlM (pollEntry rounds) state
      pollLoop rounds rest state

/-! ## One entry -/

variable (polling)

/-- The outer interface is `none`. -/
abbrev Who := Option (Fin polling.proxy.mInnerIfs.length)

def socketOf : polling.Who → Int
  | none => polling.outerSocket
  | some index => polling.innerSocket index

def eventOf : polling.Who → List UInt8 → ProxyEvent polling.proxy
  | none, datagram => .outer datagram
  | some index, datagram => .inner index datagram

variable {polling}

theorem event_of_datagram (who : polling.Who) (datagram : List UInt8) :
    (polling.eventOf who datagram).datagram = datagram := by
  cases who with
  | none => rfl
  | some index => rfl

/-- What the loop does about an entry whose socket is that of one interface only. -/
def attend (rounds : Nat) (state : polling.State) (entry : polling.Who × Bool) :
    Option polling.State :=
  if entry.2 then
    match polling.recv state.received with
    | .error _ => some { state with received := state.received + 1 }
    | .ok datagram =>
        handle rounds (polling.eventOf entry.1 datagram)
          { state with
            message := state.message.receive datagram
            received := state.received + 1 }
  else some state

theorem receive_other {fd : PollFd} {socket : Int} (other : fd.fd ≠ socket)
    (state : polling.State) : receiveIfPossible fd socket state = (none, state) := if_pos other

theorem receive_unready (fd socket : Int) (state : polling.State) :
    receiveIfPossible { fd := fd, readable := false } socket state = (none, state) := by
  unfold receiveIfPossible
  rw [if_pos (show ¬ false = true from nofun)]
  exact ite_self _

theorem receive_ready (fd : Int) (state : polling.State) :
    receiveIfPossible { fd := fd, readable := true } fd state =
      match polling.recv state.received with
      | .error _ => (none, { state with received := state.received + 1 })
      | .ok datagram =>
          (some datagram,
            { state with
              message := state.message.receive datagram
              received := state.received + 1 }) := by
  unfold receiveIfPossible
  rw [if_neg fun other => other rfl, if_neg fun unready => unready rfl]

/-- The loop over the inner interfaces passes an entry that none of them has. -/
theorem inner_loop_idle (rounds : Nat) {fd : PollFd}
    (idle : ∀ index (state : polling.State),
      receiveIfPossible fd (polling.innerSocket index) state = (none, state))
    (state : polling.State) :
    (List.finRange polling.proxy.mInnerIfs.length).foldlM (tryInner rounds fd) state =
      some state := by
  apply Loop.foldlM_idle
  intro index _ other
  unfold tryInner
  rw [idle]

theorem poll_entry_attends (distinct : Function.Injective polling.socketOf) (rounds : Nat)
    (state : polling.State) (who : polling.Who) (readable : Bool) :
    pollEntry rounds state { fd := polling.socketOf who, readable := readable } =
      attend rounds state (who, readable) := by
  unfold pollEntry attend
  cases readable with
  | false =>
      rw [receive_unready]
      exact inner_loop_idle rounds (fun _ _ => receive_unready _ _ _) state
  | true =>
      have others : ∀ other : polling.Who, other ≠ who → ∀ state : polling.State,
          receiveIfPossible { fd := polling.socketOf who, readable := true }
            (polling.socketOf other) state = (none, state) := by
        intro other different state
        exact receive_other (fun same => different (distinct same).symm) state
      rw [if_pos rfl]
      cases who with
      | none =>
          have ready := receive_ready polling.outerSocket state
          change receiveIfPossible { fd := polling.socketOf none, readable := true }
            polling.outerSocket state = _ at ready
          rw [ready]
          cases polling.recv state.received with
          | ok datagram => rfl
          | error text =>
              exact inner_loop_idle rounds (fun index _ => others (some index) (by simp) _) _
      | some member =>
          have outer := others none (by simp) state
          change receiveIfPossible _ polling.outerSocket state = _ at outer
          rw [outer]
          dsimp only
          rw [Loop.foldlM_only (List.nodup_finRange _) (List.mem_finRange member)]
          · have ready := receive_ready (polling.innerSocket member) state
            change receiveIfPossible { fd := polling.socketOf (some member), readable := true }
              (polling.innerSocket member) state = _ at ready
            unfold tryInner
            rw [ready]
            cases polling.recv state.received with
            | ok datagram => rfl
            | error text => rfl
          · intro other different next
            have passed := others (some other) (fun same => different (Option.some.inj same)) next
            change receiveIfPossible _ (polling.innerSocket other) next = _ at passed
            unfold tryInner
            rw [passed]

/-! ## Whole runs -/

variable (polling)

/-- The interfaces in the order of the array. -/
def entries (readable : Nat → Bool) : List (polling.Who × Bool) :=
  (none, readable 0) ::
    (List.finRange polling.proxy.mInnerIfs.length).map fun index =>
      (some index, readable (index.val + 1))

/-- What the run looks at, one poll after the other. -/
def attention : List PollStatus → List (polling.Who × Bool)
  | [] => []
  | .failed :: _ => []
  | .nothing :: rest => attention rest
  | .ready readable :: rest => polling.entries readable ++ attention rest

/-- The messages that arrive when each readable entry is read once. -/
def eventsFrom : List (polling.Who × Bool) → Nat → List (ProxyEvent polling.proxy)
  | [], _ => []
  | (_, false) :: rest, received => eventsFrom rest received
  | (who, true) :: rest, received =>
      match polling.recv received with
      | .error _ => eventsFrom rest (received + 1)
      | .ok datagram => polling.eventOf who datagram :: eventsFrom rest (received + 1)

variable {polling}

theorem fds_entries (readable : Nat → Bool) :
    polling.fds readable = (polling.entries readable).map fun entry =>
      { fd := polling.socketOf entry.1, readable := entry.2 } := by
  unfold fds entries
  rw [List.map_cons, List.map_map]
  rfl

theorem poll_loop_attends (distinct : Function.Injective polling.socketOf) (rounds : Nat)
    (polls : List PollStatus) (state : polling.State) :
    pollLoop rounds polls state = (polling.attention polls).foldlM (attend rounds) state := by
  induction polls generalizing state with
  | nil => rfl
  | cons status rest ih =>
      cases status with
      | failed => rfl
      | nothing => exact ih state
      | ready readable =>
          have same : ∀ state : polling.State, (polling.fds readable).foldlM (pollEntry rounds) state =
              (polling.entries readable).foldlM (attend rounds) state := by
            intro state
            rw [fds_entries, List.foldlM_map]
            congr 1
            funext state entry
            exact poll_entry_attends distinct rounds state entry.1 entry.2
          change ((polling.fds readable).foldlM (pollEntry rounds) state).bind
            (pollLoop rounds rest) = _
          rw [same]
          unfold attention
          rw [List.foldlM_append]
          congr 1
          funext next
          exact ih next

/-- What a run adds to a state. -/
structure Serves (entries : List (polling.Who × Bool)) (before after : polling.State)
    (handled : List (Handled polling.proxy)) : Prop where
  appended : after.handled = before.handled ++ handled
  events : handled.map Handled.event = polling.eventsFrom entries before.received
  received : after.received = before.received + entries.countP Prod.snd
  trace : ProxyTrace polling.proxy polling.inetNtop before.message handled

theorem handle_some {rounds : Nat} {event : ProxyEvent polling.proxy}
    {state after : polling.State} (returned : handle rounds event state = some after) :
    ∃ calls, handleMessage rounds polling.proxy polling.inetNtop state.message event =
        some (after.message, calls) ∧
      after.received = state.received ∧
      after.handled = state.handled ++ [⟨event, state.message, calls⟩] := by
  rcases Option.map_eq_some_iff.mp returned with ⟨⟨message, calls⟩, done, rfl⟩
  exact ⟨calls, done, rfl, rfl⟩

theorem attend_serves (rounds : Nat) (entries : List (polling.Who × Bool))
    {state after : polling.State}
    (returned : entries.foldlM (attend rounds) state = some after) :
    ∃ handled, Serves entries state after handled := by
  induction entries generalizing state with
  | nil =>
      cases returned
      exact ⟨[], (List.append_nil _).symm, rfl, rfl, .nil _⟩
  | cons entry rest ih =>
      rw [List.foldlM_cons] at returned
      rcases Option.bind_eq_some_iff.mp returned with ⟨middle, attended, later⟩
      rcases ih later with ⟨handled, serves⟩
      rcases entry with ⟨who, readable⟩
      cases readable with
      | false =>
          cases attended
          exact ⟨handled, serves.appended, serves.events, serves.received, serves.trace⟩
      | true =>
          unfold attend at attended
          rw [if_pos rfl] at attended
          have counted : ((who, true) :: rest).countP Prod.snd = rest.countP Prod.snd + 1 :=
            List.countP_cons_of_pos rfl
          cases answer : polling.recv state.received with
          | error text =>
              rw [answer] at attended
              cases attended
              refine ⟨handled, serves.appended, ?_, ?_, serves.trace⟩
              · rw [serves.events]
                simp only [eventsFrom, answer]
              · rw [serves.received, counted]
                exact Nat.add_right_comm _ _ _
          | ok datagram =>
              rw [answer] at attended
              rcases handle_some attended with ⟨calls, done, received, added⟩
              dsimp only at done received added
              refine ⟨⟨polling.eventOf who datagram, state.message.receive datagram, calls⟩ :: handled,
                ?_, ?_, ?_, ?_⟩
              · rw [serves.appended, added, List.append_assoc]
                rfl
              · rw [List.map_cons, serves.events, received]
                simp only [eventsFrom, answer]
              · rw [serves.received, received, counted]
                exact Nat.add_right_comm _ _ _
              · have first := event_of_datagram who datagram
                have arrived : state.message.receive (polling.eventOf who datagram).datagram =
                    state.message.receive datagram := congrArg _ first
                rw [← arrived] at done ⊢
                exact .cons done serves.trace

/-- Over any number of polls: every readable socket is read once in its turn, each message that
arrives is handled once and for the interface that it came in on, and what is done is a run of the
proxy over these messages. -/
theorem poll_loop_serves (polling : Polling) (distinct : Function.Injective polling.socketOf)
    (rounds : Nat) (polls : List PollStatus) (buffer : Message) (after : polling.State)
    (returned : pollLoop rounds polls { message := buffer, received := 0, handled := [] } =
      some after) :
    ProxyTrace polling.proxy polling.inetNtop buffer after.handled ∧
      after.handled.map Handled.event = polling.eventsFrom (polling.attention polls) 0 ∧
      after.received = (polling.attention polls).countP Prod.snd := by
  rw [poll_loop_attends distinct] at returned
  rcases attend_serves rounds _ returned with ⟨handled, serves⟩
  have all : after.handled = handled := serves.appended
  rw [all]
  refine ⟨serves.trace, serves.events, ?_⟩
  rw [serves.received]
  exact Nat.zero_add _

/-- One outer and two inner sockets. The first `recv` fails, the second yields a neighbour
solicitation. -/
def pairPolling : Polling where
  proxy := pairProxy
  outerSocket := 5
  innerSocket := fun index => 7 + index.val
  recv := fun count =>
    if count = 0 then .error "Network is down"
    else .ok (linkAddressPacket ndNeighborSolicit 24 ndOptSourceLinkaddr)
  inetNtop := fun _ => none

theorem pair_sockets_distinct : Function.Injective pairPolling.socketOf := by
  intro left right same
  cases left with
  | none =>
      cases right with
      | none => rfl
      | some index => simp [socketOf, pairPolling] at same; omega
  | some first =>
      cases right with
      | none => simp [socketOf, pairPolling] at same; omega
      | some second =>
          have values : (7 + first.val : Int) = 7 + second.val := same
          exact congrArg some (Fin.ext (by omega))

/-- All sockets are readable: the outer one fails, and both inner messages are handled. -/
theorem poll_loop_serves_pair :
    ∃ after : pairPolling.State, after.handled.length = 2 ∧ after.received = 3 ∧
      ProxyTrace pairProxy (fun _ => none) { mData := fun _ => 0, mSize := 0 } after.handled := by
  have finished : (pollLoop 1 [.nothing, .ready fun _ => true]
      ({ message := { mData := fun _ => 0, mSize := 0 }, received := 0, handled := [] } :
        pairPolling.State)).isSome = true := by
    decide +kernel
  rcases Option.isSome_iff_exists.mp finished with ⟨after, returned⟩
  rcases poll_loop_serves pairPolling pair_sockets_distinct 1 _ _ after returned with
    ⟨trace, events, received⟩
  have length := congrArg List.length events
  rw [List.length_map] at length
  exact ⟨after, length.trans (by decide), received.trans (by decide), trace⟩

end Polling

end RedroidExt.Ipv6Proxy
