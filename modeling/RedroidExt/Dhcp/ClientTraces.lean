import RedroidExt.Dhcp.MessageOptions
import RedroidExt.Dhcp.Renewal
import Mathlib.Data.List.Range
import Mathlib.Data.List.Nodup

/-!
# The messages a client has sent

A run together with the list of messages it has sent. The counter numbers them, so
their transaction ids are pairwise distinct until the counter wraps, and the one
that replies are matched against is always the last.
-/

namespace RedroidExt.Dhcp

open RedroidExt.Library RedroidExt.Library.ByteMemory

set_option autoImplicit false

structure ClientTrace where
  run : ClientRun
  sent : List Message

def ClientTrace.step (trace : ClientTrace) (input : ClientInput) : ClientTrace where
  run := trace.run.next input
  sent := trace.sent ++ (trace.run.step input).1.toList

def clientTraces : TransitionSystem ClientTrace ClientInput where
  initial := fun trace => trace.run.Started ∧ trace.sent = []
  step := fun trace input after => trace.step input = after

/-! ## Transaction ids -/

/-- The transaction ids of a process's first messages. -/
def transactionIds (count : Nat) : List UInt32 :=
  (List.range count).map fun index => swap32 (1 + UInt32.ofNat index)

theorem transaction_ids_succ (count : Nat) :
    transactionIds (count + 1) = transactionIds count ++ [swap32 (1 + UInt32.ofNat count)] := by
  simp [transactionIds, List.range_succ]

theorem transaction_ids_nodup {count : Nat} (few : count ≤ 2 ^ 32) :
    (transactionIds count).Nodup := by
  apply List.Nodup.map_on
  · intro left leftMember right rightMember same
    rw [List.mem_range] at leftMember rightMember
    have counters : 1 + UInt32.ofNat left = 1 + UInt32.ofNat right := by
      rw [← swap32_swap32 (1 + UInt32.ofNat left), same, swap32_swap32]
    have size : UInt32.size = 2 ^ 32 := rfl
    have words := congrArg UInt32.toNat ((UInt32.add_right_inj 1).mp counters)
    rw [UInt32.toNat_ofNat_of_lt' (by omega), UInt32.toNat_ofNat_of_lt' (by omega)] at words
    exact words
  · exact List.nodup_range

namespace Message

theorem discover_xid (sourceMac : MacAddress) (transactionId : UInt32) :
    (discover sourceMac transactionId).xid = swap32 transactionId :=
  (closed_same_header (discover_closed sourceMac transactionId)).xid.trans (construct_xid _ _ _ _)

theorem request_xid (sourceMac : MacAddress) (requestAddress serverAddress : InAddr)
    (transactionId : UInt32) :
    (request sourceMac requestAddress serverAddress transactionId).xid = swap32 transactionId :=
  (closed_same_header (request_closed sourceMac requestAddress serverAddress
    transactionId)).xid.trans (construct_xid _ _ _ _)

end Message

/-! ## What a step sends -/

/-- A client before and after a step that sent the given message or none. -/
inductive Sends (before after : DhcpClient) : Option Message → Prop
  | quiet (counter : after.sNextTransactionId = before.sNextTransactionId)
      (last : after.mLastMsg = before.mLastMsg) : Sends before after none
  | message {message : Message} (xid : message.xid = swap32 before.sNextTransactionId)
      (counter : after.sNextTransactionId = before.sNextTransactionId + 1)
      (last : after.mLastMsg = message) : Sends before after (some message)

theorem evaluated_sends {client after : DhcpClient} {now : Nat} {sent : Option Message}
    (outcome : DhcpClient.Evaluated client now sent after) : Sends client after sent := by
  cases outcome with
  | start state => exact .quiet rfl rfl
  | discover state timeout => exact .message (Message.discover_xid _ _) rfl rfl
  | request state timeout => exact .message (Message.request_xid _ _ _ _) rfl rfl
  | giveUp state exceeded => exact .quiet rfl rfl
  | renew state expired => exact .quiet rfl rfl
  | wait state timeout => exact .quiet rfl rfl
  | rebind state expired => exact .quiet rfl rfl

theorem reacted_quiet {client after : DhcpClient} {msg : Message} {answers : KernelAnswers}
    {t1Now t2Now : Nat} {reaction : DhcpClient.Reaction}
    (outcome : DhcpClient.Reacted client msg answers t1Now t2Now reaction after) :
    Sends client after none := by
  cases outcome with
  | ignored noOffer noAnswer => exact .quiet rfl rfl
  | offer state offers => exact .quiet rfl rfl
  | accepted state acknowledges accepts read host address => exact .quiet rfl rfl
  | turnedDown state acknowledges refuses configured =>
      have kept := DhcpClient.configured_same_protocol configured
      exact .quiet kept.sNextTransactionId kept.mLastMsg
  | nak state refuses => exact .quiet rfl rfl

theorem stepped_sends {run after : ClientRun} {input : ClientInput} {sent : Option Message}
    (stepped : ClientRun.Stepped run input sent after) : Sends run.client after.client sent := by
  cases stepped with
  | waited phase nothing => exact .quiet rfl rfl
  | evaluated phase ready outcome => exact evaluated_sends outcome
  | @received msg answers reaction client phase got outcome =>
      rw [(run.record_same msg answers reaction _).1]
      exact reacted_quiet outcome

/-! ## The invariant -/

/-- A client that has sent nothing yet is about to discover. -/
structure Unsent (run : ClientRun) : Prop where
  phase : run.phase = .evaluating
  state : run.client.mState = .init ∨ run.client.mState = .selecting

structure Numbered (trace : ClientTrace) : Prop where
  counter : trace.run.client.sNextTransactionId = 1 + UInt32.ofNat trace.sent.length
  xids : trace.sent.map Message.xid = transactionIds trace.sent.length
  last : trace.sent ≠ [] → trace.sent.getLast? = some trace.run.client.mLastMsg
  unsent : trace.sent = [] → Unsent trace.run

theorem unsent_step {run : ClientRun} {input : ClientInput} (before : Unsent run)
    (nothing : (run.step input).1 = none) : Unsent (run.next input) := by
  have ready := before.phase
  rcases before.state with init | selecting
  · constructor
    · simp [ClientRun.next, ClientRun.step, ready, DhcpClient.evaluate, init,
        DhcpClient.enterWait, DhcpClient.setNextState]
    · right
      simp [ClientRun.next, ClientRun.step, ready, DhcpClient.evaluate, init,
        DhcpClient.setNextState]
  · simp [ClientRun.step, ready, DhcpClient.evaluate, selecting] at nothing

theorem numbered_step {trace : ClientTrace} (before : Numbered trace) (input : ClientInput) :
    Numbered (trace.step input) := by
  have sends := stepped_sends (trace.run.step_stepped input)
  unfold ClientTrace.step ClientRun.next
  cases sent : (trace.run.step input).1 with
  | none =>
      rw [sent] at sends
      cases sends with
      | quiet counter last =>
          simp only [Option.toList_none, List.append_nil]
          constructor
          · exact counter.trans before.counter
          · exact before.xids
          · intro some
            dsimp only
            rw [last]
            exact before.last some
          · intro none
            exact unsent_step (before.unsent none) sent
  | some message =>
      rw [sent] at sends
      cases sends with
      | message xid counter last =>
          simp only [Option.toList_some]
          constructor
          · dsimp only
            rw [counter, before.counter, List.length_append, List.length_singleton,
              UInt32.ofNat_add, UInt32.add_assoc]
            rfl
          · dsimp only
            rw [List.map_append, List.map_singleton, List.length_append, List.length_singleton,
              transaction_ids_succ, before.xids, xid, before.counter]
          · intro _
            dsimp only
            rw [List.getLast?_concat, last]
          · intro none
            simp at none

theorem numbered_reachable {trace : ClientTrace} (reached : clientTraces.Reachable trace) :
    Numbered trace := by
  apply TransitionSystem.reachable_invariant Numbered _ _ reached
  · intro first ⟨started, nothing⟩
    constructor
    · rw [started.sNextTransactionId, nothing]
      rfl
    · rw [nothing]
      rfl
    · exact fun some => absurd nothing some
    · exact fun _ => ⟨started.phase, .inl started.mState⟩
  · intro before input after numbered taken
    rw [← taken]
    exact numbered_step numbered input

/-- A message sent earlier differs from the last one in its transaction id. -/
theorem earlier_xid {trace : ClientTrace} (numbered : Numbered trace)
    (few : trace.sent.length ≤ 2 ^ 32) {earlier last : Message}
    (member : earlier ∈ trace.sent.dropLast) (newest : trace.sent.getLast? = some last) :
    earlier.xid ≠ last.xid := by
  have distinct := transaction_ids_nodup few
  rw [← numbered.xids, ← List.dropLast_append_getLast? last newest, List.map_append,
    List.map_singleton, List.nodup_append] at distinct
  apply distinct.2.2
  · exact List.mem_map_of_mem member
  · exact List.mem_singleton_self _

/-! ## Frames -/

/-- The state, the timers, the two addresses and the configuration of the interface are the
same. -/
structure Unmoved (before after : DhcpClient) : Prop where
  mState : after.mState = before.mState
  mT1 : after.mT1 = before.mT1
  mT2 : after.mT2 = before.mT2
  mRequestAddress : after.mRequestAddress = before.mRequestAddress
  mServerAddress : after.mServerAddress = before.mServerAddress
  host : after.host = before.host

/-- The message that a frame to the client's port carries, read into a new object. -/
def frameMessage (frame : List UInt8) (behind : Memory) : Message :=
  (receiveRawUdp portBootpClient (Message.init behind) frame).1

/-- A frame moves the client only as a valid reply to its last message. -/
theorem step_readable {run : ClientRun} {input : ClientInput} {timeout : UInt32}
    {frame : List UInt8} {behind : Memory} {answers : KernelAnswers}
    (waiting : run.phase = .polling timeout)
    (arrives : input.poll = .readable (some frame) behind answers) :
    (run.next input).client = run.client ∨
      (frameMessage frame behind).isValidDhcpMessageXid opBootReply run.client.mLastMsg.xid =
        true := by
  by_cases accepted : (receiveRawUdp portBootpClient (Message.init behind) frame).2 = true ∧
      (frameMessage frame behind).isValidDhcpMessageXid opBootReply run.client.mLastMsg.xid = true
  · exact .inr accepted.2
  · left
    have refused : run.client.receiveDhcpMessage (some frame) behind = none := if_neg accepted
    simp [ClientRun.next, ClientRun.step, waiting, arrives, refused]

/-- In a run that has built fewer than 2^32 messages, a frame moves the client only if it is a
valid reply with the transaction id of the message sent last. One with the transaction id of an
earlier message moves nothing. -/
theorem stale_replies_inert (trace : ClientTrace) (reached : clientTraces.Reachable trace)
    (few : trace.sent.length < 2 ^ 32) (timeout : UInt32)
    (waiting : trace.run.phase = .polling timeout) (input : ClientInput) (frame : List UInt8)
    (behind : Memory) (answers : KernelAnswers)
    (arrives : input.poll = .readable (some frame) behind answers) :
    (¬ Unmoved trace.run.client (trace.run.next input).client →
      ∃ last, trace.sent.getLast? = some last ∧
        (frameMessage frame behind).isValidDhcpMessage opBootReply = true ∧
        (frameMessage frame behind).xid = last.xid) ∧
    ∀ earlier ∈ trace.sent.dropLast, (frameMessage frame behind).xid = earlier.xid →
      Unmoved trace.run.client (trace.run.next input).client := by
  have numbered := numbered_reachable reached
  have newest : trace.sent.getLast? = some trace.run.client.mLastMsg := by
    apply numbered.last
    intro nothing
    have evaluating := (numbered.unsent nothing).phase
    rw [waiting] at evaluating
    contradiction
  have moved : ¬ Unmoved trace.run.client (trace.run.next input).client →
      (frameMessage frame behind).isValidDhcpMessageXid opBootReply
        trace.run.client.mLastMsg.xid = true := by
    intro moves
    apply (step_readable waiting arrives).resolve_left
    intro same
    rw [same] at moves
    exact moves ⟨rfl, rfl, rfl, rfl, rfl, rfl⟩
  constructor
  · intro moves
    obtain ⟨valid, xid⟩ := (Message.is_valid_xid_iff _ _ _).mp (moved moves)
    exact ⟨trace.run.client.mLastMsg, newest, valid, xid⟩
  · intro earlier member same
    by_contra moves
    obtain ⟨-, xid⟩ := (Message.is_valid_xid_iff _ _ _).mp (moved moves)
    exact earlier_xid numbered few.le member newest (same.symm.trans xid)

/-- The first DISCOVER times out and is repeated. -/
def repeatedInputs : List ClientInput :=
  [stepInput 0 .timeout, stepInput 0 .timeout, stepInput 10000 .timeout, stepInput 0 .timeout]

/-- An OFFER to the first DISCOVER moves nothing once the second was sent. -/
theorem stale_replies_inert_first_offer :
    ∃ trace : ClientTrace, clientTraces.Reachable trace ∧ trace.sent.length = 2 ∧
      trace.run.client.mState = .selecting ∧
      Unmoved trace.run.client (trace.run.next (arrival ClientRun.homeOffer)).client := by
  have reached := TransitionSystem.reachable_of_check clientTraces ClientTrace.step
    (fun _ _ => true) repeatedInputs (fun _ _ _ _ => rfl)
    (.start ⟨started_run_started fun _ => 2, rfl⟩ :
      clientTraces.Reachable ⟨startedRun fun _ => 2, []⟩) (by decide +kernel)
  generalize computed : repeatedInputs.foldl ClientTrace.step ⟨startedRun fun _ => 2, []⟩ = trace
    at reached
  have count : trace.sent.length = 2 := by
    rw [← computed]
    decide +kernel
  have state : trace.run.client.mState = .selecting := by
    rw [← computed]
    decide +kernel
  have waiting : trace.run.phase = .polling 8000 := by
    rw [← computed]
    decide +kernel
  have stale : (frameMessage (udpHeader portBootpClient ++ ClientRun.homeOffer.bytes)
      fun _ => 0).xid ∈ trace.sent.dropLast.map Message.xid := by
    rw [← computed]
    decide +kernel
  obtain ⟨earlier, member, same⟩ := List.mem_map.mp stale
  exact ⟨trace, reached, count, state,
    (stale_replies_inert trace reached (by rw [count]; decide) _ waiting
      (arrival ClientRun.homeOffer) _ _ _ rfl).2 earlier member same.symm⟩

end RedroidExt.Dhcp
