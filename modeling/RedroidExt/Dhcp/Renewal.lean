import RedroidExt.Dhcp.ClientRuns
import RedroidExt.Dhcp.Replies

/-!
# What a renewal asks for

`mRequestAddress` and `mServerAddress` are written when an OFFER is taken, the
interface is configured when an ACK is. Nothing compares the two, so renewals ask
for the address in use as long as every accepted ACK repeats the OFFER.
-/

namespace RedroidExt.Dhcp

open RedroidExt.Library RedroidExt.Library.ByteMemory

set_option autoImplicit false

/-- The states in which the client has a lease. -/
inductive HoldsLease : ClientState → Prop
  | bound : HoldsLease .bound
  | renewing : HoldsLease .renewing
  | rebinding : HoldsLease .rebinding

/-- No evaluation leads to a lease. -/
theorem evaluated_held {client after : DhcpClient} {now : Nat} {sent : Option Message}
    (outcome : DhcpClient.Evaluated client now sent after) (holding : HoldsLease after.mState) :
    HoldsLease client.mState ∧ (after.mState = .bound → client.mState = .bound) := by
  cases outcome with
  | start state => exact nomatch holding
  | discover state timeout => exact ⟨holding, id⟩
  | request state timeout => exact ⟨holding, id⟩
  | giveUp state exceeded => exact nomatch holding
  | renew state expired => exact ⟨state ▸ .bound, fun bound => nomatch bound⟩
  | wait state timeout => exact ⟨holding, id⟩
  | rebind state expired => exact ⟨state ▸ .renewing, fun bound => nomatch bound⟩

namespace ClientRun

/-- The client asks for what the ACK accepted last configured, and asks the server that sent
it if the ACK names one. -/
structure AsksFor (run : ClientRun) (ack : DecodedAck) : Prop where
  last : run.lastAck = some ack
  address : run.client.mRequestAddress = ack.info.offeredAddress
  server : ack.info.serverId ≠ 0 → run.client.mServerAddress = ack.info.serverId
  bound : run.client.mState = .bound → run.client.host.address = ack.info.offeredAddress

def LeaseInUse (run : ClientRun) : Prop :=
  HoldsLease run.client.mState → ∃ ack, run.AsksFor ack

/-- The step accepts no ACK that differs from the OFFER taken last in its address, or in its
server identifier when it has one. -/
def AckRepeatsOffer (run : ClientRun) (input : ClientInput) : Prop :=
  ∀ msg answers, run.received input = some (msg, answers) →
    DhcpClient.AwaitsAck run.client.mState → msg.type = dhcpAck →
    run.client.accepts msg answers = true →
    msg.yiaddr = run.client.mRequestAddress ∧
      ((DhcpClient.readAck msg).2.serverId ≠ 0 →
        (DhcpClient.readAck msg).2.serverId = run.client.mServerAddress)

theorem lease_in_use_started {run : ClientRun} (started : run.Started) : run.LeaseInUse := by
  intro holding
  rw [started.mState] at holding
  cases holding

/-- Where neither the two addresses nor the last ACK change, and a lease was held before, the
lease stays in use. -/
theorem lease_in_use_frame {run after : ClientRun} (before : run.LeaseInUse)
    (held : HoldsLease after.client.mState → HoldsLease run.client.mState)
    (last : after.lastAck = run.lastAck)
    (request : after.client.mRequestAddress = run.client.mRequestAddress)
    (server : after.client.mServerAddress = run.client.mServerAddress)
    (bound : after.client.mState = .bound →
      run.client.mState = .bound ∧ after.client.host = run.client.host) :
    after.LeaseInUse := by
  intro holding
  obtain ⟨ack, asks⟩ := before (held holding)
  refine ⟨ack, last.trans asks.last, request.trans asks.address, ?_, ?_⟩
  · intro named
    exact server.trans (asks.server named)
  · intro state
    obtain ⟨stateBefore, host⟩ := bound state
    rw [host]
    exact asks.bound stateBefore

theorem lease_in_use_step {run after : ClientRun} {input : ClientInput} {sent : Option Message}
    (before : run.LeaseInUse) (repeats : run.AckRepeatsOffer input)
    (stepped : Stepped run input sent after) : after.LeaseInUse := by
  cases stepped with
  | waited phase nothing => exact lease_in_use_frame before id rfl rfl rfl (fun state => ⟨state, rfl⟩)
  | evaluated phase ready outcome =>
      have same := DhcpClient.evaluated_same_lease outcome
      apply lease_in_use_frame before
      · exact fun holding => (evaluated_held outcome holding).1
      · rfl
      · exact same.mRequestAddress
      · exact same.mServerAddress
      · exact fun bound => ⟨(evaluated_held outcome (bound ▸ .bound)).2 bound, same.host⟩
  | @received msg answers reaction client phase got outcome =>
      cases outcome with
      | ignored noOffer noAnswer =>
          exact lease_in_use_frame before id rfl rfl rfl (fun state => ⟨state, rfl⟩)
      | offer state offers => exact fun holding => nomatch holding
      | accepted state acknowledges accepts read host address =>
          obtain ⟨sameAddress, sameServer⟩ := repeats msg answers got state acknowledges accepts
          have offered := (DhcpClient.read_ack_offered read).1
          intro _
          refine ⟨_, rfl, ?_, ?_, ?_⟩
          · exact sameAddress.symm.trans offered.symm
          · exact fun named => (sameServer named).symm
          · exact fun _ => address.trans offered.symm
      | turnedDown state acknowledges refuses configured =>
          have kept := DhcpClient.configured_same_protocol configured
          have recorded := run.record_same msg answers .ackTurnedDown
            { run with client := client, phase := phase, clock := run.clock + input.elapsed }
          apply lease_in_use_frame before
          · rw [recorded.1]
            exact fun holding => kept.mState ▸ holding
          · exact record_last_ack (by decide)
          · rw [recorded.1]
            exact kept.mRequestAddress
          · rw [recorded.1]
            exact kept.mServerAddress
          · rw [recorded.1]
            intro bound
            have stateBound : run.client.mState = .bound := kept.mState.symm.trans bound
            rw [stateBound] at state
            cases state
      | nak state refuses => exact fun holding => nomatch holding

/-- In every run whose accepted ACKs repeat their OFFER, the address asked for is the one the
last ACK configured; so a REQUEST sent in Renewing or Rebinding is for the lease in use, and in
Renewing it names the server that granted it. -/
theorem renewal_targets_lease (run : ClientRun)
    (reached : (clientSystem.restrict AckRepeatsOffer).Reachable run) :
    run.LeaseInUse ∧
      ∀ (input : ClientInput) (sent : Message), (run.step input).1 = some sent →
        run.client.mState = .renewing ∨ run.client.mState = .rebinding →
        ∃ ack, run.lastAck = some ack ∧ sent.type = dhcpRequest ∧
          sent.requestedIp = ack.info.offeredAddress ∧
          (run.client.mState = .renewing → ack.info.serverId ≠ 0 →
            sent.serverId = ack.info.serverId) := by
  have inUse : run.LeaseInUse := by
    refine TransitionSystem.reachable_invariant LeaseInUse ?_ ?_ reached
    · exact fun state started => lease_in_use_started started
    · intro state input after before taken
      have stepped := step_stepped state input
      rw [taken.2] at stepped
      exact lease_in_use_step before taken.1 stepped
  refine ⟨inUse, ?_⟩
  intro input sent sends state
  have holding : HoldsLease run.client.mState := by
    rcases state with renewing | rebinding
    · exact renewing ▸ .renewing
    · exact rebinding ▸ .rebinding
  obtain ⟨ack, asks⟩ := inUse holding
  have stepped := step_stepped run input
  rw [sends] at stepped
  generalize (run.step input).2 = after at stepped
  cases stepped with
  | evaluated phase ready outcome =>
      cases outcome with
      | discover selecting timeout =>
          rw [selecting] at holding
          cases holding
      | request awaits timeout =>
          refine ⟨ack, asks.last, Message.request_type _ _ _ _, ?_, ?_⟩
          · rw [Message.request_requested_ip]
            exact asks.address
          · intro renewing named
            have target : run.client.destination = run.client.mServerAddress := by
              simp [DhcpClient.destination, renewing]
            rw [Message.request_server_id, target]
            exact asks.server named

/-- An OFFER of 192.168.0.2 by 192.168.0.1 to the first DISCOVER of the client. -/
def homeOffer : Message :=
  (Message.discover (fun _ => 2) 1).offer (swap32 0xC0A80001) (swap32 0xC0A80002)
    (swap32 0xFFFFFF00) (swap32 0xC0A80001) [] 1

/-- An ACK of an address to the REQUEST that follows. -/
def homeAck (address : InAddr) : Message :=
  (Message.request (fun _ => 2) (swap32 0xC0A80002) (swap32 0xC0A80001) 2).ack
    (swap32 0xC0A80001) address (swap32 0xFFFFFF00) (swap32 0xC0A80001) [] 2

/-- From the start over one OFFER and one ACK to Bound. -/
def boundInputs (address : InAddr) : List ClientInput :=
  [stepInput 0 .timeout, stepInput 0 .timeout, arrival homeOffer, stepInput 0 .timeout,
    arrival (homeAck address)]

/-- The same, and then both timers expire. -/
def expiredInputs : List ClientInput :=
  boundInputs (swap32 0xC0A80002) ++ [stepInput 1000000000000 .timeout, stepInput 0 .timeout]

/-- A check that implies the condition on a step. -/
def repeatsOffer (run : ClientRun) (input : ClientInput) : Bool :=
  match run.received input with
  | none => true
  | some (msg, _) =>
      msg.type ≠ dhcpAck ∨
        msg.yiaddr = run.client.mRequestAddress ∧
          (DhcpClient.readAck msg).2.serverId = run.client.mServerAddress

theorem ack_repeats_offer_of_check {run : ClientRun} {input : ClientInput}
    (checked : run.repeatsOffer input = true) : run.AckRepeatsOffer input := by
  intro msg answers got _ acknowledges _
  unfold repeatsOffer at checked
  rw [got] at checked
  rcases of_decide_eq_true checked with other | ⟨sameAddress, sameServer⟩
  · exact absurd acknowledges other
  · exact ⟨sameAddress, fun _ => sameServer⟩

/-- A client that was offered and acknowledged 192.168.0.2 asks for it again when both timers
have expired. -/
theorem renewal_targets_lease_home :
    ∃ run : ClientRun, ∃ sent ack,
      (run.step (stepInput 0 .timeout)).1 = some sent ∧ run.client.mState = .rebinding ∧
      run.lastAck = some ack ∧ sent.type = dhcpRequest ∧
      sent.requestedIp = ack.info.offeredAddress := by
  have reached := TransitionSystem.reachable_of_check (clientSystem.restrict AckRepeatsOffer) next
    repeatsOffer expiredInputs
    (fun run input _ checked => ⟨ack_repeats_offer_of_check checked, rfl⟩)
    (.start (started_run_started fun _ => 2)) (by decide +kernel)
  generalize computed : expiredInputs.foldl next (startedRun fun _ => 2) = run at reached
  have state : run.client.mState = .rebinding := by
    rw [← computed]
    decide +kernel
  have sends : (run.step (stepInput 0 .timeout)).1.isSome = true := by
    rw [← computed]
    decide +kernel
  obtain ⟨sent, sends⟩ := Option.isSome_iff_exists.mp sends
  obtain ⟨ack, last, requests, asked, -⟩ :=
    (renewal_targets_lease run reached).2 (stepInput 0 .timeout) sent sends (.inr state)
  exact ⟨run, sent, ack, sends, state, last, requests, asked⟩

/-- The OFFER was for 192.168.0.2, the ACK is for 192.168.0.77. -/
theorem renewal_asks_for_other_address :
    ∃ run : ClientRun, clientSystem.Reachable run ∧ ¬ run.LeaseInUse := by
  generalize computed : (boundInputs (swap32 0xC0A8004D)).foldl next (startedRun fun _ => 2) = run
  refine ⟨run, ?_, ?_⟩
  · rw [← computed]
    exact TransitionSystem.reachable_of_check clientSystem next (fun _ _ => true) _
      (fun _ _ _ _ => rfl) (.start (started_run_started _)) rfl
  · intro inUse
    have state : run.client.mState = .bound := by
      rw [← computed]
      decide +kernel
    have addresses : run.client.mRequestAddress = swap32 0xC0A80002 ∧
        run.client.host.address = swap32 0xC0A8004D := by
      rw [← computed]
      decide +kernel
    obtain ⟨ack, asks⟩ := inUse (state ▸ .bound)
    have same : swap32 0xC0A80002 = swap32 0xC0A8004D := by
      rw [← addresses.1, ← addresses.2, asks.address, asks.bound state]
    exact absurd same (by decide)

end ClientRun

end RedroidExt.Dhcp
