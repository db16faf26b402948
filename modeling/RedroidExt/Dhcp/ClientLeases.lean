import RedroidExt.Dhcp.Renewal

/-!
# Where a client's addresses come from

The address on the interface of a client with a lease is the one of an ACK that it
heard, and the address it asks for is the one of an OFFER. A step adds at most one
such message.
-/

namespace RedroidExt.Dhcp

open RedroidExt.Library RedroidExt.Library.ByteMemory

set_option autoImplicit false

/-- The states behind an OFFER. -/
def WasOffered (state : ClientState) : Prop := state = .requesting ∨ HoldsLease state

theorem was_offered_of_awaits {state : ClientState} (awaits : DhcpClient.AwaitsAck state) :
    WasOffered state := by
  cases awaits with
  | requesting => exact .inl rfl
  | renewing => exact .inr .renewing
  | rebinding => exact .inr .rebinding

namespace DhcpClient

theorem configure_interface_either (host : Host) (name : String) (info : DhcpInfo)
    (answers : KernelAnswers) :
    (configureInterface host name info answers).2.address = host.address ∨
      (configureInterface host name info answers).2.address = info.offeredAddress := by
  rcases configure_interface_split host name info answers with ⟨-, down⟩ | ⟨before, same, set⟩
  · rw [down]
    exact .inl (Host.set_interface_up_address _ _ _)
  · rw [set]
    rcases before.set_address_either info.offeredAddress info.subnetMask answers with new | old
    · exact .inr new
    · exact .inl (old.trans same)

/-- An ACK leaves the address alone or sets its own, however far `configureDhcp` gets. -/
theorem configured_address_either {client after : DhcpClient} {msg : Message}
    {answers : KernelAnswers} {t1Now t2Now : Nat} {succeeded : Bool}
    (outcome : Configured client msg answers t1Now t2Now succeeded after) :
    after.host.address = client.host.address ∨ after.host.address = msg.yiaddr := by
  cases outcome with
  | small _ => exact .inl rfl
  | unread _ => exact .inl rfl
  | unconfigured read _ =>
      rw [← (read_ack_offered read).1]
      exact configure_interface_either _ _ _ _
  | configured configures _ => exact .inr (configured_address configures client.mOptions)

end DhcpClient

namespace ClientRun

/-- An ACK that the step hears configures the address; only one that is accepted leads to
Bound. -/
structure Acknowledged (run : ClientRun) (input : ClientInput) (after : ClientRun) (msg : Message)
    (answers : KernelAnswers) : Prop where
  got : run.received input = some (msg, answers)
  awaits : DhcpClient.AwaitsAck run.client.mState
  acknowledges : msg.type = dhcpAck
  accepted : after.client.mState = .bound → run.client.accepts msg answers = true
  address : after.client.host.address = msg.yiaddr

/-- The step leaves the address alone. -/
structure KeepsAddress (run after : ClientRun) : Prop where
  held : HoldsLease run.client.mState
  bound : after.client.mState = .bound → run.client.mState = .bound
  address : after.client.host.address = run.client.host.address

theorem holds_lease_step {run after : ClientRun} {input : ClientInput} {sent : Option Message}
    (stepped : Stepped run input sent after) (holding : HoldsLease after.client.mState) :
    KeepsAddress run after ∨ ∃ msg answers, Acknowledged run input after msg answers := by
  cases stepped with
  | waited phase nothing => exact .inl ⟨holding, id, rfl⟩
  | evaluated phase ready outcome =>
      have same := DhcpClient.evaluated_same_lease outcome
      obtain ⟨held, bound⟩ := evaluated_held outcome holding
      exact .inl ⟨held, bound, congrArg Host.address same.host⟩
  | @received msg answers reaction client phase got outcome =>
      generalize recorded : run.record msg answers reaction
        { run with client := client, phase := phase, clock := run.clock + input.elapsed } = after
        at holding ⊢
      have same : after.client = client := by
        rw [← recorded]
        exact (run.record_same msg answers reaction _).1
      rw [same] at holding
      cases outcome with
      | ignored noOffer noAnswer =>
          left
          constructor
          · exact holding
          · rw [same]
            exact id
          · rw [same]
      | offer state offers => exact nomatch holding
      | accepted state acknowledges accepts read host address =>
          right
          refine ⟨msg, answers, got, state, acknowledges, fun _ => accepts, ?_⟩
          rw [same]
          exact address
      | turnedDown state acknowledges refuses configured =>
          have kept := (DhcpClient.configured_same_protocol configured).mState
          rw [kept] at holding
          have unbound : after.client.mState ≠ .bound := by
            rw [same, kept]
            intro bound
            exact nomatch bound ▸ state
          rcases DhcpClient.configured_address_either configured with old | new
          · left
            refine ⟨holding, fun bound => absurd bound unbound, ?_⟩
            rw [same]
            exact old
          · right
            refine ⟨msg, answers, got, state, acknowledges, fun bound => absurd bound unbound, ?_⟩
            rw [same]
            exact new
      | nak state refuses => exact nomatch holding

/-- The address asked for stays the same or is the one of an OFFER that the step hears. -/
theorem was_offered_step {run after : ClientRun} {input : ClientInput} {sent : Option Message}
    (stepped : Stepped run input sent after) (offered : WasOffered after.client.mState) :
    (WasOffered run.client.mState ∧
        after.client.mRequestAddress = run.client.mRequestAddress) ∨
      ∃ msg answers, run.received input = some (msg, answers) ∧ msg.type = dhcpOffer ∧
        after.client.mRequestAddress = msg.yiaddr := by
  cases stepped with
  | waited phase nothing => exact .inl ⟨offered, rfl⟩
  | evaluated phase ready outcome =>
      left
      cases outcome with
      | start state => exact nomatch offered
      | discover state timeout => exact ⟨offered, rfl⟩
      | request state timeout => exact ⟨offered, rfl⟩
      | giveUp state exceeded => exact nomatch offered
      | renew state expired => exact ⟨.inr (state ▸ .bound), rfl⟩
      | wait state timeout => exact ⟨offered, rfl⟩
      | rebind state expired => exact ⟨.inr (state ▸ .renewing), rfl⟩
  | @received msg answers reaction client phase got outcome =>
      rw [(run.record_same msg answers reaction _).1] at offered ⊢
      dsimp only at offered ⊢
      cases outcome with
      | ignored noOffer noAnswer => exact .inl ⟨offered, rfl⟩
      | offer state offers => exact .inr ⟨msg, answers, got, offers, rfl⟩
      | accepted state acknowledges accepts read host address =>
          exact .inl ⟨was_offered_of_awaits state, rfl⟩
      | turnedDown state acknowledges refuses configured =>
          have kept := DhcpClient.configured_same_protocol configured
          exact .inl ⟨was_offered_of_awaits state, kept.mRequestAddress⟩
      | nak state refuses => exact nomatch offered

/-- No step changes the hardware address. -/
theorem mac_address_step {run after : ClientRun} {input : ClientInput} {sent : Option Message}
    (stepped : Stepped run input sent after) :
    after.client.mInterface = run.client.mInterface := by
  cases stepped with
  | waited phase nothing => rfl
  | evaluated phase ready outcome => exact (DhcpClient.evaluated_same_lease outcome).mInterface
  | @received msg answers reaction client phase got outcome =>
      rw [(run.record_same msg answers reaction _).1]
      cases outcome with
      | ignored noOffer noAnswer => rfl
      | offer state offers => rfl
      | accepted state acknowledges accepts read host address => rfl
      | turnedDown state acknowledges refuses configured =>
          exact (DhcpClient.configured_same_protocol configured).mInterface
      | nak state refuses => rfl

/-- A step sends a DISCOVER, or a REQUEST for the address that was offered. -/
theorem sent_step {run after : ClientRun} {input : ClientInput} {message : Message}
    (stepped : Stepped run input (some message) after) :
    (∃ transactionId,
        message = Message.discover run.client.mInterface.mMacAddress transactionId) ∨
      (WasOffered run.client.mState ∧ ∃ serverAddress transactionId,
        message = Message.request run.client.mInterface.mMacAddress run.client.mRequestAddress
          serverAddress transactionId) := by
  cases stepped with
  | evaluated phase ready outcome =>
      cases outcome with
      | discover state timeout => exact .inl ⟨_, rfl⟩
      | request awaits timeout => exact .inr ⟨was_offered_of_awaits awaits, _, _, rfl⟩

end ClientRun

end RedroidExt.Dhcp
