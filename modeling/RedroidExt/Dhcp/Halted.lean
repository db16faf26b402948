import RedroidExt.Dhcp.ClientWaits
import RedroidExt.Dhcp.Segment
import RedroidExt.Library.Paths

/-!
# A halted network

A NAK brings the interface down, and only an ACK brings it up again. Over an
interface that is down no ACK arrives, so the client sends DISCOVERs from then on
and hears no answer.
-/

namespace RedroidExt.Dhcp

open RedroidExt.Library RedroidExt.Library.ByteMemory

set_option autoImplicit false

/-! ## What brings the interface down -/

namespace Host

variable (host : Host) (answers : KernelAnswers)

theorem set_mtu_is_up (mtu : UInt16) : (host.setMtu mtu answers).2.isUp = host.isUp := by
  unfold setMtu
  split_ifs <;> rfl

theorem set_address_is_up (address subnetMask : InAddr) :
    (host.setAddress address subnetMask answers).2.isUp = host.isUp := by
  unfold setAddress
  cases answers.address with
  | done => rfl
  | refused => rfl
  | unconfirmed => rfl

theorem set_default_gateway_is_up (gateway : InAddr) :
    (host.setDefaultGateway gateway answers).2.isUp = host.isUp := by
  unfold setDefaultGateway
  split_ifs <;> rfl

theorem set_property_is_up (name value : String) :
    (host.setProperty name value answers).isUp = host.isUp := by
  unfold setProperty
  split_ifs <;> rfl

/-- `bringUp` never brings an interface down. -/
theorem bring_up_is_up (up : host.isUp = true) : (host.bringUp answers).2.isUp = true := by
  unfold bringUp setInterfaceUp
  split_ifs
  · exact up
  · exact up

end Host

namespace DhcpClient

theorem set_properties_is_up (host : Host) (name : String) (info : DhcpInfo)
    (answers : KernelAnswers) : (setProperties host name info answers).isUp = host.isUp := by
  have kept : ∀ (indices : List (Fin 4)) (host : Host),
      (indices.foldl (fun host index =>
        host.setProperty ("vendor.net." ++ name ++ ".dns" ++ toString (index.val + 1))
          (if info.dns index ≠ 0 then addrToStr (info.dns index) else "") answers) host).isUp =
        host.isUp := by
    intro indices
    induction indices with
    | nil => exact fun _ => rfl
    | cons index rest ih => exact fun _ => (ih _).trans (Host.set_property_is_up _ _ _ _)
  exact (kept _ _).trans (Host.set_property_is_up _ _ _ _)

theorem configure_interface_is_up {host : Host} (up : host.isUp = true) (name : String)
    (info : DhcpInfo) (answers : KernelAnswers) :
    (configureInterface host name info answers).2.isUp = true := by
  have broughtUp := Host.bring_up_is_up host answers up
  unfold configureInterface
  dsimp only
  split_ifs
  · rw [Host.set_address_is_up, set_properties_is_up, Host.set_mtu_is_up]
    exact broughtUp
  · rw [Host.set_address_is_up, set_properties_is_up]
    exact broughtUp
  · exact broughtUp

theorem configure_gateway_is_up (host : Host) (options : UInt32) (info : DhcpInfo)
    (answers : KernelAnswers) :
    (configureGateway host options info answers).2.isUp = host.isUp := by
  unfold configureGateway
  split_ifs
  · exact Host.set_default_gateway_is_up _ _ _
  · rfl

theorem configure_dhcp_is_up {client : DhcpClient} (up : client.host.isUp = true) (msg : Message)
    (answers : KernelAnswers) (t1Now t2Now : Nat) :
    (client.configureDhcp msg answers t1Now t2Now).2.host.isUp = true := by
  have outcome := configure_dhcp_configured client msg answers t1Now t2Now
  generalize (client.configureDhcp msg answers t1Now t2Now).1 = succeeded at outcome
  generalize (client.configureDhcp msg answers t1Now t2Now).2 = after at outcome ⊢
  cases outcome with
  | small short => exact up
  | unread failed => exact up
  | unconfigured read failed => exact configure_interface_is_up up _ _ _
  | configured configures result =>
      exact (configure_gateway_is_up _ _ _ _).trans (configure_interface_is_up up _ _ _)

/-- An interface that is up stays so, unless the message is a NAK. -/
theorem handle_dhcp_message_is_up {client : DhcpClient} (up : client.host.isUp = true)
    (msg : Message) (answers : KernelAnswers) (t1Now t2Now : Nat) :
    (client.handleDhcpMessage msg answers t1Now t2Now).2.host.isUp = true ∨
      (client.handleDhcpMessage msg answers t1Now t2Now).2.mState = .init := by
  have replied : (client.handleReply msg answers t1Now t2Now).2.host.isUp = true ∨
      (client.handleReply msg answers t1Now t2Now).2.mState = .init := by
    have configured := configure_dhcp_is_up up msg answers t1Now t2Now
    unfold handleReply
    dsimp only
    split_ifs
    · exact .inl configured
    · exact .inl configured
    · exact .inr rfl
    · exact .inl up
  unfold handleDhcpMessage
  cases client.mState with
  | init => exact .inl up
  | selecting =>
      dsimp only
      split_ifs
      · exact .inl up
      · exact .inl up
  | requesting => exact replied
  | bound => exact .inl up
  | renewing => exact replied
  | rebinding => exact replied

end DhcpClient

namespace ClientRun

theorem step_handled {run : ClientRun} {input : ClientInput} {msg : Message}
    {answers : KernelAnswers} (got : run.received input = some (msg, answers)) :
    (run.step input).2.client =
      (run.client.handleDhcpMessage msg answers (run.clock + input.first + input.second)
        (run.clock + input.first + input.second + input.third)).2 := by
  unfold received at got
  unfold step
  cases ready : run.phase with
  | evaluating => simp [ready] at got
  | polling timeout =>
      cases poll : input.poll with
      | timeout => simp [ready, poll] at got
      | failed => simp [ready, poll] at got
      | readable frame behind given =>
          rw [ready, poll] at got
          rcases Option.map_eq_some_iff.mp got with ⟨other, valid, same⟩
          rcases Prod.mk.inj same with ⟨rfl, rfl⟩
          dsimp only
          rw [valid]
          exact (run.record_same _ _ _ _).1

/-- The interface is down, and the client waits for an OFFER or is about to. -/
structure Halted (run : ClientRun) : Prop where
  isDown : run.client.host.isUp = false
  discovers : run.client.mState = .init ∨ run.client.mState = .selecting

def ReceivesWhileUp (run : ClientRun) (input : ClientInput) : Prop :=
  run.client.host.isUp = false → run.received input = none

/-- Without a message a client that waits for an OFFER goes on to, with the host as it is. -/
theorem discovers_silent {run : ClientRun}
    (discovers : run.client.mState = .init ∨ run.client.mState = .selecting) {input : ClientInput}
    (silent : run.received input = none) :
    ((run.step input).2.client.mState = .init ∨ (run.step input).2.client.mState = .selecting) ∧
      (run.step input).2.client.host = run.client.host := by
  have stepped := step_stepped run input
  generalize (run.step input).1 = sent at stepped
  generalize (run.step input).2 = after at stepped ⊢
  cases stepped with
  | waited phase nothing => exact ⟨discovers, rfl⟩
  | received phase got outcome => exact nomatch got.symm.trans silent
  | evaluated phase ready outcome =>
      refine ⟨?_, (DhcpClient.evaluated_same_lease outcome).host⟩
      cases outcome with
      | start state => exact .inr rfl
      | discover state timeout => exact .inr state
      | request state timeout =>
          rcases discovers with init | selecting
          · exact nomatch init ▸ state
          · exact nomatch selecting ▸ state
      | giveUp state exceeded => exact .inl rfl
      | renew state expired =>
          rcases discovers with init | selecting
          · exact nomatch init.symm.trans state
          · exact nomatch selecting.symm.trans state
      | wait state timeout =>
          rcases discovers with init | selecting
          · exact nomatch init.symm.trans state
          · exact nomatch selecting.symm.trans state
      | rebind state expired =>
          rcases discovers with init | selecting
          · exact nomatch init.symm.trans state
          · exact nomatch selecting.symm.trans state

/-- A halted client stays one, unless there is a message. -/
theorem halted_silent {run : ClientRun} (halted : run.Halted) {input : ClientInput}
    (silent : run.received input = none) :
    (run.step input).2.Halted ∧ (run.step input).2.client.host = run.client.host := by
  rcases discovers_silent halted.discovers silent with ⟨discovers, host⟩
  refine ⟨⟨?_, discovers⟩, host⟩
  rw [host]
  exact halted.isDown

def UpOrHalted (run : ClientRun) : Prop := run.client.host.isUp = true ∨ run.Halted

theorem up_or_halted_step {run : ClientRun} (before : run.UpOrHalted) {input : ClientInput}
    (heard : run.ReceivesWhileUp input) : (run.step input).2.UpOrHalted := by
  rcases before with up | halted
  · cases got : run.received input with
    | none =>
        have stepped := step_stepped run input
        generalize (run.step input).1 = sent at stepped
        generalize (run.step input).2 = after at stepped ⊢
        cases stepped with
        | waited phase nothing => exact .inl up
        | received phase gotOther outcome => exact nomatch gotOther.symm.trans got
        | evaluated phase ready outcome =>
            left
            rw [(DhcpClient.evaluated_same_lease outcome).host]
            exact up
    | some heard =>
        rcases heard with ⟨msg, answers⟩
        have handled := DhcpClient.handle_dhcp_message_is_up up msg answers
          (run.clock + input.first + input.second)
          (run.clock + input.first + input.second + input.third)
        rw [← step_handled got] at handled
        rcases handled with stillUp | init
        · exact .inl stillUp
        · cases isUp : (run.step input).2.client.host.isUp with
          | true => exact .inl isUp
          | false => exact .inr ⟨isUp, .inl init⟩
  · exact .inr (halted_silent halted (heard halted.isDown)).1

theorem up_or_halted_started {run : ClientRun} (started : run.Started) : run.UpOrHalted :=
  .inl started.isUp

end ClientRun

/-! ## On a segment -/

namespace Segment

variable {ι : Type}

/-- Nothing is received over an interface that is down. -/
def HeardWhileUp (segment : Segment ι) : SegmentLabel ι → Prop
  | .client who (.reply _ _ _ _ _) => (segment.clients who).client.host.isUp = true
  | .client _ (.alone _) => True
  | .request _ _ => True
  | .elsewhere _ _ _ => True

theorem input_receives_while_up {segment : Segment ι} {who : ι} {turn : ClientTurn}
    (heard : segment.HeardWhileUp (.client who turn)) {input : ClientInput}
    (possible : segment.input who turn = some input) :
    (segment.clients who).ReceivesWhileUp input := by
  intro isDown
  cases turn with
  | alone own =>
      unfold Segment.input at possible
      dsimp only at possible
      split_ifs at possible with silent
      rw [← Option.some.inj possible]
      exact Option.isNone_iff_eq_none.mp silent
  | reply own header index behind given =>
      have up : (segment.clients who).client.host.isUp = true := heard
      rw [isDown] at up
      cases up

variable [DecidableEq ι]

/-- The segment on which nothing is heard over an interface that is down. -/
abbrev audibleSystem (interfaceIndex : UInt32) (macs : ι → MacAddress) :
    TransitionSystem (Segment ι) (SegmentLabel ι) :=
  (segmentSystem interfaceIndex macs).restrict HeardWhileUp

/-- What one client does by a step of the segment. -/
inductive ClientMoved (segment : Segment ι) (who : ι) : Segment ι → Prop
  | stays {after : Segment ι} (same : after.clients who = segment.clients who) :
      ClientMoved segment who after
  | advanced {input : ClientInput} {after : Segment ι}
      (heard : (segment.clients who).ReceivesWhileUp input)
      (stepped : after.clients who = ((segment.clients who).step input).2) :
      ClientMoved segment who after

theorem client_moved {interfaceIndex : UInt32} {segment after : Segment ι}
    {label : SegmentLabel ι} (heard : segment.HeardWhileUp label)
    (moved : Moved interfaceIndex segment label after) (who : ι) :
    ClientMoved segment who after := by
  cases moved with
  | stays label => exact .stays rfl
  | served present => exact .stays rfl
  | elsewhere different => exact .stays rfl
  | @advanced mover turn input possible =>
      by_cases same : who = mover
      · subst same
        exact .advanced (input_receives_while_up heard possible) (segment.advance_self who input)
      · exact .stays (segment.advance_other same input)

theorem step_client_moved {interfaceIndex : UInt32} {macs : ι → MacAddress}
    {segment after : Segment ι} {label : SegmentLabel ι}
    (taken : (audibleSystem interfaceIndex macs).step segment label after)
    (who : ι) : ClientMoved segment who after := by
  have moved := step_moved interfaceIndex segment label
  rw [show segment.step interfaceIndex label = after from taken.2] at moved
  exact client_moved taken.1 moved who

/-- In every run a client whose interface is down is halted. -/
theorem up_or_halted_reachable {interfaceIndex : UInt32} {macs : ι → MacAddress}
    {segment : Segment ι}
    (reached : (audibleSystem interfaceIndex macs).Reachable segment)
    (who : ι) : (segment.clients who).UpOrHalted := by
  refine TransitionSystem.reachable_invariant
    (fun segment : Segment ι => (segment.clients who).UpOrHalted) ?_ ?_ reached
  · exact fun segment started => ClientRun.up_or_halted_started (started.clients who).1
  · intro segment label after before taken
    cases step_client_moved taken who with
    | stays same =>
        rw [same]
        exact before
    | advanced heard stepped =>
        rw [stepped]
        exact ClientRun.up_or_halted_step before heard

/-- A halted client stays so with the same host, whatever happens on the segment. -/
theorem halted_takes {interfaceIndex : UInt32} {macs : ι → MacAddress} {segment after : Segment ι}
    {labels : List (SegmentLabel ι)} {who : ι} (halted : (segment.clients who).Halted)
    (path : (audibleSystem interfaceIndex macs).Takes segment labels
      after) :
    (after.clients who).Halted ∧
      (after.clients who).client.host = (segment.clients who).client.host := by
  refine TransitionSystem.takes_invariant
    (fun state : Segment ι => (state.clients who).Halted ∧
      (state.clients who).client.host = (segment.clients who).client.host) ?_ ⟨halted, rfl⟩ path
  rintro state label later ⟨before, host⟩ taken
  cases step_client_moved taken who with
  | stays same =>
      rw [same]
      exact ⟨before, host⟩
  | advanced heard stepped =>
      rw [stepped]
      rcases ClientRun.halted_silent before (heard before.isDown) with ⟨still, kept⟩
      exact ⟨still, kept.trans host⟩

end Segment

end RedroidExt.Dhcp
