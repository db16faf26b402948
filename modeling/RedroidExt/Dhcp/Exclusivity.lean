import RedroidExt.Dhcp.ClientLeases
import RedroidExt.Dhcp.Segment

/-!
# Several clients on one segment

The server leases an address to one hardware address, and an ACK says whose it is.
A client does not look: it takes any ACK with its transaction id, and all processes
count these up from one. As long as each client only accepts ACKs for itself, no
two clients are Bound with one address.
-/

namespace RedroidExt.Dhcp

open RedroidExt.Library RedroidExt.Library.ByteMemory

set_option autoImplicit false

/-- Lookups that succeed give what the interface is configured with. -/
structure HostAnswers.Reports (answers : HostAnswers) (config : InterfaceConfig) : Prop where
  address : ∀ call given, answers.interfaceAddress call = .ok given → given = config.address
  netmask : ∀ call given, answers.interfaceNetmask call = .ok given → given = config.netmask

/-- One message keeps the invariant of an interface that reports a fixed configuration. -/
theorem server_step_cursor {config : InterfaceConfig} {interfaceIndex : UInt32}
    {state : ServerRun} {datagram : List UInt8} {arrivedOn : UInt32} {answers : HostAnswers}
    (reported : arrivedOn = interfaceIndex → answers.Reports config)
    (holds : CursorInvariant state.server.tables interfaceIndex config) :
    CursorInvariant (serverStep state (.datagram datagram arrivedOn answers)).2.server.tables
      interfaceIndex config := by
  obtain ⟨⟨calls, made, tables⟩, -⟩ := handle_message_server state.server
    (state.receive datagram) arrivedOn answers
  have after : (serverStep state (.datagram datagram arrivedOn answers)).2.server.tables =
      offerRun state.server.tables calls := tables
  have reports : ∀ call ∈ calls, call.interfaceIndex = interfaceIndex →
      call.Reports fun _ => config := by
    intro call member same
    obtain ⟨count, built⟩ := made call member
    rw [built] at same ⊢
    have given := reported same
    exact ⟨given.address count, given.netmask count⟩
  rw [after]
  exact cursor_invariant_run reports holds

/-- Every ACK that the client accepts in the step repeats its own hardware address. -/
def ClientRun.AcceptsOwnAck (run : ClientRun) (input : ClientInput) : Prop :=
  ∀ msg answers, run.received input = some (msg, answers) →
    DhcpClient.AwaitsAck run.client.mState → msg.type = dhcpAck →
    run.client.accepts msg answers = true → msg.chaddr = run.client.mInterface.mMacAddress

namespace Segment

variable {ι : Type}

def AcceptsOwnAcks (segment : Segment ι) : SegmentLabel ι → Prop
  | .client who turn =>
      ∀ input, segment.input who turn = some input → (segment.clients who).AcceptsOwnAck input
  | .request _ _ => True
  | .elsewhere _ _ _ => True

/-- A check of the condition on a step. -/
def acceptsOwnAcks (segment : Segment ι) : SegmentLabel ι → Bool
  | .client who turn =>
      match segment.input who turn with
      | none => true
      | some input =>
          match (segment.clients who).received input with
          | none => true
          | some (msg, _) => msg.chaddr = (segment.clients who).client.mInterface.mMacAddress
  | .request _ _ => true
  | .elsewhere _ _ _ => true

theorem accepts_own_acks_of_check {segment : Segment ι} {label : SegmentLabel ι}
    (checked : segment.acceptsOwnAcks label = true) : segment.AcceptsOwnAcks label := by
  cases label with
  | client who turn =>
      intro input possible msg answers got _ _ _
      unfold acceptsOwnAcks at checked
      dsimp only at checked
      rw [possible] at checked
      dsimp only at checked
      rw [got] at checked
      exact of_decide_eq_true checked
  | request index answers => trivial
  | elsewhere datagram other answers => trivial

/-- The segment's interface has one address and one netmask; other interfaces may change. -/
def ReportsConfig (config : InterfaceConfig) : SegmentLabel ι → Prop
  | .client _ _ => True
  | .request _ answers => answers.Reports config
  | .elsewhere _ _ _ => True

/-- A Bound client has its lease configured. -/
structure BoundToLease (interfaceIndex : UInt32) (config : InterfaceConfig)
    (macs : ι → MacAddress) (segment : Segment ι) : Prop where
  cursor : CursorInvariant segment.server.server.tables interfaceIndex config
  leased : segment.RepliesLeased interfaceIndex
  identity : ∀ who, (segment.clients who).client.mInterface.mMacAddress = macs who
  bound : ∀ who, (segment.clients who).client.mState = .bound →
    (segment.clients who).client.host.address ≠ 0 ∧
      segment.server.server.tables.mLeases ⟨interfaceIndex, macs who⟩ =
        (segment.clients who).client.host.address

section Steps

variable {interfaceIndex : UInt32} {config : InterfaceConfig} {macs : ι → MacAddress}
variable {segment : Segment ι}

theorem bound_to_lease_started (started : segment.Started macs) :
    segment.BoundToLease interfaceIndex config macs where
  cursor := by
    obtain ⟨excludeInterface, behind, fresh⟩ := started.server
    rw [fresh]
    exact cursor_invariant_empty interfaceIndex config
  leased := by
    intro reply member
    rw [started.replies] at member
    cases member
  identity := fun who => (started.clients who).2
  bound := by
    intro who bound
    rw [(started.clients who).1.mState] at bound
    cases bound

/-- What the server does leaves the clients and their leases alone. -/
theorem bound_to_lease_server (before : segment.BoundToLease interfaceIndex config macs)
    {after : Segment ι} (clients : after.clients = segment.clients)
    (keeps : ∀ lease, segment.server.server.tables.mLeases lease ≠ 0 →
      after.server.server.tables.mLeases lease = segment.server.server.tables.mLeases lease)
    (cursor : CursorInvariant after.server.server.tables interfaceIndex config)
    (leased : after.RepliesLeased interfaceIndex) :
    after.BoundToLease interfaceIndex config macs where
  cursor := cursor
  leased := leased
  identity := by
    rw [clients]
    exact before.identity
  bound := by
    rw [clients]
    intro who bound
    obtain ⟨nonzero, lease⟩ := before.bound who bound
    refine ⟨nonzero, ?_⟩
    rw [keeps _ (by rw [lease]; exact nonzero)]
    exact lease

/-- A client that becomes Bound has accepted an ACK for itself, so for its lease. -/
theorem client_bound (before : segment.BoundToLease interfaceIndex config macs) {who : ι}
    {input : ClientInput} (hears : segment.Hears who input)
    (own : (segment.clients who).AcceptsOwnAck input) {after : ClientRun} {sent : Option Message}
    (stepped : ClientRun.Stepped (segment.clients who) input sent after)
    (bound : after.client.mState = .bound) :
    after.client.host.address ≠ 0 ∧
      segment.server.server.tables.mLeases ⟨interfaceIndex, macs who⟩ =
        after.client.host.address := by
  rcases ClientRun.holds_lease_step stepped (bound ▸ .bound) with
    kept | ⟨msg, answers, acknowledged⟩
  · rw [kept.address]
    exact before.bound who (kept.bound bound)
  · have mine := own msg answers acknowledged.got acknowledged.awaits acknowledged.acknowledges
      (acknowledged.accepted bound)
    obtain ⟨reply, member, type, header⟩ := heard_reply before.leased hears acknowledged.got
    have acknowledges := type.symm.trans acknowledged.acknowledges
    obtain ⟨nonzero, lease⟩ := (before.leased reply member).leased (.inr acknowledges)
    rw [← header.chaddr, mine, before.identity who] at lease
    rw [acknowledged.address, header.yiaddr]
    exact ⟨nonzero, lease⟩

variable [DecidableEq ι]

theorem bound_to_lease_advance (before : segment.BoundToLease interfaceIndex config macs) {who : ι}
    {input : ClientInput} (hears : segment.Hears who input)
    (own : (segment.clients who).AcceptsOwnAck input) :
    (segment.advance who input).BoundToLease interfaceIndex config macs where
  cursor := before.cursor
  leased := before.leased
  identity := by
    intro other
    by_cases same : other = who
    · subst same
      rw [advance_self, ClientRun.mac_address_step (ClientRun.step_stepped _ input)]
      exact before.identity other
    · rw [advance_other segment same]
      exact before.identity other
  bound := by
    intro other bound
    by_cases same : other = who
    · subst same
      rw [advance_self] at bound ⊢
      exact client_bound before hears own (ClientRun.step_stepped _ input) bound
    · rw [advance_other segment same] at bound ⊢
      exact before.bound other bound

theorem bound_to_lease_step (before : segment.BoundToLease interfaceIndex config macs)
    {label : SegmentLabel ι} {after : Segment ι} (reports : ReportsConfig config label)
    (own : segment.AcceptsOwnAcks label) (moved : Moved interfaceIndex segment label after) :
    after.BoundToLease interfaceIndex config macs := by
  have leased := replies_leased_step before.leased moved
  cases moved with
  | stays => exact before
  | @advanced who turn input possible =>
      exact bound_to_lease_advance before (input_hears possible) (own input possible)
  | served present =>
      refine bound_to_lease_server before rfl ?_ ?_ leased
      · exact fun _ held => server_step_keeps _ _ held
      · exact server_step_cursor (fun _ => reports) before.cursor
  | elsewhere different =>
      refine bound_to_lease_server before rfl ?_ ?_ leased
      · exact fun _ held => server_step_keeps _ _ held
      · exact server_step_cursor (fun same => absurd same different) before.cursor

end Steps

variable [DecidableEq ι]

/-- In every run whose clients only accept ACKs for themselves, two clients in Bound have
different addresses. -/
theorem addresses_exclusive (interfaceIndex : UInt32) (config : InterfaceConfig)
    (macs : ι → MacAddress) (distinct : Function.Injective macs) (segment : Segment ι)
    (reached : ((segmentSystem interfaceIndex macs).restrict fun before label =>
      ReportsConfig config label ∧ before.AcceptsOwnAcks label).Reachable segment)
    (first second : ι) (different : first ≠ second)
    (firstBound : (segment.clients first).client.mState = .bound)
    (secondBound : (segment.clients second).client.mState = .bound) :
    (segment.clients first).client.host.address ≠
      (segment.clients second).client.host.address := by
  have holds : segment.BoundToLease interfaceIndex config macs := by
    refine TransitionSystem.reachable_invariant (BoundToLease interfaceIndex config macs) ?_ ?_
      reached
    · exact fun state started => bound_to_lease_started started
    · intro state label after before taken
      have moved := step_moved interfaceIndex state label
      rw [show state.step interfaceIndex label = after from taken.2] at moved
      exact bound_to_lease_step before taken.1.1 taken.1.2 moved
  intro same
  obtain ⟨nonzero, firstLease⟩ := holds.bound first firstBound
  obtain ⟨-, secondLease⟩ := holds.bound second secondBound
  have sameMac : macs first = macs second := by
    apply client_of_lease holds.cursor
    · rw [firstLease]
      exact nonzero
    · rw [firstLease, secondLease]
      exact same
  exact different (distinct sameMac)

/-! ## Two clients -/

/-- 192.168.0.1/24. -/
def homeConfig : InterfaceConfig where
  address := swap32 0xC0A80001
  netmask := swap32 0xFFFFFF00
  contiguous := slash_24_contiguous

theorem home_answers_report : homeAnswers.Reports homeConfig where
  address := fun _ _ same => (Except.ok.inj same).symm
  netmask := fun _ _ same => (Except.ok.inj same).symm

def pairMacs (second : Bool) : MacAddress := fun _ => if second then 3 else 2

theorem pair_macs_distinct : Function.Injective pairMacs := by
  intro left right same
  have bytes := congrFun same 0
  cases left with
  | false =>
      cases right with
      | false => rfl
      | true => exact absurd bytes (by decide)
  | true =>
      cases right with
      | false => exact absurd bytes (by decide)
      | true => rfl

/-- The requests are answered from `homeAnswers`. -/
def AnsweredAtHome (labels : List (SegmentLabel Bool)) : Prop :=
  ∀ label ∈ labels, ReportsConfig homeConfig label

/-- From the start to Bound: the client's DISCOVER is the message `sent`, its OFFER the reply
`replied`. -/
def bindLabels (who : Bool) (sent replied : Nat) : List (SegmentLabel Bool) :=
  [goesOn who, goesOn who, .request sent homeAnswers, getsReply who replied, goesOn who,
    .request (sent + 1) homeAnswers, getsReply who (replied + 1)]

theorem bind_labels_answered (who : Bool) (sent replied : Nat) :
    AnsweredAtHome (bindLabels who sent replied) := by
  simp [AnsweredAtHome, bindLabels, goesOn, getsReply, ReportsConfig, home_answers_report]

/-- Two clients that start one after the other are Bound with two addresses. -/
theorem addresses_exclusive_pair :
    ∃ segment : Segment Bool, (segment.clients false).client.mState = .bound ∧
      (segment.clients true).client.mState = .bound ∧
      (segment.clients false).client.host.address ≠
        (segment.clients true).client.host.address := by
  have reached := TransitionSystem.reachable_of_check
    ((segmentSystem 1 pairMacs).restrict fun before label =>
      ReportsConfig homeConfig label ∧ before.AcceptsOwnAcks label)
    (step 1) acceptsOwnAcks (bindLabels false 0 0 ++ bindLabels true 2 2)
    (by
      intro before label member checked
      refine ⟨⟨?_, accepts_own_acks_of_check checked⟩, rfl⟩
      rcases List.mem_append.mp member with first | second
      · exact bind_labels_answered _ _ _ label first
      · exact bind_labels_answered _ _ _ label second)
    (.start (started_segment_started pairMacs)) (by decide +kernel)
  generalize computed : (bindLabels false 0 0 ++ bindLabels true 2 2).foldl (step 1)
    (startedSegment pairMacs) = segment at reached
  have bound : (segment.clients false).client.mState = .bound ∧
      (segment.clients true).client.mState = .bound := by
    rw [← computed]
    decide +kernel
  obtain ⟨firstBound, secondBound⟩ := bound
  exact ⟨segment, firstBound, secondBound,
    addresses_exclusive 1 homeConfig pairMacs pair_macs_distinct segment reached false true
      (by decide) firstBound secondBound⟩

/-- Both clients discover before the first one is answered. The OFFER and the ACK for it carry
the transaction ids 1 and 2, which are also the second client's. -/
def sharedLabels : List (SegmentLabel Bool) :=
  [goesOn false, goesOn false, goesOn true, goesOn true, .request 0 homeAnswers,
    getsReply false 0, getsReply true 0, goesOn false, goesOn true, .request 2 homeAnswers,
    getsReply false 1, getsReply true 1]

theorem shared_labels_answered : AnsweredAtHome sharedLabels := by
  simp [AnsweredAtHome, sharedLabels, goesOn, getsReply, ReportsConfig, home_answers_report]

/-- Two clients with different hardware addresses are Bound with 192.168.0.2. -/
theorem clients_share_address :
    Function.Injective pairMacs ∧ ∃ segment : Segment Bool,
      ((segmentSystem 1 pairMacs).restrict fun _ label =>
        ReportsConfig homeConfig label).Reachable segment ∧
      (segment.clients false).client.mState = .bound ∧
      (segment.clients true).client.mState = .bound ∧
      (segment.clients false).client.host.address = swap32 0xC0A80002 ∧
      (segment.clients true).client.host.address = swap32 0xC0A80002 := by
  have reached := TransitionSystem.reachable_of_check
    ((segmentSystem 1 pairMacs).restrict fun _ label => ReportsConfig homeConfig label)
    (step 1) (fun _ _ => true) sharedLabels
    (fun _ label member _ => ⟨shared_labels_answered label member, rfl⟩)
    (.start (started_segment_started pairMacs)) rfl
  generalize computed : sharedLabels.foldl (step 1) (startedSegment pairMacs) = segment at reached
  -- one statement, so that the run is evaluated once
  have ends : (segment.clients false).client.mState = .bound ∧
      (segment.clients true).client.mState = .bound ∧
      (segment.clients false).client.host.address = swap32 0xC0A80002 ∧
      (segment.clients true).client.host.address = swap32 0xC0A80002 := by
    rw [← computed]
    decide +kernel
  exact ⟨pair_macs_distinct, segment, reached, ends⟩

end Segment

end RedroidExt.Dhcp
