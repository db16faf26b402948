import RedroidExt.Dhcp.ClientLeases
import RedroidExt.Dhcp.Segment

/-!
# One client and the server agree

With no other client on the segment every reply is for this client, so every
address that it is offered, asks for and configures is its lease, which never
changes. A request for the lease is never refused.
-/

namespace RedroidExt.Dhcp

open RedroidExt.Library RedroidExt.Library.ByteMemory

set_option autoImplicit false

/-! ## The server's side -/

/-- A message of the client, with its lease as the address a REQUEST asks for. -/
structure AsksLease (tables : LeaseTables) (interfaceIndex : UInt32) (macAddress : MacAddress)
    (request : Message) : Prop where
  sender : request.FromClient macAddress
  leased : request.type = dhcpRequest →
    request.Complete optRequestedIp ∧ request.requestedIp ≠ 0 ∧
      tables.mLeases ⟨interfaceIndex, macAddress⟩ = request.requestedIp

theorem asks_lease_keeps {tables after : LeaseTables} {interfaceIndex : UInt32}
    {macAddress : MacAddress} {request : Message}
    (before : AsksLease tables interfaceIndex macAddress request)
    (keeps : ∀ lease, tables.mLeases lease ≠ 0 → after.mLeases lease = tables.mLeases lease) :
    AsksLease after interfaceIndex macAddress request where
  sender := before.sender
  leased := by
    intro requests
    obtain ⟨complete, nonzero, lease⟩ := before.leased requests
    refine ⟨complete, nonzero, ?_⟩
    rw [keeps _ (by rw [lease]; exact nonzero)]
    exact lease

/-- The only client of a segment gets OFFERs and ACKs. -/
theorem asks_lease_granted {state : ServerRun} {interfaceIndex : UInt32} {macAddress : MacAddress}
    {request reply : Message} {answers : HostAnswers}
    (asks : AsksLease state.server.tables interfaceIndex macAddress request)
    (succeed : answers.Succeed)
    (sent : (serverStep state (.datagram request.bytes interfaceIndex answers)).1 = some reply) :
    reply.chaddr = macAddress ∧ reply.type ≠ dhcpNak := by
  have agrees := received_sent_agrees state.message request asks.sender.fits
  have large := Message.is_valid_size asks.sender.valid
  have sender : (state.receive request.bytes).chaddr = macAddress :=
    (Message.same_header_agrees (Message.agrees_symm agrees) large).chaddr.symm.trans
      asks.sender.chaddr
  have replied := handle_message_reply state.server (state.receive request.bytes) interfaceIndex
    answers sent
  cases replied with
  | offer _ _ _ granted =>
      have fields := granted_fields granted
      refine ⟨fields.chaddr.trans sender, ?_⟩
      rw [fields.type]
      decide
  | ack _ _ _ _ granted =>
      have fields := granted_fields granted
      refine ⟨fields.chaddr.trans sender, ?_⟩
      rw [fields.type]
      decide
  | nak _ requests denied _ _ =>
      obtain ⟨complete, nonzero, lease⟩ :=
        asks.leased ((Message.type_agrees agrees).symm.trans requests)
      have requested : request.requestedIp = (state.receive request.bytes).requestedIp :=
        Message.address_option_agrees (Message.agrees_symm agrees) complete
      rw [← sender, requested] at lease
      rw [requested] at nonzero
      have accepted := is_valid_dhcp_request_held state.server (state.receive request.bytes)
        interfaceIndex answers succeed (by rw [lease]; exact nonzero) lease.symm
      rw [accepted] at denied
      cases denied

/-! ## The client's side -/

/-- What the client asks for and what it has configured is the lease. -/
structure ClientRun.UsesLease (run : ClientRun) (lease : InAddr) : Prop where
  requested : WasOffered run.client.mState →
    run.client.mRequestAddress ≠ 0 ∧ lease = run.client.mRequestAddress
  configured : HoldsLease run.client.mState → run.client.host.address = lease

theorem uses_lease_started {run : ClientRun} (started : run.Started) (lease : InAddr) :
    run.UsesLease lease where
  requested := by
    intro offered
    rw [started.mState] at offered
    exact nomatch offered
  configured := by
    intro holding
    rw [started.mState] at holding
    exact nomatch holding

/-- A step keeps this when the messages that it hears carry the lease. -/
theorem uses_lease_step {run after : ClientRun} {input : ClientInput} {sent : Option Message}
    {lease : InAddr} (before : run.UsesLease lease)
    (heard : ∀ msg answers, run.received input = some (msg, answers) →
      msg.type = dhcpOffer ∨ msg.type = dhcpAck → msg.yiaddr ≠ 0 ∧ lease = msg.yiaddr)
    (stepped : ClientRun.Stepped run input sent after) : after.UsesLease lease := by
  constructor
  · intro offered
    rcases ClientRun.was_offered_step stepped offered with
      ⟨offeredBefore, same⟩ | ⟨msg, answers, got, offers, address⟩
    · rw [same]
      exact before.requested offeredBefore
    · rw [address]
      exact heard msg answers got (.inl offers)
  · intro holding
    rcases ClientRun.holds_lease_step stepped holding with kept | ⟨msg, answers, acknowledged⟩
    · rw [kept.address]
      exact before.configured kept.held
    · rw [acknowledged.address]
      exact (heard msg answers acknowledged.got (.inr acknowledged.acknowledges)).2.symm

/-- The lease may be created by a step of the server: nothing depended on it before. -/
theorem uses_lease_keeps {run : ClientRun} {lease later : InAddr} (before : run.UsesLease lease)
    (keeps : lease ≠ 0 → later = lease) : run.UsesLease later where
  requested := by
    intro offered
    obtain ⟨nonzero, same⟩ := before.requested offered
    rw [keeps (by rw [same]; exact nonzero)]
    exact ⟨nonzero, same⟩
  configured := by
    intro holding
    obtain ⟨nonzero, same⟩ := before.requested (.inr holding)
    rw [keeps (by rw [same]; exact nonzero)]
    exact before.configured holding

theorem sent_asks_lease {run after : ClientRun} {input : ClientInput} {message : Message}
    {tables : LeaseTables} {interfaceIndex : UInt32}
    (uses : run.UsesLease
      (tables.mLeases ⟨interfaceIndex, run.client.mInterface.mMacAddress⟩))
    (stepped : ClientRun.Stepped run input (some message) after) :
    AsksLease tables interfaceIndex run.client.mInterface.mMacAddress message := by
  rcases ClientRun.sent_step stepped with
    ⟨transactionId, built⟩ | ⟨offered, serverAddress, transactionId, built⟩
  · rw [built]
    refine ⟨Message.discover_from_client _ _, ?_⟩
    intro requests
    rw [Message.discover_type] at requests
    exact absurd requests (by decide)
  · obtain ⟨nonzero, lease⟩ := uses.requested offered
    rw [built]
    refine ⟨Message.request_from_client _ _ _ _, ?_⟩
    intro _
    rw [Message.request_requested_ip]
    exact ⟨Message.complete_of_records (Message.request_records _ _ _ _) _, nonzero, lease⟩

/-! ## Both -/

namespace Segment

structure Agreement (interfaceIndex : UInt32) (macAddress : MacAddress) (segment : Segment Unit) :
    Prop where
  identity : (segment.clients ()).client.mInterface.mMacAddress = macAddress
  leased : segment.RepliesLeased interfaceIndex
  replies : ∀ reply ∈ segment.replies, reply.chaddr = macAddress ∧ reply.type ≠ dhcpNak
  requests : ∀ request ∈ segment.requests,
    AsksLease segment.server.server.tables interfaceIndex macAddress request
  client : (segment.clients ()).UsesLease
    (segment.server.server.tables.mLeases ⟨interfaceIndex, macAddress⟩)

/-- Where the server's lookups matter, they succeed. -/
def LookupsSucceed {ι : Type} : SegmentLabel ι → Prop
  | .client _ _ => True
  | .request _ answers => answers.Succeed
  | .elsewhere _ _ _ => True

section Steps

variable {interfaceIndex : UInt32} {macAddress : MacAddress} {segment : Segment Unit}

theorem agreement_advance (before : segment.Agreement interfaceIndex macAddress)
    {input : ClientInput} (hears : segment.Hears () input) :
    (segment.advance () input).Agreement interfaceIndex macAddress := by
  have stepped := ClientRun.step_stepped (segment.clients ()) input
  have after := segment.advance_self () input
  constructor
  · rw [after, ClientRun.mac_address_step stepped]
    exact before.identity
  · exact before.leased
  · exact before.replies
  · intro request member
    rcases mem_sent member with old | new
    · exact before.requests request old
    · rw [new] at stepped
      have uses := before.client
      rw [← before.identity] at uses ⊢
      exact sent_asks_lease uses stepped
  · rw [after]
    refine uses_lease_step before.client ?_ stepped
    intro msg answers got grants
    obtain ⟨reply, member, type, header⟩ := heard_reply before.leased hears got
    rw [type] at grants
    obtain ⟨nonzero, lease⟩ := (before.leased reply member).leased grants
    rw [(before.replies reply member).1] at lease
    rw [header.yiaddr]
    exact ⟨nonzero, lease⟩

/-- A step of the server that leaves the leases alone and refuses nothing. -/
theorem agreement_server (before : segment.Agreement interfaceIndex macAddress)
    {after : Segment Unit} (clients : after.clients = segment.clients)
    (requests : after.requests = segment.requests)
    (keeps : ∀ lease, segment.server.server.tables.mLeases lease ≠ 0 →
      after.server.server.tables.mLeases lease = segment.server.server.tables.mLeases lease)
    (leased : after.RepliesLeased interfaceIndex)
    (replies : ∀ reply ∈ after.replies, reply.chaddr = macAddress ∧ reply.type ≠ dhcpNak) :
    after.Agreement interfaceIndex macAddress where
  identity := by
    rw [clients]
    exact before.identity
  leased := leased
  replies := replies
  requests := by
    rw [requests]
    intro request member
    exact asks_lease_keeps (before.requests request member) keeps
  client := by
    rw [clients]
    exact uses_lease_keeps before.client (keeps _)

theorem agreement_step (before : segment.Agreement interfaceIndex macAddress)
    {label : SegmentLabel Unit} {after : Segment Unit} (succeed : LookupsSucceed label)
    (moved : Moved interfaceIndex segment label after) :
    after.Agreement interfaceIndex macAddress := by
  have leased := replies_leased_step before.leased moved
  cases moved with
  | stays => exact before
  | advanced possible => exact agreement_advance before (input_hears possible)
  | @served index answers request present =>
      refine agreement_server before rfl rfl ?_ leased ?_
      · exact fun _ held => server_step_keeps _ _ held
      intro reply member
      rcases mem_sent member with old | new
      · exact before.replies reply old
      · exact asks_lease_granted (before.requests request present) succeed new
  | elsewhere different =>
      refine agreement_server before rfl rfl ?_ leased before.replies
      exact fun _ held => server_step_keeps _ _ held

end Steps

theorem agreement_started {interfaceIndex : UInt32} {macs : Unit → MacAddress}
    {segment : Segment Unit} (started : segment.Started macs) :
    segment.Agreement interfaceIndex (macs ()) where
  identity := (started.clients ()).2
  leased := by
    intro reply member
    rw [started.replies] at member
    cases member
  replies := by
    intro reply member
    rw [started.replies] at member
    cases member
  requests := by
    intro request member
    rw [started.requests] at member
    cases member
  client := uses_lease_started (started.clients ()).1 _

/-- With one client, and lookups that succeed, the server never sends a NAK, and a client with a
lease has exactly the leased address configured. The kernel may fail any operation. -/
theorem client_server_agree (interfaceIndex : UInt32) (macs : Unit → MacAddress)
    (segment : Segment Unit)
    (reached : ((segmentSystem interfaceIndex macs).restrict fun _ label =>
      LookupsSucceed label).Reachable segment) :
    (∀ reply ∈ segment.replies, reply.type ≠ dhcpNak) ∧
      (HoldsLease (segment.clients ()).client.mState →
        (segment.clients ()).client.host.address ≠ 0 ∧
          (segment.clients ()).client.host.address =
            segment.server.server.tables.mLeases ⟨interfaceIndex, macs ()⟩) := by
  have agreement : segment.Agreement interfaceIndex (macs ()) := by
    refine TransitionSystem.reachable_invariant (Agreement interfaceIndex (macs ())) ?_ ?_ reached
    · exact fun state started => agreement_started started
    · intro state label after before taken
      have moved := step_moved interfaceIndex state label
      rw [show state.step interfaceIndex label = after from taken.2] at moved
      exact agreement_step before taken.1 moved
  constructor
  · exact fun reply member => (agreement.replies reply member).2
  · intro holding
    obtain ⟨nonzero, lease⟩ := agreement.client.requested (.inr holding)
    have address := agreement.client.configured holding
    refine ⟨?_, address⟩
    rw [address, lease]
    exact nonzero

/-- From the start to Bound, without loss. -/
def boundLabels : List (SegmentLabel Unit) :=
  [goesOn (), goesOn (), .request 0 homeAnswers, getsReply () 0, goesOn (), .request 1 homeAnswers,
    getsReply () 1]

theorem bound_labels_succeed : ∀ label ∈ boundLabels, LookupsSucceed label := by
  simp [boundLabels, goesOn, getsReply, LookupsSucceed, home_answers_succeed]

/-- The client is Bound with the address that the server leased to it. -/
theorem client_server_agree_bound :
    ∃ segment : Segment Unit, (segment.clients ()).client.mState = .bound ∧
      segment.replies.length = 2 ∧ (∀ reply ∈ segment.replies, reply.type ≠ dhcpNak) ∧
      (segment.clients ()).client.host.address =
        segment.server.server.tables.mLeases ⟨1, fun _ => 2⟩ := by
  have reached := TransitionSystem.reachable_of_check
    ((segmentSystem 1 fun _ : Unit => fun _ => 2).restrict fun _ label => LookupsSucceed label)
    (step 1) (fun _ _ => true) boundLabels
    (fun _ label member _ => ⟨bound_labels_succeed label member, rfl⟩)
    (.start (started_segment_started fun _ => fun _ => 2)) rfl
  generalize computed : boundLabels.foldl (step 1) (startedSegment fun _ => fun _ => 2) = segment
    at reached
  have state : (segment.clients ()).client.mState = .bound := by
    rw [← computed]
    decide +kernel
  have sent : segment.replies.length = 2 := by
    rw [← computed]
    decide +kernel
  obtain ⟨noNak, agrees⟩ := client_server_agree 1 (fun _ => fun _ => 2) segment reached
  exact ⟨segment, state, sent, noNak, (agrees (state ▸ .bound)).2⟩

end Segment

end RedroidExt.Dhcp
