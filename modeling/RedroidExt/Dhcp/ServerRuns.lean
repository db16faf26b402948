import RedroidExt.Dhcp.Leases
import RedroidExt.Dhcp.Replies

/-!
# What the server sends over a run

Every message costs at most two calls of `getOfferAddress`, and no call changes a
lease that exists. So a reply always carries the lease of the client it answers,
and an address that was offered once is acknowledged from then on.
-/

namespace RedroidExt.Dhcp

open RedroidExt.Library RedroidExt.Library.ByteMemory

set_option autoImplicit false

/-! ## One call -/

section Outcome

variable {tables after : LeaseTables} {interfaceIndex : UInt32} {macAddress : MacAddress}
variable {interfaceAnswer netmaskAnswer : Except String InAddr}
variable {result : Except String OfferAddress}

/-- A lease that exists is never changed. -/
theorem offer_keeps
    (outcome : OfferOutcome tables interfaceIndex macAddress interfaceAnswer netmaskAnswer
      result after)
    {lease : Lease} (held : tables.mLeases lease ≠ 0) :
    after.mLeases lease = tables.mLeases lease := by
  cases outcome with
  | lookupFailed _ => rfl
  | held _ _ _ => rfl
  | fresh _ _ zero _ _ =>
      apply Function.update_of_ne
      intro same
      exact held (same ▸ zero)
  | exhausted _ _ _ _ _ => rfl

/-- A successful call returns the lease that the tables hold afterwards. -/
theorem offer_result
    (outcome : OfferOutcome tables interfaceIndex macAddress interfaceAnswer netmaskAnswer
      result after)
    {offer : OfferAddress} (succeeded : result = .ok offer) :
    offer.address = after.mLeases ⟨interfaceIndex, macAddress⟩ ∧
      after.mLeases ⟨interfaceIndex, macAddress⟩ ≠ 0 := by
  cases outcome with
  | lookupFailed _ => cases succeeded
  | held _ _ nonzero =>
      cases succeeded
      exact ⟨rfl, nonzero⟩
  | fresh _ _ _ _ inRange =>
      cases succeeded
      dsimp only
      rw [Function.update_self]
      exact ⟨rfl, in_range_ne_zero inRange⟩
  | exhausted _ _ _ _ _ => cases succeeded

end Outcome

/-- A client with a lease gets it back, and nothing changes. -/
theorem get_offer_address_held {tables : LeaseTables} {interfaceIndex : UInt32}
    {macAddress : MacAddress} {interfaceAnswer netmaskAnswer : Except String InAddr}
    {interfaceAddress mask : InAddr} (addressGiven : interfaceAnswer = .ok interfaceAddress)
    (maskGiven : netmaskAnswer = .ok mask)
    (held : tables.mLeases ⟨interfaceIndex, macAddress⟩ ≠ 0) :
    getOfferAddress tables interfaceIndex macAddress interfaceAnswer netmaskAnswer =
      (.ok ⟨tables.mLeases ⟨interfaceIndex, macAddress⟩, mask, interfaceAddress⟩, tables) := by
  subst addressGiven maskGiven
  unfold getOfferAddress
  dsimp only
  rw [if_neg held]

theorem apply_keeps (tables : LeaseTables) (call : OfferCall) {lease : Lease}
    (held : tables.mLeases lease ≠ 0) :
    (call.apply tables).mLeases lease = tables.mLeases lease :=
  offer_keeps (get_offer_address_outcome _ _ _ _ _) held

theorem offer_run_keeps (tables : LeaseTables) (calls : List OfferCall) {lease : Lease}
    (held : tables.mLeases lease ≠ 0) :
    (offerRun tables calls).mLeases lease = tables.mLeases lease := by
  induction calls generalizing tables with
  | nil => rfl
  | cons call rest ih =>
      have kept := apply_keeps tables call held
      exact (ih (call.apply tables) (by rw [kept]; exact held)).trans kept

/-! ## Handling one message -/

/-- The call of `getOfferAddress` made with the n-th answers of the system. -/
def HostAnswers.offerCall (answers : HostAnswers) (interfaceIndex : UInt32) (message : Message)
    (call : Nat) : OfferCall where
  interfaceIndex := interfaceIndex
  macAddress := message.chaddr
  interfaceAnswer := answers.interfaceAddress call
  netmaskAnswer := answers.interfaceNetmask call

structure HostAnswers.Succeed (answers : HostAnswers) : Prop where
  address : ∀ call, ∃ given, answers.interfaceAddress call = .ok given
  netmask : ∀ call, ∃ given, answers.interfaceNetmask call = .ok given

/-- `reply` is the OFFER or the ACK of `address` to the sender of `message`. -/
inductive GrantedAs (type : UInt8) (message : Message) (address : InAddr) : Message → Prop
  | built (serverAddress netmask gateway : InAddr) (servers : Message.DnsServers)
      (transactionId : UInt32) :
      GrantedAs type message address
        (message.grant type serverAddress address netmask gateway servers.val transactionId)

/-- What a receiver reads of such a reply. -/
structure GrantFields (type : UInt8) (message : Message) (address : InAddr) (reply : Message) :
    Prop where
  type : reply.type = type
  yiaddr : reply.yiaddr = address
  chaddr : reply.chaddr = message.chaddr
  xid : reply.xid = message.xid
  sized : 240 ≤ reply.mSize ∧ reply.mSize ≤ Message.capacity

theorem granted_fields {type : UInt8} {message reply : Message} {address : InAddr}
    (granted : GrantedAs type message address reply) : GrantFields type message address reply := by
  cases granted with
  | built serverAddress netmask gateway servers transactionId =>
      constructor
      · exact Message.grant_type _ _ _ _ _ _ _ _
      · exact Message.grant_yiaddr _ _ _ _ _ _ _ _
      · exact Message.grant_chaddr _ _ _ _ _ _ _ _
      · exact Message.grant_xid _ _ _ _ _ _ _ _
      · have short := servers.property
        rw [Message.grant_size]
        unfold Message.capacity
        constructor
        · omega
        · omega

theorem update_dns_servers_length (answers : HostAnswers) :
    (updateDnsServers answers).length ≤ kMaxDnsServers := by
  have bound := List.length_filterMap_le (fun index =>
    let value := answers.property ("net.eth0.dns" ++ toString (index + 1))
    if value.length > 0 then answers.inetPton value else none) (List.range kMaxDnsServers)
  rw [List.length_range] at bound
  exact bound

section Handling

variable (server : DhcpServer) (message : Message) (interfaceIndex : UInt32)
variable (answers : HostAnswers)

theorem send_grant_server (type : UInt8) (calls : Nat) :
    (sendGrant server type message interfaceIndex answers calls).2.tables =
        (answers.offerCall interfaceIndex message calls).apply server.tables ∧
      (sendGrant server type message interfaceIndex answers calls).2.mExcludeInterface =
        server.mExcludeInterface := by
  unfold sendGrant OfferCall.apply HostAnswers.offerCall
  dsimp only
  cases (getOfferAddress server.tables interfaceIndex message.chaddr
    (answers.interfaceAddress calls) (answers.interfaceNetmask calls)).1 with
  | error text => exact ⟨rfl, rfl⟩
  | ok offer =>
      dsimp only
      cases answers.interfaceAddress (calls + 1) with
      | error text => exact ⟨rfl, rfl⟩
      | ok serverAddress => exact ⟨rfl, rfl⟩

/-- The DNS servers that a reply names; `addOption` takes no more than 63 of them. -/
def HostAnswers.dnsServers (answers : HostAnswers) : Message.DnsServers :=
  ⟨updateDnsServers answers, Nat.le_trans (update_dns_servers_length answers) (by decide)⟩

/-- A reply is built from an offer and from the server's own address. -/
theorem send_grant_sent {type : UInt8} {calls : Nat} {reply : Message}
    (sent : (sendGrant server type message interfaceIndex answers calls).1 = some reply) :
    ∃ offer serverAddress,
      (getOfferAddress server.tables interfaceIndex message.chaddr
        (answers.interfaceAddress calls) (answers.interfaceNetmask calls)).1 = .ok offer ∧
      reply = message.grant type serverAddress offer.address offer.netmask offer.gateway
        answers.dnsServers.val server.sNextTransactionId := by
  unfold sendGrant at sent
  dsimp only at sent
  cases result : (getOfferAddress server.tables interfaceIndex message.chaddr
      (answers.interfaceAddress calls) (answers.interfaceNetmask calls)).1 with
  | error text => simp [result] at sent
  | ok offer =>
      rw [result] at sent
      dsimp only at sent
      cases answer : answers.interfaceAddress (calls + 1) with
      | error text => simp [answer] at sent
      | ok serverAddress =>
          rw [answer] at sent
          exact ⟨offer, serverAddress, rfl, (Option.some.inj sent).symm⟩

theorem send_grant_reply {type : UInt8} {calls : Nat} {reply : Message}
    (sent : (sendGrant server type message interfaceIndex answers calls).1 = some reply) :
    (sendGrant server type message interfaceIndex answers calls).2.tables.mLeases
        ⟨interfaceIndex, message.chaddr⟩ ≠ 0 ∧
      GrantedAs type message
        ((sendGrant server type message interfaceIndex answers calls).2.tables.mLeases
          ⟨interfaceIndex, message.chaddr⟩) reply := by
  obtain ⟨offer, serverAddress, result, built⟩ :=
    send_grant_sent server message interfaceIndex answers sent
  have outcome := get_offer_address_outcome server.tables interfaceIndex message.chaddr
    (answers.interfaceAddress calls) (answers.interfaceNetmask calls)
  obtain ⟨lease, nonzero⟩ := offer_result outcome result
  have address : ((answers.offerCall interfaceIndex message calls).apply
      server.tables).mLeases ⟨interfaceIndex, message.chaddr⟩ = offer.address :=
    lease.symm
  rw [(send_grant_server server message interfaceIndex answers type calls).1]
  refine ⟨nonzero, ?_⟩
  rw [address, built]
  exact .built serverAddress offer.netmask offer.gateway answers.dnsServers
    server.sNextTransactionId

/-- A client with a lease is always answered when the lookups succeed. -/
theorem send_grant_held (succeed : answers.Succeed) (type : UInt8) (calls : Nat)
    (held : server.tables.mLeases ⟨interfaceIndex, message.chaddr⟩ ≠ 0) :
    ∃ reply, (sendGrant server type message interfaceIndex answers calls).1 = some reply := by
  obtain ⟨address, addressGiven⟩ := succeed.address calls
  obtain ⟨netmask, netmaskGiven⟩ := succeed.netmask calls
  obtain ⟨serverAddress, serverGiven⟩ := succeed.address (calls + 1)
  unfold sendGrant
  dsimp only
  rw [get_offer_address_held addressGiven netmaskGiven held, serverGiven]
  exact ⟨_, rfl⟩

/-- The messages that `run` answers. -/
structure Served : Prop where
  known : interfaceIndex ≠ 0
  wanted : server.mExcludeInterface ≠ interfaceIndex
  valid : message.isValidDhcpMessage opBootRequest = true

/-- Everything the handling of one message can do. -/
inductive Handled : Option Message → DhcpServer → Prop
  | dropped : Handled none server
  | discover (served : Served server message interfaceIndex)
      (discovers : message.type = dhcpDiscover) :
      Handled (sendDhcpOffer server message interfaceIndex answers).1
        (sendDhcpOffer server message interfaceIndex answers).2
  | acknowledge {checked : DhcpServer} (served : Served server message interfaceIndex)
      (requests : message.type = dhcpRequest)
      (accepted : isValidDhcpRequest server message interfaceIndex answers = (true, checked)) :
      Handled (sendAck checked message interfaceIndex answers 1).1
        (sendAck checked message interfaceIndex answers 1).2
  | refuse {checked : DhcpServer} (served : Served server message interfaceIndex)
      (requests : message.type = dhcpRequest)
      (denied : isValidDhcpRequest server message interfaceIndex answers = (false, checked)) :
      Handled (sendNack checked message answers 1).1 (sendNack checked message answers 1).2

theorem handle_message_handled :
    Handled server message interfaceIndex answers
      (handleMessage server message interfaceIndex answers).1
      (handleMessage server message interfaceIndex answers).2 := by
  unfold handleMessage
  by_cases unwanted : interfaceIndex = 0 ∨ server.mExcludeInterface = interfaceIndex
  · rw [if_pos unwanted]
    exact .dropped
  · rw [if_neg unwanted]
    obtain ⟨known, wanted⟩ := not_or.mp unwanted
    by_cases valid : message.isValidDhcpMessage opBootRequest = true
    · rw [if_neg (not_not.mpr valid)]
      have served : Served server message interfaceIndex := ⟨known, wanted, valid⟩
      by_cases discovers : message.type = dhcpDiscover
      · rw [if_pos discovers]
        exact .discover served discovers
      · rw [if_neg discovers]
        by_cases requests : message.type = dhcpRequest
        · rw [if_pos requests]
          dsimp only
          cases verdict : isValidDhcpRequest server message interfaceIndex answers with
          | mk accepted checked =>
              cases accepted with
              | true => exact .acknowledge served requests verdict
              | false => exact .refuse served requests verdict
        · rw [if_neg requests]
          exact .dropped
    · rw [if_pos valid]
      exact .dropped

theorem is_valid_dhcp_request_server :
    (isValidDhcpRequest server message interfaceIndex answers).2.tables =
        (answers.offerCall interfaceIndex message 0).apply server.tables ∧
      (isValidDhcpRequest server message interfaceIndex answers).2.mExcludeInterface =
        server.mExcludeInterface := by
  unfold isValidDhcpRequest OfferCall.apply HostAnswers.offerCall
  dsimp only
  cases (getOfferAddress server.tables interfaceIndex message.chaddr
    (answers.interfaceAddress 0) (answers.interfaceNetmask 0)).1 with
  | error text => exact ⟨rfl, rfl⟩
  | ok offer =>
      dsimp only
      split_ifs
      · exact ⟨rfl, rfl⟩
      · exact ⟨rfl, rfl⟩

/-- A request is accepted when it asks for the client's lease. -/
theorem is_valid_dhcp_request_accepts
    (accepted : (isValidDhcpRequest server message interfaceIndex answers).1 = true) :
    (isValidDhcpRequest server message interfaceIndex answers).2.tables.mLeases
        ⟨interfaceIndex, message.chaddr⟩ = message.requestedIp ∧
      message.requestedIp ≠ 0 := by
  rw [(is_valid_dhcp_request_server server message interfaceIndex answers).1]
  have outcome := get_offer_address_outcome server.tables interfaceIndex message.chaddr
    (answers.interfaceAddress 0) (answers.interfaceNetmask 0)
  unfold isValidDhcpRequest at accepted
  dsimp only at accepted
  cases result : (getOfferAddress server.tables interfaceIndex message.chaddr
      (answers.interfaceAddress 0) (answers.interfaceNetmask 0)).1 with
  | error text => simp [result] at accepted
  | ok offer =>
      obtain ⟨lease, nonzero⟩ := offer_result outcome result
      rw [result] at accepted
      dsimp only at accepted
      by_cases different : message.requestedIp ≠ offer.address
      · simp [different] at accepted
      · have same : message.requestedIp = offer.address := not_not.mp different
        rw [same, lease]
        exact ⟨rfl, nonzero⟩

theorem is_valid_dhcp_request_held (succeed : answers.Succeed)
    (held : server.tables.mLeases ⟨interfaceIndex, message.chaddr⟩ ≠ 0)
    (requested : message.requestedIp = server.tables.mLeases ⟨interfaceIndex, message.chaddr⟩) :
    isValidDhcpRequest server message interfaceIndex answers = (true, server) := by
  obtain ⟨address, addressGiven⟩ := succeed.address 0
  obtain ⟨netmask, netmaskGiven⟩ := succeed.netmask 0
  unfold isValidDhcpRequest
  dsimp only
  rw [get_offer_address_held addressGiven netmaskGiven held]
  exact if_neg (not_not.mpr requested)

theorem send_nack_server (calls : Nat) :
    (sendNack server message answers calls).2.tables = server.tables ∧
      (sendNack server message answers calls).2.mExcludeInterface = server.mExcludeInterface := by
  unfold sendNack
  cases answers.interfaceAddress calls with
  | error text => exact ⟨rfl, rfl⟩
  | ok serverAddress => exact ⟨rfl, rfl⟩

theorem send_nack_reply {calls : Nat} {reply : Message}
    (sent : (sendNack server message answers calls).1 = some reply) :
    ∃ serverAddress transactionId, reply = message.nack serverAddress transactionId := by
  unfold sendNack at sent
  cases answer : answers.interfaceAddress calls with
  | error text => simp [answer] at sent
  | ok serverAddress =>
      rw [answer] at sent
      exact ⟨serverAddress, _, (Option.some.inj sent).symm⟩

/-- What one message does to the tables: calls of `getOfferAddress` for its sender. -/
theorem handle_message_server :
    (∃ calls, (∀ call ∈ calls, ∃ count, call = answers.offerCall interfaceIndex message count) ∧
      (handleMessage server message interfaceIndex answers).2.tables =
        offerRun server.tables calls) ∧
      (handleMessage server message interfaceIndex answers).2.mExcludeInterface =
        server.mExcludeInterface := by
  have handled := handle_message_handled server message interfaceIndex answers
  obtain ⟨checkedTables, checkedExclude⟩ :=
    is_valid_dhcp_request_server server message interfaceIndex answers
  generalize handleMessage server message interfaceIndex answers = result at handled ⊢
  rcases result with ⟨reply, after⟩
  cases handled with
  | dropped => exact ⟨⟨[], by simp, rfl⟩, rfl⟩
  | discover served discovers =>
      obtain ⟨tables, exclude⟩ := send_grant_server server message interfaceIndex answers dhcpOffer 0
      refine ⟨⟨[answers.offerCall interfaceIndex message 0], ?_, tables⟩, exclude⟩
      intro call member
      exact ⟨0, List.mem_singleton.mp member⟩
  | @acknowledge checked served requests accepted =>
      rw [accepted] at checkedTables checkedExclude
      dsimp only at checkedTables checkedExclude
      obtain ⟨tables, exclude⟩ := send_grant_server checked message interfaceIndex answers dhcpAck 1
      refine ⟨⟨[answers.offerCall interfaceIndex message 0,
        answers.offerCall interfaceIndex message 1], ?_, ?_⟩, ?_⟩
      · intro call member
        rcases List.mem_cons.mp member with first | second
        · exact ⟨0, first⟩
        · exact ⟨1, List.mem_singleton.mp second⟩
      · rw [checkedTables] at tables
        exact tables
      · exact exclude.trans checkedExclude
  | @refuse checked served requests denied =>
      rw [denied] at checkedTables checkedExclude
      dsimp only at checkedTables checkedExclude
      obtain ⟨tables, exclude⟩ := send_nack_server checked message answers 1
      refine ⟨⟨[answers.offerCall interfaceIndex message 0], ?_, ?_⟩, ?_⟩
      · intro call member
        exact ⟨0, List.mem_singleton.mp member⟩
      · exact tables.trans checkedTables
      · exact exclude.trans checkedExclude

/-- What a reply to `message` is, given the leases after the step. -/
inductive Replied (after : DhcpServer) (reply : Message) : Prop
  | offer (served : Served server message interfaceIndex) (discovers : message.type = dhcpDiscover)
      (nonzero : after.tables.mLeases ⟨interfaceIndex, message.chaddr⟩ ≠ 0)
      (granted : GrantedAs dhcpOffer message
        (after.tables.mLeases ⟨interfaceIndex, message.chaddr⟩) reply)
  | ack (served : Served server message interfaceIndex) (requests : message.type = dhcpRequest)
      (nonzero : message.requestedIp ≠ 0)
      (lease : after.tables.mLeases ⟨interfaceIndex, message.chaddr⟩ = message.requestedIp)
      (granted : GrantedAs dhcpAck message message.requestedIp reply)
  | nak (served : Served server message interfaceIndex) (requests : message.type = dhcpRequest)
      (denied : (isValidDhcpRequest server message interfaceIndex answers).1 = false)
      (refused : reply.type = dhcpNak)
      (sized : 240 ≤ reply.mSize ∧ reply.mSize ≤ Message.capacity)

theorem handle_message_reply {reply : Message}
    (sent : (handleMessage server message interfaceIndex answers).1 = some reply) :
    Replied server message interfaceIndex answers
      (handleMessage server message interfaceIndex answers).2 reply := by
  have handled := handle_message_handled server message interfaceIndex answers
  have leased := is_valid_dhcp_request_accepts server message interfaceIndex answers
  generalize handleMessage server message interfaceIndex answers = result at handled sent ⊢
  rcases result with ⟨answer, after⟩
  cases handled with
  | dropped => cases sent
  | discover served discovers =>
      obtain ⟨nonzero, granted⟩ := send_grant_reply server message interfaceIndex answers sent
      exact .offer served discovers nonzero granted
  | @acknowledge checked served requests accepted =>
      rw [accepted] at leased
      obtain ⟨lease, nonzero⟩ := leased rfl
      have held : checked.tables.mLeases ⟨interfaceIndex, message.chaddr⟩ ≠ 0 :=
        fun zero => nonzero (lease.symm.trans zero)
      have kept := apply_keeps checked.tables (answers.offerCall interfaceIndex message 1) held
      rw [← (send_grant_server checked message interfaceIndex answers dhcpAck 1).1] at kept
      have granted := (send_grant_reply checked message interfaceIndex answers sent).2
      rw [kept, lease] at granted
      exact .ack served requests nonzero (kept.trans lease) granted
  | @refuse checked served requests denied =>
      obtain ⟨serverAddress, transactionId, built⟩ := send_nack_reply checked message answers sent
      refine .nak served requests (congrArg Prod.fst denied) ?_ ?_
      · rw [built]
        exact Message.nack_type message serverAddress transactionId
      · rw [built, Message.nack_size]
        decide

/-- A request for the client's own lease is acknowledged. -/
theorem handle_message_acknowledges (succeed : answers.Succeed)
    (served : Served server message interfaceIndex) (requests : message.type = dhcpRequest)
    (held : server.tables.mLeases ⟨interfaceIndex, message.chaddr⟩ ≠ 0)
    (requested : message.requestedIp = server.tables.mLeases ⟨interfaceIndex, message.chaddr⟩) :
    ∃ reply, (handleMessage server message interfaceIndex answers).1 = some reply ∧
      GrantedAs dhcpAck message message.requestedIp reply := by
  have accepted := is_valid_dhcp_request_held server message interfaceIndex answers succeed held
    requested
  have other : message.type ≠ dhcpDiscover := by
    rw [requests]
    decide
  have unfolded : handleMessage server message interfaceIndex answers =
      sendAck server message interfaceIndex answers 1 := by
    unfold handleMessage
    rw [if_neg (not_or.mpr ⟨served.known, served.wanted⟩), if_neg (not_not.mpr served.valid),
      if_neg other, if_pos requests, accepted]
    rfl
  obtain ⟨reply, sent⟩ := send_grant_held server message interfaceIndex answers succeed dhcpAck 1 held
  have granted := (send_grant_reply server message interfaceIndex answers sent).2
  rw [(send_grant_server server message interfaceIndex answers dhcpAck 1).1,
    apply_keeps _ _ held, ← requested] at granted
  rw [unfolded]
  exact ⟨reply, sent, granted⟩

end Handling

/-! ## Runs -/

/-- The message object after the next datagram. -/
def ServerRun.receive (state : ServerRun) (datagram : List UInt8) : Message :=
  receiveFromInterface state.message datagram

/-- One event makes calls of `getOfferAddress` and changes nothing else that is read later. -/
theorem server_step_tables (state : ServerRun) (event : ServerEvent) :
    (∃ calls, (serverStep state event).2.server.tables = offerRun state.server.tables calls) ∧
      (serverStep state event).2.server.mExcludeInterface = state.server.mExcludeInterface := by
  cases event with
  | idle => exact ⟨⟨[], rfl⟩, rfl⟩
  | datagram bytes interfaceIndex answers =>
      obtain ⟨⟨calls, -, tables⟩, exclude⟩ := handle_message_server state.server
        (state.receive bytes) interfaceIndex answers
      exact ⟨⟨calls, tables⟩, exclude⟩

theorem server_step_keeps (state : ServerRun) (event : ServerEvent) {lease : Lease}
    (held : state.server.tables.mLeases lease ≠ 0) :
    (serverStep state event).2.server.tables.mLeases lease =
      state.server.tables.mLeases lease := by
  obtain ⟨⟨calls, tables⟩, -⟩ := server_step_tables state event
  rw [tables]
  exact offer_run_keeps _ calls held

/-- Over a run a lease stays what it was, and so does the excluded interface. -/
theorem server_run_keeps (state : ServerRun) (events : List ServerEvent) (lease : Lease)
    (held : state.server.tables.mLeases lease ≠ 0) :
    (serverRun state events).server.tables.mLeases lease = state.server.tables.mLeases lease ∧
      (serverRun state events).server.mExcludeInterface = state.server.mExcludeInterface := by
  induction events generalizing state with
  | nil => exact ⟨rfl, rfl⟩
  | cons event rest ih =>
      have kept := server_step_keeps state event held
      have exclude := (server_step_tables state event).2
      obtain ⟨laterKept, laterExclude⟩ := ih (serverStep state event).2 (by rw [kept]; exact held)
      exact ⟨laterKept.trans kept, laterExclude.trans exclude⟩

/-- After an OFFER or an ACK the address it carries is the client's lease. -/
theorem sent_grant_lease {state : ServerRun} {datagram : List UInt8} {interfaceIndex : UInt32}
    {answers : HostAnswers} {reply : Message}
    (sent : (serverStep state (.datagram datagram interfaceIndex answers)).1 = some reply)
    (grants : reply.type = dhcpOffer ∨ reply.type = dhcpAck) :
    reply.yiaddr ≠ 0 ∧
      (serverStep state (.datagram datagram interfaceIndex answers)).2.server.tables.mLeases
        ⟨interfaceIndex, (state.receive datagram).chaddr⟩ = reply.yiaddr ∧
      Served state.server (state.receive datagram) interfaceIndex := by
  have replied := handle_message_reply state.server (state.receive datagram) interfaceIndex answers
    sent
  cases replied with
  | offer served _ nonzero granted =>
      have address := (granted_fields granted).yiaddr
      rw [address]
      exact ⟨nonzero, rfl, served⟩
  | ack served _ nonzero lease granted =>
      have address := (granted_fields granted).yiaddr
      rw [address]
      exact ⟨nonzero, lease, served⟩
  | nak _ _ _ refused _ =>
      rw [refused] at grants
      exact absurd grants (by decide)

/-- An ACK repeats the address that was asked for. -/
theorem acknowledged_address {state : ServerRun} {datagram : List UInt8} {interfaceIndex : UInt32}
    {answers : HostAnswers} {reply : Message}
    (sent : (serverStep state (.datagram datagram interfaceIndex answers)).1 = some reply)
    (acknowledges : reply.type = dhcpAck) :
    reply.yiaddr = (state.receive datagram).requestedIp ∧ reply.yiaddr ≠ 0 := by
  have replied := handle_message_reply state.server (state.receive datagram) interfaceIndex
    answers sent
  cases replied with
  | offer _ _ _ granted =>
      rw [(granted_fields granted).type] at acknowledges
      exact absurd acknowledges (by decide)
  | ack _ _ nonzero _ granted =>
      have address := (granted_fields granted).yiaddr
      rw [address]
      exact ⟨rfl, nonzero⟩
  | nak _ _ _ refused _ =>
      rw [refused] at acknowledges
      exact absurd acknowledges (by decide)

/-- However the run goes on, the client keeps the lease and the interface is still served. -/
theorem sent_grant_later {state : ServerRun} {datagram : List UInt8} {interfaceIndex : UInt32}
    {answers : HostAnswers} {reply : Message}
    (sent : (serverStep state (.datagram datagram interfaceIndex answers)).1 = some reply)
    (grants : reply.type = dhcpOffer ∨ reply.type = dhcpAck) (between : List ServerEvent)
    {later : ServerRun}
    (reached : later =
      serverRun (serverStep state (.datagram datagram interfaceIndex answers)).2 between) :
    later.server.tables.mLeases ⟨interfaceIndex, (state.receive datagram).chaddr⟩ = reply.yiaddr ∧
      reply.yiaddr ≠ 0 ∧ interfaceIndex ≠ 0 ∧ later.server.mExcludeInterface ≠ interfaceIndex := by
  obtain ⟨nonzero, lease, served⟩ := sent_grant_lease sent grants
  have excluded := (server_step_tables state (.datagram datagram interfaceIndex answers)).2
  obtain ⟨kept, exclude⟩ := server_run_keeps
    (serverStep state (.datagram datagram interfaceIndex answers)).2 between
    ⟨interfaceIndex, (state.receive datagram).chaddr⟩ (by rw [lease]; exact nonzero)
  rw [← reached, lease] at kept
  rw [← reached, excluded] at exclude
  refine ⟨kept, nonzero, served.known, ?_⟩
  rw [exclude]
  exact served.wanted

/-- An ACK repeats the address that was asked for. An address once offered or acknowledged to
a client is the one of every later OFFER and ACK, and a request for it is acknowledged. The
first state is any one, so any that a run has reached. -/
theorem offer_is_promise (state : ServerRun) (datagram : List UInt8) (interfaceIndex : UInt32)
    (answers : HostAnswers) (reply : Message)
    (sent : (serverStep state (.datagram datagram interfaceIndex answers)).1 = some reply) :
    (reply.type = dhcpAck →
      reply.yiaddr = (state.receive datagram).requestedIp ∧ reply.yiaddr ≠ 0) ∧
    (reply.type = dhcpOffer ∨ reply.type = dhcpAck →
      ∀ (between : List ServerEvent) (later : ServerRun),
        later = serverRun (serverStep state (.datagram datagram interfaceIndex answers)).2 between →
        ∀ (next : List UInt8) (nextAnswers : HostAnswers), nextAnswers.Succeed →
          (later.receive next).chaddr = (state.receive datagram).chaddr →
          (∀ second,
            (serverStep later (.datagram next interfaceIndex nextAnswers)).1 = some second →
            second.type = dhcpOffer ∨ second.type = dhcpAck → second.yiaddr = reply.yiaddr) ∧
          ((later.receive next).isValidDhcpMessage opBootRequest = true →
            (later.receive next).type = dhcpRequest →
            (later.receive next).requestedIp = reply.yiaddr →
            ∃ second,
              (serverStep later (.datagram next interfaceIndex nextAnswers)).1 = some second ∧
              second.type = dhcpAck ∧ second.yiaddr = reply.yiaddr)) := by
  constructor
  · exact acknowledged_address sent
  · intro grants between later reached next nextAnswers succeed sameClient
    obtain ⟨lease, nonzero, known, wanted⟩ := sent_grant_later sent grants between reached
    rw [← sameClient] at lease
    have held : later.server.tables.mLeases ⟨interfaceIndex, (later.receive next).chaddr⟩ ≠ 0 := by
      rw [lease]
      exact nonzero
    constructor
    · intro second sentLater grantsLater
      have laterLease := (sent_grant_lease sentLater grantsLater).2.1
      rw [← laterLease, server_step_keeps _ _ held]
      exact lease
    · intro valid requests requested
      obtain ⟨second, sentLater, granted⟩ := handle_message_acknowledges later.server
        (later.receive next) interfaceIndex nextAnswers succeed ⟨known, wanted, valid⟩ requests held
        (requested.trans lease.symm)
      have fields := granted_fields granted
      exact ⟨second, sentLater, fields.type, fields.yiaddr.trans requested⟩

/-- The lookups of a host that always answers 192.168.0.1/24 and has no DNS servers. -/
def homeAnswers : HostAnswers where
  interfaceAddress := fun _ => .ok (swap32 0xC0A80001)
  interfaceNetmask := fun _ => .ok (swap32 0xFFFFFF00)
  property := fun _ => ""
  inetPton := fun _ => none

theorem home_answers_succeed : homeAnswers.Succeed where
  address := fun _ => ⟨_, rfl⟩
  netmask := fun _ => ⟨_, rfl⟩

/-- A client discovers a fresh server and later asks for the address it was offered. -/
theorem offer_is_promise_first_client :
    ∃ offered acknowledged : Message,
      (serverStep (.init 0 (fun _ => 0))
        (.datagram (Message.discover (fun _ => 2) 1).bytes 1 homeAnswers)).1 = some offered ∧
      (serverStep
        (serverStep (.init 0 (fun _ => 0))
          (.datagram (Message.discover (fun _ => 2) 1).bytes 1 homeAnswers)).2
        (.datagram (Message.request (fun _ => 2) (swap32 0xC0A80002) (swap32 0xC0A80001) 2).bytes 1
          homeAnswers)).1 = some acknowledged ∧
      acknowledged.type = dhcpAck ∧ acknowledged.yiaddr = offered.yiaddr := by
  cases sent : (serverStep (.init 0 (fun _ => 0))
      (.datagram (Message.discover (fun _ => 2) 1).bytes 1 homeAnswers)).1 with
  | none =>
      have answered : (serverStep (.init 0 (fun _ => 0))
        (.datagram (Message.discover (fun _ => 2) 1).bytes 1 homeAnswers)).1.isSome := by
        decide +kernel
      simp [sent] at answered
  | some offered =>
      have kind : ((serverStep (.init 0 (fun _ => 0))
        (.datagram (Message.discover (fun _ => 2) 1).bytes 1 homeAnswers)).1.map fun reply =>
          (reply.type, reply.yiaddr)) = some (dhcpOffer, swap32 0xC0A80002) := by
        decide +kernel
      rw [sent] at kind
      obtain ⟨offers, address⟩ := Prod.mk.inj (Option.some.inj kind)
      have promise := (offer_is_promise _ _ 1 homeAnswers offered sent).2 (.inl offers) [] _ rfl
        (Message.request (fun _ => 2) (swap32 0xC0A80002) (swap32 0xC0A80001) 2).bytes homeAnswers
        home_answers_succeed (by decide +kernel)
      obtain ⟨acknowledged, second⟩ := promise.2 (by decide +kernel) (by decide +kernel)
        (by rw [address]; decide +kernel)
      exact ⟨offered, acknowledged, rfl, second⟩

end RedroidExt.Dhcp
