import RedroidExt.Dhcp.AckDecoding
import RedroidExt.Dhcp.LeaseEnd
import RedroidExt.Dhcp.Segment

/-!
# A reply that is heard

A reply of the server to the message that a waiting client sent last passes every
test on its way, and the client reads of it what the server wrote.
-/

namespace RedroidExt.Dhcp

open RedroidExt.Library RedroidExt.Library.ByteMemory

set_option autoImplicit false

/-! ## Reading -/

theorem Message.records_from_agrees {left right : Message} {i : Nat} {records : List Record}
    (same : Message.Agrees left right) (laid : right.RecordsFrom i records) :
    left.RecordsFrom i records where
  held := by
    have size := laid.size
    rw [Message.options_size_eq] at size
    apply holds_at_congr _ laid.held
    intro index _ below
    rw [List.length_append, List.length_singleton] at below
    exact (same.2 index (by rw [same.1]; omega)).symm
  size := (Message.options_size_agrees same).trans laid.size
  noEnd := laid.noEnd

/-- What a client decodes of an ACK that it received is what the server put in. -/
theorem ack_read_agrees {msg : Message} (request : Message)
    (serverAddress offeredAddress netmask gateway : InAddr) (servers : Message.DnsServers)
    (transactionId : UInt32)
    (same : Message.Agrees msg
      (request.ack serverAddress offeredAddress netmask gateway servers.val transactionId)) :
    DhcpClient.readAck msg =
      DhcpClient.readAck
        (request.ack serverAddress offeredAddress netmask gateway servers.val transactionId) := by
  have laid := Message.grant_records dhcpAck request serverAddress offeredAddress netmask gateway
    servers transactionId
  have size := Message.grant_size dhcpAck request serverAddress offeredAddress netmask gateway
    servers transactionId
  have large : 240 ≤ msg.mSize := by
    rw [same.1]
    unfold Message.ack
    rw [size]
    omega
  unfold DhcpClient.readAck
  rw [read_options_of_records (Message.records_from_agrees same laid),
    (Message.same_header_agrees same large).yiaddr]
  unfold Message.ack
  rw [read_options_of_records laid]

/-- An ACK of the server is never turned down for what it says. -/
theorem granted_read {msg message reply : Message} {address : InAddr}
    (granted : GrantedAs dhcpAck message address reply) (same : Message.Agrees msg reply) :
    (DhcpClient.readAck msg).1 = true := by
  cases granted with
  | built serverAddress netmask gateway servers transactionId =>
      rw [ack_read_agrees message serverAddress address netmask gateway servers transactionId same,
        ack_read]

theorem granted_valid {type : UInt8} {message reply : Message} {address : InAddr}
    (granted : GrantedAs type message address reply) :
    reply.isValidDhcpMessage opBootReply = true := by
  cases granted with
  | built serverAddress netmask gateway servers transactionId =>
      rw [Message.grant_is_valid]
      exact decide_eq_true rfl

/-! ## The server's answers -/

/-- A reply to `request` that its sender takes. -/
structure Answer (request : Message) (kind : UInt8) (address : InAddr) (reply : Message) :
    Prop where
  fits : reply.mSize ≤ Message.capacity
  valid : reply.isValidDhcpMessage opBootReply = true
  xid : reply.xid = request.xid
  type : reply.type = kind
  yiaddr : reply.yiaddr = address
  readable : kind = dhcpAck → ∀ msg, Message.Agrees msg reply →
    (DhcpClient.readAck msg).1 = true

section Answers

variable {state : ServerRun} {request : Message} {macAddress : MacAddress}
variable {interfaceIndex : UInt32} {answers : HostAnswers}

theorem answer_of_granted {kind : UInt8} {address : InAddr} {reply : Message}
    (sender : request.FromClient macAddress)
    (granted : GrantedAs kind (state.receive request.bytes) address reply) :
    Answer request kind address reply := by
  have same := received_sent_agrees state.message request sender.fits
  have large := Message.is_valid_size sender.valid
  have fields := granted_fields granted
  constructor
  · exact fields.sized.2
  · exact granted_valid granted
  · exact fields.xid.trans
      (Message.same_header_agrees (Message.agrees_symm same) large).xid.symm
  · exact fields.type
  · exact fields.yiaddr
  · rintro rfl msg agrees
    exact granted_read granted agrees

/-- What the server reads of a message of the client. -/
theorem received_served (state : ServerRun) (sender : request.FromClient macAddress)
    (known : interfaceIndex ≠ 0)
    (wanted : state.server.mExcludeInterface ≠ interfaceIndex) :
    Served state.server (state.receive request.bytes) interfaceIndex ∧
      (state.receive request.bytes).chaddr = macAddress ∧
      (state.receive request.bytes).type = request.type := by
  have same := received_sent_agrees state.message request sender.fits
  have large := Message.is_valid_size sender.valid
  have valid := (Message.is_valid_agrees same opBootRequest).trans sender.valid
  refine ⟨⟨known, wanted, valid⟩, ?_, Message.type_agrees same⟩
  exact (Message.same_header_agrees (Message.agrees_symm same) large).chaddr.symm.trans
    sender.chaddr

/-- A DISCOVER is answered when there is an address for its sender. -/
theorem discover_answered (sender : request.FromClient macAddress)
    (discovers : request.type = dhcpDiscover) (known : interfaceIndex ≠ 0)
    (wanted : state.server.mExcludeInterface ≠ interfaceIndex) (succeed : answers.Succeed)
    (room : ∃ offer, (getOfferAddress state.server.tables interfaceIndex macAddress
      (answers.interfaceAddress 0) (answers.interfaceNetmask 0)).1 = .ok offer) :
    ∃ reply lease,
      (serverStep state (.datagram request.bytes interfaceIndex answers)).1 = some reply ∧
      (serverStep state (.datagram request.bytes interfaceIndex answers)).2.server.tables.mLeases
        ⟨interfaceIndex, macAddress⟩ = lease ∧
      lease ≠ 0 ∧ Answer request dhcpOffer lease reply := by
  rcases received_served state sender known wanted with ⟨served, chaddr, type⟩
  rw [discovers] at type
  rcases room with ⟨offer, offered⟩
  rcases succeed.address 1 with ⟨serverAddress, serverGiven⟩
  rw [← chaddr] at offered
  have handled : handleMessage state.server (state.receive request.bytes) interfaceIndex answers =
      sendDhcpOffer state.server (state.receive request.bytes) interfaceIndex answers := by
    unfold handleMessage
    rw [if_neg (not_or.mpr ⟨served.known, served.wanted⟩), if_neg (not_not.mpr served.valid),
      if_pos type]
  have sent : ∃ reply, (serverStep state (.datagram request.bytes interfaceIndex answers)).1 =
      some reply := by
    change ∃ reply, (handleMessage state.server (state.receive request.bytes) interfaceIndex
      answers).1 = some reply
    rw [handled]
    unfold sendDhcpOffer sendGrant
    dsimp only
    rw [offered, serverGiven]
    exact ⟨_, rfl⟩
  rcases sent with ⟨reply, sent⟩
  have replied := handle_message_reply state.server (state.receive request.bytes) interfaceIndex
    answers sent
  cases replied with
  | offer _ _ nonzero granted =>
      rw [chaddr] at nonzero granted
      exact ⟨reply, _, sent, rfl, nonzero, answer_of_granted sender granted⟩
  | ack _ requests _ _ _ => exact absurd (type.symm.trans requests) (by decide)
  | nak _ requests _ _ _ => exact absurd (type.symm.trans requests) (by decide)

/-- A REQUEST for the sender's lease is acknowledged. -/
theorem request_answered (sender : request.FromClient macAddress)
    (requests : request.type = dhcpRequest) (complete : request.Complete optRequestedIp)
    (known : interfaceIndex ≠ 0) (wanted : state.server.mExcludeInterface ≠ interfaceIndex)
    (succeed : answers.Succeed) (nonzero : request.requestedIp ≠ 0)
    (lease : state.server.tables.mLeases ⟨interfaceIndex, macAddress⟩ = request.requestedIp) :
    ∃ reply,
      (serverStep state (.datagram request.bytes interfaceIndex answers)).1 = some reply ∧
      Answer request dhcpAck request.requestedIp reply := by
  rcases received_served state sender known wanted with ⟨served, chaddr, type⟩
  rw [requests] at type
  have same := received_sent_agrees state.message request sender.fits
  have asked : (state.receive request.bytes).requestedIp = request.requestedIp :=
    (Message.address_option_agrees (Message.agrees_symm same) complete).symm
  rw [← chaddr, ← asked] at lease
  have held : state.server.tables.mLeases
      ⟨interfaceIndex, (state.receive request.bytes).chaddr⟩ ≠ 0 := by
    rw [lease, asked]
    exact nonzero
  rcases handle_message_acknowledges state.server (state.receive request.bytes) interfaceIndex
    answers succeed served type held lease.symm with ⟨reply, sent, granted⟩
  rw [asked] at granted
  exact ⟨reply, sent, answer_of_granted sender granted⟩

end Answers

/-! ## Hearing -/

/-- No call of `configureDhcp` fails. -/
structure KernelAnswers.AllSucceed (answers : KernelAnswers) : Prop where
  interface : answers.InterfaceSucceeds
  gatewayWritten : answers.gatewayWritten = true
  propertyWritten : ∀ property, answers.propertyWritten property = true

namespace DhcpClient

theorem accepts_of_read {client : DhcpClient} {msg : Message} {answers : KernelAnswers}
    (succeed : answers.AllSucceed) (large : 240 ≤ msg.mSize) (read : (readAck msg).1 = true) :
    client.accepts msg answers = true := by
  have options : ¬ msg.optionsSize < 4 := by
    rw [Message.options_size_eq]
    omega
  have configures : client.configuresAddress msg answers = true :=
    decide_eq_true ⟨options, read, configure_interface_succeeds succeed.interface _ _ _⟩
  exact decide_eq_true ⟨configures, fun _ => succeed.gatewayWritten⟩

end DhcpClient

theorem udp_header_length (port : UInt16) : (udpHeader port).length = rawHeaderSize := rfl

theorem udp_header_valid (port : UInt16) (payload : List UInt8) :
    rawHeaderValid port (udpHeader port ++ payload) = true := by
  have read : rawHeaderValid port (udpHeader port ++ payload) =
      decide ((0x45 : UInt8) >>> 4 = ipVersion ∧ (0x45 : UInt8) &&& 15 = ipHeaderWords ∧
        ipProtoUdp = ipProtoUdp ∧
        word16 (UInt8.ofNat (swap16 port).toNat) (UInt8.ofNat ((swap16 port).toNat / 256)) =
          swap16 port) := rfl
  rw [read, word16_bytes]
  exact decide_eq_true ⟨by decide, by decide, rfl, rfl⟩

namespace ClientRun

/-- A waiting client takes a valid reply to the message that it sent last. -/
theorem hears_reply {run : ClientRun} {timeout : UInt32} (waiting : run.phase = .polling timeout)
    {reply : Message} (fits : reply.mSize ≤ Message.capacity)
    (valid : reply.isValidDhcpMessage opBootReply = true)
    (answered : reply.xid = run.client.mLastMsg.xid) (input : ClientInput) {header : RawHeader}
    (accepted : ∀ payload, rawHeaderValid portBootpClient (header.val ++ payload) = true)
    (behind : Memory) (answers : KernelAnswers) :
    run.received (input.hearing header reply behind answers) =
      some (receiveFromInterface (Message.init behind) reply.bytes, answers) := by
  have same := received_sent_agrees (Message.init behind) reply fits
  have large : 240 ≤ (receiveFromInterface (Message.init behind) reply.bytes).mSize := by
    rw [same.1]
    exact Message.is_valid_size valid
  have taken : (receiveFromInterface (Message.init behind) reply.bytes).isValidDhcpMessageXid
      opBootReply run.client.mLastMsg.xid = true := by
    rw [Message.is_valid_xid_iff, Message.is_valid_agrees same,
      (Message.same_header_agrees same large).xid]
    exact ⟨valid, answered⟩
  have read : run.client.receiveDhcpMessage (some (header.val ++ reply.bytes)) behind =
      some (receiveFromInterface (Message.init behind) reply.bytes) := by
    unfold DhcpClient.receiveDhcpMessage
    dsimp only
    rw [receive_raw_udp_payload _ _ header.property, accepted]
    exact if_pos ⟨rfl, taken⟩
  unfold received ClientInput.hearing
  rw [waiting]
  dsimp only
  rw [read]
  rfl

/-- What the poll loop makes of a message that it got. -/
structure Heard (run : ClientRun) (input : ClientInput) (msg : Message) (answers : KernelAnswers)
    (reaction : DhcpClient.Reaction) (after : ClientRun) : Prop where
  reacted : DhcpClient.Reacted run.client msg answers (run.clock + input.first + input.second)
    (run.clock + input.first + input.second + input.third) reaction after.client
  returns : reaction.returns = true → after.phase = .evaluating

theorem step_heard {run : ClientRun} {input : ClientInput} {msg : Message}
    {answers : KernelAnswers} (got : run.received input = some (msg, answers)) :
    (run.step input).1 = none ∧ ∃ reaction, run.Heard input msg answers reaction
      (run.step input).2 := by
  have advanced := step_advanced run input
  generalize (run.step input).1 = sent at advanced ⊢
  generalize (run.step input).2 = after at advanced ⊢
  cases advanced with
  | evaluated ready outcome => exact nomatch (received_evaluating ready input).symm.trans got
  | timedOut waiting nothing => exact nomatch nothing.symm.trans got
  | again waiting nothing woken => exact nomatch nothing.symm.trans got
  | @received timeout waiting other given reaction client gotOther outcome =>
      rcases Prod.mk.inj (Option.some.inj (gotOther.symm.trans got)) with ⟨rfl, rfl⟩
      refine ⟨rfl, reaction, ?_, ?_⟩
      · rw [(run.record_same _ _ _ _).1]
        exact outcome
      · intro returns
        rw [(run.record_same _ _ _ _).2.1]
        exact if_pos returns

/-- The client waits for the answer to the message it sent last. -/
structure Awaits (run : ClientRun) (message : Message) : Prop where
  waiting : ∃ timeout, run.phase = .polling timeout
  last : run.client.mLastMsg = message

/-- The input of a client that gets a reply at once. -/
def hearing (reply : Message) : ClientInput :=
  (stepInput 0 .timeout).hearing ⟨udpHeader portBootpClient, udp_header_length portBootpClient⟩
    reply (fun _ => 0) readyAnswers

theorem hearing_heard {run : ClientRun} {request reply : Message} {kind : UInt8} {address : InAddr}
    (awaits : run.Awaits request) (answer : Answer request kind address reply) :
    run.received (hearing reply) =
      some (receiveFromInterface (Message.init fun _ => 0) reply.bytes, readyAnswers) := by
  rcases awaits.waiting with ⟨timeout, waiting⟩
  apply hears_reply waiting answer.fits answer.valid
  · rw [awaits.last]
    exact answer.xid
  · exact fun payload => udp_header_valid _ payload

/-- The message of an answer, as it arrives. -/
theorem answer_received {request reply : Message} {kind : UInt8} {address : InAddr}
    (answer : Answer request kind address reply) (buffer : Message) :
    (receiveFromInterface buffer reply.bytes).type = kind ∧
      (receiveFromInterface buffer reply.bytes).yiaddr = address ∧
      240 ≤ (receiveFromInterface buffer reply.bytes).mSize := by
  have same := received_sent_agrees buffer reply answer.fits
  have large : 240 ≤ (receiveFromInterface buffer reply.bytes).mSize := by
    rw [same.1]
    exact Message.is_valid_size answer.valid
  refine ⟨(Message.type_agrees same).trans answer.type, ?_, large⟩
  exact (Message.same_header_agrees same large).yiaddr.trans answer.yiaddr

/-- In front of the first request for an address. -/
structure AboutToRequest (run : ClientRun) (address : InAddr) : Prop where
  ready : run.phase = .evaluating
  requesting : run.client.mState = .requesting
  fresh : run.client.mNextTimeout = kNoTimeout
  address : run.client.mRequestAddress = address

theorem takes_offer {run : ClientRun} {request reply : Message} {address : InAddr}
    (awaits : run.Awaits request) (selecting : run.client.mState = .selecting)
    (answer : Answer request dhcpOffer address reply) :
    (run.step (hearing reply)).2.AboutToRequest address ∧
      (run.step (hearing reply)).2.client.host = run.client.host ∧
      (run.step (hearing reply)).2.client.mInterface = run.client.mInterface := by
  rcases answer_received answer (Message.init fun _ => 0) with ⟨type, yiaddr, -⟩
  rcases step_heard (hearing_heard awaits answer) with ⟨-, reaction, heard⟩
  have reacted := heard.reacted
  have returns := heard.returns
  generalize (run.step (hearing reply)).2 = after at reacted returns ⊢
  generalize built : after.client = client at reacted
  cases reacted with
  | ignored noOffer noAnswer => exact absurd type (noOffer selecting)
  | offer state offers =>
      refine ⟨⟨returns rfl, ?_, ?_, ?_⟩, rfl, rfl⟩
      · rw [built]
        rfl
      · rw [built]
        rfl
      · rw [built]
        exact yiaddr
  | accepted state acknowledges accepts read host same => exact nomatch selecting ▸ state
  | turnedDown state acknowledges refuses configured => exact nomatch selecting ▸ state
  | nak state refuses => exact nomatch selecting ▸ state

theorem ready_answers_all_succeed : readyAnswers.AllSucceed where
  interface := ⟨rfl, rfl, rfl, rfl⟩
  gatewayWritten := rfl
  propertyWritten := fun _ => rfl

theorem takes_ack {run : ClientRun} {request reply : Message} {address : InAddr}
    (awaits : run.Awaits request) (requesting : run.client.mState = .requesting)
    (answer : Answer request dhcpAck address reply) :
    (run.step (hearing reply)).2.client.mState = .bound ∧
      (run.step (hearing reply)).2.client.host.address = address := by
  rcases answer_received answer (Message.init fun _ => 0) with ⟨type, yiaddr, large⟩
  rcases step_heard (hearing_heard awaits answer) with ⟨-, reaction, heard⟩
  have read := answer.readable rfl _
    (received_sent_agrees (Message.init fun _ => 0) reply answer.fits)
  have reacted := heard.reacted
  generalize (run.step (hearing reply)).2 = after at reacted ⊢
  generalize receiveFromInterface (Message.init fun _ => 0) reply.bytes = msg
    at type yiaddr large read reacted
  have accepts : run.client.accepts msg readyAnswers = true :=
    DhcpClient.accepts_of_read ready_answers_all_succeed large read
  generalize after.client = client at reacted ⊢
  cases reacted with
  | ignored noOffer noAnswer => exact absurd type (noAnswer (requesting ▸ .requesting)).1
  | offer state offers => exact nomatch requesting.symm.trans state
  | accepted state acknowledges accepted read host same => exact ⟨rfl, same.trans yiaddr⟩
  | turnedDown state acknowledges refuses configured => exact nomatch accepts.symm.trans refuses
  | nak state refuses => exact absurd (type.symm.trans refuses) (by decide)

end ClientRun

end RedroidExt.Dhcp
