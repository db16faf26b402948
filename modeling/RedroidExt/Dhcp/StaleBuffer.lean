import RedroidExt.Dhcp.ServerRuns

/-!
# The buffer that datagrams share

`run` receives every datagram into one message object. The reaction depends on
the new datagram alone unless it is a request whose requested address is cut off
by the end of the datagram: then the missing bytes come from an earlier one.
-/

namespace RedroidExt.Dhcp

open RedroidExt.Library RedroidExt.Library.ByteMemory

set_option autoImplicit false

/-! ## Servers with the same tables -/

structure SameTables (left right : DhcpServer) : Prop where
  tables : left.tables = right.tables
  exclude : left.mExcludeInterface = right.mExcludeInterface

section Congruence

variable {left right : DhcpServer} {leftMessage rightMessage : Message}
variable (same : SameTables left right) (client : Message.SameClient leftMessage rightMessage)
variable (interfaceIndex : UInt32) (answers : HostAnswers)

include same client

theorem send_grant_congr (type : UInt8) (calls : Nat) :
    (sendGrant left type leftMessage interfaceIndex answers calls).1 =
        (sendGrant right type rightMessage interfaceIndex answers calls).1 ∧
      (sendGrant left type leftMessage interfaceIndex answers calls).2.tables =
        (sendGrant right type rightMessage interfaceIndex answers calls).2.tables := by
  unfold sendGrant
  dsimp only
  rw [same.tables, client.chaddr]
  cases (getOfferAddress right.tables interfaceIndex rightMessage.chaddr
    (answers.interfaceAddress calls) (answers.interfaceNetmask calls)).1 with
  | error text => exact ⟨rfl, rfl⟩
  | ok offer =>
      dsimp only
      cases answers.interfaceAddress (calls + 1) with
      | error text => exact ⟨rfl, rfl⟩
      | ok serverAddress =>
          exact ⟨congrArg some (Message.grant_congr client _ _ _ _ _ _ _ _), rfl⟩

theorem send_nack_congr (calls : Nat) :
    (sendNack left leftMessage answers calls).1 = (sendNack right rightMessage answers calls).1 ∧
      (sendNack left leftMessage answers calls).2.tables =
        (sendNack right rightMessage answers calls).2.tables := by
  unfold sendNack
  cases answers.interfaceAddress calls with
  | error text => exact ⟨rfl, same.tables⟩
  | ok serverAddress => exact ⟨congrArg some (Message.nack_congr client _ _ _), same.tables⟩

theorem is_valid_dhcp_request_congr
    (requested : leftMessage.requestedIp = rightMessage.requestedIp) :
    (isValidDhcpRequest left leftMessage interfaceIndex answers).1 =
        (isValidDhcpRequest right rightMessage interfaceIndex answers).1 ∧
      SameTables (isValidDhcpRequest left leftMessage interfaceIndex answers).2
        (isValidDhcpRequest right rightMessage interfaceIndex answers).2 := by
  unfold isValidDhcpRequest
  dsimp only
  rw [same.tables, client.chaddr, requested]
  cases (getOfferAddress right.tables interfaceIndex rightMessage.chaddr
    (answers.interfaceAddress 0) (answers.interfaceNetmask 0)).1 with
  | error text => exact ⟨rfl, rfl, same.exclude⟩
  | ok offer =>
      dsimp only
      split_ifs
      · exact ⟨rfl, rfl, same.exclude⟩
      · exact ⟨rfl, rfl, same.exclude⟩

end Congruence

/-- Two servers with the same tables treat two buffers with the same message alike, if a
request's address reads the same from both. -/
theorem handle_message_congr {left right : DhcpServer} {leftMessage rightMessage : Message}
    (same : SameTables left right) (agrees : Message.Agrees leftMessage rightMessage)
    (requested : leftMessage.isValidDhcpMessage opBootRequest = true →
      leftMessage.type = dhcpRequest → leftMessage.requestedIp = rightMessage.requestedIp)
    (interfaceIndex : UInt32) (answers : HostAnswers) :
    (handleMessage left leftMessage interfaceIndex answers).1 =
        (handleMessage right rightMessage interfaceIndex answers).1 ∧
      (handleMessage left leftMessage interfaceIndex answers).2.tables =
        (handleMessage right rightMessage interfaceIndex answers).2.tables := by
  unfold handleMessage
  rw [← same.exclude, ← Message.is_valid_agrees agrees, ← Message.type_agrees agrees]
  by_cases unwanted : interfaceIndex = 0 ∨ left.mExcludeInterface = interfaceIndex
  · rw [if_pos unwanted, if_pos unwanted]
    exact ⟨rfl, same.tables⟩
  · rw [if_neg unwanted, if_neg unwanted]
    by_cases valid : leftMessage.isValidDhcpMessage opBootRequest = true
    · rw [if_neg (not_not.mpr valid), if_neg (not_not.mpr valid)]
      have client := Message.same_client_of_header
        (Message.same_header_agrees agrees (Message.is_valid_size valid))
      by_cases discovers : leftMessage.type = dhcpDiscover
      · rw [if_pos discovers, if_pos discovers]
        exact send_grant_congr same client interfaceIndex answers dhcpOffer 0
      · rw [if_neg discovers, if_neg discovers]
        by_cases requests : leftMessage.type = dhcpRequest
        · rw [if_pos requests, if_pos requests]
          dsimp only
          obtain ⟨verdict, checked⟩ := is_valid_dhcp_request_congr same client interfaceIndex
            answers (requested valid requests)
          rw [verdict]
          split_ifs
          · exact send_grant_congr checked client interfaceIndex answers dhcpAck 1
          · exact send_nack_congr checked client answers 1
        · rw [if_neg requests, if_neg requests]
          exact ⟨rfl, same.tables⟩
    · rw [if_pos valid, if_pos valid]
      exact ⟨rfl, same.tables⟩

/-! ## Where the reaction is a function of the datagram -/

/-- Any two runs with the same tables answer the datagram with the same reply and end with
the same tables. -/
def ReactsAlike (datagram : List UInt8) : Prop :=
  ∀ (excludeInterface : UInt32) (leftBehind rightBehind : Memory)
    (leftBefore rightBefore : List ServerEvent) (left right : ServerRun),
    left = serverRun (.init excludeInterface leftBehind) leftBefore →
    right = serverRun (.init excludeInterface rightBehind) rightBefore →
    left.server.tables = right.server.tables →
    ∀ (interfaceIndex : UInt32) (answers : HostAnswers),
      (serverStep left (.datagram datagram interfaceIndex answers)).1 =
          (serverStep right (.datagram datagram interfaceIndex answers)).1 ∧
        (serverStep left (.datagram datagram interfaceIndex answers)).2.server.tables =
          (serverStep right (.datagram datagram interfaceIndex answers)).2.server.tables

/-- The datagram in a cleared buffer, which shows what is read of it alone. -/
def datagramMessage (datagram : List UInt8) : Message :=
  receiveFromInterface (.init fun _ => 0) datagram

/-- A request with a four-byte requested address of which the datagram has only a part. -/
structure CutRequest (datagram : List UInt8) : Prop where
  valid : (datagramMessage datagram).isValidDhcpMessage opBootRequest = true
  requests : (datagramMessage datagram).type = dhcpRequest
  cut : ¬ (datagramMessage datagram).Complete optRequestedIp

theorem server_run_exclude (state : ServerRun) (events : List ServerEvent) :
    (serverRun state events).server.mExcludeInterface = state.server.mExcludeInterface := by
  induction events generalizing state with
  | nil => rfl
  | cons event rest ih => exact (ih _).trans (server_step_tables state event).2

theorem reacts_alike_of_complete {datagram : List UInt8} (whole : ¬ CutRequest datagram) :
    ReactsAlike datagram := by
  intro excludeInterface leftBehind rightBehind leftBefore rightBefore left right leftRun rightRun
    tables interfaceIndex answers
  have exclude : left.server.mExcludeInterface = right.server.mExcludeInterface := by
    rw [leftRun, rightRun, server_run_exclude, server_run_exclude]
    rfl
  have agrees := received_agrees left.message right.message datagram
  have alone := received_agrees left.message (.init fun _ => 0) datagram
  refine handle_message_congr ⟨tables, exclude⟩ agrees ?_ interfaceIndex answers
  intro valid requests
  have complete : (receiveFromInterface left.message datagram).Complete optRequestedIp := by
    intro opt found
    rw [Message.options_size_agrees alone]
    rw [Message.is_valid_agrees alone] at valid
    rw [Message.type_agrees alone] at requests
    rw [Message.get_option_agrees alone] at found
    by_cases inside : opt + 4 ≤ (datagramMessage datagram).optionsSize
    · exact inside
    · exact absurd ⟨valid, requests, fun complete => inside (complete opt found)⟩ whole
  exact Message.address_option_agrees agrees complete

/-! ## Where it is not -/

/-- A run that received nothing but a datagram without a known interface, which it drops. -/
def staleRun (stale : Memory) : ServerRun :=
  serverRun (.init 0 stale) [.datagram (load stale 0 Message.capacity) 0 homeAnswers]

theorem handle_unwanted (server : DhcpServer) {interfaceIndex : UInt32}
    (unwanted : interfaceIndex = 0 ∨ server.mExcludeInterface = interfaceIndex)
    (message : Message) (answers : HostAnswers) :
    handleMessage server message interfaceIndex answers = (none, server) :=
  if_pos unwanted

theorem stale_run_server (stale : Memory) :
    (staleRun stale).server = (ServerRun.init 0 stale).server :=
  congrArg Prod.snd (handle_unwanted (ServerRun.init 0 stale).server (.inl rfl)
    (receiveFromInterface (.init stale) (load stale 0 Message.capacity)) homeAnswers)

theorem stale_run_message (stale : Memory) :
    (staleRun stale).message =
      receiveFromInterface (.init stale) (load stale 0 Message.capacity) := rfl

theorem stale_run_memory (stale : Memory) : (staleRun stale).message.dhcpData = stale := by
  rw [stale_run_message]
  unfold receiveFromInterface
  dsimp only
  rw [List.take_of_length_le (load_length _ _ _).le]
  funext index
  by_cases inside : index < Message.capacity
  · exact store_load_inside _ _ _ _ _ (Nat.zero_le _) (by omega)
  · rw [store_outside _ _ _ _ (by rw [load_length]; omega)]
    exact if_neg inside

/-- The first address of a network is found at once when it is valid. -/
theorem find_address_first {interfaceAddress mask : InAddr}
    (valid : isValidHost ((interfaceAddress &&& mask) + 1) interfaceAddress mask = true) :
    findAddress interfaceAddress mask 0 =
      { nextAddress := (interfaceAddress &&& mask) + 1, offset := 1 } := by
  have leave : searchStep interfaceAddress mask
      { nextAddress := (interfaceAddress &&& mask) + 1, offset := 1 } =
      .inr { nextAddress := (interfaceAddress &&& mask) + 1, offset := 1 } := by
    unfold searchStep
    rw [if_neg (fun again => again.1 valid)]
  have started : startOffset 0 = 1 := rfl
  unfold findAddress searchAddress
  rw [started, Loop.run_exit leave]
  rfl

/-- The `/24` network of a host with interface address 254 in it. -/
def hostNetmask : InAddr := 0xFFFFFF00

theorem host_netmask_clears : Netmask.Clears hostNetmask 8 := ⟨by decide, by decide⟩

/-- On an interface with address 254 of a `/24` network the first client gets address 1. -/
theorem first_client_address (byte0 byte1 byte2 : UInt8) (interfaceIndex : UInt32)
    (macAddress : MacAddress) :
    (getOfferAddress .empty interfaceIndex macAddress (.ok (word32 byte0 byte1 byte2 254))
        (.ok (swap32 hostNetmask))).1 =
      .ok ⟨word32 byte0 byte1 byte2 1, swap32 hostNetmask, word32 byte0 byte1 byte2 254⟩ := by
  have interfaceWord : (word32 254 byte2 byte1 byte0).toNat =
      254 + 256 * byte2.toNat + 65536 * byte1.toNat + 16777216 * byte0.toNat :=
    word32_toNat 254 byte2 byte1 byte0
  have firstWord : (word32 1 byte2 byte1 byte0).toNat =
      1 + 256 * byte2.toNat + 65536 * byte1.toNat + 16777216 * byte0.toNat :=
    word32_toNat 1 byte2 byte1 byte0
  have networkWord := Netmask.network_toNat host_netmask_clears (word32 254 byte2 byte1 byte0)
  have broadcastWord := Netmask.broadcast_toNat host_netmask_clears (word32 254 byte2 byte1 byte0)
  have one : (1 : UInt32).toNat = 1 := rfl
  have first : (word32 254 byte2 byte1 byte0 &&& hostNetmask) + 1 = word32 1 byte2 byte1 byte0 := by
    apply UInt32.toNat_inj.mp
    have bound := (word32 1 byte2 byte1 byte0).toNat_lt
    rw [UInt32.toNat_add, one, networkWord, firstWord, interfaceWord]
    omega
  have inRange : addressInRange (word32 1 byte2 byte1 byte0) (word32 254 byte2 byte1 byte0)
      hostNetmask = true := by
    rw [address_in_range_iff, UInt32.lt_iff_toNat_lt, UInt32.lt_iff_toNat_lt, broadcastWord,
      networkWord, firstWord, interfaceWord]
    omega
  have other : word32 1 byte2 byte1 byte0 ≠ word32 254 byte2 byte1 byte0 := by
    intro same
    have words := congrArg UInt32.toNat same
    omega
  have valid := (is_valid_host_in_range host_netmask_clears inRange).mpr other
  rw [← first] at valid
  have found := find_address_first valid
  unfold getOfferAddress
  simp only [LeaseTables.empty, if_true, swap32_word32, swap32_swap32]
  rw [found, first, inRange]
  simp only [if_true, swap32_word32]

/-- Request handling when the client's address is known: ACK for it, NAK for anything else. -/
theorem handle_request {server : DhcpServer} {message : Message} {interfaceIndex : UInt32}
    (answers : HostAnswers) (served : Served server message interfaceIndex)
    (requests : message.type = dhcpRequest) (succeed : answers.Succeed) {offer : OfferAddress}
    (offered : (getOfferAddress server.tables interfaceIndex message.chaddr
      (answers.interfaceAddress 0) (answers.interfaceNetmask 0)).1 = .ok offer) :
    ∃ reply, (handleMessage server message interfaceIndex answers).1 = some reply ∧
      reply.type = if message.requestedIp = offer.address then dhcpAck else dhcpNak := by
  have other : message.type ≠ dhcpDiscover := by
    rw [requests]
    decide
  obtain ⟨lease, nonzero⟩ := offer_result (get_offer_address_outcome _ _ _ _ _) offered
  have checkedTables := (is_valid_dhcp_request_server server message interfaceIndex answers).1
  have verdict : (isValidDhcpRequest server message interfaceIndex answers).1 =
      decide (message.requestedIp = offer.address) := by
    unfold isValidDhcpRequest
    dsimp only
    rw [offered]
    by_cases same : message.requestedIp = offer.address
    · simp [same]
    · simp [same]
  unfold handleMessage
  rw [if_neg (not_or.mpr ⟨served.known, served.wanted⟩), if_neg (not_not.mpr served.valid),
    if_neg other, if_pos requests]
  dsimp only
  rw [verdict]
  by_cases same : message.requestedIp = offer.address
  · have held : (isValidDhcpRequest server message interfaceIndex answers).2.tables.mLeases
        ⟨interfaceIndex, message.chaddr⟩ ≠ 0 := by
      rw [checkedTables]
      exact nonzero
    obtain ⟨reply, sent⟩ := send_grant_held _ message interfaceIndex answers succeed dhcpAck 1 held
    have granted := (send_grant_reply _ message interfaceIndex answers sent).2
    rw [if_pos (decide_eq_true same), if_pos same]
    exact ⟨reply, sent, (granted_fields granted).type⟩
  · obtain ⟨serverAddress, given⟩ := succeed.address 1
    rw [if_neg (by simp [same]), if_neg same]
    unfold sendNack
    rw [given]
    exact ⟨_, rfl, Message.nack_type _ _ _⟩

/-- The lookups of the interface with address 254 in the network of the three bytes. -/
def hostAnswers (byte0 byte1 byte2 : UInt8) : HostAnswers where
  interfaceAddress := fun _ => .ok (word32 byte0 byte1 byte2 254)
  interfaceNetmask := fun _ => .ok (swap32 hostNetmask)
  property := fun _ => ""
  inetPton := fun _ => none

/-- One byte of old memory set, all others zero. -/
def staleByte (position : Nat) (byte : UInt8) : Memory := fun index =>
  if index = position then byte else 0

/-- The last byte of the address that is read from a cut request comes from the old buffer. -/
theorem cut_requested_ip {datagram : List UInt8} (cut : CutRequest datagram) :
    ∃ (position : Nat) (byte0 byte1 byte2 : UInt8), ∀ (byte : UInt8) (buffer : Message),
      buffer.dhcpData = staleByte position byte →
      (receiveFromInterface buffer datagram).requestedIp = word32 byte0 byte1 byte2 byte := by
  have incomplete := cut.cut
  unfold Message.Complete at incomplete
  simp only [not_forall] at incomplete
  obtain ⟨opt, found, short⟩ := incomplete
  have inside := Message.get_option_inside found
  have size := Message.options_size_eq (datagramMessage datagram)
  have behind : ∀ (byte : UInt8) (buffer : Message), buffer.dhcpData = staleByte (239 + opt) byte →
      ∀ index, (datagramMessage datagram).mSize ≤ index →
      (receiveFromInterface buffer datagram).dhcpData index = staleByte (239 + opt) byte index := by
    intro byte buffer old index outside
    have alike := received_agrees buffer (.init fun _ => 0) datagram
    rw [received_behind _ _ _ (by rw [alike.1]; exact outside), old]
  -- what is read in front of the last byte does not depend on it
  obtain ⟨front, reads⟩ : ∃ front : Memory, ∀ (byte : UInt8) (buffer : Message),
      buffer.dhcpData = staleByte (239 + opt) byte → ∀ index, index < 239 + opt →
      (receiveFromInterface buffer datagram).dhcpData index = front index := by
    refine ⟨fun index => if index < (datagramMessage datagram).mSize then
      (datagramMessage datagram).dhcpData index else 0, ?_⟩
    intro byte buffer old index before
    have alike := received_agrees buffer (.init fun _ => 0) datagram
    dsimp only
    by_cases inDatagram : index < (datagramMessage datagram).mSize
    · rw [if_pos inDatagram]
      exact alike.2 index (by rw [alike.1]; exact inDatagram)
    · rw [if_neg inDatagram, behind byte buffer old index (by omega), staleByte, if_neg (by omega)]
  refine ⟨239 + opt, front (236 + opt), front (236 + opt + 1), front (236 + opt + 2), ?_⟩
  intro byte buffer old
  have last : (receiveFromInterface buffer datagram).dhcpData (236 + opt + 3) = byte := by
    rw [behind byte buffer old _ (by omega), staleByte, if_pos (by omega)]
  have requested : (receiveFromInterface buffer datagram).requestedIp =
      load32 (receiveFromInterface buffer datagram).dhcpData (236 + opt) := by
    have alike := Message.get_option_agrees
      (received_agrees buffer (.init fun _ => 0) datagram) optRequestedIp
    unfold Message.requestedIp Message.addressOption
    rw [alike.trans found]
    rfl
  rw [requested, load32, last, reads byte buffer old _ (by omega),
    reads byte buffer old _ (by omega), reads byte buffer old _ (by omega)]

/-- A cut request is acknowledged or refused by a byte that is not in it. -/
theorem cut_request_reply {datagram : List UInt8} (cut : CutRequest datagram) :
    ∃ (position : Nat) (byte0 byte1 byte2 : UInt8), ∀ byte, ∃ reply,
      (serverStep (staleRun (staleByte position byte))
        (.datagram datagram 1 (hostAnswers byte0 byte1 byte2))).1 = some reply ∧
      reply.type = if byte = 1 then dhcpAck else dhcpNak := by
  obtain ⟨position, byte0, byte1, byte2, requested⟩ := cut_requested_ip cut
  refine ⟨position, byte0, byte1, byte2, ?_⟩
  intro byte
  have alike := received_agrees (staleRun (staleByte position byte)).message
    (.init fun _ => 0) datagram
  have served : Served (staleRun (staleByte position byte)).server
      ((staleRun (staleByte position byte)).receive datagram) 1 := by
    rw [stale_run_server]
    constructor
    · decide
    · exact (by decide : (0 : UInt32) ≠ 1)
    · exact (Message.is_valid_agrees alike _).trans cut.valid
  have offered := first_client_address byte0 byte1 byte2 1
    ((staleRun (staleByte position byte)).receive datagram).chaddr
  obtain ⟨reply, sent, kind⟩ := handle_request (hostAnswers byte0 byte1 byte2) served
    ((Message.type_agrees alike).trans cut.requests)
    ⟨fun _ => ⟨_, rfl⟩, fun _ => ⟨_, rfl⟩⟩ (by rw [stale_run_server]; exact offered)
  refine ⟨reply, sent, ?_⟩
  rw [kind, ServerRun.receive, requested byte _ (stale_run_memory _)]
  by_cases one : byte = 1
  · rw [one, if_pos rfl, if_pos rfl]
  · rw [if_neg one, if_neg]
    intro same
    have bytes := congrArg bytes32 same
    rw [bytes32_word32, bytes32_word32] at bytes
    simp only [List.cons.injEq, and_true, true_and] at bytes
    exact one bytes

/-- The reaction to a datagram depends on it alone exactly when it is not a cut request. -/
theorem reacts_alike_iff (datagram : List UInt8) :
    ReactsAlike datagram ↔ ¬ CutRequest datagram := by
  constructor
  · intro alike cut
    obtain ⟨position, byte0, byte1, byte2, replies⟩ := cut_request_reply cut
    obtain ⟨accepted, acceptedSent, acknowledged⟩ := replies 1
    obtain ⟨denied, deniedSent, refused⟩ := replies 2
    have tables : (staleRun (staleByte position 1)).server.tables =
        (staleRun (staleByte position 2)).server.tables := by
      rw [stale_run_server, stale_run_server]
      rfl
    have same := (alike 0 (staleByte position 1) (staleByte position 2) _ _ _ _ rfl rfl tables 1
      (hostAnswers byte0 byte1 byte2)).1
    have replied := acceptedSent.symm.trans (same.trans deniedSent)
    rw [Option.some.inj replied, refused] at acknowledged
    exact absurd acknowledged (by decide)
  · exact reacts_alike_of_complete

/-- A REQUEST for 192.168.0.1 of which only the first byte of the address arrived. -/
def cutDatagram : List UInt8 :=
  (Message.request (fun _ => 2) (swap32 0xC0A80001) (swap32 0xC0A800FE) 1).bytes.take 256

/-- The two servers dropped a datagram of the interface they exclude; the bytes that it left
behind complete the address to 192.168.0.1 in the one and to 192.9.9.9 in the other. -/
theorem cut_datagram_reacts_differently : ¬ ReactsAlike cutDatagram := by
  intro alike
  have dropped : ∀ datagram, (serverRun (.init 2 fun _ => 0)
      [.datagram datagram 2 homeAnswers]).server.tables = .empty := fun datagram =>
    congrArg (fun handled => handled.2.tables) (handle_unwanted _ (.inr rfl) _ homeAnswers)
  have same := (alike 2 (fun _ => 0) (fun _ => 0)
    [.datagram (Message.request (fun _ => 2) (swap32 0xC0A80001) 0 1).bytes 2 homeAnswers]
    [.datagram (Message.request (fun _ => 2) (swap32 0xC0090909) 0 1).bytes 2 homeAnswers]
    _ _ rfl rfl ((dropped _).trans (dropped _).symm) 1 (hostAnswers 192 168 0)).1
  have types := congrArg (Option.map Message.type) same
  exact absurd types (by decide +kernel)

end RedroidExt.Dhcp
