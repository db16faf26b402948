import RedroidExt.Dhcp.Client
import RedroidExt.Dhcp.Replies

/-!
# What the client decodes of an ACK

On a message built from records the option loop of `configureDhcp` is a fold over
the records. Of the server's ACK it gives back every field except the lease time,
which is encoded in host order and decoded from network order.
-/

namespace RedroidExt.Dhcp

open RedroidExt.Library RedroidExt.Library.ByteMemory

set_option autoImplicit false

/-- The word at an index of an option's payload. -/
def wordAt (value : List UInt8) (index : Nat) : UInt32 :=
  word32 (value.getD index 0) (value.getD (index + 1) 0) (value.getD (index + 2) 0)
    (value.getD (index + 3) 0)

/-- What one option contributes, by its payload. -/
def DhcpInfo.withRecord (info : DhcpInfo) (record : Record) : DhcpInfo :=
  if record.tag = optLeaseTime then
    if record.value.length = 4 then { info with leaseTime := swap32 (wordAt record.value 0) }
    else info
  else if record.tag = optT1 then
    if record.value.length = 4 then { info with t1 := swap32 (wordAt record.value 0) } else info
  else if record.tag = optT2 then
    if record.value.length = 4 then { info with t2 := swap32 (wordAt record.value 0) } else info
  else if record.tag = optSubnetMask then
    if record.value.length = 4 then { info with subnetMask := wordAt record.value 0 } else info
  else if record.tag = optGateway then
    if record.value.length ≥ 4 then { info with gateway := wordAt record.value 0 } else info
  else if record.tag = optMtu then
    if record.value.length = 2 then
      { info with mtu := swap16 (word16 (record.value.getD 0 0) (record.value.getD 1 0)) }
    else info
  else if record.tag = optDns then
    { info with dns := fun index =>
        if record.value.length ≥ 4 * index.val + 4 then wordAt record.value (4 * index.val)
        else info.dns index }
  else if record.tag = optServerId then
    if record.value.length = 4 then { info with serverId := wordAt record.value 0 } else info
  else info

/-! ## The loop over records -/

theorem load32_record {memory : Memory} {offset : Nat} {value : List UInt8}
    (held : HoldsAt memory offset value) {index : Nat} (inside : index + 4 ≤ value.length) :
    load32 memory (offset + index) = wordAt value index := by
  rw [holds_at_iff] at held
  unfold load32 wordAt
  rw [held index (by omega), Nat.add_assoc, held (index + 1) (by omega), Nat.add_assoc,
    held (index + 2) (by omega), Nat.add_assoc, held (index + 3) (by omega)]

theorem load16_record {memory : Memory} {offset : Nat} {value : List UInt8}
    (held : HoldsAt memory offset value) (inside : 2 ≤ value.length) :
    load16 memory offset = word16 (value.getD 0 0) (value.getD 1 0) := by
  rw [holds_at_iff] at held
  have first := held 0 (by omega)
  have second := held 1 (by omega)
  unfold load16
  rw [← first, ← second]
  rfl

theorem length_byte_eq_iff (record : Record) (size : UInt8) :
    UInt8.ofNat record.value.length = size ↔ record.value.length = size.toNat := by
  rw [← UInt8.toNat_inj, Record.length_byte]

/-- The switch over an option that lies in the message as a record. -/
theorem read_option_record (info : DhcpInfo) {msg : Message} {record : Record} {opt : Nat}
    (held : HoldsAt msg.dhcpData (236 + opt) record.value) :
    info.readOption msg record.tag (UInt8.ofNat record.value.length) opt =
      info.withRecord record := by
  have two : UInt8.ofNat record.value.length = 2 ↔ record.value.length = 2 :=
    length_byte_eq_iff record 2
  have atLeastFour : UInt8.ofNat record.value.length ≥ 4 ↔ record.value.length ≥ 4 := by
    rw [ge_iff_le, UInt8.le_iff_toNat_le, Record.length_byte]
    rfl
  have word : 4 ≤ record.value.length →
      load32 msg.dhcpData (236 + opt + 0) = wordAt record.value 0 :=
    fun long => load32_record held (by omega)
  -- the options that are a single word
  have single : ∀ write : UInt32 → DhcpInfo,
      (if UInt8.ofNat record.value.length = 4 then write (load32 msg.dhcpData (236 + opt + 0))
        else info) =
      if record.value.length = 4 then write (wordAt record.value 0) else info := by
    intro write
    apply ite_congr (propext (length_byte_eq_iff record 4))
    · intro size
      rw [word size.ge]
    · exact fun _ => rfl
  unfold DhcpInfo.readOption DhcpInfo.withRecord
  dsimp only
  apply ite_congr rfl
  · exact fun _ => single fun word => { info with leaseTime := swap32 word }
  intro _
  apply ite_congr rfl
  · exact fun _ => single fun word => { info with t1 := swap32 word }
  intro _
  apply ite_congr rfl
  · exact fun _ => single fun word => { info with t2 := swap32 word }
  intro _
  apply ite_congr rfl
  · exact fun _ => single fun word => { info with subnetMask := word }
  intro _
  apply ite_congr rfl
  · intro _
    exact ite_congr (propext atLeastFour) (fun size => by rw [word size]) (fun _ => rfl)
  intro _
  apply ite_congr rfl
  · intro _
    exact ite_congr (propext two) (fun size => by rw [load16_record held size.ge]) (fun _ => rfl)
  intro _
  apply ite_congr rfl
  · intro _
    congr 1
    funext index
    rw [Record.length_byte]
    exact ite_congr rfl (fun inside => load32_record held inside) (fun _ => rfl)
  intro _
  apply ite_congr rfl
  · exact fun _ => single fun word => { info with serverId := word }
  intro _
  rfl

/-- The loop passes records and reads each of them. -/
theorem read_options_passes {msg : Message} {i : Nat} {records : List Record}
    (laid : msg.RecordsAt i records) (info : DhcpInfo) :
    Loop.Visits (readOptionsStep msg) { i := i, info := info }
      { i := i + (Record.encodeAll records).length
        info := records.foldl DhcpInfo.withRecord info } := by
  induction records generalizing i info with
  | nil => exact .first
  | cons record rest ih =>
      obtain ⟨tagByte, lengthByte, value, inside, laidRest⟩ := Message.records_at_cons laid
      have total := Message.options_size_eq msg
      have again : readOptionsStep msg { i := i, info := info } =
          .inl { i := i + (2 + record.value.length), info := info.withRecord record } := by
        unfold readOptionsStep
        dsimp only
        rw [if_pos (by omega), tagByte, lengthByte,
          if_neg (laid.noEnd record List.mem_cons_self), Record.length_byte, if_neg (by omega),
          read_option_record info value]
      rw [Record.encode_all_cons, List.length_append, Record.encode_length, ← Nat.add_assoc]
      exact Loop.visits_trans (.later .first again) (ih laidRest (info.withRecord record))

/-- END stops it, also where the loop's own bound does not. -/
theorem read_options_returns {msg : Message} {i : Nat} {records : List Record}
    (laid : msg.RecordsThenEnd i records) (info : DhcpInfo) :
    Loop.Returns (readOptionsStep msg) { i := i, info := info }
      (true, records.foldl DhcpInfo.withRecord info) := by
  refine Loop.returns_of_visits (read_options_passes (Message.records_at laid) info)
    (Loop.returns_exit ?_)
  unfold readOptionsStep
  dsimp only
  rw [if_pos (Message.end_behind laid)]
  exact ite_self _

theorem read_options_step_decreases (msg : Message) (scan next : OptionScan)
    (again : readOptionsStep msg scan = .inl next) :
    msg.optionsSize - next.i < msg.optionsSize - scan.i := by
  unfold readOptionsStep at again
  dsimp only at again
  split_ifs at again with inside
  have position : scan.i + (2 + (msg.options (scan.i + 1)).toNat) = next.i :=
    congrArg OptionScan.i (Sum.inl.inj again)
  omega

theorem read_options_then_end {msg : Message} {records : List Record}
    (laid : msg.RecordsThenEnd 4 records) :
    readOptions msg = (true, records.foldl DhcpInfo.withRecord .cleared) := by
  have finished := Loop.run_eq_of_returns (fun scan => msg.optionsSize - scan.i)
    (read_options_step_decreases msg) (read_options_returns laid .cleared)
    (msg.optionsSize + 1) (by omega)
  unfold readOptions
  rw [finished]
  rfl

theorem read_options_of_records {msg : Message} {records : List Record}
    (laid : Message.RecordsFrom msg 4 records) :
    readOptions msg = (true, records.foldl DhcpInfo.withRecord .cleared) :=
  read_options_then_end (Message.records_then_end laid)

/-! ## The server's ACK -/

theorem word_at_bytes (word : UInt32) : wordAt (bytes32 word) 0 = word := word32_bytes word

theorem word_at_append (word : UInt32) (rest : List UInt8) (index : Nat) :
    wordAt (bytes32 word ++ rest) (index + 4) = wordAt rest index := rfl

theorem word_at_addresses {addresses : List InAddr} {index : Nat}
    (inside : index < addresses.length) :
    wordAt (addresses.map bytes32).flatten (4 * index) = addresses.getD index 0 := by
  induction addresses generalizing index with
  | nil => exact absurd inside (Nat.not_lt_zero _)
  | cons address rest ih =>
      rw [List.map_cons, List.flatten_cons]
      cases index with
      | zero => exact word_at_bytes address
      | succ index =>
          rw [Nat.mul_succ, word_at_append, ih (Nat.lt_of_succ_lt_succ inside)]
          rfl

/-- The DNS servers, the first four of them and zero where there are fewer. -/
theorem with_dns_record {info : DhcpInfo} (none : info.dns = fun _ => 0)
    (servers : Message.DnsServers) :
    info.withRecord (Message.dnsRecord servers) =
      { info with dns := fun index => servers.val.getD index.val 0 } := by
  unfold DhcpInfo.withRecord Message.dnsRecord
  dsimp only
  rw [if_neg (by decide), if_neg (by decide), if_neg (by decide), if_neg (by decide),
    if_neg (by decide), if_neg (by decide), if_pos rfl]
  congr 1
  funext index
  rw [none, Message.addresses_length]
  by_cases inside : index.val < servers.val.length
  · rw [if_pos (by omega)]
    exact word_at_addresses inside
  · rw [if_neg (by omega), List.getD_eq_default _ _ (by omega)]

/-- The info that the loop yields on an OFFER or an ACK: no field but the lease time differs
from what the server put in. -/
theorem grant_records_info (type : UInt8) (serverAddress netmask gateway : InAddr)
    (servers : Message.DnsServers) :
    (Message.grantRecords type serverAddress netmask gateway servers).foldl DhcpInfo.withRecord
        .cleared =
      { DhcpInfo.cleared with
        serverId := serverAddress
        leaseTime := swap32 kDefaultLeaseTime
        subnetMask := netmask
        gateway := gateway
        dns := fun index => servers.val.getD index.val 0 } := by
  have typeKept : DhcpInfo.cleared.withRecord (Message.typeRecord type) = .cleared := rfl
  have serverRead : ∀ info : DhcpInfo,
      info.withRecord (Message.addressRecord optServerId serverAddress) =
        { info with serverId := serverAddress } := fun info =>
    congrArg (fun word => { info with serverId := word }) (word_at_bytes serverAddress)
  have leaseRead : ∀ info : DhcpInfo,
      info.withRecord (Message.addressRecord optLeaseTime kDefaultLeaseTime) =
        { info with leaseTime := swap32 kDefaultLeaseTime } := fun info => rfl
  have maskRead : ∀ info : DhcpInfo,
      info.withRecord (Message.addressRecord optSubnetMask netmask) =
        { info with subnetMask := netmask } := fun info =>
    congrArg (fun word => { info with subnetMask := word }) (word_at_bytes netmask)
  have gatewayRead : ∀ info : DhcpInfo,
      info.withRecord (Message.addressRecord optGateway gateway) =
        { info with gateway := gateway } := fun info =>
    congrArg (fun word => { info with gateway := word }) (word_at_bytes gateway)
  simp only [Message.grantRecords, List.foldl_cons, List.foldl_nil]
  rw [typeKept, serverRead, leaseRead, maskRead, gatewayRead]
  exact with_dns_record rfl servers

/-- The client takes the message for an ACK of the transaction and decodes these fields. -/
structure AckDecodes (ack : Message) (xid : UInt32)
    (serverAddress offeredAddress netmask gateway : InAddr) (servers : List InAddr)
    (leaseTime : UInt32) : Prop where
  valid : ack.isValidDhcpMessageXid opBootReply xid = true
  type : ack.type = dhcpAck
  read : (DhcpClient.readAck ack).1 = true
  offeredAddress : (DhcpClient.readAck ack).2.offeredAddress = offeredAddress
  netmask : (DhcpClient.readAck ack).2.subnetMask = netmask
  gateway : (DhcpClient.readAck ack).2.gateway = gateway
  serverId : (DhcpClient.readAck ack).2.serverId = serverAddress
  dns : ∀ index : Fin 4, (DhcpClient.readAck ack).2.dns index = servers.getD index.val 0
  leaseTime : (DhcpClient.readAck ack).2.leaseTime = leaseTime

theorem ack_read (request : Message) (serverAddress offeredAddress netmask gateway : InAddr)
    (servers : Message.DnsServers) (transactionId : UInt32) :
    DhcpClient.readAck (request.ack serverAddress offeredAddress netmask gateway servers.val
        transactionId) =
      (true,
        { DhcpInfo.cleared with
          serverId := serverAddress
          leaseTime := swap32 kDefaultLeaseTime
          subnetMask := netmask
          gateway := gateway
          dns := fun index => servers.val.getD index.val 0
          offeredAddress := offeredAddress }) := by
  have laid := Message.grant_records dhcpAck request serverAddress offeredAddress netmask gateway
    servers transactionId
  have scanned := read_options_of_records laid
  rw [grant_records_info] at scanned
  unfold DhcpClient.readAck Message.ack
  rw [scanned, Message.grant_yiaddr]
  rfl

/-- Every field of the server's ACK reaches the client, but the lease time arrives with its
bytes reversed, never as the server's 600 seconds. -/
theorem ack_lease_time_reversed (request : Message)
    (serverAddress offeredAddress netmask gateway : InAddr) (servers : List InAddr)
    (few : servers.length ≤ 4) (transactionId : UInt32) :
    AckDecodes (request.ack serverAddress offeredAddress netmask gateway servers transactionId)
        request.xid serverAddress offeredAddress netmask gateway servers
        (swap32 kDefaultLeaseTime) ∧
      ¬ AckDecodes (request.ack serverAddress offeredAddress netmask gateway servers transactionId)
        request.xid serverAddress offeredAddress netmask gateway servers kDefaultLeaseTime := by
  have short : servers.length ≤ 63 := Nat.le_trans few (by decide)
  have read := ack_read request serverAddress offeredAddress netmask gateway ⟨servers, short⟩
    transactionId
  have decoded : AckDecodes (request.ack serverAddress offeredAddress netmask gateway servers
      transactionId) request.xid serverAddress offeredAddress netmask gateway servers
      (swap32 kDefaultLeaseTime) := by
    constructor
    · rw [Message.is_valid_xid_iff]
      constructor
      · exact Message.grant_is_valid _ _ _ _ _ _ ⟨servers, short⟩ _ _
      · exact Message.grant_xid _ _ _ _ _ _ ⟨servers, short⟩ _
    · exact Message.grant_type _ _ _ _ _ _ ⟨servers, short⟩ _
    · rw [read]
    · rw [read]
    · rw [read]
    · rw [read]
    · rw [read]
    · intro index
      rw [read]
    · rw [read]
  refine ⟨decoded, ?_⟩
  intro unchanged
  have same := decoded.leaseTime.symm.trans unchanged.leaseTime
  exact absurd same (by decide)

/-- A client's REQUEST for 192.168.0.2 from the server 192.168.0.1. -/
def homeRequest : Message :=
  Message.request (fun _ => 2) (swap32 0xC0A80002) (swap32 0xC0A80001) 2

theorem ack_lease_time_reversed_home :
    AckDecodes (homeRequest.ack (swap32 0xC0A80001) (swap32 0xC0A80002) (swap32 0xFFFFFF00)
        (swap32 0xC0A80001) [swap32 0x08080808] 1)
        homeRequest.xid (swap32 0xC0A80001) (swap32 0xC0A80002) (swap32 0xFFFFFF00)
        (swap32 0xC0A80001) [swap32 0x08080808] (swap32 kDefaultLeaseTime) ∧
      ¬ AckDecodes (homeRequest.ack (swap32 0xC0A80001) (swap32 0xC0A80002) (swap32 0xFFFFFF00)
        (swap32 0xC0A80001) [swap32 0x08080808] 1)
        homeRequest.xid (swap32 0xC0A80001) (swap32 0xC0A80002) (swap32 0xFFFFFF00)
        (swap32 0xC0A80001) [swap32 0x08080808] kDefaultLeaseTime :=
  ack_lease_time_reversed homeRequest (swap32 0xC0A80001) (swap32 0xC0A80002)
    (swap32 0xFFFFFF00) (swap32 0xC0A80001) [swap32 0x08080808] (by decide) 1

/-- The request is valid, and the client decodes a lease of 1476526080 seconds. -/
theorem ack_lease_time_home :
    homeRequest.isValidDhcpMessage opBootRequest = true ∧
      ¬ AckDecodes (homeRequest.ack (swap32 0xC0A80001) (swap32 0xC0A80002) (swap32 0xFFFFFF00)
        (swap32 0xC0A80001) [] 1)
        homeRequest.xid (swap32 0xC0A80001) (swap32 0xC0A80002) (swap32 0xFFFFFF00)
        (swap32 0xC0A80001) [] kDefaultLeaseTime := by
  have decoded : (DhcpClient.readAck (homeRequest.ack (swap32 0xC0A80001) (swap32 0xC0A80002)
      (swap32 0xFFFFFF00) (swap32 0xC0A80001) [] 1)).2.leaseTime = 1476526080 := by
    decide +kernel
  refine ⟨by decide +kernel, ?_⟩
  intro unchanged
  exact absurd (decoded.symm.trans unchanged.leaseTime) (by decide)

/-- An ACK with a lease of 600 seconds in network order and no other option but its type. -/
def tenMinuteAck : Message :=
  ((Message.construct opBootReply (fun _ => 2) dhcpAck 2).addOption optLeaseTime
    [0, 0, 2, 0x58]).endOptions

theorem ten_minutes_fit : ([0, 0, 2, 0x58] : List UInt8).length ≤ 255 := by decide

/-- A lease time of 600 seconds. -/
def tenMinuteRecord : Record := ⟨optLeaseTime, [0, 0, 2, 0x58], ten_minutes_fit⟩

def tenMinuteRecords : List Record := [Message.typeRecord dhcpAck, tenMinuteRecord]

theorem ten_minute_ack_laid : tenMinuteAck.RecordsFrom 4 tenMinuteRecords := by
  have closed : Message.ClosedOptions tenMinuteAck _ tenMinuteRecords :=
    Message.end_options_closed (Message.add_option_open (Message.construct_open _ _ _ _)
      tenMinuteRecord)
  refine Message.records_from_closed closed ?_
  simp [tenMinuteRecords, tenMinuteRecord, Message.typeRecord]
  decide

end RedroidExt.Dhcp
