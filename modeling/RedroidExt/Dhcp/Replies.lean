import RedroidExt.Dhcp.MessageOptions

/-!
# Replies read back

The header words that a reply copies from the message it answers, and the records
behind them: an OFFER and an ACK differ in their message type only, a NAK carries
nothing but the server's address.
-/

namespace RedroidExt.Dhcp.Message

open RedroidExt.Library RedroidExt.Library.ByteMemory

set_option autoImplicit false

section Header

variable (sourceMessage : Message) (type : UInt8) (address : InAddr) (transactionId : UInt32)

/-- The words a reply overwrites lie between the hardware type and `chaddr`. -/
theorem reply_outside (index : Nat)
    (outside : index < 4 ∨ (8 ≤ index ∧ index < 10) ∨ 28 ≤ index) :
    (sourceMessage.reply type address transactionId).dhcpData index =
      (construct opBootReply sourceMessage.chaddr type transactionId).dhcpData index := by
  unfold reply
  dsimp only
  rw [store_outside _ _ _ _ (by simp only [bytes32_length]; omega),
    store_outside _ _ _ _ (by simp only [bytes32_length]; omega),
    store_outside _ _ _ _ (by simp only [bytes16_length]; omega),
    store_outside _ _ _ _ (by simp only [bytes32_length]; omega)]

theorem reply_open :
    OpenOptions (sourceMessage.reply type address transactionId)
      (sourceMessage.reply type address transactionId) [typeRecord type] where
  header := fun _ _ => rfl
  held := by
    have built := (construct_open opBootReply sourceMessage.chaddr type transactionId).held
    apply holds_at_congr _ built
    intro index above _
    exact (reply_outside sourceMessage type address transactionId index (by omega)).symm
  size := rfl

theorem reply_size : (sourceMessage.reply type address transactionId).mSize = 243 := rfl

theorem reply_is_valid (expectedOp : UInt8) :
    (sourceMessage.reply type address transactionId).isValidDhcpMessage expectedOp =
      decide (opBootReply = expectedOp) := by
  rw [← construct_is_valid opBootReply sourceMessage.chaddr type transactionId expectedOp]
  simp only [isValidDhcpMessage, op, htype, hlen, options]
  simp only [reply_outside, Nat.reduceLT, true_or, Nat.reduceAdd, Nat.reduceLeDiff, or_true]
  rfl

theorem reply_chaddr :
    (sourceMessage.reply type address transactionId).chaddr = sourceMessage.chaddr := by
  rw [← construct_chaddr opBootReply sourceMessage.chaddr type transactionId]
  funext index
  exact reply_outside sourceMessage type address transactionId _ (by omega)

theorem reply_xid : (sourceMessage.reply type address transactionId).xid = sourceMessage.xid := by
  apply load32_of_holds_at
  unfold reply
  apply holds_at_store_disjoint (by simp)
  apply holds_at_store_disjoint (by simp)
  apply holds_at_store_disjoint (by simp)
  exact holds_at_store _ _ _

theorem reply_flags :
    (sourceMessage.reply type address transactionId).flags = sourceMessage.flags := by
  apply load16_of_holds_at
  unfold reply
  apply holds_at_store_disjoint (by simp)
  apply holds_at_store_disjoint (by simp)
  exact holds_at_store _ _ _

theorem reply_yiaddr : (sourceMessage.reply type address transactionId).yiaddr = address := by
  apply load32_of_holds_at
  unfold reply
  apply holds_at_store_disjoint (by simp)
  exact holds_at_store _ _ _

theorem reply_giaddr :
    (sourceMessage.reply type address transactionId).giaddr = sourceMessage.giaddr := by
  apply load32_of_holds_at
  unfold reply
  exact holds_at_store _ _ _

end Header

/-- The words of a message that its replies repeat. -/
structure SameClient (left right : Message) : Prop where
  xid : left.xid = right.xid
  flags : left.flags = right.flags
  giaddr : left.giaddr = right.giaddr
  chaddr : left.chaddr = right.chaddr

theorem same_client_of_header {left right : Message} (same : SameHeader left right) :
    SameClient left right :=
  ⟨same.xid, same.flags, same.giaddr, same.chaddr⟩

theorem same_client_trans {left middle right : Message} (first : SameClient left middle)
    (second : SameClient middle right) : SameClient left right :=
  ⟨first.xid.trans second.xid, first.flags.trans second.flags, first.giaddr.trans second.giaddr,
    first.chaddr.trans second.chaddr⟩

theorem reply_same_client (sourceMessage : Message) (type : UInt8) (address : InAddr)
    (transactionId : UInt32) :
    SameClient (sourceMessage.reply type address transactionId) sourceMessage :=
  ⟨reply_xid _ _ _ _, reply_flags _ _ _ _, reply_giaddr _ _ _ _, reply_chaddr _ _ _ _⟩

/-- The counter only reaches the four bytes of the transaction id. -/
theorem construct_outside_xid (operation : UInt8) (macAddress : MacAddress) (type : UInt8)
    (left right : UInt32) (index : Nat) (outside : index < 4 ∨ 8 ≤ index) :
    (construct operation macAddress type left).dhcpData index =
      (construct operation macAddress type right).dhcpData index := by
  unfold construct
  apply store_congr
  apply store_congr
  apply store_congr
  rw [store_outside _ 4 (bytes32 (swap32 left)) _ (by rw [bytes32_length]; omega),
    store_outside _ 4 (bytes32 (swap32 right)) _ (by rw [bytes32_length]; omega)]

/-- A reply depends on nothing else of the message, and not on the counter, whose value is
overwritten. -/
theorem reply_congr {left right : Message} (same : SameClient left right) (type : UInt8)
    (address : InAddr) (leftId rightId : UInt32) :
    left.reply type address leftId = right.reply type address rightId := by
  have memory : (left.reply type address leftId).dhcpData =
      (right.reply type address rightId).dhcpData := by
    funext index
    unfold reply
    rw [same.xid, same.flags, same.giaddr, same.chaddr]
    apply store_congr
    apply store_congr
    apply store_congr
    by_cases inside : 4 ≤ index ∧ index < 4 + (bytes32 right.xid).length
    · rw [store, store, if_pos inside, if_pos inside]
    · rw [store, store, if_neg inside, if_neg inside]
      rw [bytes32_length] at inside
      exact construct_outside_xid _ _ _ _ _ index (by omega)
  exact congrArg (fun dhcpData => Message.mk dhcpData 243) memory

theorem grant_congr {left right : Message} (same : SameClient left right) (type : UInt8)
    (serverAddress offeredAddress netmask gateway : InAddr) (servers : List InAddr)
    (leftId rightId : UInt32) :
    left.grant type serverAddress offeredAddress netmask gateway servers leftId =
      right.grant type serverAddress offeredAddress netmask gateway servers rightId := by
  unfold grant
  rw [reply_congr same type offeredAddress leftId rightId]

theorem nack_congr {left right : Message} (same : SameClient left right)
    (serverAddress : InAddr) (leftId rightId : UInt32) :
    left.nack serverAddress leftId = right.nack serverAddress rightId := by
  unfold nack
  rw [reply_congr same dhcpNak 0 leftId rightId]

/-! ## OFFER and ACK -/

theorem addresses_length (addresses : List InAddr) :
    (addresses.map bytes32).flatten.length = 4 * addresses.length := by
  induction addresses with
  | nil => rfl
  | cons address rest ih =>
      rw [List.map_cons, List.flatten_cons, List.length_append, ih, bytes32_length,
        List.length_cons]
      omega

/-- DNS servers that fit one option. -/
abbrev DnsServers := { servers : List InAddr // servers.length ≤ 63 }

def dnsRecord (servers : DnsServers) : Record where
  tag := optDns
  value := (servers.val.map bytes32).flatten
  bounded := by
    have short := servers.property
    rw [addresses_length]
    omega

def grantRecords (type : UInt8) (serverAddress netmask gateway : InAddr) (servers : DnsServers) :
    List Record :=
  [typeRecord type, addressRecord optServerId serverAddress,
    addressRecord optLeaseTime kDefaultLeaseTime, addressRecord optSubnetMask netmask,
    addressRecord optGateway gateway, dnsRecord servers]

section Grant

variable (type : UInt8) (sourceMessage : Message)
variable (serverAddress offeredAddress netmask gateway : InAddr) (servers : DnsServers)
variable (transactionId : UInt32)

theorem grant_closed :
    ClosedOptions
      (sourceMessage.grant type serverAddress offeredAddress netmask gateway servers.val
        transactionId)
      (sourceMessage.reply type offeredAddress transactionId)
      (grantRecords type serverAddress netmask gateway servers) :=
  end_options_closed (add_option_open (add_option_open (add_option_open (add_option_open
    (add_option_open (reply_open _ _ _ _)
    (addressRecord optServerId serverAddress))
    (addressRecord optLeaseTime kDefaultLeaseTime))
    (addressRecord optSubnetMask netmask))
    (addressRecord optGateway gateway))
    (dnsRecord servers))

theorem grant_no_end :
    ∀ record ∈ grantRecords type serverAddress netmask gateway servers, record.tag ≠ optEnd := by
  simp [grantRecords, typeRecord, addressRecord, dnsRecord]
  decide

theorem grant_records :
    RecordsFrom
      (sourceMessage.grant type serverAddress offeredAddress netmask gateway servers.val
        transactionId) 4
      (grantRecords type serverAddress netmask gateway servers) :=
  records_from_closed
    (grant_closed type sourceMessage serverAddress offeredAddress netmask gateway servers
      transactionId)
    (grant_no_end type serverAddress netmask gateway servers)

theorem grant_type :
    (sourceMessage.grant type serverAddress offeredAddress netmask gateway servers.val
      transactionId).type = type := by
  rw [type_eq_option_value, option_value_of_records (grant_records _ _ _ _ _ _ _ _)]
  rfl

theorem grant_server_id :
    (sourceMessage.grant type serverAddress offeredAddress netmask gateway servers.val
      transactionId).serverId = serverAddress := by
  unfold serverId
  rw [address_option_eq_option_value, option_value_of_records (grant_records _ _ _ _ _ _ _ _)]
  exact address_word_bytes serverAddress

theorem grant_is_valid (expectedOp : UInt8) :
    (sourceMessage.grant type serverAddress offeredAddress netmask gateway servers.val
      transactionId).isValidDhcpMessage expectedOp = decide (opBootReply = expectedOp) := by
  rw [← reply_is_valid sourceMessage type offeredAddress transactionId expectedOp]
  exact closed_is_valid (grant_closed _ _ _ _ _ _ _ _) (by rw [reply_size]; decide) expectedOp

theorem grant_same_header :
    SameHeader
      (sourceMessage.grant type serverAddress offeredAddress netmask gateway servers.val
        transactionId)
      (sourceMessage.reply type offeredAddress transactionId) :=
  closed_same_header (grant_closed _ _ _ _ _ _ _ _)

theorem grant_yiaddr :
    (sourceMessage.grant type serverAddress offeredAddress netmask gateway servers.val
      transactionId).yiaddr = offeredAddress :=
  (grant_same_header _ _ _ _ _ _ _ _).yiaddr.trans (reply_yiaddr _ _ _ _)

/-- An OFFER or an ACK is for the client that it answers. -/
theorem grant_same_client :
    SameClient
      (sourceMessage.grant type serverAddress offeredAddress netmask gateway servers.val
        transactionId) sourceMessage :=
  same_client_trans (same_client_of_header (grant_same_header _ _ _ _ _ _ _ _))
    (reply_same_client _ _ _ _)

theorem grant_xid :
    (sourceMessage.grant type serverAddress offeredAddress netmask gateway servers.val
      transactionId).xid = sourceMessage.xid :=
  (grant_same_client _ _ _ _ _ _ _ _).xid

theorem grant_chaddr :
    (sourceMessage.grant type serverAddress offeredAddress netmask gateway servers.val
      transactionId).chaddr = sourceMessage.chaddr :=
  (grant_same_client _ _ _ _ _ _ _ _).chaddr

theorem grant_size :
    (sourceMessage.grant type serverAddress offeredAddress netmask gateway servers.val
      transactionId).mSize = 270 + 4 * servers.val.length := by
  have size := (grant_closed type sourceMessage serverAddress offeredAddress netmask gateway
    servers transactionId).size
  rw [size]
  simp only [grantRecords, Record.encodeAll, List.map_cons, List.map_nil, List.flatten_cons,
    List.flatten_nil, List.length_append, List.length_nil, Record.encode_length, typeRecord,
    addressRecord, dnsRecord, bytes32_length, addresses_length, List.length_cons]
  omega

end Grant

/-! ## NAK -/

section Nack

variable (sourceMessage : Message) (serverAddress : InAddr) (transactionId : UInt32)

theorem nack_closed :
    ClosedOptions (sourceMessage.nack serverAddress transactionId)
      (sourceMessage.reply dhcpNak 0 transactionId)
      [typeRecord dhcpNak, addressRecord optServerId serverAddress] :=
  end_options_closed (add_option_open (reply_open _ _ _ _)
    (addressRecord optServerId serverAddress))

theorem nack_size : (sourceMessage.nack serverAddress transactionId).mSize = 250 := by
  rw [(nack_closed sourceMessage serverAddress transactionId).size]
  simp [Record.encodeAll, typeRecord, addressRecord]

theorem nack_type : (sourceMessage.nack serverAddress transactionId).type = dhcpNak := by
  have laid := records_from_closed (nack_closed sourceMessage serverAddress transactionId)
    (by simp [typeRecord, addressRecord]; decide)
  rw [type_eq_option_value, option_value_of_records laid]
  rfl

theorem nack_xid : (sourceMessage.nack serverAddress transactionId).xid = sourceMessage.xid :=
  (closed_same_header (nack_closed sourceMessage serverAddress transactionId)).xid.trans
    (reply_xid _ _ _ _)

end Nack

end RedroidExt.Dhcp.Message
