import RedroidExt.Dhcp.MessageReads

/-!
# Built messages read back

The builders append tag-length-value records behind a fixed header and close
them with END. On such a message the option scan finds the first record with the
wanted code, and the header accessors return what the constructor wrote.
-/

namespace RedroidExt.Dhcp.Message

open RedroidExt.Library RedroidExt.Library.ByteMemory

set_option autoImplicit false

/-- The payload that `getOption` points at. -/
def optionValue (message : Message) (code : UInt8) : Option (List UInt8) :=
  (message.getOption code).map fun found => load message.dhcpData (236 + found.1) found.2.toNat

def singleByte : List UInt8 → UInt8
  | [byte] => byte
  | _ => 0

def addressWord : List UInt8 → InAddr
  | [byte0, byte1, byte2, byte3] => word32 byte0 byte1 byte2 byte3
  | _ => 0

theorem single_byte_of_length {value : List UInt8} (other : value.length ≠ 1) :
    singleByte value = 0 := by
  unfold singleByte
  split
  · simp at other
  · rfl

theorem address_word_of_length {value : List UInt8} (other : value.length ≠ 4) :
    addressWord value = 0 := by
  unfold addressWord
  split
  · simp at other
  · rfl

theorem address_word_bytes (word : UInt32) : addressWord (bytes32 word) = word :=
  word32_bytes word

theorem type_eq_option_value (message : Message) :
    message.type = ((message.optionValue optMessageType).map singleByte).getD 0 := by
  unfold type optionValue
  cases found : message.getOption optMessageType with
  | none => rfl
  | some payload =>
      obtain ⟨opt, length⟩ := payload
      simp only [Option.map_some, Option.getD_some]
      by_cases one : length = 1
      · subst one
        rw [if_pos rfl]
        rfl
      · rw [if_neg one, single_byte_of_length]
        rw [load_length]
        exact fun same => one (UInt8.toNat_inj.mp same)

theorem address_option_eq_option_value (message : Message) (code : UInt8) :
    message.addressOption code = ((message.optionValue code).map addressWord).getD 0 := by
  unfold addressOption optionValue
  cases found : message.getOption code with
  | none => rfl
  | some payload =>
      obtain ⟨opt, length⟩ := payload
      simp only [Option.map_some, Option.getD_some]
      by_cases four : length = 4
      · subst four
        rw [if_pos rfl]
        rfl
      · rw [if_neg four, address_word_of_length]
        rw [load_length]
        exact fun same => four (UInt8.toNat_inj.mp same)

/-! ## The scan over encoded records -/

/-- The records lie in the options from position `i` on, none of them with the code of END. -/
structure RecordsAt (message : Message) (i : Nat) (records : List Record) : Prop where
  held : HoldsAt message.dhcpData (236 + i) (Record.encodeAll records)
  inside : i + (Record.encodeAll records).length ≤ message.optionsSize
  noEnd : ∀ record ∈ records, record.tag ≠ optEnd

/-- The same with END behind the records. The message may go on. -/
structure RecordsThenEnd (message : Message) (i : Nat) (records : List Record) : Prop where
  held : HoldsAt message.dhcpData (236 + i) (Record.encodeAll records ++ [optEnd])
  inside : i + (Record.encodeAll records).length + 1 ≤ message.optionsSize
  noEnd : ∀ record ∈ records, record.tag ≠ optEnd

/-- The records that lie in the options from position `i` up to the closing END. -/
structure RecordsFrom (message : Message) (i : Nat) (records : List Record) : Prop where
  held : HoldsAt message.dhcpData (236 + i) (Record.encodeAll records ++ [optEnd])
  size : message.optionsSize = i + (Record.encodeAll records).length + 1
  noEnd : ∀ record ∈ records, record.tag ≠ optEnd

section Scan

variable {message : Message} {i : Nat} {record : Record} {records rest : List Record}

theorem records_then_end (laid : RecordsFrom message i records) :
    RecordsThenEnd message i records where
  held := laid.held
  inside := Nat.le_of_eq laid.size.symm
  noEnd := laid.noEnd

theorem records_at (laid : RecordsThenEnd message i records) : RecordsAt message i records where
  held := ((holds_at_append _ _ _ _).mp laid.held).1
  inside := Nat.le_of_succ_le laid.inside
  noEnd := laid.noEnd

theorem records_then_end_tail (laid : RecordsThenEnd message i (record :: rest)) :
    RecordsThenEnd message (i + (2 + record.value.length)) rest where
  held := by
    rw [← Nat.add_assoc]
    exact (Record.holds_at_cons laid.held).2.2.2
  inside := by
    have inside := laid.inside
    rw [Record.encode_all_cons, List.length_append, Record.encode_length] at inside
    omega
  noEnd := fun other member => laid.noEnd other (List.mem_cons_of_mem _ member)

theorem end_behind (laid : RecordsThenEnd message i records) :
    message.options (i + (Record.encodeAll records).length) = optEnd := by
  have closing := ((holds_at_append _ _ _ _).mp laid.held).2.1
  rw [Nat.add_assoc] at closing
  exact closing

theorem records_at_cons (laid : RecordsAt message i (record :: rest)) :
    message.options i = record.tag ∧
      message.options (i + 1) = UInt8.ofNat record.value.length ∧
      HoldsAt message.dhcpData (236 + i + 2) record.value ∧
      i + (2 + record.value.length) + (Record.encodeAll rest).length ≤ message.optionsSize ∧
      RecordsAt message (i + (2 + record.value.length)) rest := by
  have held := laid.held
  have inside := laid.inside
  rw [← List.append_nil (Record.encodeAll _)] at held
  obtain ⟨tag, length, value, behind⟩ := Record.holds_at_cons held
  rw [List.append_nil, Nat.add_assoc] at behind
  rw [Record.encode_all_cons, List.length_append, Record.encode_length] at inside
  have later : ∀ other ∈ rest, other.tag ≠ optEnd :=
    fun other member => laid.noEnd other (List.mem_cons_of_mem _ member)
  exact ⟨tag, length, value, by omega, behind, by omega, later⟩

/-- Records without the code are passed when something is left behind them. -/
theorem get_option_passes (laid : RecordsAt message i records) {code : UInt8}
    (others : ∀ record ∈ records, record.tag ≠ code)
    (more : i + (Record.encodeAll records).length < message.optionsSize) :
    Loop.Visits (getOptionStep message code) i (i + (Record.encodeAll records).length) := by
  induction records generalizing i with
  | nil => exact .first
  | cons record rest ih =>
      obtain ⟨tagByte, lengthByte, -, inside, laidRest⟩ := records_at_cons laid
      have total : (Record.encodeAll (record :: rest)).length =
          2 + record.value.length + (Record.encodeAll rest).length := by
        rw [Record.encode_all_cons, List.length_append, Record.encode_length]
      rw [total] at more ⊢
      have again : getOptionStep message code i = .inl (i + (2 + record.value.length)) := by
        unfold getOptionStep
        rw [if_pos (by omega), tagByte, if_neg (laid.noEnd record List.mem_cons_self),
          if_neg (others record List.mem_cons_self), lengthByte, Record.length_byte]
      have behind := ih laidRest (fun other member => others other (List.mem_cons_of_mem _ member))
        (by omega)
      rw [← Nat.add_assoc]
      exact Loop.visits_trans (.later .first again) behind

/-- The scan from the first record returns the first one with the code, whose payload lies inside
the message, or nothing. -/
theorem scan_records (laid : RecordsThenEnd message i records) (code : UInt8) :
    ∃ result, Loop.Returns (getOptionStep message code) i result ∧
      (result.map fun found => load message.dhcpData (236 + found.1) found.2.toNat) =
        Record.firstValue records code ∧
      ∀ opt length, result = some (opt, length) → opt + length.toNat ≤ message.optionsSize := by
  induction records generalizing i with
  | nil =>
      have closing : message.options i = optEnd := laid.held.1
      refine ⟨none, Loop.returns_exit ?_, rfl, ?_⟩
      · unfold getOptionStep
        rw [if_pos closing]
        exact ite_self _
      · intro opt found none
        cases none
  | cons record rest ih =>
      obtain ⟨tagByte, lengthByte, value, within, -⟩ := records_at_cons (records_at laid)
      have laidRest := records_then_end_tail laid
      have room := laidRest.inside
      have notEnd := laid.noEnd record List.mem_cons_self
      have inside : i + 2 < message.optionsSize := by omega
      by_cases matching : record.tag = code
      · refine ⟨some (i + 2, message.options (i + 1)), Loop.returns_exit ?_, ?_, ?_⟩
        · unfold getOptionStep
          rw [if_pos inside, tagByte, if_neg notEnd, if_pos matching]
        · subst matching
          rw [Record.first_value_cons_same, lengthByte, Option.map_some, Record.length_byte]
          exact congrArg some (load_eq_of_holds_at value)
        · intro opt found same
          obtain ⟨position, byte⟩ := Prod.mk.inj (Option.some.inj same)
          rw [← position, ← byte, lengthByte, Record.length_byte]
          omega
      · obtain ⟨result, returned, found, within⟩ := ih laidRest
        refine ⟨result, Loop.returns_next ?_ returned, ?_, within⟩
        · unfold getOptionStep
          rw [if_pos inside, tagByte, if_neg notEnd, if_neg matching, lengthByte,
            Record.length_byte]
        · rw [found, Record.first_value_cons_other matching]

theorem option_value_then_end (laid : RecordsThenEnd message 4 records) (code : UInt8) :
    message.optionValue code = Record.firstValue records code := by
  obtain ⟨result, returned, found, -⟩ := scan_records laid code
  unfold optionValue
  rw [get_option_eq_of_returns returned]
  exact found

end Scan

theorem option_value_of_records {message : Message} {records : List Record}
    (laid : RecordsFrom message 4 records) (code : UInt8) :
    message.optionValue code = Record.firstValue records code :=
  option_value_then_end (records_then_end laid) code

/-- Options laid out as records are complete. -/
theorem complete_of_records {message : Message} {records : List Record}
    (laid : RecordsFrom message 4 records) (code : UInt8) : message.Complete code := by
  obtain ⟨result, returned, -, within⟩ := scan_records (records_then_end laid) code
  intro opt found
  rw [get_option_eq_of_returns returned] at found
  exact within opt 4 found

/-! ## Appending options -/

/-- `message` is `start` with the records appended after the cookie, not yet closed. -/
structure OpenOptions (message start : Message) (records : List Record) : Prop where
  header : ∀ index, index < 240 → message.dhcpData index = start.dhcpData index
  held : HoldsAt message.dhcpData 240 (Record.encodeAll records)
  size : message.mSize = 240 + (Record.encodeAll records).length

/-- The same with END behind the records. -/
structure ClosedOptions (message start : Message) (records : List Record) : Prop where
  header : ∀ index, index < 240 → message.dhcpData index = start.dhcpData index
  held : HoldsAt message.dhcpData 240 (Record.encodeAll records ++ [optEnd])
  size : message.mSize = 240 + (Record.encodeAll records).length + 1

theorem add_option_open {message start : Message} {records : List Record}
    (opened : OpenOptions message start records) (record : Record) :
    OpenOptions (message.addOption record.tag record.value) start (records ++ [record]) := by
  have bounded := record.bounded
  have size := opened.size
  have whole : record.value.take (UInt8.ofNat record.value.length).toNat = record.value := by
    rw [Record.length_byte, List.take_length]
  have written : (message.addOption record.tag record.value).dhcpData =
      store message.dhcpData message.mSize record.encode := by
    unfold addOption Record.encode
    dsimp only
    rw [whole]
  refine ⟨?_, ?_, ?_⟩
  · intro index below
    rw [written, store_outside _ _ _ _ (by omega)]
    exact opened.header index below
  · rw [written, Record.encode_all_append, Record.encode_all_singleton, holds_at_append]
    constructor
    · exact holds_at_store_disjoint (by omega) opened.held
    · rw [← size]
      exact holds_at_store _ _ _
  · have grown : (message.addOption record.tag record.value).mSize =
        message.mSize + (2 + (UInt8.ofNat record.value.length).toNat) := rfl
    rw [grown, Record.length_byte, size, Record.encode_all_append, Record.encode_all_singleton,
      List.length_append, Record.encode_length]
    omega

theorem end_options_closed {message start : Message} {records : List Record}
    (opened : OpenOptions message start records) :
    ClosedOptions message.endOptions start records := by
  have size := opened.size
  refine ⟨?_, ?_, ?_⟩
  · intro index below
    unfold endOptions
    dsimp only
    rw [store_outside _ _ _ _ (by omega)]
    exact opened.header index below
  · unfold endOptions
    rw [holds_at_append]
    constructor
    · exact holds_at_store_disjoint (by omega) opened.held
    · rw [← size]
      exact holds_at_store _ _ _
  · unfold endOptions
    rw [size]

theorem records_from_closed {message start : Message} {records : List Record}
    (closed : ClosedOptions message start records)
    (noEnd : ∀ record ∈ records, record.tag ≠ optEnd) : RecordsFrom message 4 records where
  held := closed.held
  size := by
    rw [options_size_eq, closed.size]
    omega
  noEnd := noEnd

theorem closed_is_valid {message start : Message} {records : List Record}
    (closed : ClosedOptions message start records) (large : 240 ≤ start.mSize)
    (expectedOp : UInt8) :
    message.isValidDhcpMessage expectedOp = start.isValidDhcpMessage expectedOp := by
  have size := closed.size
  exact is_valid_congr (by omega) (fun _ => closed.header) expectedOp

theorem closed_same_header {message start : Message} {records : List Record}
    (closed : ClosedOptions message start records) : SameHeader message start :=
  same_header_of_bytes fun index below => closed.header index (by omega)

/-! ## The constructor's header -/

def typeRecord (type : UInt8) : Record := ⟨optMessageType, [type], by simp⟩

def parameterRecord : Record := ⟨optParameterList, kRequestParameters, by decide⟩

def addressRecord (code : UInt8) (address : InAddr) : Record := ⟨code, bytes32 address, by simp⟩

theorem construct_open (operation : UInt8) (macAddress : MacAddress) (type : UInt8)
    (transactionId : UInt32) :
    OpenOptions (construct operation macAddress type transactionId)
      (construct operation macAddress type transactionId) [typeRecord type] where
  header := fun _ _ => rfl
  held := holds_at_store _ _ _
  size := rfl

theorem construct_is_valid (operation : UInt8) (macAddress : MacAddress) (type : UInt8)
    (transactionId : UInt32) (expectedOp : UInt8) :
    (construct operation macAddress type transactionId).isValidDhcpMessage expectedOp =
      decide (operation = expectedOp) := by
  simp [isValidDhcpMessage, construct, op, htype, hlen, options, store]

theorem construct_chaddr (operation : UInt8) (macAddress : MacAddress) (type : UInt8)
    (transactionId : UInt32) :
    (construct operation macAddress type transactionId).chaddr = macAddress := by
  have held : HoldsAt (construct operation macAddress type transactionId).dhcpData 28
      (List.ofFn macAddress) := by
    unfold construct
    apply holds_at_store_disjoint (by simp)
    apply holds_at_store_disjoint (by simp)
    exact holds_at_store _ _ _
  rw [holds_at_iff] at held
  funext index
  have byte := held index.val (by simp)
  rw [List.getD_eq_getElem _ _ (by simp)] at byte
  exact byte.trans (List.getElem_ofFn _)

theorem construct_xid (operation : UInt8) (macAddress : MacAddress) (type : UInt8)
    (transactionId : UInt32) :
    (construct operation macAddress type transactionId).xid = swap32 transactionId := by
  apply load32_of_holds_at
  unfold construct
  apply holds_at_store_disjoint (by simp)
  apply holds_at_store_disjoint (by simp)
  apply holds_at_store_disjoint (by simp)
  exact holds_at_store _ _ _

/-! ## Requests -/

def discoverRecords : List Record := [typeRecord dhcpDiscover, parameterRecord]

def requestRecords (requestAddress serverAddress : InAddr) : List Record :=
  [typeRecord dhcpRequest, parameterRecord, addressRecord optRequestedIp requestAddress,
    addressRecord optServerId serverAddress]

theorem discover_closed (sourceMac : MacAddress) (transactionId : UInt32) :
    ClosedOptions (discover sourceMac transactionId)
      (construct opBootRequest sourceMac dhcpDiscover transactionId) discoverRecords :=
  end_options_closed (add_option_open (construct_open _ _ _ _) parameterRecord)

theorem request_closed (sourceMac : MacAddress) (requestAddress serverAddress : InAddr)
    (transactionId : UInt32) :
    ClosedOptions (request sourceMac requestAddress serverAddress transactionId)
      (construct opBootRequest sourceMac dhcpRequest transactionId)
      (requestRecords requestAddress serverAddress) :=
  end_options_closed (add_option_open (add_option_open (add_option_open (construct_open _ _ _ _)
    parameterRecord) (addressRecord optRequestedIp requestAddress))
    (addressRecord optServerId serverAddress))

theorem discover_records (sourceMac : MacAddress) (transactionId : UInt32) :
    RecordsFrom (discover sourceMac transactionId) 4 discoverRecords := by
  apply records_from_closed (discover_closed sourceMac transactionId)
  simp [discoverRecords, typeRecord, parameterRecord]
  decide

theorem request_records (sourceMac : MacAddress) (requestAddress serverAddress : InAddr)
    (transactionId : UInt32) :
    RecordsFrom (request sourceMac requestAddress serverAddress transactionId) 4
      (requestRecords requestAddress serverAddress) := by
  apply records_from_closed (request_closed sourceMac requestAddress serverAddress transactionId)
  simp [requestRecords, typeRecord, parameterRecord, addressRecord]
  decide

/-- What the server reads in the header of the client's messages. -/
structure FromClient (message : Message) (macAddress : MacAddress) : Prop where
  valid : message.isValidDhcpMessage opBootRequest = true
  chaddr : message.chaddr = macAddress
  fits : message.mSize ≤ capacity

theorem from_client_closed {message : Message} {macAddress : MacAddress} {type : UInt8}
    {transactionId : UInt32} {records : List Record}
    (closed : ClosedOptions message (construct opBootRequest macAddress type transactionId) records)
    (short : (Record.encodeAll records).length ≤ 1019) : message.FromClient macAddress where
  valid := by
    rw [closed_is_valid closed (show 240 ≤ 243 by decide), construct_is_valid]
    decide
  chaddr := (closed_same_header closed).chaddr.trans (construct_chaddr _ _ _ _)
  fits := by
    rw [closed.size]
    unfold capacity
    omega

theorem discover_from_client (sourceMac : MacAddress) (transactionId : UInt32) :
    (discover sourceMac transactionId).FromClient sourceMac :=
  from_client_closed (discover_closed sourceMac transactionId) (by decide)

theorem request_from_client (sourceMac : MacAddress) (requestAddress serverAddress : InAddr)
    (transactionId : UInt32) :
    (request sourceMac requestAddress serverAddress transactionId).FromClient sourceMac := by
  apply from_client_closed (request_closed sourceMac requestAddress serverAddress transactionId)
  simp [requestRecords, Record.encodeAll, typeRecord, parameterRecord, addressRecord,
    kRequestParameters]

theorem discover_type (sourceMac : MacAddress) (transactionId : UInt32) :
    (discover sourceMac transactionId).type = dhcpDiscover := by
  rw [type_eq_option_value, option_value_of_records (discover_records _ _)]
  rfl

theorem request_type (sourceMac : MacAddress) (requestAddress serverAddress : InAddr)
    (transactionId : UInt32) :
    (request sourceMac requestAddress serverAddress transactionId).type = dhcpRequest := by
  rw [type_eq_option_value, option_value_of_records (request_records _ _ _ _)]
  rfl

theorem request_requested_ip (sourceMac : MacAddress) (requestAddress serverAddress : InAddr)
    (transactionId : UInt32) :
    (request sourceMac requestAddress serverAddress transactionId).requestedIp =
      requestAddress := by
  unfold requestedIp
  rw [address_option_eq_option_value, option_value_of_records (request_records _ _ _ _)]
  exact address_word_bytes requestAddress

theorem request_server_id (sourceMac : MacAddress) (requestAddress serverAddress : InAddr)
    (transactionId : UInt32) :
    (request sourceMac requestAddress serverAddress transactionId).serverId = serverAddress := by
  unfold serverId
  rw [address_option_eq_option_value, option_value_of_records (request_records _ _ _ _)]
  exact address_word_bytes serverAddress

/-! ## Any list of options -/

/-- A constructed message with the options added in order and closed. -/
def withOptions (operation : UInt8) (macAddress : MacAddress) (type : UInt8)
    (transactionId : UInt32) (options : List Record) : Message :=
  (options.foldl (fun message option => message.addOption option.tag option.value)
    (construct operation macAddress type transactionId)).endOptions

theorem add_options_open {message start : Message} {records : List Record}
    (opened : OpenOptions message start records) (options : List Record) :
    OpenOptions (options.foldl (fun message option => message.addOption option.tag option.value)
      message) start (records ++ options) := by
  induction options generalizing message records with
  | nil =>
      rw [List.append_nil]
      exact opened
  | cons option rest ih =>
      have added := ih (add_option_open opened option)
      rw [List.append_assoc] at added
      exact added

theorem with_options_closed (operation : UInt8) (macAddress : MacAddress) (type : UInt8)
    (transactionId : UInt32) (options : List Record) :
    ClosedOptions (withOptions operation macAddress type transactionId options)
      (construct operation macAddress type transactionId) (typeRecord type :: options) :=
  end_options_closed (add_options_open (construct_open _ _ _ _) options)

/-- What `addOption` writes, `getOption` finds: as long as the options fit their field, the
message is valid, has its type, and for every code the payload is that of the first option with
it, the constructor's own option in front of the others. -/
theorem options_read_back (operation : UInt8) (macAddress : MacAddress) (type : UInt8)
    (transactionId : UInt32) (options : List Record)
    (noEnd : ∀ option ∈ options, option.tag ≠ optEnd)
    (fits : 4 + 3 + (options.map fun option => 2 + option.value.length).sum + 1 ≤ 1024) :
    (withOptions operation macAddress type transactionId options).mSize ≤ capacity ∧
      (withOptions operation macAddress type transactionId options).isValidDhcpMessage operation =
        true ∧
      (withOptions operation macAddress type transactionId options).type = type ∧
      ∀ code, (withOptions operation macAddress type transactionId options).optionValue code =
        Record.firstValue (typeRecord type :: options) code := by
  have closed := with_options_closed operation macAddress type transactionId options
  have laid : RecordsFrom (withOptions operation macAddress type transactionId options) 4
      (typeRecord type :: options) := by
    apply records_from_closed closed
    intro record member
    rcases List.mem_cons.mp member with own | added
    · rw [own]
      exact (by decide : optMessageType ≠ optEnd)
    · exact noEnd record added
  refine ⟨?_, ?_, ?_, option_value_of_records laid⟩
  · rw [closed.size, Record.encode_all_cons, List.length_append, Record.encode_length,
      Record.encode_all_length]
    simp only [typeRecord, List.length_singleton, capacity]
    omega
  · rw [closed_is_valid closed (show 240 ≤ 243 by decide), construct_is_valid]
    exact decide_eq_true rfl
  · rw [type_eq_option_value, option_value_of_records laid]
    rfl

/-- Payload bytes that look like options, an empty payload and a repeated code. -/
def trickyOptions : List Record :=
  [⟨12, [255, 51, 4], by decide⟩, ⟨80, [], by decide⟩, ⟨12, [1], by decide⟩,
    ⟨optMessageType, [7], by decide⟩]

theorem options_read_back_tricky :
    (withOptions opBootRequest (fun _ => 2) dhcpDiscover 1 trickyOptions).type = dhcpDiscover ∧
      (withOptions opBootRequest (fun _ => 2) dhcpDiscover 1 trickyOptions).optionValue 12 =
        some [255, 51, 4] ∧
      (withOptions opBootRequest (fun _ => 2) dhcpDiscover 1 trickyOptions).optionValue 80 =
        some [] ∧
      (withOptions opBootRequest (fun _ => 2) dhcpDiscover 1 trickyOptions).optionValue 51 =
        none := by
  obtain ⟨-, -, type, value⟩ := options_read_back opBootRequest (fun _ => 2) dhcpDiscover 1
    trickyOptions (by decide) (by decide)
  exact ⟨type, value 12, value 80, value 51⟩

end RedroidExt.Dhcp.Message
