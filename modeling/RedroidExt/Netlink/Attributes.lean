import RedroidExt.Library.Netmask
import RedroidExt.Library.PaddedRecords

/-!
# Netlink requests

`addRouterAttribute`, which `netlink.h` and the proxy's `router.cpp` both have, and the
macros of the Linux headers it uses. A request is the memory of its structure: the
header, a body and a buffer that the attributes fill.
-/

namespace RedroidExt.Netlink

open RedroidExt.Library RedroidExt.Library.ByteMemory

set_option autoImplicit false

/-! ## Macros -/

/-- `NLMSG_ALIGNTO` and `RTA_ALIGNTO`. -/
def nlmsgAlignTo : UInt32 := 4
def rtaAlignTo : UInt32 := 4

/-- Both alignment macros, with what they align to. -/
def alignTo (unit len : UInt32) : UInt32 := (len + unit - 1) &&& ~~~(unit - 1)

def nlmsgAlign (len : UInt32) : UInt32 := alignTo nlmsgAlignTo len

def rtaAlign (len : UInt32) : UInt32 := alignTo rtaAlignTo len

/-- `sizeof(struct nlmsghdr)` and `sizeof(struct rtattr)`. -/
def nlmsghdrSize : UInt32 := 16
def rtattrSize : UInt32 := 4

def nlmsgHdrlen : UInt32 := nlmsgAlign nlmsghdrSize

def nlmsgLength (len : UInt32) : UInt32 := len + nlmsgHdrlen

def rtaLength (len : UInt64) : UInt64 := (rtaAlign rtattrSize).toUInt64 + len

/-- Where the payload of an attribute lies. -/
def rtaData (attr : Nat) : Nat := attr + (rtaLength 0).toNat

/-! ## Requests -/

/-- What lies between the header and the buffer. -/
inductive RequestBody where
  | ifaddrmsg
  | rtmsg
  | ndmsg
  deriving DecidableEq

namespace RequestBody

/-- `sizeof(request.msg)`. -/
def size : RequestBody → UInt32
  | ifaddrmsg => 8
  | rtmsg => 12
  | ndmsg => 12

/-- `offsetof(Request, buf)`. -/
def bufOffset (body : RequestBody) : UInt64 := nlmsghdrSize.toUInt64 + body.size.toUInt64

end RequestBody

/-- `sizeof(request.buf)`. -/
def bufSize : Nat := 256

/-- `hdr.nlmsg_len`. -/
def nlmsgLen (r : Memory) : UInt32 := load32 r 0

section AddRouterAttribute

variable (body : RequestBody) (r : Memory) (type : Int32) (data : List UInt8)

/-- The place of the attribute, from the start of the request on. -/
def attrOffset : Nat :=
  let offset := (nlmsgAlign (nlmsgLen r)).toUInt64 - body.bufOffset
  (body.bufOffset + offset).toNat

/-- What is written to the buffer, in order: `rta_type`, `rta_len` and the data. -/
def attributeWrites : List (Nat × List UInt8) :=
  let attr := attrOffset body r
  [(attr + 2, bytes16 type.toUInt32.toUInt16),
    (attr, bytes16 (rtaLength (.ofNat data.length)).toUInt16),
    (rtaData attr, data)]

def writeAttribute : Memory :=
  (attributeWrites body r type data).foldl (fun memory write => store memory write.1 write.2) r

def addRouterAttribute : Memory :=
  let written := writeAttribute body r type data
  store written 0 (bytes32 (nlmsgAlign (nlmsgLen written) +
    rtaAlign (load16 written (attrOffset body r)).toUInt32))

end AddRouterAttribute

/-- What `addRouterAttribute` is called with. -/
structure Attribute where
  type : Int32
  data : List UInt8

def addAttributes (body : RequestBody) (r : Memory) (attributes : List Attribute) : Memory :=
  attributes.foldl (fun r entry => addRouterAttribute body r entry.type entry.data) r

/-- A request that is cleared and gets its header and its body; the other fields of the header stay
zero. -/
def newRequest (body : RequestBody) (nlmsgType nlmsgFlags : UInt16) (msg : List UInt8) : Memory :=
  let request : Memory := fun _ => 0
  let request := store request 0 (bytes32 (nlmsgLength body.size))
  let request := store request 4 (bytes16 nlmsgType)
  let request := store request 6 (bytes16 nlmsgFlags)
  store request nlmsghdrSize.toNat msg

/-- How a request starts: the length in its header is that of the header and the body, and the
buffer is zero. -/
structure Fresh (body : RequestBody) (r : Memory) : Prop where
  length : nlmsgLen r = nlmsgLength body.size
  zero : ∀ index, body.bufOffset.toNat ≤ index → index < body.bufOffset.toNat + bufSize → r index = 0

/-! ## What the macros compute -/

theorem align_to_toNat {len : UInt32} (room : len.toNat + 3 < 2 ^ 32) :
    (alignTo 4 len).toNat = alignUp 4 len.toNat := by
  have clears : Netmask.Clears (~~~((4 : UInt32) - 1)) 2 := ⟨by decide, by decide⟩
  have sum : (len + 4 - 1).toNat = len.toNat + 3 := by
    rw [UInt32.toNat_sub, UInt32.toNat_add]
    change (2 ^ 32 - 1 + (len.toNat + 4) % 2 ^ 32) % 2 ^ 32 = _
    omega
  unfold alignTo alignUp
  rw [Netmask.network_eq_block clears, sum]
  omega

theorem nlmsg_align_toNat {len : UInt32} (room : len.toNat + 3 < 2 ^ 32)
    (aligned : len.toNat % 4 = 0) : (nlmsgAlign len).toNat = len.toNat := by
  unfold nlmsgAlign nlmsgAlignTo
  rw [align_to_toNat room, align_up_self (by decide) aligned]

theorem rta_data_eq (attr : Nat) : rtaData attr = attr + PaddedRecord.headerSize := by
  have length : (rtaLength 0).toNat = PaddedRecord.headerSize := by decide +kernel
  unfold rtaData
  rw [length]

theorem rta_length_eq {size : Nat} (small : PaddedRecord.headerSize + size < 65536) :
    (rtaLength (.ofNat size)).toUInt16 = .ofNat (PaddedRecord.headerSize + size) := by
  have header : (rtaAlign rtattrSize).toUInt64.toNat = PaddedRecord.headerSize := by decide +kernel
  apply UInt16.toNat_inj.mp
  unfold rtaLength
  rw [UInt64.toNat_toUInt16, UInt64.toNat_add, header, UInt64.toNat_ofNat',
    UInt16.toNat_ofNat_of_lt' small]
  omega

namespace RequestBody

theorem buf_offset_cases (body : RequestBody) :
    body.bufOffset.toNat = 24 ∨ body.bufOffset.toNat = 28 := by
  cases body with
  | ifaddrmsg => exact .inl rfl
  | rtmsg => exact .inr rfl
  | ndmsg => exact .inr rfl

theorem nlmsg_length_toNat (body : RequestBody) :
    (nlmsgLength body.size).toNat = body.bufOffset.toNat := by
  cases body with
  | ifaddrmsg => decide +kernel
  | rtmsg => decide +kernel
  | ndmsg => decide +kernel

theorem buf_offset_eq (body : RequestBody) :
    body.bufOffset.toNat = nlmsghdrSize.toNat + body.size.toNat := by
  cases body with
  | ifaddrmsg => rfl
  | rtmsg => rfl
  | ndmsg => rfl

end RequestBody

theorem new_request_fresh {body : RequestBody} {msg : List UInt8}
    (sized : msg.length = body.size.toNat) (nlmsgType nlmsgFlags : UInt16) :
    Fresh body (newRequest body nlmsgType nlmsgFlags msg) where
  length := by
    apply load32_of_holds_at
    apply holds_at_store_disjoint (.inl (by rw [bytes32_length]; decide))
    apply holds_at_store_disjoint (.inl (by rw [bytes32_length]; decide))
    apply holds_at_store_disjoint (.inl (by rw [bytes32_length]))
    exact holds_at_store _ _ _
  zero := by
    intro index above _
    rw [body.buf_offset_eq] at above
    have header : nlmsghdrSize.toNat = 16 := rfl
    unfold newRequest
    rw [store_outside _ _ _ _ (.inr (by rw [sized]; exact above)),
      store_outside _ _ _ _ (.inr (by rw [bytes16_length]; omega)),
      store_outside _ _ _ _ (.inr (by rw [bytes16_length]; omega)),
      store_outside _ _ _ _ (.inr (by rw [bytes32_length]; omega))]

/-! ## One attribute -/

/-- The attribute as a record; its type has 16 bits. -/
def Attribute.record (entry : Attribute) : PaddedRecord where
  tag := entry.type.toUInt32.toUInt16
  value := entry.data

def records (attributes : List Attribute) : List PaddedRecord := attributes.map Attribute.record

/-- The bytes that the attributes take. -/
def filledSize (attributes : List Attribute) : Nat :=
  ((records attributes).map PaddedRecord.paddedSize).sum

/-- The attributes fill the buffer from its start on, and `nlmsg_len` ends behind them. -/
structure Filled (body : RequestBody) (start r : Memory) (attributes : List Attribute) : Prop where
  length : (nlmsgLen r).toNat = body.bufOffset.toNat + filledSize attributes
  held : HoldsAt r body.bufOffset.toNat (PaddedRecord.encodeAll (records attributes))
  zero : ∀ index, body.bufOffset.toNat + filledSize attributes ≤ index →
    index < body.bufOffset.toNat + bufSize → r index = 0
  kept : ∀ index, 4 ≤ index →
    (index < body.bufOffset.toNat ∨ body.bufOffset.toNat + bufSize ≤ index) → r index = start index

section Step

variable {body : RequestBody} {start r : Memory} {attributes : List Attribute} {entry : Attribute}

theorem filled_size_aligned (attributes : List Attribute) : filledSize attributes % 4 = 0 := by
  have aligned := PaddedRecord.encode_all_aligned (records attributes)
  rw [PaddedRecord.encode_all_length] at aligned
  exact aligned

theorem filled_size_append (attributes : List Attribute) (entry : Attribute) :
    filledSize (attributes ++ [entry]) = filledSize attributes + entry.record.paddedSize := by
  simp [filledSize, records]

theorem filled_size_le (attributes later : List Attribute) :
    filledSize attributes ≤ filledSize (attributes ++ later) := by
  unfold filledSize records
  rw [List.map_append, List.map_append, List.sum_append]
  exact Nat.le_add_right _ _

/-- An attribute of a list that fits has room behind those in front of it. -/
theorem room_of_split {before after : List Attribute} (split : attributes = before ++ entry :: after)
    (fits : filledSize attributes ≤ bufSize) :
    filledSize before + entry.record.paddedSize ≤ bufSize := by
  rw [split, List.append_cons] at fits
  rw [← filled_size_append]
  exact Nat.le_trans (filled_size_le _ _) fits

theorem filled_fresh (fresh : Fresh body r) : Filled body r r [] where
  length := by
    rw [fresh.length, body.nlmsg_length_toNat]
    rfl
  held := trivial
  zero := fresh.zero
  kept := fun _ _ _ => rfl

theorem attr_offset_eq (filled : Filled body start r attributes)
    (room : filledSize attributes ≤ bufSize) :
    attrOffset body r = body.bufOffset.toNat + filledSize attributes := by
  have length := filled.length
  have aligned := filled_size_aligned attributes
  have place := body.buf_offset_cases
  unfold bufSize at room
  have len : (nlmsgAlign (nlmsgLen r)).toNat = body.bufOffset.toNat + filledSize attributes := by
    rw [nlmsg_align_toNat (by omega) (by omega), length]
  have small := body.bufOffset.toNat_lt
  unfold attrOffset
  dsimp only
  rw [UInt64.toNat_add, UInt64.toNat_sub, UInt32.toNat_toUInt64, len]
  omega

theorem record_small (room : filledSize attributes + entry.record.paddedSize ≤ bufSize) :
    entry.record.size < 65536 := by
  have padded := entry.record.size_le_padded
  unfold bufSize at room
  omega

/-- The three writes together are one of the record without its padding. -/
theorem write_attribute_eq (filled : Filled body start r attributes)
    (room : filledSize attributes + entry.record.paddedSize ≤ bufSize) :
    writeAttribute body r entry.type entry.data =
      store r (body.bufOffset.toNat + filledSize attributes) entry.record.front := by
  have place := attr_offset_eq filled (Nat.le_of_add_right_le room)
  have length : (rtaLength (.ofNat entry.data.length)).toUInt16 = .ofNat entry.record.size :=
    rta_length_eq (record_small room)
  unfold writeAttribute attributeWrites
  dsimp only [List.foldl]
  rw [place, rta_data_eq, length, PaddedRecord.front, store_append, store_append,
    store_comm r (.inl (Nat.le_refl _))]
  rfl

theorem write_attribute_apart (filled : Filled body start r attributes)
    (room : filledSize attributes + entry.record.paddedSize ≤ bufSize) {index : Nat}
    (outside : index < body.bufOffset.toNat + filledSize attributes ∨
      body.bufOffset.toNat + filledSize attributes + entry.record.size ≤ index) :
    writeAttribute body r entry.type entry.data index = r index := by
  rw [← PaddedRecord.front_length] at outside
  rw [write_attribute_eq filled room, store_outside _ _ _ _ outside]

theorem write_attribute_holds (filled : Filled body start r attributes)
    (room : filledSize attributes + entry.record.paddedSize ≤ bufSize) :
    HoldsAt (writeAttribute body r entry.type entry.data)
      (body.bufOffset.toNat + filledSize attributes) entry.record.front := by
  rw [write_attribute_eq filled room]
  exact holds_at_store _ _ _

/-- Behind the length, the request is what the writes leave. -/
theorem add_router_attribute_behind (body : RequestBody) (r : Memory) (type : Int32)
    (data : List UInt8) {index : Nat} (behind : 4 ≤ index) :
    addRouterAttribute body r type data index = writeAttribute body r type data index := by
  unfold addRouterAttribute
  exact store_outside _ _ _ _ (.inr (by simpa using behind))

/-- What is added to the length in the header: the length of the attribute, rounded up. -/
theorem written_length (filled : Filled body start r attributes)
    (room : filledSize attributes + entry.record.paddedSize ≤ bufSize) :
    (rtaAlign (load16 (writeAttribute body r entry.type entry.data)
      (attrOffset body r)).toUInt32).toNat = entry.record.paddedSize := by
  have held := write_attribute_holds filled room
  have small := record_small room
  have bounded := entry.record.size_le_padded
  unfold PaddedRecord.front at held
  rw [List.append_assoc, holds_at_append] at held
  have word : (UInt16.ofNat entry.record.size).toUInt32.toNat = entry.record.size := by
    rw [UInt16.toNat_toUInt32, UInt16.toNat_ofNat_of_lt' small]
  rw [attr_offset_eq filled (Nat.le_of_add_right_le room), load16_of_holds_at held.1]
  unfold rtaAlign rtaAlignTo
  rw [align_to_toNat (by omega), word]
  rfl

theorem add_router_attribute_length (filled : Filled body start r attributes)
    (room : filledSize attributes + entry.record.paddedSize ≤ bufSize) :
    (nlmsgLen (addRouterAttribute body r entry.type entry.data)).toNat =
      body.bufOffset.toNat + filledSize attributes + entry.record.paddedSize := by
  have place := body.buf_offset_cases
  have aligned := filled_size_aligned attributes
  have length := filled.length
  have header : nlmsgLen (writeAttribute body r entry.type entry.data) = nlmsgLen r := by
    apply load32_congr
    intro index _ below
    exact write_attribute_apart filled room (.inl (by omega))
  have added := written_length filled room
  unfold bufSize at room
  have front : (nlmsgAlign (nlmsgLen r)).toNat = body.bufOffset.toNat + filledSize attributes := by
    rw [nlmsg_align_toNat (by omega) (by omega), length]
  have stored : nlmsgLen (addRouterAttribute body r entry.type entry.data) =
      nlmsgAlign (nlmsgLen (writeAttribute body r entry.type entry.data)) +
        rtaAlign (load16 (writeAttribute body r entry.type entry.data)
          (attrOffset body r)).toUInt32 := load32_of_holds_at (holds_at_store _ _ _)
  rw [stored, header, UInt32.toNat_add, front, added]
  omega

theorem records_append (attributes : List Attribute) (entry : Attribute) :
    PaddedRecord.encodeAll (records (attributes ++ [entry])) =
      PaddedRecord.encodeAll (records attributes) ++ entry.record.encode := by
  simp [records, PaddedRecord.encodeAll]

theorem filled_step (filled : Filled body start r attributes)
    (room : filledSize attributes + entry.record.paddedSize ≤ bufSize) :
    Filled body start (addRouterAttribute body r entry.type entry.data)
      (attributes ++ [entry]) := by
  have padded := entry.record.size_le_padded
  have place := body.buf_offset_cases
  have total : (PaddedRecord.encodeAll (records attributes)).length = filledSize attributes :=
    PaddedRecord.encode_all_length _
  constructor
  · rw [add_router_attribute_length filled room, filled_size_append, Nat.add_assoc]
  · rw [records_append, holds_at_append, total, PaddedRecord.encode, holds_at_append,
      PaddedRecord.front_length, holds_at_replicate]
    refine ⟨?_, ?_, ?_⟩
    · apply holds_at_congr _ filled.held
      intro index above below
      rw [add_router_attribute_behind _ _ _ _ (by omega),
        write_attribute_apart filled room (.inl (by omega))]
    · apply holds_at_congr _ (write_attribute_holds filled room)
      intro index above below
      rw [add_router_attribute_behind _ _ _ _ (by omega)]
    · intro index above below
      rw [add_router_attribute_behind _ _ _ _ (by omega),
        write_attribute_apart filled room (.inr above)]
      exact filled.zero index (by omega) (by omega)
  · intro index above below
    rw [filled_size_append] at above
    rw [add_router_attribute_behind _ _ _ _ (by omega),
      write_attribute_apart filled room (.inr (by omega))]
    exact filled.zero index (by omega) below
  · intro index behind outside
    rw [add_router_attribute_behind _ _ _ _ behind,
      write_attribute_apart filled room (by omega)]
    exact filled.kept index behind outside

/-! ## All attributes -/

/-- Adding attributes to a request that has some adds them behind these. -/
theorem filled_run (filled : Filled body start r attributes) (later : List Attribute)
    (room : filledSize (attributes ++ later) ≤ bufSize) :
    Filled body start (addAttributes body r later) (attributes ++ later) := by
  induction later generalizing r attributes with
  | nil =>
      rw [List.append_nil]
      exact filled
  | cons entry later ih =>
      rw [List.append_cons] at room ⊢
      have first : filledSize (attributes ++ [entry]) ≤ bufSize :=
        Nat.le_trans (filled_size_le _ _) room
      rw [filled_size_append] at first
      exact ih (filled_step filled first) room

/-- All three writes of an attribute lie in the buffer. -/
theorem writes_in_buffer (filled : Filled body start r attributes)
    (room : filledSize attributes + entry.record.paddedSize ≤ bufSize)
    {write : Nat × List UInt8}
    (member : write ∈ attributeWrites body r entry.type entry.data) :
    body.bufOffset.toNat ≤ write.1 ∧
      write.1 + write.2.length ≤ body.bufOffset.toNat + bufSize := by
  have padded := entry.record.size_le_padded
  have size : entry.record.size = 4 + entry.data.length := rfl
  unfold attributeWrites at member
  dsimp only at member
  rw [attr_offset_eq filled (Nat.le_of_add_right_le room), rta_data_eq] at member
  simp only [List.mem_cons, List.not_mem_nil, or_false] at member
  rcases member with type | length | data
  · rw [type, bytes16_length]
    dsimp only
    omega
  · rw [length, bytes16_length]
    dsimp only
    omega
  · rw [data]
    simp only [PaddedRecord.headerSize]
    omega

/-- The attributes behind the body, by `RTA_OK` and `RTA_NEXT`, up to the end that `nlmsg_len`
names. -/
def walkAttributes (body : RequestBody) (r : Memory) (rounds : Nat) :
    Option (List PaddedRecord × Int) :=
  let first := (nlmsgHdrlen + nlmsgAlign body.size).toNat
  PaddedRecord.walk r rounds first ((nlmsgLen r).toNat - first)

theorem first_attribute (body : RequestBody) :
    (nlmsgHdrlen + nlmsgAlign body.size).toNat = body.bufOffset.toNat := by
  cases body with
  | ifaddrmsg => decide +kernel
  | rtmsg => decide +kernel
  | ndmsg => decide +kernel

/-- The attributes of a filled request are read back, in order, and nothing is left. -/
theorem walk_filled (filled : Filled body start r attributes)
    (fits : filledSize attributes ≤ bufSize) {rounds : Nat}
    (enough : attributes.length < rounds) :
    walkAttributes body r rounds = some (records attributes, 0) := by
  have total : (PaddedRecord.encodeAll (records attributes)).length = filledSize attributes :=
    PaddedRecord.encode_all_length _
  have remaining : ((nlmsgLen r).toNat : Int) - body.bufOffset.toNat =
      (PaddedRecord.encodeAll (records attributes)).length := by
    rw [filled.length, total]
    omega
  unfold walkAttributes
  dsimp only
  rw [first_attribute, remaining]
  apply PaddedRecord.walk_encode_all _ filled.held
  · rw [records, List.length_map]
    exact enough
  · intro record member
    obtain ⟨entry, present, same⟩ := List.mem_map.mp member
    obtain ⟨before, after, split⟩ := List.append_of_mem present
    rw [← same]
    exact record_small (room_of_split split fits)

/-- The type of an attribute is stored as it is, if it fits in 16 bits. -/
theorem record_tag (entry : Attribute) (natural : 0 ≤ entry.type.toInt)
    (small : entry.type.toInt < 65536) : (entry.record.tag.toNat : Int) = entry.type.toInt := by
  have value : entry.type.toInt = _ := BitVec.toInt_eq_toNat_cond entry.type.toBitVec
  have word : entry.record.tag.toNat = entry.type.toBitVec.toNat % 2 ^ 16 :=
    UInt32.toNat_toUInt16 _
  have bound := entry.type.toBitVec.isLt
  rw [word]
  split_ifs at value with low
  · omega
  · omega

/-- The attributes of a request are written inside its buffer, `nlmsg_len` ends behind them, and
walking them gives back the list. -/
theorem attributes_read_back (fresh : Fresh body r) (fits : filledSize attributes ≤ bufSize) :
    (∀ before entry after, attributes = before ++ entry :: after →
      ∀ write ∈ attributeWrites body (addAttributes body r before) entry.type entry.data,
        body.bufOffset.toNat ≤ write.1 ∧
          write.1 + write.2.length ≤ body.bufOffset.toNat + bufSize) ∧
      (nlmsgLen (addAttributes body r attributes)).toNat =
        (nlmsgAlign (nlmsgLength body.size)).toNat + filledSize attributes ∧
      (∀ rounds, attributes.length < rounds →
        walkAttributes body (addAttributes body r attributes) rounds =
          some (records attributes, 0)) ∧
      ∀ entry ∈ attributes, 0 ≤ entry.type.toInt → entry.type.toInt < 65536 →
        (entry.record.tag.toNat : Int) = entry.type.toInt := by
  have filled : Filled body r (addAttributes body r attributes) attributes :=
    filled_run (filled_fresh fresh) attributes fits
  refine ⟨?_, ?_, ?_, fun entry _ => record_tag entry⟩
  · intro before entry after split write member
    have room := room_of_split split fits
    have earlier : Filled body r (addAttributes body r before) before :=
      filled_run (filled_fresh fresh) before (Nat.le_of_add_right_le room)
    exact writes_in_buffer earlier room member
  · have place := body.buf_offset_cases
    have length := body.nlmsg_length_toNat
    rw [nlmsg_align_toNat (by omega) (by omega), length]
    exact filled.length
  · exact fun rounds enough => walk_filled filled fits enough

end Step

/-- A route to an address of 16 bytes through the interface with index 3, with one byte more for
an attribute that needs padding. -/
def routeAttributes : List Attribute :=
  [⟨1, List.replicate 16 7⟩, ⟨4, bytes32 3⟩, ⟨5, [9]⟩]

theorem attributes_read_back_route :
    walkAttributes .rtmsg (addAttributes .rtmsg (newRequest .rtmsg 24 0x401 (List.replicate 12 0))
        routeAttributes) 4 =
      some ([⟨1, List.replicate 16 7⟩, ⟨4, [3, 0, 0, 0]⟩, ⟨5, [9]⟩], 0) := by
  have fresh : Fresh .rtmsg (newRequest .rtmsg 24 0x401 (List.replicate 12 0)) :=
    new_request_fresh (by decide) 24 0x401
  obtain ⟨-, -, read, -⟩ := attributes_read_back fresh
    (show filledSize routeAttributes ≤ bufSize by decide)
  exact (read 4 (by decide)).trans (by decide)

end RedroidExt.Netlink
