import RedroidExt.Netlink.Attributes
import RedroidExt.Dhcp.Interface
import RedroidExt.Ipv6Proxy.Proxy

/-!
# The requests that are sent

What the client's `Interface` and `Router` and the proxy's `Router` ask of the kernel.
-/

namespace RedroidExt.Netlink

open RedroidExt.Library RedroidExt.Library.ByteMemory

set_option autoImplicit false

/-- A request whose attributes fit into its buffer. -/
structure Request where
  body : RequestBody
  nlmsgType : UInt16
  nlmsgFlags : UInt16
  msg : List UInt8
  attributes : List Attribute
  sized : msg.length = body.size.toNat
  fits : filledSize attributes ≤ bufSize

namespace Request

def start (request : Request) : Memory :=
  newRequest request.body request.nlmsgType request.nlmsgFlags request.msg

def memory (request : Request) : Memory :=
  addAttributes request.body request.start request.attributes

/-- The bytes that are given to `sendto`: as many as `nlmsg_len` says. -/
def sent (request : Request) : List UInt8 := load request.memory 0 (nlmsgLen request.memory).toNat

theorem memory_filled (request : Request) :
    Filled request.body request.start request.memory request.attributes :=
  filled_run (filled_fresh (new_request_fresh request.sized _ _)) request.attributes request.fits

/-- A receiver finds the attributes that were added. -/
theorem attributes_read (request : Request) {rounds : Nat}
    (enough : request.attributes.length < rounds) :
    walkAttributes request.body request.memory rounds = some (records request.attributes, 0) :=
  walk_filled request.memory_filled request.fits enough

/-- The rest of the header, and the body. -/
def front (request : Request) : List UInt8 :=
  bytes16 request.nlmsgType ++ bytes16 request.nlmsgFlags ++ List.replicate 8 0 ++ request.msg

theorem front_length (request : Request) :
    4 + request.front.length = request.body.bufOffset.toNat := by
  have header : nlmsghdrSize.toNat = 16 := rfl
  rw [request.body.buf_offset_eq, header]
  simp only [front, List.length_append, bytes16_length, List.length_replicate, request.sized]
  omega

theorem start_holds (request : Request) : HoldsAt request.start 4 request.front := by
  have header : nlmsghdrSize.toNat = 16 := rfl
  unfold front start newRequest
  rw [header]
  simp only [holds_at_append, List.length_append, bytes16_length, List.length_replicate]
  refine ⟨⟨⟨?_, ?_⟩, ?_⟩, holds_at_store _ _ _⟩
  · apply holds_at_store_disjoint (.inl (by rw [bytes16_length]; decide))
    apply holds_at_store_disjoint (.inl (by rw [bytes16_length]))
    exact holds_at_store _ _ _
  · apply holds_at_store_disjoint (.inl (by rw [bytes16_length]; decide))
    exact holds_at_store _ _ _
  · rw [holds_at_replicate]
    intro index above below
    rw [store_outside _ _ _ _ (.inl (by omega)),
      store_outside _ _ _ _ (.inr (by rw [bytes16_length]; omega)),
      store_outside _ _ _ _ (.inr (by rw [bytes16_length]; omega)),
      store_outside _ _ _ _ (.inr (by rw [bytes32_length]; omega))]

/-- What is sent is the header, the body and the attributes, and ends behind the last of them. -/
theorem sent_eq (request : Request) :
    request.sent = bytes32 (nlmsgLen request.memory) ++ request.front ++
      PaddedRecord.encodeAll (records request.attributes) := by
  have filled := request.memory_filled
  have length := request.front_length
  have place := request.body.buf_offset_cases
  have total : (PaddedRecord.encodeAll (records request.attributes)).length =
      filledSize request.attributes := PaddedRecord.encode_all_length _
  have held : HoldsAt request.memory 0 (bytes32 (nlmsgLen request.memory) ++ request.front ++
      PaddedRecord.encodeAll (records request.attributes)) := by
    rw [holds_at_append, holds_at_append, List.length_append, bytes32_length, length, Nat.zero_add,
      Nat.zero_add]
    refine ⟨⟨holds_at_load32 _ 0, ?_⟩, filled.held⟩
    apply holds_at_congr _ request.start_holds
    intro index above below
    exact (filled.kept index above (.inl (by omega))).symm
  have whole := load_eq_of_holds_at held
  rw [List.length_append, List.length_append, bytes32_length, length, total, ← filled.length]
    at whole
  exact whole

end Request

/-! ## Constants of the Linux headers -/

def rtmNewroute : UInt16 := 24
def rtmNewaddr : UInt16 := 20
def rtmNewneigh : UInt16 := 28

def nlmFRequest : UInt16 := 0x1
def nlmFAck : UInt16 := 0x4
def nlmFReplace : UInt16 := 0x100
def nlmFCreate : UInt16 := 0x400

def afInet : UInt8 := 2
def afInet6 : UInt8 := 10

def rtTableMain : UInt8 := 254
def rtprotBoot : UInt8 := 3
def rtprotRa : UInt8 := 9
def rtScopeUniverse : UInt8 := 0
def rtnUnicast : UInt8 := 1

def nudPermanent : UInt16 := 0x80
def ntfProxy : UInt8 := 0x08

def ifaAddress : Int32 := 1
def ifaLocal : Int32 := 2
def ifaBroadcast : Int32 := 4

def rtaDst : Int32 := 1
def rtaSrc : Int32 := 2
def rtaOif : Int32 := 4
def rtaGateway : Int32 := 5

def ndaDst : Int32 := 1

/-! ## Bodies -/

/-- `struct ifaddrmsg`; the flags and the scope stay zero. -/
def ifaddrmsg (family prefixlen : UInt8) (index : UInt32) : List UInt8 :=
  [family, prefixlen, 0, 0] ++ bytes32 index

/-- `struct rtmsg`; the source length, the service and the flags stay zero. -/
def rtmsg (family dstLen protocol : UInt8) : List UInt8 :=
  [family, dstLen, 0, 0, rtTableMain, protocol, rtScopeUniverse, rtnUnicast] ++ bytes32 0

/-- `struct ndmsg`; the padding and the type stay zero. -/
def ndmsg (family : UInt8) (ifindex : UInt32) (state : UInt16) (flags : UInt8) : List UInt8 :=
  [family, 0, 0, 0] ++ bytes32 ifindex ++ bytes16 state ++ [flags, 0]

/-- What an attribute with data of the size takes. -/
theorem record_padded (type : Int32) {data : List UInt8} {size : Nat} (sized : data.length = size) :
    (Attribute.record ⟨type, data⟩).paddedSize = alignUp 4 (PaddedRecord.headerSize + size) := by
  rw [← sized]
  rfl

/-! ## The DHCP client -/

namespace ClientInterface

/-- `Interface::setAddress`. -/
def setAddress (mIndex : UInt32) (address subnetMask : Dhcp.InAddr) : Request where
  body := .ifaddrmsg
  nlmsgType := rtmNewaddr
  nlmsgFlags := nlmFRequest ||| nlmFAck ||| nlmFCreate ||| nlmFReplace
  msg := ifaddrmsg afInet (.ofNat (Dhcp.Host.popcount subnetMask)) mIndex
  attributes := [⟨ifaAddress, bytes32 address⟩, ⟨ifaLocal, bytes32 address⟩,
    ⟨ifaBroadcast, bytes32 (Dhcp.Host.broadcastFromNetmask address subnetMask)⟩]
  sized := rfl
  fits := by
    simp only [filledSize, records, List.map_cons, List.map_nil,
      record_padded _ (bytes32_length _)]
    decide

/-- The request carries the address, the broadcast address and the prefix length that a kernel
which applies it gives to the interface. -/
theorem set_address_read (host : Dhcp.Host) (mIndex : UInt32) (address subnetMask : Dhcp.InAddr)
    {rounds : Nat} (enough : 3 < rounds) :
    walkAttributes .ifaddrmsg (setAddress mIndex address subnetMask).memory rounds =
        some ([⟨1, bytes32 (host.withAddress address subnetMask).address⟩,
          ⟨2, bytes32 (host.withAddress address subnetMask).address⟩,
          ⟨4, bytes32 (host.withAddress address subnetMask).broadcast⟩], 0) ∧
      HoldsAt (setAddress mIndex address subnetMask).memory nlmsghdrSize.toNat
        [afInet, .ofNat (host.withAddress address subnetMask).prefixLength] := by
  constructor
  · exact (setAddress mIndex address subnetMask).attributes_read enough
  · have filled := (setAddress mIndex address subnetMask).memory_filled
    have body := ((holds_at_append _ _ _ _).mp
      (setAddress mIndex address subnetMask).start_holds).2
    have first : (16 : Nat) < RequestBody.ifaddrmsg.bufOffset.toNat := by decide
    have second : (17 : Nat) < RequestBody.ifaddrmsg.bufOffset.toNat := by decide
    refine ⟨?_, ?_, trivial⟩
    · exact (filled.kept 16 (by decide) (.inl first)).trans body.1
    · exact (filled.kept 17 (by decide) (.inl second)).trans body.2.1

end ClientInterface

namespace ClientRouter

def setDefaultGateway (gateway : Dhcp.InAddr) (ifaceIndex : UInt32) : Request where
  body := .rtmsg
  nlmsgType := rtmNewroute
  nlmsgFlags := nlmFRequest ||| nlmFCreate
  msg := rtmsg afInet 0 rtprotBoot
  attributes := [⟨rtaGateway, bytes32 gateway⟩, ⟨rtaOif, bytes32 ifaceIndex⟩]
  sized := rfl
  fits := by
    simp only [filledSize, records, List.map_cons, List.map_nil,
      record_padded _ (bytes32_length _)]
    decide

end ClientRouter

/-! ## The proxy -/

namespace ProxyRouter

variable (address : Ipv6Proxy.In6Addr) (whole : address.length = 16)

def addNeighbor (interfaceIndex : UInt32) : Request where
  body := .ndmsg
  nlmsgType := rtmNewneigh
  nlmsgFlags := nlmFRequest ||| nlmFCreate
  msg := ndmsg afInet6 interfaceIndex nudPermanent ntfProxy
  attributes := [⟨ndaDst, address⟩]
  sized := rfl
  fits := by
    simp only [filledSize, records, List.map_cons, List.map_nil, record_padded _ whole]
    decide

def addRoute (bits : UInt8) (ifaceIndex : UInt32) : Request where
  body := .rtmsg
  nlmsgType := rtmNewroute
  nlmsgFlags := nlmFRequest ||| nlmFCreate
  msg := rtmsg afInet6 bits rtprotRa
  attributes := [⟨rtaDst, address⟩, ⟨rtaOif, bytes32 ifaceIndex⟩]
  sized := rfl
  fits := by
    simp only [filledSize, records, List.map_cons, List.map_nil, record_padded _ whole,
      record_padded _ (bytes32_length _)]
    decide

def setDefaultGateway (ifaceIndex : UInt32) : Request where
  body := .rtmsg
  nlmsgType := rtmNewroute
  nlmsgFlags := nlmFRequest ||| nlmFCreate
  msg := rtmsg afInet6 0 rtprotRa
  attributes := [⟨rtaGateway, address⟩, ⟨rtaOif, bytes32 ifaceIndex⟩,
    ⟨rtaSrc, List.replicate 16 0⟩]
  sized := rfl
  fits := by
    simp only [filledSize, records, List.map_cons, List.map_nil, record_padded _ whole,
      record_padded _ (bytes32_length _), record_padded _ List.length_replicate]
    decide

end ProxyRouter

end RedroidExt.Netlink
