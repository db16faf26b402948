import RedroidExt.Dhcp.MessageReads

/-!
# Receiving a datagram or a raw frame

`Socket::receiveFromInterface` and `Socket::receiveRawUdp`: both overwrite the
front of the message they are given and leave the rest of its buffer as it was.
-/

namespace RedroidExt.Dhcp

open RedroidExt.Library RedroidExt.Library.ByteMemory

set_option autoImplicit false

/-- `recvmsg` into `data()` with room for `capacity()` bytes, then `setSize`. -/
def receiveFromInterface (message : Message) (datagram : List UInt8) : Message where
  dhcpData := store message.dhcpData 0 (datagram.take Message.capacity)
  mSize := min datagram.length Message.capacity

/-- `IPVERSION`, the header length in words and `IPPROTO_UDP`. -/
abbrev ipVersion : UInt8 := 4
abbrev ipHeaderWords : UInt8 := 5
abbrev ipProtoUdp : UInt8 := 17

/-- `sizeof(iphdr) + sizeof(udphdr)`. -/
abbrev rawHeaderSize : Nat := 28

/-- The test on the two headers; `version` is the high and `ihl` the low half of the first byte. -/
def rawHeaderValid (expectedPort : UInt16) (frame : List UInt8) : Bool :=
  frame.getD 0 0 >>> 4 = ipVersion ∧ frame.getD 0 0 &&& 15 = ipHeaderWords ∧
    frame.getD 9 0 = ipProtoUdp ∧
    word16 (frame.getD 22 0) (frame.getD 23 0) = swap16 expectedPort

/-- `readv` fills the two headers and then the message. Returns the message and `isValid`. -/
def receiveRawUdp (expectedPort : UInt16) (message : Message) (frame : List UInt8) :
    Message × Bool :=
  if frame.length < rawHeaderSize then (message, false)
  else (receiveFromInterface message (frame.drop rawHeaderSize), rawHeaderValid expectedPort frame)

theorem received_bytes (message : Message) (datagram : List UInt8) :
    (receiveFromInterface message datagram).bytes = datagram.take Message.capacity := by
  have held := holds_at_store message.dhcpData 0 (datagram.take Message.capacity)
  have loaded := load_eq_of_holds_at held
  rw [List.length_take, Nat.min_comm] at loaded
  exact loaded

/-- Two receivers of one datagram agree on the message, whatever their buffers held. -/
theorem received_agrees (left right : Message) (datagram : List UInt8) :
    Message.Agrees (receiveFromInterface left datagram) (receiveFromInterface right datagram) := by
  apply Message.agrees_of_bytes
  rw [received_bytes, received_bytes]

/-- A message that fits the buffer arrives as it was sent. -/
theorem received_sent_agrees (buffer sent : Message) (fits : sent.mSize ≤ Message.capacity) :
    Message.Agrees (receiveFromInterface buffer sent.bytes) sent := by
  apply Message.agrees_of_bytes
  rw [received_bytes, List.take_of_length_le]
  rw [Message.bytes_length]
  exact fits

/-- Bytes of the buffer behind the message stay. -/
theorem received_behind (message : Message) (datagram : List UInt8) (index : Nat)
    (behind : (receiveFromInterface message datagram).mSize ≤ index) :
    (receiveFromInterface message datagram).dhcpData index = message.dhcpData index := by
  apply store_outside
  rw [List.length_take, Nat.min_comm]
  exact .inr (Nat.zero_add _ ▸ behind)

/-! ## Frames -/

/-- The headers of a UDP datagram to the port, without addresses and checksums. -/
def udpHeader (port : UInt16) : List UInt8 :=
  [0x45, 0, 0, 0, 0, 0, 0, 0, 64, ipProtoUdp, 0, 0, 0, 0, 0, 0, 0, 0, 0, 0, 0, 67] ++
    bytes16 (swap16 port) ++ [0, 0, 0, 0]

/-- A frame of at least the two headers is received as the payload behind them. -/
theorem receive_raw_udp_payload (expectedPort : UInt16) (message : Message)
    {header payload : List UInt8} (sized : header.length = rawHeaderSize) :
    receiveRawUdp expectedPort message (header ++ payload) =
      (receiveFromInterface message payload, rawHeaderValid expectedPort (header ++ payload)) := by
  unfold receiveRawUdp
  rw [if_neg (by rw [List.length_append]; omega), ← sized, List.drop_left]

end RedroidExt.Dhcp
