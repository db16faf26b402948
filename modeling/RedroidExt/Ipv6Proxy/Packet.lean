import RedroidExt.Library.ByteMemory
import RedroidExt.Library.Walk

/-!
# Neighbour discovery packets

`message.h`, `packet.h` and `packet.cpp` of the IPv6 proxy. A pointer into the
message is its offset from `data()`, a null pointer is `none`. `mData` is the memory
from `data()` on: the buffer's 8192 bytes, later ones whatever lies behind it.
-/

namespace RedroidExt.Ipv6Proxy

open RedroidExt.Library RedroidExt.Library.ByteMemory

set_option autoImplicit false

structure Message where
  mData : Memory
  mSize : Nat

/-- `sizeof(mData)`. -/
abbrev Message.capacity : Nat := 8192

/-- What `recv` leaves in the buffer. -/
def Message.receive (message : Message) (received : List UInt8) : Message where
  mData := store message.mData 0 (received.take Message.capacity)
  mSize := min received.length Message.capacity

/-! ## Header sizes and codes -/

/-- `sizeof(ip6_hdr)`. -/
abbrev ip6HdrSize : Nat := 40

/-- `sizeof(icmp6_hdr)`. -/
abbrev icmp6HdrSize : Nat := 8

/-- `sizeof(nd_opt_hdr)`. -/
abbrev ndOptHdrSize : Nat := 2

abbrev ipprotoIcmpv6 : UInt8 := 58

abbrev ndRouterSolicit : UInt8 := 133
abbrev ndRouterAdvert : UInt8 := 134
abbrev ndNeighborSolicit : UInt8 := 135
abbrev ndNeighborAdvert : UInt8 := 136

inductive PacketType where
  | neighborSolicitation
  | neighborAdvertisement
  | routerSolicitation
  | routerAdvertisement
  | other
  deriving DecidableEq

/-- The size of the ICMPv6 message in front of the options, ICMPv6 header included. -/
def PacketType.headerSize : PacketType → Nat
  | .routerSolicitation => 8
  | .routerAdvertisement => 16
  | .neighborSolicitation => 24
  | .neighborAdvertisement => 24
  | .other => 0

/-- The switch over `icmp6_type`. -/
def packetTypeOf (icmp6Type : UInt8) : PacketType :=
  if icmp6Type = ndRouterSolicit then .routerSolicitation
  else if icmp6Type = ndRouterAdvert then .routerAdvertisement
  else if icmp6Type = ndNeighborSolicit then .neighborSolicitation
  else if icmp6Type = ndNeighborAdvert then .neighborAdvertisement
  else .other

namespace Message

def ip6Nxt (message : Message) : UInt8 := message.mData 6

def ip6Version (message : Message) : UInt8 := (message.mData 0 &&& 0xF0) >>> 4

def icmp6Type (message : Message) : UInt8 := message.mData 40

def icmp6Code (message : Message) : UInt8 := message.mData 41

def ndOptType (message : Message) (opt : Nat) : UInt8 := message.mData opt

def ndOptLen (message : Message) (opt : Nat) : UInt8 := message.mData (opt + 1)

/-- Behind an option: its length is in units of 8 bytes. -/
def optEnd (message : Message) (opt : Nat) : Nat := opt + (message.ndOptLen opt).toNat * 8

end Message

/-- Without the reference to the message, which the functions take as an argument, and the
pointers to its two headers, which are at offsets 0 and 40. -/
structure Packet where
  mType : PacketType
  mFirstOpt : Option Nat

namespace Packet

def other : Packet where
  mType := .other
  mFirstOpt := none

/-- The constructor. -/
def ofMessage (message : Message) : Packet :=
  if message.mSize < ip6HdrSize + icmp6HdrSize then other
  else if message.ip6Version ≠ 6 ∨ message.ip6Nxt ≠ ipprotoIcmpv6 then other
  else if message.icmp6Code ≠ 0 then other
  else
    let type := packetTypeOf message.icmp6Type
    if type = .other then other
    else if message.mSize - ip6HdrSize < type.headerSize then other
    else
      let options := ip6HdrSize + type.headerSize
      { mType := type
        mFirstOpt :=
          if options + ndOptHdrSize < message.mSize ∧ message.optEnd options ≤ message.mSize then
            some options
          else none }

def firstOpt (packet : Packet) : Option Nat := packet.mFirstOpt

def nextOpt (packet : Packet) (message : Message) (current : Nat) : Option Nat :=
  -- a null `mFirstOpt` is below every pointer
  if current < packet.mFirstOpt.getD 0 ∨ current ≥ message.mSize then none
  else
    let next := message.optEnd current
    if next ≥ message.mSize then none
    else if message.optEnd next > message.mSize then none
    else some next

/-- The loop over the options; `view` finds the message in the loop's state. -/
def forEachOption {State : Type} (packet : Packet) (view : State → Message)
    (body : Nat → State → State) (rounds : Nat) (state : State) : Option State :=
  Walk.forEach (fun state => packet.nextOpt (view state)) body rounds packet.firstOpt state

end Packet

end RedroidExt.Ipv6Proxy
