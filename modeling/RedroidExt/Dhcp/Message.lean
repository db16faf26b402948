import RedroidExt.Library.Loop
import RedroidExt.Library.TagLengthValue

/-!
# DHCP messages

`dhcp.h`, `message.h` and `message.cpp`: the byte layout of a message, its
accessors, the validity tests and the five messages that are built. The host is
little-endian, so a word read through a pointer is `load32`, and `htonl` and
`ntohl` are `swap32`. `dhcpData` is the memory from the start of the struct on:
the first 1260 offsets are the struct, later ones whatever lies behind it.
-/

namespace RedroidExt.Dhcp

open RedroidExt.Library RedroidExt.Library.ByteMemory

set_option autoImplicit false

abbrev InAddr := UInt32

/-- `uint8_t[ETH_ALEN]`. -/
abbrev MacAddress := Fin 6 → UInt8

/-! ## dhcp.h -/

abbrev portBootpServer : UInt16 := 67
abbrev portBootpClient : UInt16 := 68

abbrev opBootRequest : UInt8 := 1
abbrev opBootReply : UInt8 := 2

abbrev flagsBroadcast : UInt16 := 0x8000

abbrev htypeEther : UInt8 := 1
abbrev ethAlen : UInt8 := 6

abbrev optCookie1 : UInt8 := 0x63
abbrev optCookie2 : UInt8 := 0x82
abbrev optCookie3 : UInt8 := 0x53
abbrev optCookie4 : UInt8 := 0x63

abbrev optPad : UInt8 := 0
abbrev optSubnetMask : UInt8 := 1
abbrev optGateway : UInt8 := 3
abbrev optDns : UInt8 := 6
abbrev optMtu : UInt8 := 26
abbrev optBroadcastAddr : UInt8 := 28
abbrev optRequestedIp : UInt8 := 50
abbrev optLeaseTime : UInt8 := 51
abbrev optMessageType : UInt8 := 53
abbrev optServerId : UInt8 := 54
abbrev optParameterList : UInt8 := 55
abbrev optT1 : UInt8 := 58
abbrev optT2 : UInt8 := 59
abbrev optEnd : UInt8 := 255

abbrev dhcpDiscover : UInt8 := 1
abbrev dhcpOffer : UInt8 := 2
abbrev dhcpRequest : UInt8 := 3
abbrev dhcpAck : UInt8 := 5
abbrev dhcpNak : UInt8 := 6

abbrev inAddrBroadcast : InAddr := 0xFFFFFFFF

def kDefaultLeaseTime : UInt32 := 10 * 60

def kRequestParameters : List UInt8 :=
  [optSubnetMask, optGateway, optDns, optBroadcastAddr, optLeaseTime, optT1, optT2, optMtu]

structure Message where
  dhcpData : Memory
  mSize : Nat

namespace Message

/-- `sizeof(dhcpData)`. -/
abbrev capacity : Nat := 1260

def op (message : Message) : UInt8 := message.dhcpData 0

def htype (message : Message) : UInt8 := message.dhcpData 1

def hlen (message : Message) : UInt8 := message.dhcpData 2

def xid (message : Message) : UInt32 := load32 message.dhcpData 4

def flags (message : Message) : UInt16 := load16 message.dhcpData 10

def yiaddr (message : Message) : InAddr := load32 message.dhcpData 16

def giaddr (message : Message) : InAddr := load32 message.dhcpData 24

/-- The first `ETH_ALEN` bytes of `chaddr`, all that is ever read of it. -/
def chaddr (message : Message) : MacAddress := fun index => message.dhcpData (28 + index.val)

/-- The options field starts at offset 236. -/
def options (message : Message) (index : Nat) : UInt8 := message.dhcpData (236 + index)

/-- The bytes from `data()` to `end()`. -/
def bytes (message : Message) : List UInt8 := load message.dhcpData 0 message.mSize

/-- `Message::Message()`; `behind` is the memory after the struct, which it does not clear. -/
def init (behind : Memory) : Message where
  dhcpData := fun index => if index < capacity then 0 else behind index
  mSize := 0

/-! ## Validity and accessors -/

def isValidDhcpMessage (message : Message) (expectedOp : UInt8) : Bool :=
  -- room for the four cookie bytes of the options
  if message.mSize < 240 then false
  else if message.op ≠ expectedOp then false
  else if message.htype ≠ htypeEther then false
  else if message.hlen ≠ ethAlen then false
  else if message.options 0 ≠ optCookie1 then false
  else if message.options 1 ≠ optCookie2 then false
  else if message.options 2 ≠ optCookie3 then false
  else if message.options 3 ≠ optCookie4 then false
  else true

/-- The overload that also takes the expected transaction id. -/
def isValidDhcpMessageXid (message : Message) (expectedOp : UInt8) (expectedXid : UInt32) : Bool :=
  if ¬ message.isValidDhcpMessage expectedOp then false
  else if message.xid ≠ expectedXid then false
  else true

def optionsSize (message : Message) : Nat :=
  if message.mSize ≤ 236 then 0 else message.mSize - 236

/-- One round of the scan in `getOption`: the position of the payload and its length byte,
or the next position. -/
def getOptionStep (message : Message) (expectedOptCode : UInt8) (i : Nat) :
    Nat ⊕ Option (Nat × UInt8) :=
  if i + 2 < message.optionsSize then
    let optCode := message.options i
    let optLen := message.options (i + 1)
    if optCode = optEnd then .inr none
    else if optCode = expectedOptCode then .inr (some (i + 2, optLen))
    else .inl (i + (2 + optLen.toNat))
  else .inr none

def getOption (message : Message) (expectedOptCode : UInt8) : Option (Nat × UInt8) :=
  (Loop.run (getOptionStep message expectedOptCode) (message.optionsSize + 1) 4).getD none

def type (message : Message) : UInt8 :=
  match message.getOption optMessageType with
  | some (opt, length) => if length = 1 then message.options opt else 0
  | none => 0

/-- An option read as an address through the payload pointer. The four bytes are read
wherever the payload starts, also past the end of the message. -/
def addressOption (message : Message) (optCode : UInt8) : InAddr :=
  match message.getOption optCode with
  | some (opt, length) => if length = 4 then load32 message.dhcpData (236 + opt) else 0
  | none => 0

def serverId (message : Message) : InAddr := message.addressOption optServerId

def requestedIp (message : Message) : InAddr := message.addressOption optRequestedIp

/-! ## Building messages -/

/-- The private constructor; the caller counts `sNextTransactionId` up. -/
def construct (operation : UInt8) (macAddress : MacAddress) (type : UInt8)
    (sNextTransactionId : UInt32) : Message :=
  let dhcpData : Memory := fun _ => 0
  let dhcpData := store dhcpData 0 [operation]
  let dhcpData := store dhcpData 1 [htypeEther]
  let dhcpData := store dhcpData 2 [ethAlen]
  let dhcpData := store dhcpData 3 [0]
  let dhcpData := store dhcpData 10 (bytes16 (swap16 flagsBroadcast))
  let dhcpData := store dhcpData 4 (bytes32 (swap32 sNextTransactionId))
  let dhcpData := store dhcpData 28 (List.ofFn macAddress)
  let dhcpData := store dhcpData 236 [optCookie1, optCookie2, optCookie3, optCookie4]
  let dhcpData := store dhcpData 240 [optMessageType, 1, type]
  { dhcpData := dhcpData, mSize := 243 }

/-- `addOption(type, data, size)`; the size is a byte, so `memcpy` takes its value modulo 256. -/
def addOption (message : Message) (type : UInt8) (data : List UInt8) : Message :=
  let size := UInt8.ofNat data.length
  { dhcpData := store message.dhcpData message.mSize (type :: size :: data.take size.toNat)
    mSize := message.mSize + (2 + size.toNat) }

def endOptions (message : Message) : Message where
  dhcpData := store message.dhcpData message.mSize [optEnd]
  mSize := message.mSize + 1

def discover (sourceMac : MacAddress) (sNextTransactionId : UInt32) : Message :=
  let message := construct opBootRequest sourceMac dhcpDiscover sNextTransactionId
  let message := message.addOption optParameterList kRequestParameters
  message.endOptions

def request (sourceMac : MacAddress) (requestAddress serverAddress : InAddr)
    (sNextTransactionId : UInt32) : Message :=
  let message := construct opBootRequest sourceMac dhcpRequest sNextTransactionId
  let message := message.addOption optParameterList kRequestParameters
  let message := message.addOption optRequestedIp (bytes32 requestAddress)
  let message := message.addOption optServerId (bytes32 serverAddress)
  message.endOptions

/-- The fields that every reply copies from the message it answers. -/
def reply (sourceMessage : Message) (type : UInt8) (yiaddr : InAddr)
    (sNextTransactionId : UInt32) : Message :=
  let message := construct opBootReply sourceMessage.chaddr type sNextTransactionId
  let dhcpData := message.dhcpData
  let dhcpData := store dhcpData 4 (bytes32 sourceMessage.xid)
  let dhcpData := store dhcpData 10 (bytes16 sourceMessage.flags)
  let dhcpData := store dhcpData 16 (bytes32 yiaddr)
  let dhcpData := store dhcpData 24 (bytes32 sourceMessage.giaddr)
  { message with dhcpData := dhcpData }

/-- What `offer` and `ack` share: they differ in the message type only. -/
def grant (type : UInt8) (sourceMessage : Message)
    (serverAddress offeredAddress offeredNetmask offeredGateway : InAddr)
    (offeredDnsServers : List InAddr) (sNextTransactionId : UInt32) : Message :=
  let message := sourceMessage.reply type offeredAddress sNextTransactionId
  let message := message.addOption optServerId (bytes32 serverAddress)
  let message := message.addOption optLeaseTime (bytes32 kDefaultLeaseTime)
  let message := message.addOption optSubnetMask (bytes32 offeredNetmask)
  let message := message.addOption optGateway (bytes32 offeredGateway)
  let message := message.addOption optDns (offeredDnsServers.map bytes32).flatten
  message.endOptions

def offer (sourceMessage : Message)
    (serverAddress offeredAddress offeredNetmask offeredGateway : InAddr)
    (offeredDnsServers : List InAddr) (sNextTransactionId : UInt32) : Message :=
  sourceMessage.grant dhcpOffer serverAddress offeredAddress offeredNetmask offeredGateway
    offeredDnsServers sNextTransactionId

def ack (sourceMessage : Message)
    (serverAddress offeredAddress offeredNetmask offeredGateway : InAddr)
    (offeredDnsServers : List InAddr) (sNextTransactionId : UInt32) : Message :=
  sourceMessage.grant dhcpAck serverAddress offeredAddress offeredNetmask offeredGateway
    offeredDnsServers sNextTransactionId

/-- A NAK leaves `yiaddr` zero, as the constructor cleared it. -/
def nack (sourceMessage : Message) (serverAddress : InAddr) (sNextTransactionId : UInt32) :
    Message :=
  let message := sourceMessage.reply dhcpNak 0 sNextTransactionId
  let message := message.addOption optServerId (bytes32 serverAddress)
  message.endOptions

end Message

end RedroidExt.Dhcp
