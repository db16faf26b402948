import RedroidExt.Dhcp.Socket
import Mathlib.Data.Fintype.Pi

/-!
# The DHCP server

`dhcpserver.cpp` and `lease.h`. Answers of the operating system are arguments:
an interface lookup gives an address or the text of its error. Addresses are
stored in network byte order and computed with in host byte order, as in the
source.
-/

namespace RedroidExt.Dhcp

open RedroidExt.Library RedroidExt.Library.ByteMemory

set_option autoImplicit false

@[ext] structure Lease where
  InterfaceIndex : UInt32
  MacAddress : MacAddress

/-- Written out so that it can be evaluated: a hardware address read from a message is equal to a
constant one byte by byte only. -/
instance : DecidableEq Lease := fun left right =>
  decidable_of_iff
    (left.InterfaceIndex = right.InterfaceIndex ∧ left.MacAddress = right.MacAddress)
    Lease.ext_iff.symm

/-- `map[key] = value`, as `Function.update` but without its cast. -/
def assign {Key Value : Type} [DecidableEq Key] (map : Key → Value) (key : Key) (value : Value) :
    Key → Value :=
  fun other => if other = key then value else map other

theorem assign_eq_update {Key Value : Type} [DecidableEq Key] (map : Key → Value) (key : Key)
    (value : Value) : assign map key value = Function.update map key value := by
  funext other
  rw [Function.update_apply]
  rfl

/-- The two maps of the server. An absent entry reads as zero, which is also the value
`operator[]` creates it with. -/
structure LeaseTables where
  mLeases : Lease → InAddr
  mNextAddressOffsets : UInt32 → InAddr

def LeaseTables.empty : LeaseTables where
  mLeases := fun _ => 0
  mNextAddressOffsets := fun _ => 0

/-- What `getOfferAddress` returns through its pointers. -/
structure OfferAddress where
  address : InAddr
  netmask : InAddr
  gateway : InAddr
  deriving DecidableEq

def isValidHost (address interfaceAddress netmask : InAddr) : Bool :=
  let isNetworkAddress := (address &&& ~~~netmask) = 0
  let isBroadcastAddress := (address &&& ~~~netmask) = ~~~netmask
  let isInterfaceAddress := address = interfaceAddress
  ¬ isNetworkAddress ∧ ¬ isBroadcastAddress ∧ ¬ isInterfaceAddress

def addressInRange (address interfaceAddress netmask : InAddr) : Bool :=
  if address ≤ (interfaceAddress &&& netmask) then false
  else if address ≥ (interfaceAddress ||| ~~~netmask) then false
  else true

/-! ## Allocation -/

/-- The two variables that the search loop advances together. -/
structure AddressSearch where
  nextAddress : InAddr
  offset : InAddr

def searchStep (interfaceAddress mask : InAddr) (search : AddressSearch) :
    AddressSearch ⊕ AddressSearch :=
  if ¬ isValidHost search.nextAddress interfaceAddress mask ∧
      addressInRange search.nextAddress interfaceAddress mask then
    .inl { nextAddress := search.nextAddress + 1, offset := search.offset + 1 }
  else .inr search

/-- Rounds the loop can take: it stops at the latest when `nextAddress` leaves the range. -/
def searchRounds (interfaceAddress mask : InAddr) (search : AddressSearch) : Nat :=
  (interfaceAddress ||| ~~~mask).toNat - search.nextAddress.toNat

def searchAddress (interfaceAddress mask : InAddr) (search : AddressSearch) : AddressSearch :=
  (Loop.run (searchStep interfaceAddress mask)
    (searchRounds interfaceAddress mask search + 1) search).getD search

/-- The offset a search starts from: a zero offset is raised to skip the network address. -/
def startOffset (offset : InAddr) : InAddr := if offset = 0 then offset + 1 else offset

/-- The body of `getOfferAddress` for a key without an address, in host byte order: where the
search stops. -/
def findAddress (interfaceAddress mask offset : InAddr) : AddressSearch :=
  searchAddress interfaceAddress mask
    { nextAddress := (interfaceAddress &&& mask) + startOffset offset
      offset := startOffset offset }

def outOfAddresses : String := "DHCP server is out of addresses"

def getOfferAddress (tables : LeaseTables) (interfaceIndex : UInt32) (macAddress : MacAddress)
    (interfaceAnswer netmaskAnswer : Except String InAddr) :
    Except String OfferAddress × LeaseTables :=
  match interfaceAnswer with
  | .error text => (.error text, tables)
  | .ok interfaceAddress =>
    match netmaskAnswer with
    | .error text => (.error text, tables)
    | .ok mask =>
      let key : Lease := { InterfaceIndex := interfaceIndex, MacAddress := macAddress }
      if tables.mLeases key = 0 then
        let hostAddress := swap32 interfaceAddress
        let hostMask := swap32 mask
        let found := findAddress hostAddress hostMask (tables.mNextAddressOffsets interfaceIndex)
        if addressInRange found.nextAddress hostAddress hostMask then
          let value := swap32 found.nextAddress
          (.ok { address := value, netmask := mask, gateway := interfaceAddress },
            { mLeases := assign tables.mLeases key value
              mNextAddressOffsets :=
                assign tables.mNextAddressOffsets interfaceIndex (found.offset + 1) })
        else
          (.error outOfAddresses,
            { tables with
              mNextAddressOffsets :=
                assign tables.mNextAddressOffsets interfaceIndex found.offset })
      else
        (.ok { address := tables.mLeases key, netmask := mask, gateway := interfaceAddress },
          tables)

/-! ## Handling a message -/

/-- The process: the tables, the DNS servers read last and the counter that
`Message`'s constructor advances. -/
structure DhcpServer where
  tables : LeaseTables
  mDnsServers : List InAddr
  mExcludeInterface : UInt32
  sNextTransactionId : UInt32

/-- What the operating system answers while one message is handled: the n-th call of
`getInterfaceAddress` and of `getInterfaceNetmask`, the system properties, and
`inet_pton` on a property's value. -/
structure HostAnswers where
  interfaceAddress : Nat → Except String InAddr
  interfaceNetmask : Nat → Except String InAddr
  property : String → String
  inetPton : String → Option InAddr

def kMaxDnsServers : Nat := 4

def updateDnsServers (answers : HostAnswers) : List InAddr :=
  (List.range kMaxDnsServers).filterMap fun index =>
    let value := answers.property ("net.eth0.dns" ++ toString (index + 1))
    if value.length > 0 then answers.inetPton value else none

/-- What `sendDhcpOffer` and `sendAck` share. `calls` counts the interface address calls made
before for the same message, each of them paired with a netmask call. -/
def sendGrant (server : DhcpServer) (type : UInt8) (message : Message) (interfaceIndex : UInt32)
    (answers : HostAnswers) (calls : Nat) : Option Message × DhcpServer :=
  let server := { server with mDnsServers := updateDnsServers answers }
  let offered := getOfferAddress server.tables interfaceIndex message.chaddr
    (answers.interfaceAddress calls) (answers.interfaceNetmask calls)
  let server := { server with tables := offered.2 }
  match offered.1 with
  | .error _ => (none, server)
  | .ok offer =>
    match answers.interfaceAddress (calls + 1) with
    | .error _ => (none, server)
    | .ok serverAddress =>
      (some (message.grant type serverAddress offer.address offer.netmask offer.gateway
          server.mDnsServers server.sNextTransactionId),
        { server with sNextTransactionId := server.sNextTransactionId + 1 })

def sendDhcpOffer (server : DhcpServer) (message : Message) (interfaceIndex : UInt32)
    (answers : HostAnswers) : Option Message × DhcpServer :=
  sendGrant server dhcpOffer message interfaceIndex answers 0

def sendAck (server : DhcpServer) (message : Message) (interfaceIndex : UInt32)
    (answers : HostAnswers) (calls : Nat) : Option Message × DhcpServer :=
  sendGrant server dhcpAck message interfaceIndex answers calls

def sendNack (server : DhcpServer) (message : Message) (answers : HostAnswers) (calls : Nat) :
    Option Message × DhcpServer :=
  match answers.interfaceAddress calls with
  | .error _ => (none, server)
  | .ok serverAddress =>
    (some (message.nack serverAddress server.sNextTransactionId),
      { server with sNextTransactionId := server.sNextTransactionId + 1 })

def isValidDhcpRequest (server : DhcpServer) (message : Message) (interfaceIndex : UInt32)
    (answers : HostAnswers) : Bool × DhcpServer :=
  let offered := getOfferAddress server.tables interfaceIndex message.chaddr
    (answers.interfaceAddress 0) (answers.interfaceNetmask 0)
  let server := { server with tables := offered.2 }
  match offered.1 with
  | .error _ => (false, server)
  | .ok offer =>
    if message.requestedIp ≠ offer.address then (false, server) else (true, server)

/-- The body of the loop in `run` after a datagram was received: the message broadcast on
the interface, if any, and the server afterwards. -/
def handleMessage (server : DhcpServer) (message : Message) (interfaceIndex : UInt32)
    (answers : HostAnswers) : Option Message × DhcpServer :=
  if interfaceIndex = 0 ∨ server.mExcludeInterface = interfaceIndex then (none, server)
  else if ¬ message.isValidDhcpMessage opBootRequest then (none, server)
  else if message.type = dhcpDiscover then sendDhcpOffer server message interfaceIndex answers
  else if message.type = dhcpRequest then
    let checked := isValidDhcpRequest server message interfaceIndex answers
    if checked.1 then sendAck checked.2 message interfaceIndex answers 1
    else sendNack checked.2 message answers 1
  else (none, server)

/-! ## The loop of `run` -/

/-- The server with the one message object that all datagrams are received into. -/
structure ServerRun where
  server : DhcpServer
  message : Message

/-- `poll` timing out or failing to receive leaves everything as it is. A datagram comes with
the interface index of its control data, zero when there is none. -/
inductive ServerEvent where
  | idle
  | datagram (bytes : List UInt8) (interfaceIndex : UInt32) (answers : HostAnswers)

def serverStep (state : ServerRun) : ServerEvent → Option Message × ServerRun
  | .idle => (none, state)
  | .datagram bytes interfaceIndex answers =>
      let message := receiveFromInterface state.message bytes
      let handled := handleMessage state.server message interfaceIndex answers
      (handled.1, { server := handled.2, message := message })

/-- A process starts with empty tables; memory behind the message object is arbitrary. -/
def ServerRun.init (excludeInterface : UInt32) (behind : Memory) : ServerRun where
  server :=
    { tables := .empty, mDnsServers := [], mExcludeInterface := excludeInterface,
      sNextTransactionId := 1 }
  message := Message.init behind

/-- The state after a list of events. -/
def serverRun (state : ServerRun) (events : List ServerEvent) : ServerRun :=
  events.foldl (fun state event => (serverStep state event).2) state

end RedroidExt.Dhcp
