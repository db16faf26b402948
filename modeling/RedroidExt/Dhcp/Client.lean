import RedroidExt.Dhcp.Interface
import RedroidExt.Dhcp.Socket
import Mathlib.Data.Fintype.Pi

/-!
# The DHCP client

`dhcpclient.cpp`: the state machine, the retry schedule and the configuration of
the interface from an ACK. A function that reads the clock or asks the kernel
gets the readings and the answers as arguments.
-/

namespace RedroidExt.Dhcp

open RedroidExt.Library RedroidExt.Library.ByteMemory

set_option autoImplicit false

def kInitialTimeout : UInt32 := 4000
def kMaxTimeout : UInt32 := 64000
def kNoTimeout : UInt32 := 0
def kTimeoutSpan : Int := 1000

/-- `ClientOption::NoGateway`. -/
def noGateway : UInt32 := 1

inductive ClientState where
  | init
  | selecting
  | requesting
  | bound
  | renewing
  | rebinding
  deriving DecidableEq

structure DhcpInfo where
  t1 : UInt32
  t2 : UInt32
  leaseTime : UInt32
  mtu : UInt16
  dns : Fin 4 → InAddr
  gateway : InAddr
  subnetMask : InAddr
  serverId : InAddr
  offeredAddress : InAddr
  deriving DecidableEq

/-- After `memset`. -/
def DhcpInfo.cleared : DhcpInfo where
  t1 := 0
  t2 := 0
  leaseTime := 0
  mtu := 0
  dns := fun _ => 0
  gateway := 0
  subnetMask := 0
  serverId := 0
  offeredAddress := 0

/-- The client's members, the transaction counter of its process and its host. -/
structure DhcpClient where
  mOptions : UInt32
  mDhcpInfo : DhcpInfo
  mInterface : Interface
  mLastMsg : Message
  mT1 : Timer
  mT2 : Timer
  mState : ClientState
  mNextTimeout : UInt32
  mFuzzNextTimeout : Bool
  mRequestAddress : InAddr
  mServerAddress : InAddr
  sNextTransactionId : UInt32
  host : Host

/-! ## Reading an ACK -/

/-- The switch over the option code; `opt` is the offset of the payload in the options. -/
def DhcpInfo.readOption (info : DhcpInfo) (msg : Message) (optCode optLength : UInt8)
    (opt : Nat) : DhcpInfo :=
  let word := fun index => load32 msg.dhcpData (236 + opt + index)
  if optCode = optLeaseTime then
    if optLength = 4 then { info with leaseTime := swap32 (word 0) } else info
  else if optCode = optT1 then
    if optLength = 4 then { info with t1 := swap32 (word 0) } else info
  else if optCode = optT2 then
    if optLength = 4 then { info with t2 := swap32 (word 0) } else info
  else if optCode = optSubnetMask then
    if optLength = 4 then { info with subnetMask := word 0 } else info
  else if optCode = optGateway then
    if optLength ≥ 4 then { info with gateway := word 0 } else info
  else if optCode = optMtu then
    if optLength = 2 then { info with mtu := swap16 (load16 msg.dhcpData (236 + opt)) } else info
  else if optCode = optDns then
    { info with dns := fun index =>
        if optLength.toNat ≥ 4 * index.val + 4 then word (4 * index.val) else info.dns index }
  else if optCode = optServerId then
    if optLength = 4 then { info with serverId := word 0 } else info
  else info

/-- The variables of the loop over the options. -/
structure OptionScan where
  i : Nat
  info : DhcpInfo

/-- One round: the next position, or whether `configureDhcp` goes on behind the loop. -/
def readOptionsStep (msg : Message) (scan : OptionScan) : OptionScan ⊕ (Bool × DhcpInfo) :=
  if scan.i + 1 < msg.optionsSize then
    let optCode := msg.options scan.i
    let optLength := msg.options (scan.i + 1)
    if optCode = optEnd then .inr (true, scan.info)
    -- `options + optLength + i >= msg.end()`
    else if msg.mSize ≤ 236 + optLength.toNat + scan.i then .inr (false, scan.info)
    else .inl
      { i := scan.i + (2 + optLength.toNat)
        info := scan.info.readOption msg optCode optLength (scan.i + 2) }
  else .inr (true, scan.info)

def readOptions (msg : Message) : Bool × DhcpInfo :=
  (Loop.run (readOptionsStep msg) (msg.optionsSize + 1)
    { i := 4, info := .cleared }).getD (false, .cleared)

namespace DhcpClient

/-- The properties of the gateway and of the DNS servers. -/
def setProperties (host : Host) (name : String) (info : DhcpInfo) (answers : KernelAnswers) :
    Host :=
  let host := host.setProperty ("vendor.net." ++ name ++ ".gw") (addrToStr info.gateway) answers
  (List.finRange 4).foldl (fun host index =>
    host.setProperty ("vendor.net." ++ name ++ ".dns" ++ toString (index.val + 1))
      (if info.dns index ≠ 0 then addrToStr (info.dns index) else "") answers) host

def setTimers (client : DhcpClient) (info : DhcpInfo) (t1Now t2Now : Nat) : DhcpClient :=
  let t1 := if info.t1 > 0 then info.t1 else info.leaseTime / 2
  let t2 := if info.t2 > 0 then info.t2 else (info.leaseTime * 7) / 8
  { client with
    mT1 := .expireSeconds t1Now t1.toNat
    mT2 := .expireSeconds t2Now t2.toNat }

/-- The ACK's contents as far as `configureDhcp` gets to know them, and whether it goes on
with them. -/
def readAck (msg : Message) : Bool × DhcpInfo :=
  let scanned := readOptions msg
  if ¬ scanned.1 then scanned
  else
    let info := { scanned.2 with offeredAddress := msg.yiaddr }
    (info.leaseTime ≠ 0, info)

/-- The interface part of `configureDhcp`, up to and with `setAddress`. -/
def configureInterface (host : Host) (name : String) (info : DhcpInfo)
    (answers : KernelAnswers) : Bool × Host :=
  let up := host.bringUp answers
  if ¬ up.1 then up
  else
    let host := if info.mtu ≠ 0 then (up.2.setMtu info.mtu answers).2 else up.2
    let host := setProperties host name info answers
    host.setAddress info.offeredAddress info.subnetMask answers

/-- What is left of `configureDhcp` behind `setAddress`. -/
def configureGateway (host : Host) (options : UInt32) (info : DhcpInfo)
    (answers : KernelAnswers) : Bool × Host :=
  if options &&& noGateway = 0 then host.setDefaultGateway info.gateway answers else (true, host)

def configureDhcp (client : DhcpClient) (msg : Message) (answers : KernelAnswers)
    (t1Now t2Now : Nat) : Bool × DhcpClient :=
  if msg.optionsSize < 4 then (false, client)
  else
    let read := readAck msg
    let client := { client with mDhcpInfo := read.2 }
    if ¬ read.1 then (false, client)
    else
      let client := client.setTimers read.2 t1Now t2Now
      let configured := configureInterface client.host client.mInterface.mInterfaceName read.2 answers
      if ¬ configured.1 then (false, { client with host := configured.2 })
      else
        let routed := configureGateway configured.2 client.mOptions read.2 answers
        (routed.1, { client with host := routed.2 })

def haltNetwork (client : DhcpClient) (answers : KernelAnswers) : DhcpClient :=
  let host := (client.host.setAddress 0 0 answers).2
  { client with host := (host.bringDown answers).2 }

/-! ## The state machine -/

def setNextState (client : DhcpClient) (state : ClientState) : DhcpClient :=
  { client with mState := state, mNextTimeout := kNoTimeout, mFuzzNextTimeout := true }

def increaseTimeout (client : DhcpClient) : DhcpClient :=
  if client.mNextTimeout = kNoTimeout then { client with mNextTimeout := kInitialTimeout }
  else
    let doubled :=
      if client.mNextTimeout < kMaxTimeout then client.mNextTimeout * 2 else client.mNextTimeout
    { client with mNextTimeout := if doubled > kMaxTimeout then kMaxTimeout else doubled }

/-- A value of `mRandomDistribution`. -/
abbrev Adjustment := { adjustment : Int // -kTimeoutSpan ≤ adjustment ∧ adjustment ≤ kTimeoutSpan }

def calculateTimeoutMillis (client : DhcpClient) (adjustment : Adjustment) : UInt32 :=
  if ¬ client.mFuzzNextTimeout then client.mNextTimeout
  else if adjustment.val < 0 ∧ -adjustment.val > client.mNextTimeout.toNat then 0
  else UInt32.ofNat (client.mNextTimeout.toNat + adjustment.val).toNat

def sendDhcpRequest (client : DhcpClient) (destination : InAddr) : Message × DhcpClient :=
  let message := Message.request client.mInterface.mMacAddress client.mRequestAddress destination
    client.sNextTransactionId
  (message,
    { client with mLastMsg := message, sNextTransactionId := client.sNextTransactionId + 1 })

def sendDhcpDiscover (client : DhcpClient) : Message × DhcpClient :=
  let message := Message.discover client.mInterface.mMacAddress client.sNextTransactionId
  (message,
    { client with mLastMsg := message, sNextTransactionId := client.sNextTransactionId + 1 })

/-- The switch in `run`: the message sent, if any, and the client before it waits. The clock is
read first by `expired` and then by `remainingMillis`. -/
def evaluate (client : DhcpClient) (now later : Nat) : Option Message × DhcpClient :=
  match client.mState with
  | .init => (none, client.setNextState .selecting)
  | .selecting =>
      let sent := client.sendDhcpDiscover
      (some sent.1, sent.2.increaseTimeout)
  | .requesting =>
      if client.mNextTimeout ≥ kMaxTimeout then (none, client.setNextState .init)
      else
        let sent := client.sendDhcpRequest client.mServerAddress
        (some sent.1, sent.2.increaseTimeout)
  | .bound =>
      if client.mT1.expired now then (none, client.setNextState .renewing)
      else
        (none,
          { client with
            -- stored in 32 bits
            mNextTimeout := UInt32.ofNat (client.mT1.remainingMillis later)
            mFuzzNextTimeout := false })
  | .renewing =>
      if client.mT2.expired now then (none, client.setNextState .rebinding)
      else
        let sent := client.sendDhcpRequest client.mServerAddress
        (some sent.1, sent.2.increaseTimeout)
  | .rebinding =>
      if client.mNextTimeout ≥ kMaxTimeout then (none, client.setNextState .init)
      else
        let sent := client.sendDhcpRequest inAddrBroadcast
        (some sent.1, sent.2.increaseTimeout)

/-- `receiveDhcpMessage` into a fresh message object; no frame is a failing `readv`. -/
def receiveDhcpMessage (client : DhcpClient) (frame : Option (List UInt8)) (behind : Memory) :
    Option Message :=
  match frame with
  | none => none
  | some frame =>
      let received := receiveRawUdp portBootpClient (Message.init behind) frame
      if received.2 ∧ received.1.isValidDhcpMessageXid opBootReply client.mLastMsg.xid then
        some received.1
      else none

/-- What `waitAndReceive` makes of a message. -/
inductive Reaction where
  | ignored
  | offerTaken
  | ackAccepted
  | ackTurnedDown
  | nakTaken
  deriving DecidableEq

/-- These reactions leave `waitAndReceive`. -/
def Reaction.returns : Reaction → Bool
  | .offerTaken => true
  | .ackAccepted => true
  | .nakTaken => true
  | .ignored => false
  | .ackTurnedDown => false

/-- The three states that wait for an ACK. -/
def handleReply (client : DhcpClient) (msg : Message) (answers : KernelAnswers)
    (t1Now t2Now : Nat) : Reaction × DhcpClient :=
  if msg.type = dhcpAck then
    let configured := client.configureDhcp msg answers t1Now t2Now
    if configured.1 then (.ackAccepted, configured.2.setNextState .bound)
    else (.ackTurnedDown, configured.2)
  else if msg.type = dhcpNak then (.nakTaken, (client.haltNetwork answers).setNextState .init)
  else (.ignored, client)

/-- The switch in `waitAndReceive`. -/
def handleDhcpMessage (client : DhcpClient) (msg : Message) (answers : KernelAnswers)
    (t1Now t2Now : Nat) : Reaction × DhcpClient :=
  match client.mState with
  | .selecting =>
      if msg.type = dhcpOffer then
        (.offerTaken,
          { client with
            mServerAddress := msg.serverId
            mRequestAddress := msg.yiaddr }.setNextState .requesting)
      else (.ignored, client)
  | .requesting => client.handleReply msg answers t1Now t2Now
  | .renewing => client.handleReply msg answers t1Now t2Now
  | .rebinding => client.handleReply msg answers t1Now t2Now
  | .init => (.ignored, client)
  | .bound => (.ignored, client)

end DhcpClient

end RedroidExt.Dhcp
