import RedroidExt.Ipv6Proxy.Proxy
import RedroidExt.Ipv6Proxy.Socket
import RedroidExt.Library.Program
import RedroidExt.Netns.Createns
import Mathlib.Data.List.TakeWhile

/-!
# Starting the proxy

`main.cpp`, `namespace.cpp`, `Interface::init` with what it calls, and `Proxy::run` as far
as its poll loop. What the system calls answer is left open. An object that a function
changes is returned as the function leaves it, and a destructor stands where its object
goes out of scope.
-/

namespace RedroidExt.Ipv6Proxy

open RedroidExt.Library RedroidExt.Netns

set_option autoImplicit false

/-! ## System calls -/

abbrev afInet : UInt32 := 2
abbrev afInet6 : UInt32 := 10
abbrev afNetlink : UInt32 := 16
abbrev afPacket : UInt32 := 17
abbrev sockDgram : UInt32 := 2
abbrev sockRaw : UInt32 := 3
abbrev sockCloexec : UInt32 := 0x80000
abbrev ipprotoIp : UInt32 := 0
abbrev ethPIpv6 : UInt32 := 0x86DD
abbrev netlinkRoute : UInt32 := 0
abbrev iffAllmulti : UInt16 := 0x200

/-- What `resolveEth` fills in of a `sockaddr_ll`; the protocol is in host order. -/
structure SockaddrLl where
  sllProtocol : UInt32
  sllIfindex : UInt32
  sllAddr : Fin kLinkAddressSize → UInt8

/-- An `Address`; a new one is empty. -/
abbrev Address := Option SockaddrLl

inductive SocketOption where
  | bindToDevice (interface : CString)
  | multicastHops (hopLimit : UInt32)
  | unicastHops (hopLimit : UInt32)
  | transparent (value : UInt32)

inductive StartCall where
  | sigfillset
  /-- With `SIG_SETMASK` and the full set. -/
  | sigprocmask
  | socket (domain type protocol : UInt32)
  /-- `ioctl` with `SIOCGIFFLAGS`. -/
  | getFlags (fd : Int) (name : CString)
  /-- `ioctl` with `SIOCSIFFLAGS`. -/
  | setFlags (fd : Int) (name : CString) (flags : UInt16)
  /-- `ioctl` with `SIOCGIFHWADDR`. -/
  | getHwaddr (fd : Int) (name : CString)
  | ifNametoindex (name : CString)
  | bind (fd : Int) (address : Address)
  | setsockopt (fd : Int) (option : SocketOption)
  | close (fd : Int)
  /-- `open` with `O_RDONLY | O_CLOEXEC`. -/
  | openReadOnly (path : CString)
  /-- With `CLONE_NEWNET`. -/
  | setns (fd : Int)
  | loge (line : CString)
  /-- `usage`, which prints the name of the program and a fixed text. -/
  | usage (program : Option CString)

/-- A call that fails answers what `strerror(errno)` is then. -/
abbrev StartCall.Answer : StartCall → Type
  | sigfillset | sigprocmask => Except CString Unit
  | socket _ _ _ => Except CString Nat
  | getFlags _ _ => Except CString UInt16
  | setFlags _ _ _ => Except CString Unit
  | getHwaddr _ _ => Except CString (Fin kLinkAddressSize → UInt8)
  | ifNametoindex _ => Except CString UInt32
  | bind _ _ => Except CString Unit
  | setsockopt _ _ => Except CString Unit
  | close _ => Unit
  | openReadOnly _ => Except CString Nat
  | setns _ => Except CString Unit
  | loge _ => Unit
  | usage _ => Unit

abbrev StartEvent := Program.Event StartCall StartCall.Answer

abbrev Startup := Program StartCall StartCall.Answer

namespace Startup

abbrev sys (call : StartCall) : Startup call.Answer := Program.call call

def loge (line : CString) : Startup Unit := sys (.loge line)

end Startup

open Startup

/-- A `Result`: success, or the text of an error. -/
abbrev StartResult := Except CString Unit

/-- `if (!res)`, with the line for the log. -/
def succeeded (what : CString) : StartResult → Startup Bool
  | .ok _ => return true
  | .error text => do
      loge (what ++ text)
      return false

/-! ## Sockets -/

namespace Socket

/-- `Socket::Socket()` -/
def new : Socket := { mState := .New, mSocket := -1 }

/-- What a move leaves behind. -/
def moved : Socket := { mState := .Moved, mSocket := -1 }

/-- `Socket::~Socket()` -/
def destruct (socket : Socket) : Startup Unit :=
  if socket.mSocket ≠ -1 then sys (.close socket.mSocket) else return ()

/-- `Socket::operator=`, from another object: what both are behind it. -/
def moveAssign (socket other : Socket) : Startup (Socket × Socket) := do
  if socket.mSocket ≠ -1 then
    sys (.close socket.mSocket)
    return (other, moved)
  else return (other, moved)

/-- `Socket::open` -/
def openSocket (socket : Socket) (domain type protocol : UInt32) :
    Startup (StartResult × Socket) := do
  if socket.mState ≠ .New then
    return (.error (ascii "open called on socket in invalid state"), socket)
  else
    match ← sys (.socket domain (type ||| sockCloexec) protocol) with
    | .error text => return (.error text, { socket with mSocket := -1 })
    | .ok descriptor => return (.ok (), { mState := .Open, mSocket := descriptor })

/-- The four setters differ in the option. -/
def setOption (socket : Socket) (option : SocketOption) : Startup StartResult :=
  if socket.mState ≠ .Open then
    return .error (ascii "attempting to set option in invalid state")
  else sys (.setsockopt socket.mSocket option)

def setInterface (socket : Socket) (interface : CString) : Startup StartResult :=
  socket.setOption (.bindToDevice interface)

def setMulticastHopLimit (socket : Socket) (hopLimit : UInt32) : Startup StartResult :=
  socket.setOption (.multicastHops hopLimit)

def setUnicastHopLimit (socket : Socket) (hopLimit : UInt32) : Startup StartResult :=
  socket.setOption (.unicastHops hopLimit)

def setTransparent (socket : Socket) (transparent : Bool) : Startup StartResult :=
  socket.setOption (.transparent (if transparent then 1 else 0))

/-- `Socket::bind` -/
def bind (socket : Socket) (address : Address) : Startup (StartResult × Socket) := do
  if socket.mState ≠ .Open then
    return (.error (ascii "bind called on socket in invalid state"), socket)
  else
    match ← sys (.bind socket.mSocket address) with
    | .error text => return (.error text, socket)
    | .ok _ => return (.ok (), { socket with mState := .Bound })

end Socket

/-! ## Interfaces -/

/-- The size of `ifr_name`. -/
abbrev ifnamsiz : Nat := 16

/-- `strncpy` into `ifr_name`, whose last byte is set to null. -/
def ifrName (name : CString) : CString := name.take (ifnamsiz - 1)

/-- `Address::resolveEth` behind the opening of its socket. -/
def hardwareAddress (addr : SockaddrLl) (interfaceName : CString) (opened : StartResult × Socket) :
    Startup (StartResult × Address) := do
  match opened.1 with
  | .error text => return (.error text, some addr)
  | .ok _ =>
      match ← sys (.getHwaddr opened.2.mSocket (ifrName interfaceName)) with
      | .error text => return (.error text, some addr)
      | .ok hwaddr => return (.ok (), some { addr with sllAddr := hwaddr })

/-- What it returns and leaves in the address. -/
def resolveEth (interfaceName : CString) : Startup (StartResult × Address) := do
  match ← sys (.ifNametoindex interfaceName) with
  | .error text =>
      return (.error text, some { sllProtocol := ethPIpv6, sllIfindex := 0, sllAddr := fun _ => 0 })
  | .ok index =>
      let addr : SockaddrLl := { sllProtocol := ethPIpv6, sllIfindex := index, sllAddr := fun _ => 0 }
      let opened ← Socket.new.openSocket afInet sockDgram ipprotoIp
      let resolved ← hardwareAddress addr interfaceName opened
      opened.2.destruct
      return resolved

/-- An object of the class `Interface`; a new one has no index. -/
structure InterfaceObject where
  mName : CString
  mIndex : Option UInt32
  mIpSocket : Socket
  mIcmpSocket : Socket
  mLinkAddr : Address

namespace InterfaceObject

/-- `Interface::Interface` -/
def construct (name : CString) : InterfaceObject where
  mName := name
  mIndex := none
  mIpSocket := .new
  mIcmpSocket := .new
  mLinkAddr := none

/-- The members are destroyed from the last one on. -/
def destruct (interface : InterfaceObject) : Startup Unit := do
  interface.mIcmpSocket.destruct
  interface.mIpSocket.destruct

/-- The move assignment of every member: what both objects are behind it. -/
def moveAssign (interface other : InterfaceObject) :
    Startup (InterfaceObject × InterfaceObject) := do
  let ip ← interface.mIpSocket.moveAssign other.mIpSocket
  let icmp ← interface.mIcmpSocket.moveAssign other.mIcmpSocket
  return ({ other with mIpSocket := ip.1, mIcmpSocket := icmp.1 },
    { mName := [], mIndex := other.mIndex, mIpSocket := ip.2, mIcmpSocket := icmp.2,
      mLinkAddr := none })

/-- `setAllMulti` behind the opening of its socket. -/
def enableAllMulti (interface : InterfaceObject) (opened : StartResult × Socket) :
    Startup Bool := do
  match opened.1 with
  | .error text =>
      loge (ascii "Failed to open IP socket for interface " ++ interface.mName ++ ascii ": " ++ text)
      return false
  | .ok _ =>
      match ← sys (.getFlags opened.2.mSocket (ifrName interface.mName)) with
      | .error text =>
          loge (ascii "Failed to get interface flags for " ++ interface.mName ++ ascii ": " ++ text)
          return false
      | .ok flags =>
          if flags &&& iffAllmulti ≠ 0 then return true
          else
            match ← sys (.setFlags opened.2.mSocket (ifrName interface.mName)
                (flags ||| iffAllmulti)) with
            | .error text =>
                loge (ascii "Failed to enable AllMulti flag for " ++ interface.mName ++ ascii ": " ++
                  text)
                return false
            | .ok _ => return true

def setAllMulti (interface : InterfaceObject) : Startup Bool := do
  let opened ← Socket.new.openSocket afInet sockDgram ipprotoIp
  let enabled ← interface.enableAllMulti opened
  opened.2.destruct
  return enabled

def resolveAddresses (interface : InterfaceObject) : Startup (Bool × InterfaceObject) := do
  let (res, mLinkAddr) ← resolveEth interface.mName
  if ← succeeded (ascii "Unable to resolve interface " ++ interface.mName ++ ascii ": ") res then
    match ← sys (.ifNametoindex interface.mName) with
    | .error text =>
        loge (ascii "Unable to get interface index for '" ++ interface.mName ++ ascii "': " ++ text)
        return (false, { interface with mLinkAddr := mLinkAddr, mIndex := some 0 })
    | .ok index => return (true, { interface with mLinkAddr := mLinkAddr, mIndex := some index })
  else return (false, { interface with mLinkAddr := mLinkAddr })

def configureIpSocket (interface : InterfaceObject) : Startup (Bool × InterfaceObject) := do
  let (res, mIpSocket) ← interface.mIpSocket.openSocket afPacket sockDgram ethPIpv6
  if ← succeeded (ascii "Error opening socket: ") res then
    let (res, mIpSocket) ← mIpSocket.bind interface.mLinkAddr
    let bound ← succeeded (ascii "Error binding socket: ") res
    return (bound, { interface with mIpSocket := mIpSocket })
  else return (false, { interface with mIpSocket := mIpSocket })

/-- The options of the ICMPv6 socket, in order, each with the text of its error. -/
def icmpOptions (name : CString) : List (CString × (Socket → Startup StartResult)) :=
  [(ascii "Error setting socket hop limit: ", fun socket => socket.setMulticastHopLimit 255),
    (ascii "Error setting socket hop limit: ", fun socket => socket.setUnicastHopLimit 255),
    (ascii "Error socket interface: ", fun socket => socket.setInterface name),
    (ascii "Error socket interface: ", fun socket => socket.setTransparent true)]

/-- Up to the first option that fails. -/
def setOptions (socket : Socket) : List (CString × (Socket → Startup StartResult)) → Startup Bool
  | [] => return true
  | (what, set) :: rest => do
      let res ← set socket
      if ← succeeded what res then setOptions socket rest else return false

def configureIcmpSocket (interface : InterfaceObject) : Startup (Bool × InterfaceObject) := do
  let (res, mIcmpSocket) ← interface.mIcmpSocket.openSocket afInet6 sockRaw
    ipprotoIcmpv6.toUInt32
  if ← succeeded (ascii "Error opening socket: ") res then
    let configured ← setOptions mIcmpSocket (icmpOptions interface.mName)
    return (configured, { interface with mIcmpSocket := mIcmpSocket })
  else return (false, { interface with mIcmpSocket := mIcmpSocket })

def init (interface : InterfaceObject) : Startup (Bool × InterfaceObject) := do
  if ← interface.setAllMulti then
    let resolved ← interface.resolveAddresses
    if resolved.1 then
      let configured ← resolved.2.configureIpSocket
      if configured.1 then configured.2.configureIcmpSocket else return configured
    else return resolved
  else return (false, interface)

end InterfaceObject

/-! ## The proxy -/

/-- `vector::erase` of the first one: the ones behind are moved down, each to the place in front of
it, and the last place is destroyed. -/
def eraseFirst : InterfaceObject → List InterfaceObject → Startup (List InterfaceObject)
  | place, [] => do
      place.destruct
      return []
  | place, next :: rest => do
      let (assigned, left) ← place.moveAssign next
      let others ← eraseFirst left rest
      return assigned :: others

/-- The loop over the inner interfaces; each round leaves one less behind the iterator. -/
def initInnerIfs : Nat → List InterfaceObject → Startup (List InterfaceObject)
  | 0, innerIfs => return innerIfs
  | _ + 1, [] => return []
  | rounds + 1, innerIf :: rest => do
      let (ready, innerIf) ← innerIf.init
      if ready then
        let others ← initInnerIfs rounds rest
        return innerIf :: others
      else
        let others ← eraseFirst innerIf rest
        initInnerIfs rounds others

/-- An object of the class `Proxy`; `mRouter` is the socket of the router. -/
structure ProxyObject where
  mInnerIfs : List InterfaceObject
  mOuterIf : InterfaceObject
  mRouter : Socket

namespace ProxyObject

/-- `Proxy::Proxy` -/
def construct (outer : CString) (inners : List CString) : ProxyObject where
  mInnerIfs := inners.map .construct
  mOuterIf := .construct outer
  mRouter := .new

def destructAll : List InterfaceObject → Startup Unit
  | [] => return ()
  | interface :: rest => do
      interface.destruct
      destructAll rest

def destruct (proxy : ProxyObject) : Startup Unit := do
  proxy.mRouter.destruct
  proxy.mOuterIf.destruct
  destructAll proxy.mInnerIfs.reverse

/-- `Router::init` -/
def initRouter (mRouter : Socket) : Startup (Bool × Socket) := do
  let (res, mRouter) ← mRouter.openSocket afNetlink sockRaw netlinkRoute
  let opened ← succeeded (ascii "Unable to open netlink socket: ") res
  return (opened, mRouter)

/-- `run` behind the signal mask, up to the array for `ppoll`; `false` if it returns 1. -/
def initAll (proxy : ProxyObject) : Startup (Bool × ProxyObject) := do
  let (ready, mOuterIf) ← proxy.mOuterIf.init
  let proxy := { proxy with mOuterIf := mOuterIf }
  if ready then
    let (ready, mRouter) ← initRouter proxy.mRouter
    let proxy := { proxy with mRouter := mRouter }
    if ready then
      let mInnerIfs ← initInnerIfs proxy.mInnerIfs.length proxy.mInnerIfs
      return (¬ mInnerIfs.isEmpty, { proxy with mInnerIfs := mInnerIfs })
    else return (false, proxy)
  else return (false, proxy)

def run (proxy : ProxyObject) : Startup (Bool × ProxyObject) := do
  if ← succeeded (ascii "Unable to fill signal set: ") (← sys .sigfillset) then
    if ← succeeded (ascii "Unable to set signal mask: ") (← sys .sigprocmask) then
      proxy.initAll
    else return (false, proxy)
  else return (false, proxy)

end ProxyObject

/-! ## The namespace -/

def netNsDir : CString := ascii "/data/vendor/var/run/netns"

/-- `PATH_MAX`. -/
abbrev nsPathSize : Nat := 4096

def setNamespaceFromPath (path : CString) : Startup Bool := do
  match ← sys (.openReadOnly path) with
  | .error text =>
      loge (ascii "Cannot open network namespace at '" ++ path ++ ascii "': " ++ text)
      return false
  | .ok nsFd =>
      match ← sys (.setns nsFd) with
      | .error text =>
          loge (ascii "Cannot set network namespace at '" ++ path ++ ascii "': " ++ text)
          sys (.close nsFd)
          return false
      | .ok _ =>
          sys (.close nsFd)
          return true

def nsPath (ns : CString) : CString := snprintf nsPathSize (netNsDir ++ ascii "/" ++ ns)

def setNetworkNamespace (ns : CString) : Startup Bool := setNamespaceFromPath (nsPath ns)

/-! ## main -/

/-- The pieces between the delimiters, as `strchr` finds them one after the other. -/
def splitRounds (delimiter : UInt8) : Nat → CString → List CString
  | 0, _ => []
  | rounds + 1, str =>
      match str.dropWhile (· ≠ delimiter) with
      | [] => [str]
      | _ :: rest => str.takeWhile (· ≠ delimiter) :: splitRounds delimiter rounds rest

/-- Every piece but the last ends at a delimiter, so there are enough rounds. -/
def splitString (str : CString) (delimiter : UInt8) : List CString :=
  splitRounds delimiter (str.length + 1) str

theorem split_rounds_eq (delimiter : UInt8) (rounds : Nat) (str : CString)
    (enough : str.length < rounds) : splitRounds delimiter rounds str = str.splitOn delimiter := by
  induction rounds generalizing str with
  | zero => exact absurd enough (Nat.not_lt_zero _)
  | succ rounds ih =>
      have absent : delimiter ∉ str.takeWhile (· ≠ delimiter) := by
        intro member
        have different := List.mem_takeWhile_imp member
        exact of_decide_eq_true different rfl
      have parts : str.takeWhile (· ≠ delimiter) ++ str.dropWhile (· ≠ delimiter) = str :=
        List.takeWhile_append_dropWhile
      unfold splitRounds
      cases behind : str.dropWhile (· ≠ delimiter) with
      | nil =>
          rw [behind, List.append_nil] at parts
          rw [parts] at absent
          exact (List.splitOn_eq_singleton absent).symm
      | cons found rest =>
          have stops := List.head?_dropWhile_not (· ≠ delimiter) str
          rw [behind] at parts stops
          have same : found = delimiter := not_not.mp (of_decide_eq_false stops)
          have length := congrArg List.length parts
          rw [List.length_append, List.length_cons] at length
          change _ :: splitRounds delimiter rounds rest = _
          rw [ih rest (by omega)]
          conv_rhs => rw [← parts, same, List.splitOn_append_cons_self_of_not_mem absent]

theorem split_string_eq (str : CString) (delimiter : UInt8) :
    splitString str delimiter = str.splitOn delimiter :=
  split_rounds_eq delimiter _ str (Nat.lt_succ_self _)

/-- A null pointer is `none`. -/
structure ProxyArguments where
  inner : Option CString
  outer : Option CString
  netNamespace : Option CString

/-- The loop over the arguments. Behind an option at the end of the list stands a null pointer. An
argument that asks for the usage, or that is unknown, is what the loop returns at. -/
def parseArguments : List CString → ProxyArguments → Except CString ProxyArguments
  | [], arguments => .ok arguments
  | [argument], arguments =>
      if argument = ascii "-o" then .ok { arguments with outer := none }
      else if argument = ascii "-i" then .ok { arguments with inner := none }
      else if argument = ascii "-h" ∨ argument = ascii "--help" then .error argument
      else if argument = ascii "-n" then .ok { arguments with netNamespace := none }
      else .error argument
  | argument :: value :: rest, arguments =>
      if argument = ascii "-o" then parseArguments rest { arguments with outer := some value }
      else if argument = ascii "-i" then parseArguments rest { arguments with inner := some value }
      else if argument = ascii "-h" ∨ argument = ascii "--help" then .error argument
      else if argument = ascii "-n" then
        parseArguments rest { arguments with netNamespace := some value }
      else .error argument

/-- The program has returned, or it polls. -/
inductive Started where
  | returned (status : Nat)
  | polling (proxy : ProxyObject)

/-- An option that is needed. -/
def given (what : CString) : Option CString → Startup Bool
  | some _ => return true
  | none => do
      loge (ascii "ERROR: Missing " ++ what ++ ascii " interface")
      return false

def enterNamespace : Option CString → Startup Bool
  | none => return true
  | some ns => setNetworkNamespace ns

/-- The proxy of `main`, which is destroyed when `run` returns. -/
def runProxy (outer inner : CString) : Startup Started := do
  let (ready, proxy) ← (ProxyObject.construct outer (splitString inner 44)).run
  if ready then return .polling proxy
  else
    proxy.destruct
    return .returned 1

def main (argv : List CString) : Startup Started := do
  match parseArguments argv.tail { inner := none, outer := none, netNamespace := none } with
  | .error argument =>
      if argument = ascii "-h" ∨ argument = ascii "--help" then
        sys (.usage argv.head?)
        return .returned 1
      else
        loge (ascii "ERROR: Unknown argument '" ++ argument ++ ascii "'")
        sys (.usage argv.head?)
        return .returned 1
  | .ok arguments =>
      let innerGiven ← given (ascii "inner") arguments.inner
      let outerGiven ← given (ascii "outer") arguments.outer
      let entered ← enterNamespace arguments.netNamespace
      match arguments.inner, arguments.outer, innerGiven && outerGiven && entered with
      | some inner, some outer, true => runProxy outer inner
      | _, _, _ =>
          sys (.usage argv.head?)
          return .returned 1

end RedroidExt.Ipv6Proxy
