import RedroidExt.Dhcp.ClientRuns
import RedroidExt.Library.Opened
import RedroidExt.Library.World
import RedroidExt.Netns.Createns

/-!
# Starting the client and the server

Both `main.cpp` with the `init` functions behind them, up to the loops of `run`. What the
system calls answer is left open; a destructor stands where its object goes out of scope.
-/

namespace RedroidExt.Dhcp

open RedroidExt.Library RedroidExt.Library.World RedroidExt.Library.ByteMemory RedroidExt.Netns

set_option autoImplicit false

/-! ## System calls -/

abbrev afInet : UInt32 := 2
abbrev afNetlink : UInt32 := 16
abbrev afPacket : UInt32 := 17
abbrev sockDgram : UInt32 := 2
abbrev sockRaw : UInt32 := 3
abbrev sockCloexec : UInt32 := 0x80000
abbrev ipprotoUdp : UInt32 := 17
abbrev netlinkRoute : UInt32 := 0
abbrev ethPIp : UInt16 := 0x0800
abbrev solSocket : UInt32 := 1
abbrev soBroadcast : UInt32 := 6
abbrev solIp : UInt32 := 0
abbrev ipPktinfo : UInt32 := 8
abbrev iffUp : UInt16 := 1
abbrev nlmsgHdrlen : Nat := 16
abbrev nlmsgerrSize : Nat := 20
abbrev nlmsgError : UInt16 := 2

/-- What is done to a socket behind its opening; ports and protocols are in host order. -/
inductive SocketSetting where
  | boundIp (address : InAddr) (port : UInt16)
  | boundRaw (protocol : UInt16) (interfaceIndex : UInt32)
  | enabled (level optionName : UInt32)
deriving DecidableEq, Repr

inductive DaemonCall where
  | socket (domain type protocol : UInt32)
  /-- `bind` or `setsockopt`. -/
  | configure (fd : Int) (setting : SocketSetting)
  /-- `ioctl` with `SIOCGIFINDEX`. -/
  | getIndex (fd : Int) (name : CString)
  /-- `ioctl` with `SIOCGIFHWADDR`. -/
  | getHwaddr (fd : Int) (name : CString)
  /-- `ioctl` with `SIOCGIFFLAGS`. -/
  | getFlags (fd : Int) (name : CString)
  /-- `ioctl` with `SIOCSIFFLAGS`. -/
  | setFlags (fd : Int) (name : CString) (flags : UInt16)
  /-- `sendto` with the request that `Interface::setAddress` builds. -/
  | requestAddress (fd : Int) (interfaceIndex : UInt32) (address subnetMask : InAddr)
  | recv (fd : Int)
  | ifNametoindex (name : CString)
  | sigfillset
  /-- With `SIG_SETMASK` and the full set. -/
  | sigprocmask
  | close (fd : Int)
  | aloge (line : CString)
  /-- `usage`, which logs the name of the program and a fixed text. -/
  | usage (program : CString)

/-- A call that fails answers what `strerror(errno)` is then. The answer to a request for an
address says whether the kernel applies it, which the caller does not get to see. -/
abbrev DaemonCall.Answer : DaemonCall → Type
  | socket _ _ _ => Except CString Nat
  | configure _ _ => Except CString Unit
  | getIndex _ _ => Except CString UInt32
  | getHwaddr _ _ => Except CString MacAddress
  | getFlags _ _ => Except CString UInt16
  | setFlags _ _ _ => Except CString Unit
  | requestAddress _ _ _ _ => Except CString Bool
  | recv _ => Except CString (List UInt8)
  | ifNametoindex _ => UInt32
  | sigfillset | sigprocmask => Except CString Unit
  | close _ => Unit
  | aloge _ => Unit
  | usage _ => Unit

abbrev Daemon := Program DaemonCall DaemonCall.Answer

/-- A `Result`: success, or the text of an error. -/
abbrev DaemonResult := Except CString Unit

/-- `Result::error`, which formats into a buffer of its own. -/
def resultError (text : CString) : DaemonResult := .error (snprintf 1024 text)

namespace Daemon

abbrev sys (call : DaemonCall) : Daemon call.Answer := Program.call call

/-- `if (!res) return res;` -/
def thenTry {Object : Type} (first : DaemonResult × Object)
    (rest : Object → Daemon (DaemonResult × Object)) : Daemon (DaemonResult × Object) :=
  match first.1 with
  | .error text => return (.error text, first.2)
  | .ok _ => rest first.2

/-- The result of a call that only succeeds or fails. -/
def reported {Object : Type} (what : CString) (object : Object) (answer : Except CString Unit) :
    DaemonResult × Object :=
  match answer with
  | .error text => (resultError (what ++ text), object)
  | .ok _ => (.ok (), object)

/-! ## Sockets -/

/-- `Socket`, which is its descriptor. -/
def openSocket (mSocketFd : Int) (domain type protocol : UInt32) :
    Daemon (DaemonResult × Int) := do
  if mSocketFd ≠ -1 then return (resultError (ascii "Socket already open"), mSocketFd)
  else
    match ← sys (.socket domain type protocol) with
    | .error text => return (resultError (ascii "Failed to open socket: " ++ text), -1)
    | .ok descriptor => return (.ok (), descriptor)

/-- `bindIp`, `bindRaw` and `enableOption`, each with what it says of a failure. -/
def configureSocket (what : CString) (setting : SocketSetting) (mSocketFd : Int) :
    Daemon (DaemonResult × Int) := do
  if mSocketFd = -1 then return (resultError (ascii "Socket not open"), mSocketFd)
  else return reported what mSocketFd (← sys (.configure mSocketFd setting))

def bindIp (address : InAddr) (port : UInt16) : Int → Daemon (DaemonResult × Int) :=
  configureSocket (ascii "Unable to bind raw socket: ") (.boundIp address port)

def bindRaw (interfaceIndex : UInt32) : Int → Daemon (DaemonResult × Int) :=
  configureSocket (ascii "Unable to bind raw socket: ") (.boundRaw ethPIp interfaceIndex)

def enableOption (level optionName : UInt32) : Int → Daemon (DaemonResult × Int) :=
  configureSocket (ascii "Failed to set socket option: ") (.enabled level optionName)

/-- The destructors of `Socket`, `Interface` and `Router`. -/
def closeDescriptor (fd : Int) : Daemon Unit := if fd ≠ -1 then sys (.close fd) else return ()

/-! ## The client's interface -/

/-- `nlmsg_type` -/
def responseType (response : List UInt8) : UInt16 := word16 (response.getD 4 0) (response.getD 5 0)

/-- The `error` of an `nlmsgerr` behind the header. -/
def responseError (response : List UInt8) : UInt32 :=
  word32 (response.getD 16 0) (response.getD 17 0) (response.getD 18 0) (response.getD 19 0)

/-- `Interface` with the members that it is initialised with. -/
structure InterfaceObject where
  mInterfaceName : CString
  mSocketFd : Int
  mIndex : UInt32
  mMacAddress : MacAddress

namespace InterfaceObject

variable (interface : InterfaceObject)

/-- The name in what `createRequest` returns. -/
def ifrName : CString := interface.mInterfaceName.take 15

/-- The error of an `ioctl`. -/
def ioctlFailed (what text : CString) : DaemonResult :=
  resultError (what ++ ascii " for '" ++ interface.mInterfaceName ++ ascii "': " ++ text)

def populateIndex : Daemon (DaemonResult × InterfaceObject) := do
  match ← sys (.getIndex interface.mSocketFd interface.ifrName) with
  | .error text =>
      return (interface.ioctlFailed (ascii "Failed to get interface index") text, interface)
  | .ok index => return (.ok (), { interface with mIndex := index })

def populateMacAddress : Daemon (DaemonResult × InterfaceObject) := do
  match ← sys (.getHwaddr interface.mSocketFd interface.ifrName) with
  | .error text =>
      return (interface.ioctlFailed (ascii "Failed to get MAC address") text, interface)
  | .ok address => return (.ok (), { interface with mMacAddress := address })

def setInterfaceUp (shouldBeUp : Bool) : Daemon (DaemonResult × InterfaceObject) := do
  match ← sys (.getFlags interface.mSocketFd interface.ifrName) with
  | .error text =>
      return (interface.ioctlFailed (ascii "Failed to get interface flags") text, interface)
  | .ok flags =>
      if decide (flags &&& iffUp ≠ 0) = shouldBeUp then return (.ok (), interface)
      else
        match ← sys (.setFlags interface.mSocketFd interface.ifrName (flags ^^^ iffUp)) with
        | .error text =>
            return (interface.ioctlFailed (ascii "Failed to set interface flags") text, interface)
        | .ok _ => return (.ok (), interface)

def bringUp : Daemon (DaemonResult × InterfaceObject) := interface.setInterfaceUp true

/-- What `setAddress` makes of the response. -/
def readResponse (strerror : UInt32 → CString) (response : List UInt8) : DaemonResult :=
  if response.length < nlmsgHdrlen then
    resultError (ascii "Received incomplete response from netlink")
  else if responseType response = nlmsgError then
    if response.length < nlmsgHdrlen + nlmsgerrSize then
      resultError (ascii "Recieved an error from netlink but the response was incomplete")
    else if responseError response ≠ 0 then
      resultError (ascii "Could not set interface address: " ++
        strerror (0 - responseError response))
    else .ok ()
  else .ok ()

def setAddress (strerror : UInt32 → CString) (address subnetMask : InAddr) :
    Daemon (DaemonResult × InterfaceObject) := do
  match ← sys (.requestAddress interface.mSocketFd interface.mIndex address subnetMask) with
  | .error text =>
      return (resultError (ascii "Unable to set interface address: " ++ text), interface)
  | .ok _ =>
      match ← sys (.recv interface.mSocketFd) with
      | .error text =>
          return (resultError (ascii "Unable to read netlink response: " ++ text), interface)
      | .ok response => return (readResponse strerror response, interface)

/-- Behind the opening of the socket. -/
def populate (strerror : UInt32 → CString) : Daemon (DaemonResult × InterfaceObject) := do
  thenTry (← interface.populateIndex) fun interface => do
  thenTry (← interface.populateMacAddress) fun interface => do
  thenTry (← interface.bringUp) fun interface =>
  interface.setAddress strerror 0 0

def init (strerror : UInt32 → CString) (interfaceName : CString) :
    Daemon (DaemonResult × InterfaceObject) := do
  let interface := { interface with mInterfaceName := interfaceName }
  if interface.mSocketFd ≠ -1 then
    return (resultError (ascii "Interface initialized more than once"), interface)
  else
    match ← sys (.socket afNetlink (sockRaw ||| sockCloexec) netlinkRoute) with
    | .error text =>
        return (resultError (ascii "Failed to create interface socket for '" ++ interfaceName ++
          ascii "': " ++ text), interface)
    | .ok descriptor => populate { interface with mSocketFd := descriptor } strerror

end InterfaceObject

/-! ## The client -/

/-- What its constructor makes of a `DhcpClient`, as far as `init` goes on with it. -/
structure ClientObject where
  mOptions : UInt32
  /-- The socket of the `Router`. -/
  mRouter : Int
  mInterface : InterfaceObject
  mSocket : Int

namespace ClientObject

/-- The members of `Interface` that have no initial value are given. -/
def construct (options : UInt32) (unset : InterfaceObject) : ClientObject where
  mOptions := options
  mRouter := -1
  mInterface := { unset with mInterfaceName := [], mSocketFd := -1 }
  mSocket := -1

variable (client : ClientObject)

/-- `Router::init` -/
def initRouter : Daemon (DaemonResult × ClientObject) := do
  match ← sys (.socket afNetlink sockRaw netlinkRoute) with
  | .error text => return (resultError text, client)
  | .ok descriptor => return (.ok (), { client with mRouter := descriptor })

def initSocket : Daemon (DaemonResult × ClientObject) := do
  let opened ← openSocket client.mSocket afPacket sockDgram (swap16 ethPIp).toUInt32
  thenTry (opened.1, { client with mSocket := opened.2 }) fun client => do
    let bound ← bindRaw client.mInterface.mIndex client.mSocket
    return (bound.1, { client with mSocket := bound.2 })

def init (strerror : UInt32 → CString) (interfaceName : CString) :
    Daemon (DaemonResult × ClientObject) := do
  let initialised ← client.mInterface.init strerror interfaceName
  thenTry (initialised.1, { client with mInterface := initialised.2 }) fun client => do
  thenTry (← client.initRouter) fun client =>
  client.initSocket

/-- `~DhcpClient`: the members in the reverse order of their declarations. -/
def destruct : Daemon Unit := do
  closeDescriptor client.mSocket
  closeDescriptor client.mInterface.mSocketFd
  closeDescriptor client.mRouter

/-- The head of `run`, which both processes have in common. -/
def blockSignals : Daemon DaemonResult := do
  match ← sys .sigfillset with
  | .error text => return resultError (ascii "Unable to fill signal set: " ++ text)
  | .ok _ =>
      match ← sys .sigprocmask with
      | .error text => return resultError (ascii "Unable to set signal mask: " ++ text)
      | .ok _ => return .ok ()

end ClientObject

/-- A program returns, or it is in its loop with an object. -/
inductive Ended (Object : Type) where
  | returned (status : Nat)
  | running (object : Object)

/-- A failure is logged, and the object goes out of scope. -/
def gaveUp {Object : Type} (line : CString) (destruct : Daemon Unit) : Daemon (Ended Object) := do
  sys (.aloge (line ++ ascii "\n"))
  destruct
  return .returned 1

/-- `--no-gateway` is the only option. -/
def parseClient :
    List CString → Option CString × UInt32 → Except CString (Option CString × UInt32)
  | [], parsed => .ok parsed
  | [arg], parsed =>
      if arg = ascii "-i" then .error (ascii "ERROR: -i parameter needs an argument")
      else if arg = ascii "--no-gateway" then .ok (parsed.1, parsed.2 ||| noGateway)
      else .error (ascii "ERROR: unknown parameters " ++ arg)
  | arg :: next :: rest, parsed =>
      if arg = ascii "-i" then parseClient rest (some next, parsed.2)
      else if arg = ascii "--no-gateway" then
        parseClient (next :: rest) (parsed.1, parsed.2 ||| noGateway)
      else .error (ascii "ERROR: unknown parameters " ++ arg)

def refuseArguments {Object : Type} (program line : CString) : Daemon (Ended Object) := do
  sys (.aloge line)
  sys (.usage program)
  return .returned 1

def runClient (client : ClientObject) : Daemon (Ended ClientObject) := do
  match ← ClientObject.blockSignals with
  | .error text => gaveUp (ascii "DHCP client failed: " ++ text) client.destruct
  | .ok _ => return .running client

/-- Behind the arguments. -/
def startClient (strerror : UInt32 → CString) (unset : InterfaceObject) (interfaceName : CString)
    (options : UInt32) : Daemon (Ended ClientObject) := do
  let initialised ← (ClientObject.construct options unset).init strerror interfaceName
  match initialised.1 with
  | .error text =>
      gaveUp (ascii "Failed to initialize DHCP client: " ++ text) initialised.2.destruct
  | .ok _ => runClient initialised.2

def clientMain (strerror : UInt32 → CString) (unset : InterfaceObject) (argv : List CString) :
    Daemon (Ended ClientObject) := do
  if argv.length < 3 then
    sys (.usage (argv.headD []))
    return .returned 1
  else
    match parseClient argv.tail (none, 0) with
    | .error line => refuseArguments (argv.headD []) line
    | .ok (none, _) => refuseArguments (argv.headD []) (ascii "ERROR: No interface specified")
    | .ok (some interfaceName, options) => startClient strerror unset interfaceName options

/-! ## The server -/

/-- `DhcpServer::init` -/
def initServer (mSocket : Int) : Daemon (DaemonResult × Int) := do
  thenTry (← openSocket mSocket afInet sockDgram ipprotoUdp) fun mSocket => do
  thenTry (← enableOption solIp ipPktinfo mSocket) fun mSocket => do
  thenTry (← enableOption solSocket soBroadcast mSocket) fun mSocket =>
  bindIp 0 portBootpServer mSocket

/-- What is in its loop: the socket, and the interface that is excluded. -/
structure ServerObject where
  mSocket : Int
  mExcludeInterface : UInt32

/-- The loop over the arguments; an argument behind the option is looked at again. -/
def parseServer (program : CString) : List CString → UInt32 → Daemon (Option UInt32)
  | [], excludeInterfaceIndex => return some excludeInterfaceIndex
  | arg :: rest, excludeInterfaceIndex =>
      if arg = ascii "--exclude-interface" then
        match rest with
        | [] => do
            sys (.aloge (ascii "ERROR: Missing argument to --exclude-interfaces parameter"))
            sys (.usage program)
            return none
        | name :: others => do
            let index ← sys (.ifNametoindex name)
            if index = 0 then
              sys (.aloge (ascii "ERROR: Invalid argument '" ++ name ++
                ascii "' to --exclude-interface"))
              sys (.usage program)
              return none
            else parseServer program (name :: others) index
      else parseServer program rest excludeInterfaceIndex

def runServer (server : ServerObject) : Daemon (Ended ServerObject) := do
  match ← ClientObject.blockSignals with
  | .error text => gaveUp (ascii "DHCP server failed: " ++ text) (closeDescriptor server.mSocket)
  | .ok _ => return .running server

def startServer (excludeInterfaceIndex : UInt32) : Daemon (Ended ServerObject) := do
  let initialised ← initServer (-1)
  match initialised.1 with
  | .error text =>
      gaveUp (ascii "Failed to initialize DHCP server: " ++ text) (closeDescriptor initialised.2)
  | .ok _ => runServer { mSocket := initialised.2, mExcludeInterface := excludeInterfaceIndex }

def serverMain (argv : List CString) : Daemon (Ended ServerObject) := do
  match ← parseServer (argv.headD []) argv.tail 0 with
  | none => return .returned 1
  | some excludeInterfaceIndex => startServer excludeInterfaceIndex

end Daemon

end RedroidExt.Dhcp
