import RedroidExt.Dhcp.Daemons
import Mathlib.Data.List.Basic

/-!
# How the client and the server start

The system calls act on a table of sockets and on one interface. A process that comes to its
loop has its sockets and no others, and the client is then in a state from which its runs
start. A process that gives up leaves no socket.
-/

namespace RedroidExt.Dhcp

open RedroidExt.Library RedroidExt.Library.World RedroidExt.Library.ByteMemory RedroidExt.Netns

set_option autoImplicit false

/-! ## The system calls -/

structure DaemonSocket where
  domain : UInt32
  type : UInt32
  protocol : UInt32
  settings : List SocketSetting
deriving DecidableEq, Repr

structure DaemonKernel where
  table : Int → Option DaemonSocket
  /-- The interface that a client is started for. -/
  host : Host
  /-- The last request for an address was applied. -/
  applied : Bool

/-- What belongs to the name of an interface; an index is zero if there is none. -/
structure InterfaceNames where
  indexOf : CString → UInt32
  macOf : CString → MacAddress

/-- A request is answered with an error message, and without an error only if it was applied. -/
def Responds (applied : Bool) (response : List UInt8) : Prop :=
  nlmsgHdrlen ≤ response.length →
    Daemon.responseType response = nlmsgError ∧
      (Daemon.responseError response = 0 → applied = true)

namespace DaemonKernel

variable (kernel : DaemonKernel)

def insert (fd : Int) (socket : DaemonSocket) : DaemonKernel :=
  { kernel with table := Function.update kernel.table fd (some socket) }

def remove (fd : Int) : DaemonKernel :=
  { kernel with table := Function.update kernel.table fd none }

def configure (fd : Int) (setting : SocketSetting) : DaemonKernel :=
  match kernel.table fd with
  | none => kernel
  | some socket => kernel.insert fd { socket with settings := socket.settings ++ [setting] }

def allowed (names : InterfaceNames) : (call : DaemonCall) → call.Answer → Prop
  | .socket _ _ _, .ok descriptor => kernel.table descriptor = none
  | .getIndex _ name, .ok index => index = names.indexOf name
  | .getHwaddr _ name, .ok address => address = names.macOf name
  | .getFlags _ _, .ok flags => kernel.host.isUp = decide (flags &&& iffUp ≠ 0)
  | .recv _, .ok response => Responds kernel.applied response
  | .ifNametoindex name, index => index = names.indexOf name
  | _, _ => True

def advance : (call : DaemonCall) → call.Answer → DaemonKernel
  | .socket domain type protocol, .ok descriptor =>
      kernel.insert descriptor
        { domain := domain, type := type, protocol := protocol, settings := [] }
  | .configure fd setting, .ok _ => kernel.configure fd setting
  | .setFlags _ _ flags, .ok _ =>
      { kernel with host := { kernel.host with isUp := decide (flags &&& iffUp ≠ 0) } }
  | .requestAddress _ _ address subnetMask, .ok applied =>
      { kernel with
        host := if applied then kernel.host.withAddress address subnetMask else kernel.host
        applied := applied }
  | .close fd, _ => kernel.remove fd
  | _, _ => kernel

end DaemonKernel

def daemonWorld (names : InterfaceNames) : World DaemonCall DaemonCall.Answer DaemonKernel where
  allowed := fun kernel => kernel.allowed names
  advance := DaemonKernel.advance

section Specifications

variable {names : InterfaceNames} {before : Int → Option DaemonSocket}
variable {entries mine : List (Int × DaemonSocket)} {kernel : DaemonKernel}

theorem quiet_log (line : CString) : (daemonWorld names).Quiet (Daemon.sys (.aloge line)) :=
  quiet_call fun _ _ => rfl

theorem quiet_usage (program : CString) :
    (daemonWorld names).Quiet (Daemon.sys (.usage program)) :=
  quiet_call fun _ _ => rfl

theorem ensures_then_try {Object : Type} {first : DaemonResult × Object}
    {rest : Object → Daemon (DaemonResult × Object)}
    {post : DaemonResult × Object → DaemonKernel → Prop}
    (failed : ∀ text, first.1 = .error text → post (.error text, first.2) kernel)
    (passed : first.1 = .ok () → (daemonWorld names).Ensures post (rest first.2) kernel) :
    (daemonWorld names).Ensures post (Daemon.thenTry first rest) kernel := by
  rcases first with ⟨res, object⟩
  cases res with
  | error text => exact failed text rfl
  | ok done => exact passed rfl

/-! ## Sockets -/

/-- The entries of an object with one descriptor. -/
inductive OwnsSocket : Int → List (Int × DaemonSocket) → Prop
  | nothing : OwnsSocket (-1) []
  | one (descriptor : Nat) (socket : DaemonSocket) :
      OwnsSocket descriptor [((descriptor : Int), socket)]

theorem ensures_close {fd : Int} (owns : OwnsSocket fd mine)
    (opened : Opened before kernel.table (mine ++ entries)) :
    (daemonWorld names).Ensures (fun _ after => Opened before after.table entries)
      (Daemon.closeDescriptor fd) kernel := by
  unfold Daemon.closeDescriptor
  cases owns with
  | nothing =>
      rw [if_neg fun different => different rfl]
      exact ensures_pure opened
  | one descriptor socket =>
      rw [if_pos (show (descriptor : Int) ≠ -1 by omega)]
      exact ensures_call fun _ _ => opened.close

/-- What is opened under a new descriptor, for an object that had none. -/
inductive SocketOpened (before : Int → Option DaemonSocket) (entries : List (Int × DaemonSocket))
    (host : Host) (socket : DaemonSocket) : DaemonResult × Int → DaemonKernel → Prop
  | failed (text : CString) {after : DaemonKernel} (opened : Opened before after.table entries) :
      SocketOpened before entries host socket (.error text, -1) after
  | opened (descriptor : Nat) {after : DaemonKernel}
      (opened : Opened before after.table (((descriptor : Int), socket) :: entries))
      (same : after.host = host) :
      SocketOpened before entries host socket (.ok (), descriptor) after

theorem ensures_open_socket (opened : Opened before kernel.table entries)
    (domain type protocol : UInt32) :
    (daemonWorld names).Ensures
      (SocketOpened before entries kernel.host ⟨domain, type, protocol, []⟩)
      (Daemon.openSocket (-1) domain type protocol) kernel := by
  unfold Daemon.openSocket
  rw [if_neg fun different => different rfl]
  apply ensures_call_bind
  intro answer free
  cases answer with
  | error text => exact ensures_pure (.failed _ opened)
  | ok descriptor => exact ensures_pure (.opened descriptor (opened.add free _) rfl)

theorem opened_configure {fd : Int} {socket : DaemonSocket}
    (opened : Opened before kernel.table ((fd, socket) :: entries)) (setting : SocketSetting) :
    Opened before (kernel.configure fd setting).table
      ((fd, { socket with settings := socket.settings ++ [setting] }) :: entries) := by
  have found : kernel.table fd = some socket := opened.found (fd, socket) List.mem_cons_self
  unfold DaemonKernel.configure
  rw [found]
  exact opened.set _

theorem configure_host (fd : Int) (setting : SocketSetting) :
    (kernel.configure fd setting).host = kernel.host := by
  unfold DaemonKernel.configure
  cases kernel.table fd with
  | none => rfl
  | some socket => rfl

/-- The descriptor stays, and on success the socket has the setting. -/
inductive Configured (before : Int → Option DaemonSocket) (entries : List (Int × DaemonSocket))
    (host : Host) (descriptor : Nat) (socket : DaemonSocket) (setting : SocketSetting) :
    DaemonResult × Int → DaemonKernel → Prop
  | failed (text : CString) {after : DaemonKernel}
      (opened : Opened before after.table (((descriptor : Int), socket) :: entries)) :
      Configured before entries host descriptor socket setting (.error text, descriptor) after
  | done {after : DaemonKernel}
      (opened : Opened before after.table
        (((descriptor : Int), { socket with settings := socket.settings ++ [setting] }) ::
          entries))
      (same : after.host = host) :
      Configured before entries host descriptor socket setting (.ok (), descriptor) after

theorem ensures_configure_socket {descriptor : Nat} {socket : DaemonSocket}
    (opened : Opened before kernel.table (((descriptor : Int), socket) :: entries))
    (what : CString) (setting : SocketSetting) :
    (daemonWorld names).Ensures (Configured before entries kernel.host descriptor socket setting)
      (Daemon.configureSocket what setting descriptor) kernel := by
  unfold Daemon.configureSocket
  rw [if_neg (show ¬ (descriptor : Int) = -1 by omega)]
  apply ensures_call_bind
  intro answer _
  cases answer with
  | error text => exact ensures_pure (.failed _ opened)
  | ok done => exact ensures_pure (.done (opened_configure opened setting) (configure_host _ _))

theorem ensures_block_signals :
    (daemonWorld names).Ensures (fun _ after => after = kernel) Daemon.ClientObject.blockSignals
      kernel := by
  apply ensures_call_bind
  intro filled _
  cases filled with
  | error text => exact ensures_pure rfl
  | ok done =>
      apply ensures_call_bind
      intro masked _
      cases masked with
      | error text => exact ensures_pure rfl
      | ok done => exact ensures_pure rfl

/-! ## The client's interface -/

/-- A part of `Interface::init` behind the opening of its socket. -/
structure Populated (interface : Daemon.InterfaceObject) (kernel : DaemonKernel)
    (good : Daemon.InterfaceObject → Host → Prop)
    (result : DaemonResult × Daemon.InterfaceObject) (after : DaemonKernel) : Prop where
  mSocketFd : result.2.mSocketFd = interface.mSocketFd
  table : after.table = kernel.table
  done : result.1 = .ok () → good result.2 after.host

variable {interface : Daemon.InterfaceObject}

theorem populated_failed {good : Daemon.InterfaceObject → Host → Prop} (text : CString)
    {after : DaemonKernel} (table : after.table = kernel.table) :
    Populated interface kernel good (.error text, interface) after :=
  ⟨rfl, table, nofun⟩

theorem ensures_populated_seq {first : Daemon (DaemonResult × Daemon.InterfaceObject)}
    {rest : Daemon.InterfaceObject → Daemon (DaemonResult × Daemon.InterfaceObject)}
    {middle good : Daemon.InterfaceObject → Host → Prop}
    (one : (daemonWorld names).Ensures (Populated interface kernel middle) first kernel)
    (other : ∀ interface kernel, middle interface kernel.host →
      (daemonWorld names).Ensures (Populated interface kernel good) (rest interface) kernel) :
    (daemonWorld names).Ensures (Populated interface kernel good)
      (do Daemon.thenTry (← first) rest) kernel := by
  apply ensures_seq one
  intro result after populated
  apply ensures_then_try
  · exact fun text _ => ⟨populated.mSocketFd, populated.table, nofun⟩
  · intro done
    apply ensures_mono (other result.2 after (populated.done done))
    intro last later behind
    exact ⟨behind.mSocketFd.trans populated.mSocketFd, behind.table.trans populated.table,
      behind.done⟩

theorem ensures_populate_index :
    (daemonWorld names).Ensures
      (Populated interface kernel fun after host =>
        after = { interface with mIndex := names.indexOf interface.ifrName } ∧
          host = kernel.host)
      interface.populateIndex kernel := by
  apply ensures_call_bind
  intro answer allowed
  cases answer with
  | error text => exact ensures_pure (populated_failed _ rfl)
  | ok index =>
      have same : index = names.indexOf interface.ifrName := allowed
      rw [same]
      exact ensures_pure ⟨rfl, rfl, fun _ => ⟨rfl, rfl⟩⟩

theorem ensures_populate_mac_address :
    (daemonWorld names).Ensures
      (Populated interface kernel fun after host =>
        after = { interface with mMacAddress := names.macOf interface.ifrName } ∧
          host = kernel.host)
      interface.populateMacAddress kernel := by
  apply ensures_call_bind
  intro answer allowed
  cases answer with
  | error text => exact ensures_pure (populated_failed _ rfl)
  | ok address =>
      have same : address = names.macOf interface.ifrName := allowed
      rw [same]
      exact ensures_pure ⟨rfl, rfl, fun _ => ⟨rfl, rfl⟩⟩

theorem toggled_up {flags : UInt16} (down : flags &&& iffUp = 0) :
    (flags ^^^ iffUp) &&& iffUp ≠ 0 := by
  have low := congrArg UInt16.toNat down
  intro stays
  have bit := congrArg UInt16.toNat stays
  rw [UInt16.toNat_and] at low
  rw [UInt16.toNat_and, UInt16.toNat_xor, Nat.and_xor_distrib_right, low] at bit
  exact absurd bit (by decide)

theorem ensures_bring_up :
    (daemonWorld names).Ensures
      (Populated interface kernel fun after host =>
        after = interface ∧ host = { kernel.host with isUp := true })
      interface.bringUp kernel := by
  apply ensures_call_bind
  intro answer allowed
  cases answer with
  | error text => exact ensures_pure (populated_failed _ rfl)
  | ok flags =>
      have isUp : kernel.host.isUp = decide (flags &&& iffUp ≠ 0) := allowed
      by_cases up : flags &&& iffUp ≠ 0
      · have already : { kernel.host with isUp := true } = kernel.host := by
          rw [decide_eq_true up] at isUp
          rw [← isUp]
        rw [already]
        dsimp only
        rw [if_pos (decide_eq_true up)]
        exact ensures_pure ⟨rfl, rfl, fun _ => ⟨rfl, rfl⟩⟩
      · dsimp only
        rw [if_neg (by rw [decide_eq_false up]; decide)]
        apply ensures_call_bind
        intro written _
        cases written with
        | error text => exact ensures_pure (populated_failed _ rfl)
        | ok done =>
            have toggled : decide ((flags ^^^ iffUp) &&& iffUp ≠ 0) = true :=
              decide_eq_true (toggled_up (not_not.mp up))
            refine ensures_pure ⟨rfl, rfl, fun _ => ⟨rfl, ?_⟩⟩
            exact congrArg (fun isUp => { kernel.host with isUp := isUp }) toggled

theorem read_response_ok {strerror : UInt32 → CString} {applied : Bool} {response : List UInt8}
    (responds : Responds applied response)
    (read : Daemon.InterfaceObject.readResponse strerror response = .ok ()) : applied = true := by
  unfold Daemon.InterfaceObject.readResponse at read
  by_cases short : response.length < nlmsgHdrlen
  · rw [if_pos short] at read
    cases read
  · rcases responds (Nat.not_lt.mp short) with ⟨type, acknowledges⟩
    rw [if_neg short, if_pos type] at read
    split_ifs at read with incomplete refused
    · cases read
    · cases read
    · exact acknowledges (not_not.mp refused)

theorem ensures_set_address (strerror : UInt32 → CString) (address subnetMask : InAddr) :
    (daemonWorld names).Ensures
      (Populated interface kernel fun after host =>
        after = interface ∧ host = kernel.host.withAddress address subnetMask)
      (interface.setAddress strerror address subnetMask) kernel := by
  apply ensures_call_bind
  intro answer _
  cases answer with
  | error text => exact ensures_pure (populated_failed _ rfl)
  | ok applied =>
      apply ensures_call_bind
      intro answer responds
      cases answer with
      | error text => exact ensures_pure (populated_failed _ rfl)
      | ok response =>
          refine ensures_pure ⟨rfl, rfl, fun read => ⟨rfl, ?_⟩⟩
          have done : applied = true := read_response_ok responds read
          exact if_pos done

/-- The interface is up and has no address. -/
def Host.broughtUp (host : Host) : Host := { host with isUp := true }.withAddress 0 0

theorem ensures_populate (strerror : UInt32 → CString) :
    (daemonWorld names).Ensures
      (Populated interface kernel fun after host =>
        after = { interface with
          mIndex := names.indexOf interface.ifrName
          mMacAddress := names.macOf interface.ifrName } ∧ host = kernel.host.broughtUp)
      (interface.populate strerror) kernel := by
  apply ensures_populated_seq ensures_populate_index
  rintro _ kernel ⟨rfl, same⟩
  rw [← same]
  apply ensures_populated_seq ensures_populate_mac_address
  rintro _ kernel ⟨rfl, same⟩
  rw [← same]
  apply ensures_populated_seq ensures_bring_up
  rintro _ after ⟨rfl, up⟩
  apply ensures_mono (ensures_set_address strerror 0 0)
  intro result last populated
  refine ⟨populated.mSocketFd, populated.table, fun done => ?_⟩
  rw [up] at populated
  exact populated.done done

/-- An interface object that `init` is called for the first time on. -/
def interfaceSocket : DaemonSocket := ⟨afNetlink, sockRaw ||| sockCloexec, netlinkRoute, []⟩

inductive InterfaceInit (names : InterfaceNames) (before : Int → Option DaemonSocket)
    (interfaceName : CString) (host : Host) :
    DaemonResult × Daemon.InterfaceObject → DaemonKernel → Prop
  | failed (text : CString) {interface : Daemon.InterfaceObject}
      {mine : List (Int × DaemonSocket)} {after : DaemonKernel}
      (owns : OwnsSocket interface.mSocketFd mine) (opened : Opened before after.table mine) :
      InterfaceInit names before interfaceName host (.error text, interface) after
  | ready (descriptor : Nat) {after : DaemonKernel}
      (opened : Opened before after.table [((descriptor : Int), interfaceSocket)])
      (up : after.host = host.broughtUp) :
      InterfaceInit names before interfaceName host
        (.ok (), ⟨interfaceName, descriptor, names.indexOf (interfaceName.take 15),
          names.macOf (interfaceName.take 15)⟩) after

theorem ensures_init_interface (strerror : UInt32 → CString) (interfaceName : CString)
    (unopened : interface.mSocketFd = -1) :
    (daemonWorld names).Ensures (InterfaceInit names kernel.table interfaceName kernel.host)
      (interface.init strerror interfaceName) kernel := by
  rcases interface with ⟨name, fd, index, address⟩
  cases unopened
  unfold Daemon.InterfaceObject.init
  dsimp only
  rw [if_neg fun different => different rfl]
  apply ensures_call_bind
  intro answer free
  cases answer with
  | error text => exact ensures_pure (.failed _ .nothing (.start _))
  | ok descriptor =>
      apply ensures_mono (ensures_populate strerror)
      rintro ⟨res, interface⟩ after populated
      have same : interface.mSocketFd = descriptor := populated.mSocketFd
      have opened : Opened kernel.table after.table [((descriptor : Int), interfaceSocket)] := by
        rw [populated.table]
        exact (Opened.start kernel.table).add free interfaceSocket
      cases res with
      | error text =>
          have owns : OwnsSocket interface.mSocketFd [((descriptor : Int), interfaceSocket)] := by
            rw [same]
            exact .one descriptor interfaceSocket
          exact .failed text owns opened
      | ok done =>
          rcases populated.done rfl with ⟨built, up⟩
          cases built
          exact .ready descriptor opened up

/-! ## The client -/

def routerSocket : DaemonSocket := ⟨afNetlink, sockRaw, netlinkRoute, []⟩

def packetSocket (settings : List SocketSetting) : DaemonSocket :=
  ⟨afPacket, sockDgram, (swap16 ethPIp).toUInt32, settings⟩

/-- The entries of the three members with a descriptor, the last one first. -/
inductive ClientOwns (client : Daemon.ClientObject) : List (Int × DaemonSocket) → Prop
  | owns {socket router interface : List (Int × DaemonSocket)}
      (socketOwns : OwnsSocket client.mSocket socket)
      (routerOwns : OwnsSocket client.mRouter router)
      (interfaceOwns : OwnsSocket client.mInterface.mSocketFd interface) :
      ClientOwns client (socket ++ (router ++ interface))

theorem ensures_destruct {client : Daemon.ClientObject} (owns : ClientOwns client mine)
    (opened : Opened before kernel.table mine) :
    (daemonWorld names).Ensures (fun _ after => after.table = before) client.destruct kernel := by
  cases owns with
  | @owns socket router interface socketOwns routerOwns interfaceOwns =>
      apply ensures_seq (ensures_close socketOwns opened)
      intro _ kernel opened
      have swapped := opened.perm List.perm_append_comm
      apply ensures_seq (ensures_close interfaceOwns swapped)
      intro _ kernel opened
      rw [← List.append_nil router] at opened
      apply ensures_mono (ensures_close routerOwns opened)
      exact fun _ after opened => opened.unchanged

/-- What `DhcpClient::init` comes to. -/
inductive ClientInit (names : InterfaceNames) (before : Int → Option DaemonSocket)
    (options : UInt32) (interfaceName : CString) (host : Host) :
    DaemonResult × Daemon.ClientObject → DaemonKernel → Prop
  | failed (text : CString) {client : Daemon.ClientObject} {mine : List (Int × DaemonSocket)}
      {after : DaemonKernel} (owns : ClientOwns client mine)
      (opened : Opened before after.table mine) :
      ClientInit names before options interfaceName host (.error text, client) after
  | ready (socket router interface : Nat) {after : DaemonKernel}
      (opened : Opened before after.table
        [((socket : Int), packetSocket [.boundRaw ethPIp (names.indexOf (interfaceName.take 15))]),
          ((router : Int), routerSocket), ((interface : Int), interfaceSocket)])
      (up : after.host = host.broughtUp) :
      ClientInit names before options interfaceName host
        (.ok (), ⟨options, router,
          ⟨interfaceName, interface, names.indexOf (interfaceName.take 15),
            names.macOf (interfaceName.take 15)⟩, socket⟩) after

theorem ensures_init_client (strerror : UInt32 → CString) (unset : Daemon.InterfaceObject)
    (interfaceName : CString) (options : UInt32) :
    (daemonWorld names).Ensures
      (ClientInit names kernel.table options interfaceName kernel.host)
      ((Daemon.ClientObject.construct options unset).init strerror interfaceName) kernel := by
  apply ensures_seq (ensures_init_interface strerror interfaceName rfl)
  intro result after initialised
  cases initialised with
  | @failed text interface mine after owns opened =>
      exact ensures_pure (.failed text (.owns .nothing .nothing owns) opened)
  | ready interface opened up =>
      -- the three members are initialised one behind the other
      apply ensures_bind
      apply ensures_call_bind
      intro answer free
      cases answer with
      | error text =>
          exact ensures_pure (.failed _ (.owns .nothing .nothing (.one interface _)) opened)
      | ok router =>
          have opened := opened.add free routerSocket
          apply ensures_seq (ensures_open_socket opened afPacket sockDgram _)
          intro result after socketOpened
          cases socketOpened with
          | failed text opened =>
              exact ensures_pure
                (.failed text (.owns .nothing (.one router _) (.one interface _)) opened)
          | opened socket opened same =>
              apply ensures_seq (ensures_configure_socket opened _ _)
              intro result after configured
              cases configured with
              | failed text opened =>
                  exact ensures_pure (.failed text
                    (.owns (.one socket _) (.one router _) (.one interface _)) opened)
              | done opened still =>
                  exact ensures_pure
                    (.ready socket router interface opened (still.trans (same.trans up)))

theorem ensures_gave_up {Object : Type} (line : CString) {destruct : Daemon Unit}
    (closes : ∀ kernel : DaemonKernel, Opened before kernel.table mine →
      (daemonWorld names).Ensures (fun _ after => after.table = before) destruct kernel)
    (opened : Opened before kernel.table mine)
    {post : Daemon.Ended Object → DaemonKernel → Prop}
    (returns : ∀ after : DaemonKernel, after.table = before → post (.returned 1) after) :
    (daemonWorld names).Ensures post (Daemon.gaveUp line destruct) kernel := by
  apply ensures_seq (quiet_log _ kernel)
  rintro _ after rfl
  apply ensures_seq (closes after opened)
  exact fun _ after closed => ensures_pure (returns after closed)

/-- The run that the loop of an initialised client begins; what the constructor leaves alone is
given. -/
def Daemon.ClientObject.firstRun (client : Daemon.ClientObject) (unset : DhcpClient)
    (behind : Memory) (host : Host) (clock : Nat) : ClientRun where
  client :=
    { unset with
      mOptions := client.mOptions
      mInterface :=
        { mInterfaceName := String.ofList
            (client.mInterface.mInterfaceName.map fun byte => Char.ofNat byte.toNat)
          mIndex := client.mInterface.mIndex
          mMacAddress := client.mInterface.mMacAddress }
      mLastMsg := Message.init behind
      mT1 := { mExpires := 0 }
      mT2 := { mExpires := 0 }
      mState := .init
      mNextTimeout := kInitialTimeout
      mFuzzNextTimeout := true
      sNextTransactionId := 1
      host := host }
  phase := .evaluating
  clock := clock
  lastAck := none
  configuredBy := []

theorem first_run_started (client : Daemon.ClientObject) (unset : DhcpClient) (behind : Memory)
    (host : Host) (clock : Nat) :
    (client.firstRun unset behind host.broughtUp clock).Started where
  phase := rfl
  lastAck := rfl
  configuredBy := rfl
  mState := rfl
  mNextTimeout := rfl
  mFuzzNextTimeout := rfl
  mLastMsg := ⟨behind, rfl⟩
  timers := ⟨rfl, rfl⟩
  sNextTransactionId := rfl
  isUp := rfl
  address := rfl

/-- The client returns 1 with its sockets closed, or it is in its loop: its three sockets are open,
one of them bound to the interface that the arguments name, and its run starts. -/
inductive ClientStarted (names : InterfaceNames) (argv : List CString) (kernel : DaemonKernel) :
    Daemon.Ended Daemon.ClientObject → DaemonKernel → Prop
  | returned {after : DaemonKernel} (table : after.table = kernel.table) :
      ClientStarted names argv kernel (.returned 1) after
  | running {client : Daemon.ClientObject} {after : DaemonKernel}
      (parsed : Daemon.parseClient argv.tail (none, 0) =
        .ok (some client.mInterface.mInterfaceName, client.mOptions))
      (mIndex : client.mInterface.mIndex = names.indexOf client.mInterface.ifrName)
      (mMacAddress : client.mInterface.mMacAddress = names.macOf client.mInterface.ifrName)
      (opened : Opened kernel.table after.table
        [(client.mSocket, packetSocket [.boundRaw ethPIp client.mInterface.mIndex]),
          (client.mRouter, routerSocket), (client.mInterface.mSocketFd, interfaceSocket)])
      (host : after.host = kernel.host.broughtUp)
      (starts : ∀ unset behind clock, (client.firstRun unset behind after.host clock).Started) :
      ClientStarted names argv kernel (.running client) after

theorem ensures_start_client (strerror : UInt32 → CString) (unset : Daemon.InterfaceObject)
    {argv : List CString} {interfaceName : CString} {options : UInt32}
    (parsed : Daemon.parseClient argv.tail (none, 0) = .ok (some interfaceName, options)) :
    (daemonWorld names).Ensures (ClientStarted names argv kernel)
      (Daemon.startClient strerror unset interfaceName options) kernel := by
  apply ensures_seq (ensures_init_client strerror unset interfaceName options)
  intro result after initialised
  cases initialised with
  | failed text owns opened =>
      exact ensures_gave_up _ (fun _ => ensures_destruct owns) opened fun _ => .returned
  | ready socket router interface opened up =>
      apply ensures_seq ensures_block_signals
      rintro blocked after rfl
      cases blocked with
      | error text =>
          exact ensures_gave_up _
            (fun _ => ensures_destruct (.owns (.one socket _) (.one router _) (.one interface _)))
            opened fun _ => .returned
      | ok done =>
          have starts : ∀ client : Daemon.ClientObject, ∀ unset behind clock,
              (client.firstRun unset behind after.host clock).Started := by
            rw [up]
            exact fun client unset behind clock => first_run_started client unset behind _ clock
          exact ensures_pure (.running parsed rfl rfl opened up (starts _))

theorem ensures_refuse_arguments {Object : Type} (program line : CString)
    {post : Daemon.Ended Object → DaemonKernel → Prop} (returns : post (.returned 1) kernel) :
    (daemonWorld names).Ensures post (Daemon.refuseArguments program line) kernel := by
  apply ensures_seq (quiet_log _ kernel)
  rintro _ after rfl
  apply ensures_seq (quiet_usage program after)
  rintro _ after rfl
  exact ensures_pure returns

theorem ensures_client_main (strerror : UInt32 → CString) (unset : Daemon.InterfaceObject)
    (argv : List CString) :
    (daemonWorld names).Ensures (ClientStarted names argv kernel)
      (Daemon.clientMain strerror unset argv) kernel := by
  unfold Daemon.clientMain
  by_cases few : argv.length < 3
  · rw [if_pos few]
    apply ensures_seq (quiet_usage _ kernel)
    rintro _ after rfl
    exact ensures_pure (.returned rfl)
  · rw [if_neg few]
    cases parsed : Daemon.parseClient argv.tail (none, 0) with
    | error line => exact ensures_refuse_arguments _ _ (.returned rfl)
    | ok found =>
        rcases found with ⟨interfaceName, options⟩
        cases interfaceName with
        | none => exact ensures_refuse_arguments _ _ (.returned rfl)
        | some interfaceName => exact ensures_start_client strerror unset parsed

/-! ## The server -/

def serverSocket : DaemonSocket :=
  ⟨afInet, sockDgram, ipprotoUdp,
    [.enabled solIp ipPktinfo, .enabled solSocket soBroadcast, .boundIp 0 portBootpServer]⟩

/-- What `DhcpServer::init` comes to. -/
inductive ServerInit (before : Int → Option DaemonSocket) :
    DaemonResult × Int → DaemonKernel → Prop
  | failed (text : CString) {fd : Int} {mine : List (Int × DaemonSocket)} {after : DaemonKernel}
      (owns : OwnsSocket fd mine) (opened : Opened before after.table mine) :
      ServerInit before (.error text, fd) after
  | ready (descriptor : Nat) {after : DaemonKernel}
      (opened : Opened before after.table [((descriptor : Int), serverSocket)]) :
      ServerInit before (.ok (), descriptor) after

theorem ensures_init_server :
    (daemonWorld names).Ensures (ServerInit kernel.table) (Daemon.initServer (-1)) kernel := by
  apply ensures_seq (ensures_open_socket (.start kernel.table) afInet sockDgram ipprotoUdp)
  intro result after socketOpened
  cases socketOpened with
  | failed text opened => exact ensures_pure (.failed text .nothing opened)
  | opened descriptor opened _ =>
      apply ensures_seq (ensures_configure_socket opened _ _)
      intro result after configured
      cases configured with
      | failed text opened => exact ensures_pure (.failed text (.one descriptor _) opened)
      | done opened _ =>
          apply ensures_seq (ensures_configure_socket opened _ _)
          intro result after configured
          cases configured with
          | failed text opened => exact ensures_pure (.failed text (.one descriptor _) opened)
          | done opened _ =>
              apply ensures_mono (ensures_configure_socket opened _ _)
              intro result after configured
              cases configured with
              | failed text opened => exact .failed text (.one descriptor _) opened
              | done opened _ => exact .ready descriptor opened

/-- The arguments that stand behind the option. -/
def excludedNames : List CString → List CString
  | [] => []
  | [_] => []
  | arg :: name :: rest =>
      if arg = ascii "--exclude-interface" then name :: excludedNames (name :: rest)
      else excludedNames (name :: rest)

/-- Each excluded interface exists, and the last one counts. -/
structure Excludes (names : InterfaceNames) (args : List CString) (held index : UInt32) : Prop where
  exist : ∀ name ∈ excludedNames args, names.indexOf name ≠ 0
  last : index = ((excludedNames args).map names.indexOf).getLastD held

theorem ensures_parse_server (program : CString) (args : List CString) (held : UInt32) :
    (daemonWorld names).Ensures
      (fun parsed after => after = kernel ∧ ∀ index ∈ parsed, Excludes names args held index)
      (Daemon.parseServer program args held) kernel := by
  have refused : ∀ line, (daemonWorld names).Ensures
      (fun parsed after => after = kernel ∧ ∀ index ∈ parsed, Excludes names args held index)
      (do
        Daemon.sys (.aloge line)
        Daemon.sys (.usage program)
        return none) kernel := by
    intro line
    apply ensures_seq (quiet_log line kernel)
    rintro _ after rfl
    apply ensures_seq (quiet_usage program after)
    rintro _ after rfl
    exact ensures_pure ⟨rfl, nofun⟩
  match args with
  | [] =>
      refine ensures_pure ⟨rfl, ?_⟩
      rintro index ⟨⟩
      exact ⟨nofun, rfl⟩
  | [arg] =>
      unfold Daemon.parseServer
      by_cases option : arg = ascii "--exclude-interface"
      · rw [if_pos option]
        exact refused _
      · rw [if_neg option]
        refine ensures_pure ⟨rfl, ?_⟩
        rintro index ⟨⟩
        exact ⟨nofun, rfl⟩
  | arg :: name :: rest =>
      unfold Daemon.parseServer
      by_cases option : arg = ascii "--exclude-interface"
      · rw [if_pos option]
        apply ensures_call_bind
        intro index allowed
        have found : index = names.indexOf name := allowed
        by_cases none : index = 0
        · rw [if_pos none]
          exact refused _
        · rw [if_neg none]
          apply ensures_mono (ensures_parse_server program (name :: rest) index)
          rintro parsed after ⟨same, excludes⟩
          refine ⟨same, fun last member => ?_⟩
          have later := excludes last member
          have names_eq : excludedNames (arg :: name :: rest) =
              name :: excludedNames (name :: rest) := if_pos option
          constructor
          · rw [names_eq]
            intro other mine
            rcases List.mem_cons.mp mine with rfl | mine
            · exact found ▸ none
            · exact later.exist other mine
          · rw [names_eq, List.map_cons, List.getLastD_cons, ← found]
            exact later.last
      · rw [if_neg option]
        have names_eq : excludedNames (arg :: name :: rest) = excludedNames (name :: rest) :=
          if_neg option
        apply ensures_mono (ensures_parse_server program (name :: rest) held)
        rintro parsed after ⟨same, excludes⟩
        refine ⟨same, fun last member => ?_⟩
        have later := excludes last member
        constructor
        · rw [names_eq]
          exact later.exist
        · rw [names_eq]
          exact later.last

/-- The server returns 1 with its socket closed, or it is in its loop with the socket set up, and
with the excluded interface that the arguments name last. -/
inductive ServerStarted (names : InterfaceNames) (argv : List CString) (kernel : DaemonKernel) :
    Daemon.Ended Daemon.ServerObject → DaemonKernel → Prop
  | returned {after : DaemonKernel} (table : after.table = kernel.table) :
      ServerStarted names argv kernel (.returned 1) after
  | running {server : Daemon.ServerObject} {after : DaemonKernel}
      (excludes : Excludes names argv.tail 0 server.mExcludeInterface)
      (opened : Opened kernel.table after.table [(server.mSocket, serverSocket)]) :
      ServerStarted names argv kernel (.running server) after

theorem ensures_start_server {argv : List CString} {index : UInt32}
    (excludes : Excludes names argv.tail 0 index) :
    (daemonWorld names).Ensures (ServerStarted names argv kernel) (Daemon.startServer index)
      kernel := by
  apply ensures_seq ensures_init_server
  intro result after initialised
  have closes : ∀ {fd : Int} {mine : List (Int × DaemonSocket)}, OwnsSocket fd mine →
      ∀ held : DaemonKernel, Opened kernel.table held.table mine →
        (daemonWorld names).Ensures (fun _ after => after.table = kernel.table)
          (Daemon.closeDescriptor fd) held := by
    intro fd mine owns held opened
    rw [← List.append_nil mine] at opened
    exact ensures_mono (ensures_close owns opened) fun _ _ opened => opened.unchanged
  cases initialised with
  | failed text owns opened => exact ensures_gave_up _ (closes owns) opened fun _ => .returned
  | ready descriptor opened =>
      apply ensures_seq ensures_block_signals
      rintro blocked after rfl
      cases blocked with
      | error text =>
          exact ensures_gave_up _ (closes (.one descriptor serverSocket)) opened fun _ => .returned
      | ok done => exact ensures_pure (.running excludes opened)

theorem ensures_server_main (argv : List CString) :
    (daemonWorld names).Ensures (ServerStarted names argv kernel) (Daemon.serverMain argv)
      kernel := by
  apply ensures_seq (ensures_parse_server (argv.headD []) argv.tail 0)
  rintro parsed after ⟨rfl, excludes⟩
  cases parsed with
  | none => exact ensures_pure (.returned rfl)
  | some index => exact ensures_start_server (excludes index rfl)

end Specifications

/-! ## Whole runs -/

section Runs

/-- In every run of the client, whatever the system calls answer. -/
theorem client_main_starts (names : InterfaceNames) (strerror : UInt32 → CString)
    (unset : Daemon.InterfaceObject) (argv : List CString) (kernel : DaemonKernel)
    (events : List (Program.Event DaemonCall DaemonCall.Answer))
    (ended : Daemon.Ended Daemon.ClientObject)
    (ran : Program.Runs (Daemon.clientMain strerror unset argv) events ended)
    (allowed : (daemonWorld names).Allowed kernel events) :
    ClientStarted names argv kernel ended ((daemonWorld names).after kernel events) :=
  ensures_runs (ensures_client_main strerror unset argv) ran allowed

/-- In every run of the server. -/
theorem server_main_starts (names : InterfaceNames) (argv : List CString) (kernel : DaemonKernel)
    (events : List (Program.Event DaemonCall DaemonCall.Answer))
    (ended : Daemon.Ended Daemon.ServerObject)
    (ran : Program.Runs (Daemon.serverMain argv) events ended)
    (allowed : (daemonWorld names).Allowed kernel events) :
    ServerStarted names argv kernel ended ((daemonWorld names).after kernel events) :=
  ensures_runs (ensures_server_main argv) ran allowed

/-- `eth0` has index 3. -/
def homeNames : InterfaceNames where
  indexOf := fun name => if name = ascii "eth0" then 3 else 0
  macOf := fun _ _ => 2

def lowestSocket (kernel : DaemonKernel) : Except CString Nat :=
  match (List.range 8).find? fun fd : Nat => (kernel.table fd).isNone with
  | some fd => .ok fd
  | none => .error (ascii "Too many open files")

/-- An acknowledgement. -/
def acknowledgement : List UInt8 := [36, 0, 0, 0, 2, 0] ++ List.replicate 30 0

/-- Every call succeeds. -/
def obligingAnswers (kernel : DaemonKernel) : (call : DaemonCall) → call.Answer
  | .socket _ _ _ => lowestSocket kernel
  | .configure _ _ => .ok ()
  | .getIndex _ name => .ok (homeNames.indexOf name)
  | .getHwaddr _ name => .ok (homeNames.macOf name)
  | .getFlags _ _ => .ok (if kernel.host.isUp then 1 else 0)
  | .setFlags _ _ _ => .ok ()
  | .requestAddress _ _ _ _ => .ok true
  | .recv _ => if kernel.applied then .ok acknowledgement else .error []
  | .ifNametoindex name => homeNames.indexOf name
  | .sigfillset => .ok ()
  | .sigprocmask => .ok ()
  | .close _ => ()
  | .aloge _ => ()
  | .usage _ => ()

theorem lowest_socket_allowed (names : InterfaceNames) (kernel : DaemonKernel)
    (domain type protocol : UInt32) :
    kernel.allowed names (.socket domain type protocol) (lowestSocket kernel) := by
  unfold lowestSocket
  cases found : (List.range 8).find? fun fd : Nat => (kernel.table fd).isNone with
  | none => trivial
  | some fd => exact Option.isNone_iff_eq_none.mp (List.find?_eq_some_iff_append.mp found).1

theorem acknowledgement_allowed (names : InterfaceNames) (kernel : DaemonKernel) (fd : Int) :
    kernel.allowed names (.recv fd)
      (if kernel.applied then .ok acknowledgement else .error []) := by
  cases applied : kernel.applied with
  | true => exact fun _ => ⟨rfl, fun _ => applied⟩
  | false => trivial

theorem obliging_answers_allowed (kernel : DaemonKernel) (call : DaemonCall) :
    (daemonWorld homeNames).allowed kernel call (obligingAnswers kernel call) := by
  cases call with
  | socket domain type protocol =>
      exact lowest_socket_allowed homeNames kernel domain type protocol
  | getIndex fd name => exact rfl
  | getHwaddr fd name => exact rfl
  | getFlags fd name =>
      change kernel.host.isUp = decide ((if kernel.host.isUp then 1 else 0) &&& iffUp ≠ 0)
      cases kernel.host.isUp with
      | true => rfl
      | false => rfl
  | recv fd => exact acknowledgement_allowed homeNames kernel fd
  | ifNametoindex name => exact rfl
  | _ => trivial

/-- The interface is down and has an address from before. -/
def bootedKernel : DaemonKernel where
  table := fun fd => if fd = 0 then some routerSocket else none
  host := { address := 7, prefixLength := 8, broadcast := 0, isUp := false, mtu := 1500,
            gateway := 0, property := fun _ => "" }
  applied := false

def unsetInterface : Daemon.InterfaceObject where
  mInterfaceName := []
  mSocketFd := 9
  mIndex := 9
  mMacAddress := fun _ => 9

def clientArguments : List CString := [ascii "dhcpclient", ascii "-i", ascii "eth0"]

def Daemon.Ended.runningObject {Object : Type} : Daemon.Ended Object → Option Object
  | .returned _ => none
  | .running object => some object

/-- A program that comes to its loop when its calls are answered so. -/
theorem follow_running {names : InterfaceNames} {Object Value : Type}
    {answers : DaemonKernel → (call : DaemonCall) → call.Answer}
    (permitted : ∀ kernel call, (daemonWorld names).allowed kernel call (answers kernel call))
    {program : Daemon (Daemon.Ended Object)} {kernel : DaemonKernel} (field : Object → Value)
    {value : Value}
    (reaches : ((daemonWorld names).follow answers program kernel).2.runningObject.map field =
      some value) :
    ∃ events object, Program.Runs program events (.running object) ∧
      (daemonWorld names).Allowed kernel events ∧ field object = value := by
  rcases follow_runs permitted program kernel with ⟨ran, allowed⟩
  rcases Option.map_eq_some_iff.mp reaches with ⟨client, running, same⟩
  generalize ends : ((daemonWorld names).follow answers program kernel).2 = ended at ran running
  cases ended with
  | returned status => cases running
  | running object =>
      cases running
      exact ⟨_, client, ran, allowed, same⟩

/-- The client of `eth0` starts, with the packet socket under descriptor 3. -/
theorem client_main_starts_home :
    ∃ events client,
      Program.Runs (Daemon.clientMain (fun _ => []) unsetInterface clientArguments) events
        (.running client) ∧
      ClientStarted homeNames clientArguments bootedKernel (.running client)
        ((daemonWorld homeNames).after bootedKernel events) ∧
      client.mSocket = 3 := by
  have socket : ((daemonWorld homeNames).follow obligingAnswers
      (Daemon.clientMain (fun _ => []) unsetInterface clientArguments)
        bootedKernel).2.runningObject.map Daemon.ClientObject.mSocket = some 3 := by
    decide +kernel
  rcases follow_running obliging_answers_allowed _ socket with
    ⟨events, client, ran, allowed, three⟩
  exact ⟨events, client, ran, client_main_starts homeNames (fun _ => []) unsetInterface
    clientArguments bootedKernel events _ ran allowed, three⟩

def serverArguments : List CString :=
  [ascii "dhcpserver", ascii "--exclude-interface", ascii "eth0"]

theorem server_excludes_home :
    ((daemonWorld homeNames).follow obligingAnswers (Daemon.serverMain serverArguments)
      bootedKernel).2.runningObject.map Daemon.ServerObject.mExcludeInterface = some 3 := by
  decide +kernel

/-- The server starts, without `eth0`. -/
theorem server_main_starts_home :
    ∃ events server,
      Program.Runs (Daemon.serverMain serverArguments) events (.running server) ∧
      ServerStarted homeNames serverArguments bootedKernel (.running server)
        ((daemonWorld homeNames).after bootedKernel events) ∧
      server.mExcludeInterface = 3 := by
  rcases follow_running obliging_answers_allowed _ server_excludes_home with
    ⟨events, server, ran, allowed, three⟩
  exact ⟨events, server, ran, server_main_starts homeNames serverArguments bootedKernel events _
    ran allowed, three⟩

end Runs

end RedroidExt.Dhcp
