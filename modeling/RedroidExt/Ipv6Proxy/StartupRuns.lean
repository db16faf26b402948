import RedroidExt.Ipv6Proxy.PollLoop
import RedroidExt.Ipv6Proxy.Startup
import RedroidExt.Library.Opened
import RedroidExt.Library.World

/-!
# What starting the proxy leaves open

A kernel with a table of descriptors, which answers with descriptors that are free. The
program either returns with the table as it found it, or it polls: then it has opened
the sockets of the router and of every interface that is left, and nothing else.
-/

namespace RedroidExt.Ipv6Proxy

open RedroidExt.Library RedroidExt.Library.World RedroidExt.Netns

set_option autoImplicit false

/-! ## The kernel -/

inductive Origin where
  | socket (domain type protocol : UInt32)
  | file (path : CString)

inductive Setting where
  | bound (address : Address)
  | option (option : SocketOption)

/-- `home` is the network namespace in which it was opened. -/
structure OpenFile where
  origin : Origin
  home : Option CString
  settings : List Setting

/-- `home` is the file whose namespace was entered, and `none` the first one. -/
structure Kernel where
  table : Int → Option OpenFile
  home : Option CString

namespace Kernel

def insert (kernel : Kernel) (fd : Int) (file : OpenFile) : Kernel :=
  { kernel with table := Function.update kernel.table fd (some file) }

def remove (kernel : Kernel) (fd : Int) : Kernel :=
  { kernel with table := Function.update kernel.table fd none }

def set (kernel : Kernel) (fd : Int) (setting : Setting) : Kernel :=
  match kernel.table fd with
  | none => kernel
  | some file => kernel.insert fd { file with settings := file.settings ++ [setting] }

def enter (kernel : Kernel) (fd : Int) : Kernel :=
  match (kernel.table fd).map OpenFile.origin with
  | some (.file path) => { kernel with home := some path }
  | _ => kernel

/-- Only descriptors that are free are answered. -/
def allowed (kernel : Kernel) : (call : StartCall) → call.Answer → Prop
  | .socket _ _ _, .ok descriptor => kernel.table descriptor = none
  | .openReadOnly _, .ok descriptor => kernel.table descriptor = none
  | _, _ => True

def advance (kernel : Kernel) : (call : StartCall) → call.Answer → Kernel
  | .socket domain type protocol, .ok descriptor =>
      kernel.insert descriptor
        { origin := .socket domain type protocol, home := kernel.home, settings := [] }
  | .openReadOnly path, .ok descriptor =>
      kernel.insert descriptor { origin := .file path, home := kernel.home, settings := [] }
  | .bind fd address, .ok _ => kernel.set fd (.bound address)
  | .setsockopt fd option, .ok _ => kernel.set fd (.option option)
  | .close fd, _ => kernel.remove fd
  | .setns fd, .ok _ => kernel.enter fd
  | _, _ => kernel

end Kernel

def startWorld : World StartCall StartCall.Answer Kernel where
  allowed := Kernel.allowed
  advance := Kernel.advance

/-- In the namespace `home`, these entries were opened since the table was `before`. -/
structure Holds (before : Int → Option OpenFile) (home : Option CString)
    (entries : List (Int × OpenFile)) (kernel : Kernel) : Prop where
  opened : Opened before kernel.table entries
  inside : kernel.home = home

section Specifications

variable {before : Int → Option OpenFile} {home : Option CString}
variable {entries mine : List (Int × OpenFile)} {kernel : Kernel}

theorem holds_perm {others : List (Int × OpenFile)} (holds : Holds before home entries kernel)
    (same : entries.Perm others) : Holds before home others kernel :=
  ⟨holds.opened.perm same, holds.inside⟩

theorem holds_insert (holds : Holds before home entries kernel) {fd : Int}
    (free : kernel.table fd = none) (file : OpenFile) :
    Holds before home ((fd, file) :: entries) (kernel.insert fd file) :=
  ⟨holds.opened.add free file, holds.inside⟩

theorem holds_remove {fd : Int} {file : OpenFile}
    (holds : Holds before home ((fd, file) :: entries) kernel) :
    Holds before home entries (kernel.remove fd) :=
  ⟨holds.opened.close, holds.inside⟩

theorem holds_set {fd : Int} {file : OpenFile}
    (holds : Holds before home ((fd, file) :: entries) kernel) (setting : Setting) :
    Holds before home ((fd, { file with settings := file.settings ++ [setting] }) :: entries)
      (kernel.set fd setting) := by
  have found : kernel.table fd = some file := holds.opened.found (fd, file) List.mem_cons_self
  unfold Kernel.set
  rw [found]
  exact ⟨holds.opened.set _, holds.inside⟩

theorem holds_enter {fd : Int} {file : OpenFile} {path : CString}
    (holds : Holds before home ((fd, file) :: entries) kernel) (origin : file.origin = .file path) :
    Holds before (some path) ((fd, file) :: entries) (kernel.enter fd) := by
  have found : kernel.table fd = some file := holds.opened.found (fd, file) List.mem_cons_self
  unfold Kernel.enter
  rw [found, Option.map_some, origin]
  exact ⟨holds.opened, rfl⟩

/-! ## Sockets -/

theorem quiet_loge (line : CString) : startWorld.Quiet (Startup.loge line) :=
  quiet_call fun _ _ => rfl

theorem quiet_succeeded (what : CString) (res : StartResult) :
    startWorld.Quiet (succeeded what res) := by
  cases res with
  | ok done => exact quiet_pure true
  | error text => exact quiet_bind (quiet_loge _) fun _ => quiet_pure false

theorem ensures_succeeded (what : CString) (res : StartResult) {post : Bool → Kernel → Prop}
    (passed : res = .ok () → post true kernel)
    (failed : ∀ text, res = .error text → post false kernel) :
    startWorld.Ensures post (succeeded what res) kernel := by
  cases res with
  | ok done => exact passed rfl
  | error text =>
      apply ensures_seq (quiet_loge (what ++ text) kernel)
      rintro - after rfl
      exact failed text rfl

/-- The entries of a socket: one under its descriptor, if it has one. -/
inductive Socket.Owns : Socket → List (Int × OpenFile) → Prop
  | nothing (state : SocketState) : Owns ⟨state, -1⟩ []
  | one (state : SocketState) (descriptor : Nat) (file : OpenFile) :
      Owns ⟨state, descriptor⟩ [((descriptor : Int), file)]

theorem ensures_destruct {socket : Socket} (owns : socket.Owns mine)
    (holds : Holds before home (mine ++ entries) kernel) :
    startWorld.Ensures (fun _ after => Holds before home entries after) socket.destruct kernel := by
  unfold Socket.destruct
  cases owns with
  | nothing state =>
      rw [if_neg fun different => different rfl]
      exact holds
  | one state descriptor file =>
      rw [if_pos (show (descriptor : Int) ≠ -1 by omega)]
      exact ensures_call fun _ _ => holds_remove holds

theorem ensures_move_assign {socket other : Socket} (owns : socket.Owns mine)
    (holds : Holds before home (mine ++ entries) kernel) :
    startWorld.Ensures
      (fun assigned after => assigned = (other, .moved) ∧ Holds before home entries after)
      (socket.moveAssign other) kernel := by
  unfold Socket.moveAssign
  cases owns with
  | nothing state =>
      rw [if_neg fun different => different rfl]
      exact ensures_pure ⟨rfl, holds⟩
  | one state descriptor file =>
      rw [if_pos (show (descriptor : Int) ≠ -1 by omega)]
      exact ensures_call_bind fun _ _ => ensures_pure ⟨rfl, holds_remove holds⟩

def socketFile (home : Option CString) (domain type protocol : UInt32)
    (settings : List Setting) : OpenFile where
  origin := .socket domain (type ||| sockCloexec) protocol
  home := home
  settings := settings

/-- What opening a new socket returns. -/
inductive SocketOpened (before : Int → Option OpenFile) (home : Option CString)
    (entries : List (Int × OpenFile)) (domain type protocol : UInt32) :
    StartResult × Socket → Kernel → Prop
  | failed (text : CString) {after : Kernel} (holds : Holds before home entries after) :
      SocketOpened before home entries domain type protocol (.error text, .new) after
  | opened (descriptor : Nat) {after : Kernel}
      (holds : Holds before home
        (((descriptor : Int), socketFile home domain type protocol []) :: entries) after) :
      SocketOpened before home entries domain type protocol (.ok (), ⟨.Open, descriptor⟩) after

theorem ensures_open (holds : Holds before home entries kernel) (domain type protocol : UInt32) :
    startWorld.Ensures (SocketOpened before home entries domain type protocol)
      (Socket.new.openSocket domain type protocol) kernel := by
  unfold Socket.openSocket
  rw [if_neg fun different => different rfl]
  apply ensures_call_bind
  intro answer allowed
  cases answer with
  | error text => exact .failed text holds
  | ok descriptor =>
      apply SocketOpened.opened descriptor
      have inserted := holds_insert holds allowed
        (socketFile kernel.home domain type protocol [])
      rw [holds.inside] at inserted
      change Holds before home _ (kernel.insert descriptor
        (socketFile kernel.home domain type protocol []))
      rw [holds.inside]
      exact inserted

/-- The descriptor of a socket that was opened, and nothing if it was not. -/
theorem opened_owns {domain type protocol : UInt32} {opened : StartResult × Socket}
    (outcome : SocketOpened before home entries domain type protocol opened kernel) :
    ∃ mine, opened.2.Owns mine ∧ Holds before home (mine ++ entries) kernel := by
  cases outcome with
  | failed text holds => exact ⟨[], .nothing .New, holds⟩
  | opened descriptor holds => exact ⟨_, .one .Open descriptor _, holds⟩

/-- A socket that is opened for a quiet purpose only. -/
theorem ensures_temporary (holds : Holds before home entries kernel) {Value : Type}
    {purpose : StartResult × Socket → Startup Value} {property : Value → Prop}
    (quiet : ∀ opened, startWorld.Quiet (purpose opened))
    (returns : ∀ opened kernel, startWorld.Ensures (fun value _ => property value)
      (purpose opened) kernel) (domain type protocol : UInt32) :
    startWorld.Ensures (fun value after => property value ∧ Holds before home entries after)
      (do
        let opened ← Socket.new.openSocket domain type protocol
        let value ← purpose opened
        opened.2.destruct
        return value) kernel := by
  apply ensures_seq (ensures_open holds domain type protocol)
  intro opened after outcome
  rcases opened_owns outcome with ⟨mine, owns, held⟩
  apply ensures_seq (ensures_and (returns opened after) (ensures_quiet (quiet opened) held))
  rintro value later ⟨holds, held⟩
  apply ensures_seq (ensures_destruct owns held)
  exact fun _ _ held => ensures_pure ⟨holds, held⟩

theorem ensures_bind_socket {descriptor : Nat} {file : OpenFile} (address : Address)
    (holds : Holds before home (((descriptor : Int), file) :: entries) kernel) :
    startWorld.Ensures
      (fun bound after =>
        (∃ text, bound = (.error text, ⟨.Open, descriptor⟩) ∧
          Holds before home (((descriptor : Int), file) :: entries) after) ∨
        (bound = (.ok (), ⟨.Bound, descriptor⟩) ∧
          Holds before home (((descriptor : Int),
            { file with settings := file.settings ++ [.bound address] }) :: entries) after))
      (Socket.bind ⟨.Open, descriptor⟩ address) kernel := by
  unfold Socket.bind
  rw [if_neg fun different => different rfl]
  apply ensures_call_bind
  intro answer _
  cases answer with
  | error text => exact ensures_pure (.inl ⟨text, rfl, holds⟩)
  | ok done => exact ensures_pure (.inr ⟨rfl, holds_set holds (.bound address)⟩)

/-- The options are set in order, and all of them if it says so. -/
theorem ensures_set_options (options : List (CString × SocketOption)) {descriptor : Nat}
    {file : OpenFile} (holds : Holds before home (((descriptor : Int), file) :: entries) kernel) :
    startWorld.Ensures
      (fun done after => ∃ settings,
        Holds before home (((descriptor : Int), { file with settings := settings }) :: entries)
          after ∧
        (done = true → settings = file.settings ++ options.map fun option => .option option.2))
      (InterfaceObject.setOptions ⟨.Open, descriptor⟩
        (options.map fun option => (option.1, fun socket => socket.setOption option.2)))
      kernel := by
  induction options generalizing kernel file with
  | nil => exact ⟨file.settings, holds, fun _ => (List.append_nil _).symm⟩
  | cons option rest ih =>
      rcases option with ⟨what, option⟩
      apply ensures_call_bind
      intro answer _
      cases answer with
      | error text =>
          apply ensures_bind
          apply ensures_succeeded what (.error text) nofun
          exact fun _ _ => ensures_pure ⟨file.settings, holds, nofun⟩
      | ok done =>
          have later := ih (holds_set holds (.option option))
          apply ensures_mono later
          rintro all after ⟨settings, held, complete⟩
          refine ⟨settings, held, fun finished => ?_⟩
          rw [complete finished, List.append_assoc]
          rfl

/-! ## Interfaces -/

theorem quiet_all_multi (interface : InterfaceObject) (opened : StartResult × Socket) :
    startWorld.Quiet (interface.enableAllMulti opened) := by
  have logged : ∀ line, startWorld.Quiet (do Startup.loge line; return false) :=
    fun line => quiet_bind (quiet_loge line) fun _ => quiet_pure false
  rcases opened with ⟨res, socket⟩
  cases res with
  | error text => exact logged _
  | ok done =>
      apply quiet_bind (quiet_call fun _ _ => rfl)
      intro flags
      cases flags with
      | error text => exact logged _
      | ok flags =>
          dsimp only
          split_ifs
          · exact quiet_pure true
          · apply quiet_bind (quiet_call fun _ _ => rfl)
            intro answer
            cases answer with
            | error text => exact logged _
            | ok done => exact quiet_pure true

theorem quiet_hardware_address (addr : SockaddrLl) (name : CString)
    (opened : StartResult × Socket) : startWorld.Quiet (hardwareAddress addr name opened) := by
  rcases opened with ⟨res, socket⟩
  cases res with
  | error text => exact quiet_pure _
  | ok done =>
      apply quiet_bind (quiet_call fun _ _ => rfl)
      intro answer
      cases answer with
      | error text => exact quiet_pure _
      | ok hwaddr => exact quiet_pure _

theorem hardware_address_protocol (addr : SockaddrLl) (name : CString)
    (opened : StartResult × Socket) (kernel : Kernel) :
    startWorld.Ensures
      (fun resolved _ => ∃ address, resolved.2 = some address ∧
        address.sllProtocol = addr.sllProtocol)
      (hardwareAddress addr name opened) kernel := by
  rcases opened with ⟨res, socket⟩
  cases res with
  | error text => exact ⟨addr, rfl, rfl⟩
  | ok done =>
      apply ensures_call_bind
      intro answer _
      cases answer with
      | error text => exact ⟨addr, rfl, rfl⟩
      | ok hwaddr => exact ⟨{ addr with sllAddr := hwaddr }, rfl, rfl⟩

theorem ensures_set_all_multi (holds : Holds before home entries kernel)
    (interface : InterfaceObject) :
    startWorld.Ensures (fun _ after => Holds before home entries after) interface.setAllMulti
      kernel := by
  have idle : ∀ opened kernel, startWorld.Ensures (fun _ _ => True)
      (interface.enableAllMulti opened) kernel :=
    fun opened kernel => ensures_mono (quiet_all_multi interface opened kernel) fun _ _ _ => trivial
  have temporary := ensures_temporary holds (quiet_all_multi interface) idle afInet sockDgram
    ipprotoIp
  exact ensures_mono temporary fun _ _ held => held.2

theorem ensures_resolve_eth (holds : Holds before home entries kernel) (name : CString) :
    startWorld.Ensures
      (fun resolved after =>
        (∃ address, resolved.2 = some address ∧ address.sllProtocol = ethPIpv6) ∧
          Holds before home entries after)
      (resolveEth name) kernel := by
  apply ensures_call_bind
  intro answer _
  cases answer with
  | error text => exact ensures_pure ⟨⟨_, rfl, rfl⟩, holds⟩
  | ok index =>
      let addr : SockaddrLl := { sllProtocol := ethPIpv6, sllIfindex := index, sllAddr := fun _ => 0 }
      exact ensures_temporary holds (quiet_hardware_address addr name)
        (hardware_address_protocol addr name) afInet sockDgram ipprotoIp

/-- What `resolveAddresses` makes of an interface: an address at any rate, and an index if it says
so. -/
structure Resolved (interface : InterfaceObject) (resolved : Bool × InterfaceObject) : Prop where
  name : resolved.2.mName = interface.mName
  ip : resolved.2.mIpSocket = interface.mIpSocket
  icmp : resolved.2.mIcmpSocket = interface.mIcmpSocket
  address : ∃ address, resolved.2.mLinkAddr = some address ∧ address.sllProtocol = ethPIpv6
  index : resolved.1 = true → ∃ index, resolved.2.mIndex = some index

theorem ensures_resolve_addresses (holds : Holds before home entries kernel)
    (interface : InterfaceObject) :
    startWorld.Ensures
      (fun resolved after => Resolved interface resolved ∧ Holds before home entries after)
      interface.resolveAddresses kernel := by
  apply ensures_seq (ensures_resolve_eth holds interface.mName)
  rintro ⟨res, mLinkAddr⟩ after ⟨address, held⟩
  apply ensures_guard (ensures_quiet (quiet_succeeded _ res) held)
  · intro later held
    apply ensures_call_bind
    intro answer _
    cases answer with
    | error text =>
        apply ensures_seq (quiet_loge _ later)
        rintro - unchanged rfl
        exact ensures_pure ⟨⟨rfl, rfl, rfl, address, nofun⟩, held⟩
    | ok index => exact ensures_pure ⟨⟨rfl, rfl, rfl, address, fun _ => ⟨index, rfl⟩⟩, held⟩
  · exact fun later held => ensures_pure ⟨⟨rfl, rfl, rfl, address, nofun⟩, held⟩

/-- The ICMPv6 socket was opened last. -/
inductive InterfaceObject.Owns (interface : InterfaceObject) (mine : List (Int × OpenFile)) : Prop
  | both {ip icmp : List (Int × OpenFile)} (ownsIp : interface.mIpSocket.Owns ip)
      (ownsIcmp : interface.mIcmpSocket.Owns icmp) (all : mine = icmp ++ ip)

def ipFile (home : Option CString) (address : SockaddrLl) : OpenFile :=
  socketFile home afPacket sockDgram ethPIpv6 [.bound (some address)]

def icmpFile (home : Option CString) (name : CString) : OpenFile :=
  socketFile home afInet6 sockRaw ipprotoIcmpv6.toUInt32
    [.option (.multicastHops 255), .option (.unicastHops 255), .option (.bindToDevice name),
      .option (.transparent 1)]

/-- An interface that `init` returned `true` for. -/
inductive Ready (home : Option CString) : InterfaceObject → List (Int × OpenFile) → Prop
  | ready (name : CString) (index : UInt32) (address : SockaddrLl) (ip icmp : Nat)
      (protocol : address.sllProtocol = ethPIpv6) :
      Ready home ⟨name, some index, ⟨.Bound, ip⟩, ⟨.Open, icmp⟩, some address⟩
        [((icmp : Int), icmpFile home name), ((ip : Int), ipFile home address)]

inductive Initialised (before : Int → Option OpenFile) (home : Option CString)
    (entries : List (Int × OpenFile)) (name : CString) :
    Bool × InterfaceObject → Kernel → Prop
  | failed {interface : InterfaceObject} {mine : List (Int × OpenFile)} {after : Kernel}
      (owns : interface.Owns mine) (holds : Holds before home (mine ++ entries) after) :
      Initialised before home entries name (false, interface) after
  | ready {interface : InterfaceObject} {mine : List (Int × OpenFile)} {after : Kernel}
      (ready : Ready home interface mine) (named : interface.mName = name)
      (holds : Holds before home (mine ++ entries) after) :
      Initialised before home entries name (true, interface) after

/-- What `configureIpSocket` makes of a resolved interface. -/
inductive IpConfigured (before : Int → Option OpenFile) (home : Option CString)
    (entries : List (Int × OpenFile)) (interface : InterfaceObject) :
    Bool × InterfaceObject → Kernel → Prop
  | failed {socket : Socket} {mine : List (Int × OpenFile)} {after : Kernel}
      (owns : socket.Owns mine) (holds : Holds before home (mine ++ entries) after) :
      IpConfigured before home entries interface (false, { interface with mIpSocket := socket })
        after
  | bound (descriptor : Nat) {after : Kernel}
      (holds : Holds before home (((descriptor : Int),
        socketFile home afPacket sockDgram ethPIpv6 [.bound interface.mLinkAddr]) :: entries)
        after) :
      IpConfigured before home entries interface
        (true, { interface with mIpSocket := ⟨.Bound, descriptor⟩ }) after

theorem ensures_configure_ip (holds : Holds before home entries kernel)
    {interface : InterfaceObject} (new : interface.mIpSocket = .new) :
    startWorld.Ensures (IpConfigured before home entries interface) interface.configureIpSocket
      kernel := by
  unfold InterfaceObject.configureIpSocket
  rw [new]
  apply ensures_seq (ensures_open holds afPacket sockDgram ethPIpv6)
  rintro ⟨res, socket⟩ after outcome
  cases outcome with
  | failed text held =>
      apply ensures_bind
      apply ensures_succeeded _ _ nofun
      exact fun _ _ => ensures_pure (.failed (.nothing .New) held)
  | opened descriptor held =>
      apply ensures_seq (ensures_bind_socket interface.mLinkAddr held)
      rintro ⟨res, socket⟩ later outcome
      rcases outcome with ⟨text, same, held⟩ | ⟨same, held⟩
      · cases same
        apply ensures_bind
        apply ensures_succeeded _ _ nofun
        exact fun _ _ => ensures_pure (.failed (.one .Open descriptor _) held)
      · cases same
        exact ensures_pure (.bound descriptor held)

theorem ensures_configure_icmp {address : SockaddrLl} {index : UInt32} {ip : Nat} {name : CString}
    (protocol : address.sllProtocol = ethPIpv6)
    (holds : Holds before home (((ip : Int), ipFile home address) :: entries) kernel) :
    startWorld.Ensures (Initialised before home entries name)
      (InterfaceObject.configureIcmpSocket ⟨name, some index, ⟨.Bound, ip⟩, .new, some address⟩)
      kernel := by
  apply ensures_seq (ensures_open holds afInet6 sockRaw ipprotoIcmpv6.toUInt32)
  rintro ⟨res, socket⟩ after outcome
  cases outcome with
  | failed text held =>
      apply ensures_bind
      apply ensures_succeeded _ _ nofun
      exact fun _ _ => ensures_pure (.failed (.both (.one .Bound ip _) (.nothing .New) rfl) held)
  | opened icmp held =>
      apply ensures_seq (ensures_set_options
        [(ascii "Error setting socket hop limit: ", .multicastHops 255),
          (ascii "Error setting socket hop limit: ", .unicastHops 255),
          (ascii "Error socket interface: ", .bindToDevice name),
          (ascii "Error socket interface: ", .transparent 1)] held)
      rintro configured later ⟨settings, held, complete⟩
      cases configured with
      | false =>
          exact ensures_pure (.failed (.both (.one .Bound ip _) (.one .Open icmp _) rfl) held)
      | true =>
          rw [complete rfl] at held
          exact ensures_pure (.ready (.ready name index address ip icmp protocol) rfl held)

theorem ensures_init (holds : Holds before home entries kernel) (name : CString) :
    startWorld.Ensures (Initialised before home entries name)
      (InterfaceObject.construct name).init kernel := by
  have fresh : (InterfaceObject.construct name).Owns [] := .both (.nothing .New) (.nothing .New) rfl
  apply ensures_guard (ensures_set_all_multi holds _)
  · intro state held
    apply ensures_seq (ensures_resolve_addresses held _)
    rintro ⟨found, interface⟩ state ⟨resolved, held⟩
    rcases interface with ⟨mName, mIndex, mIpSocket, mIcmpSocket, mLinkAddr⟩
    cases resolved.name
    cases resolved.ip
    cases resolved.icmp
    cases found with
    | false => exact ensures_pure (.failed (.both (.nothing .New) (.nothing .New) rfl) held)
    | true =>
        rcases resolved.index rfl with ⟨index, rfl⟩
        rcases resolved.address with ⟨address, rfl, protocol⟩
        apply ensures_seq (ensures_configure_ip held rfl)
        rintro configured state outcome
        cases outcome with
        | failed owns held => exact ensures_pure (.failed (.both owns (.nothing .New) rfl) held)
        | bound ip held => exact ensures_configure_icmp protocol held
  · exact fun state held => ensures_pure (.failed fresh held)

theorem ready_owns {interface : InterfaceObject} (ready : Ready home interface mine) :
    interface.Owns mine := by
  cases ready with
  | ready name index address ip icmp protocol => exact .both (.one .Bound ip _) (.one .Open icmp _) rfl

theorem ensures_destruct_interface {interface : InterfaceObject} (owns : interface.Owns mine)
    (holds : Holds before home (mine ++ entries) kernel) :
    startWorld.Ensures (fun _ after => Holds before home entries after) interface.destruct
      kernel := by
  cases owns with
  | both ownsIp ownsIcmp all =>
      rw [all, List.append_assoc] at holds
      apply ensures_seq (ensures_destruct ownsIcmp holds)
      exact fun _ _ held => ensures_destruct ownsIp held

theorem ensures_assign_interface {interface other : InterfaceObject} (owns : interface.Owns mine)
    (holds : Holds before home (mine ++ entries) kernel) :
    startWorld.Ensures
      (fun assigned after => assigned.1 = other ∧ assigned.2.Owns [] ∧
        Holds before home entries after)
      (interface.moveAssign other) kernel := by
  cases owns with
  | both ownsIp ownsIcmp all =>
      rw [all] at holds
      -- the sockets are closed in the order in which they were opened
      have turned := holds_perm holds (List.perm_append_comm.append_right entries)
      rw [List.append_assoc] at turned
      apply ensures_seq (ensures_move_assign ownsIp turned)
      rintro - state ⟨rfl, held⟩
      apply ensures_seq (ensures_move_assign ownsIcmp held)
      rintro - state ⟨rfl, held⟩
      exact ensures_pure ⟨rfl, .both (.nothing .Moved) (.nothing .Moved) rfl, held⟩

/-! ## The inner interfaces -/

/-- Erasing an interface closes what it has opened, and leaves those behind it as they were. -/
theorem ensures_erase (names : List CString) {place : InterfaceObject} (owns : place.Owns mine)
    (holds : Holds before home (mine ++ entries) kernel) :
    startWorld.Ensures
      (fun others after => others = names.map .construct ∧ Holds before home entries after)
      (eraseFirst place (names.map .construct)) kernel := by
  induction names generalizing place mine kernel with
  | nil =>
      apply ensures_seq (ensures_destruct_interface owns holds)
      exact fun _ _ held => ensures_pure ⟨rfl, held⟩
  | cons name rest ih =>
      apply ensures_seq (ensures_assign_interface owns holds)
      rintro ⟨assigned, left⟩ state ⟨rfl, empty, held⟩
      apply ensures_seq (ih empty held)
      rintro others after ⟨rfl, held⟩
      exact ensures_pure ⟨rfl, held⟩

/-- All of these interfaces are ready; the last one was opened last. -/
inductive AllReady (home : Option CString) :
    List InterfaceObject → List (Int × OpenFile) → Prop
  | nil : AllReady home [] []
  | cons {interface : InterfaceObject} {interfaces : List InterfaceObject}
      {mine others : List (Int × OpenFile)} (ready : Ready home interface mine)
      (rest : AllReady home interfaces others) :
      AllReady home (interface :: interfaces) (others ++ mine)

/-- The loop keeps the interfaces that are ready, in their order. -/
theorem ensures_init_inner (rounds : Nat) (names : List CString) (enough : names.length ≤ rounds)
    (holds : Holds before home entries kernel) :
    startWorld.Ensures
      (fun inners after => ∃ others, AllReady home inners others ∧
        (inners.map InterfaceObject.mName).Sublist names ∧
        Holds before home (others ++ entries) after)
      (initInnerIfs rounds (names.map .construct)) kernel := by
  induction rounds generalizing names entries kernel with
  | zero =>
      cases List.eq_nil_of_length_eq_zero (Nat.le_zero.mp enough)
      exact ensures_pure ⟨[], .nil, .slnil, holds⟩
  | succ rounds ih =>
      cases names with
      | nil => exact ensures_pure ⟨[], .nil, .slnil, holds⟩
      | cons name rest =>
          have enough : rest.length ≤ rounds := Nat.le_of_succ_le_succ enough
          apply ensures_seq (ensures_init holds name)
          rintro ⟨ready, interface⟩ state outcome
          cases outcome with
          | failed owns held =>
              apply ensures_seq (ensures_erase rest owns held)
              rintro others after ⟨rfl, held⟩
              apply ensures_mono (ih rest enough held)
              rintro inners last ⟨others, all, names, held⟩
              exact ⟨others, all, names.cons name, held⟩
          | ready ready named held =>
              apply ensures_seq (ih rest enough held)
              rintro inners last ⟨others, all, names, held⟩
              cases named
              rw [← List.append_assoc] at held
              exact ensures_pure ⟨_, .cons ready all, names.cons_cons _, held⟩

/-! ## The proxy -/

def routerFile (home : Option CString) : OpenFile :=
  socketFile home afNetlink sockRaw netlinkRoute []

/-- A proxy that polls: the sockets of its outer interface, of its router and of its inner
interfaces were opened in this order, and nothing else is open since. -/
inductive Serving (before : Int → Option OpenFile) (home : Option CString) (outer : CString)
    (names : List CString) : ProxyObject → Kernel → Prop
  | serving {mOuterIf : InterfaceObject} {mInnerIfs : List InterfaceObject}
      {outerFiles innerFiles : List (Int × OpenFile)} (router : Nat) {after : Kernel}
      (outerReady : Ready home mOuterIf outerFiles) (outerNamed : mOuterIf.mName = outer)
      (innerReady : AllReady home mInnerIfs innerFiles)
      (innerNamed : (mInnerIfs.map InterfaceObject.mName).Sublist names)
      (some : mInnerIfs ≠ [])
      (holds : Holds before home
        (innerFiles ++ ((router : Int), routerFile home) :: outerFiles) after) :
      Serving before home outer names
        { mInnerIfs := mInnerIfs, mOuterIf := mOuterIf, mRouter := ⟨.Open, router⟩ } after

inductive ProxyRan (before : Int → Option OpenFile) (home : Option CString) (outer : CString)
    (names : List CString) : Bool × ProxyObject → Kernel → Prop
  | failed {proxy : ProxyObject} {outerFiles routerFiles : List (Int × OpenFile)} {after : Kernel}
      (ownsOuter : proxy.mOuterIf.Owns outerFiles) (ownsRouter : proxy.mRouter.Owns routerFiles)
      (idle : ∀ interface ∈ proxy.mInnerIfs, interface.Owns [])
      (holds : Holds before home (routerFiles ++ outerFiles) after) :
      ProxyRan before home outer names (false, proxy) after
  | ready {proxy : ProxyObject} {after : Kernel}
      (serving : Serving before home outer names proxy after) :
      ProxyRan before home outer names (true, proxy) after

theorem construct_owns (name : CString) : (InterfaceObject.construct name).Owns [] :=
  .both (.nothing .New) (.nothing .New) rfl

theorem constructed_idle (names : List CString) :
    ∀ interface ∈ names.map InterfaceObject.construct, interface.Owns [] := by
  intro interface member
  rcases List.mem_map.mp member with ⟨name, -, rfl⟩
  exact construct_owns name

theorem ensures_init_all (holds : Holds before home [] kernel) (outer : CString)
    (names : List CString) :
    startWorld.Ensures (ProxyRan before home outer names)
      (ProxyObject.construct outer names).initAll kernel := by
  apply ensures_seq (ensures_init holds outer)
  rintro ⟨ready, mOuterIf⟩ state outcome
  cases outcome with
  | failed owns held =>
      rw [List.append_nil] at held
      exact ensures_pure (.failed owns (.nothing .New) (constructed_idle names) held)
  | ready outerReady outerNamed held =>
      rw [List.append_nil] at held
      apply ensures_bind
      apply ensures_seq (ensures_open held afNetlink sockRaw netlinkRoute)
      rintro ⟨res, mRouter⟩ state outcome
      cases outcome with
      | failed text held =>
          apply ensures_bind
          apply ensures_succeeded _ _ nofun
          exact fun _ _ => ensures_pure (ensures_pure
            (.failed (ready_owns outerReady) (.nothing .New) (constructed_idle names) held))
      | opened router held =>
          have enough : names.length ≤ (names.map InterfaceObject.construct).length :=
            Nat.le_of_eq (List.length_map _).symm
          apply ensures_seq (ensures_init_inner _ names enough held)
          rintro mInnerIfs after ⟨innerFiles, innerReady, innerNamed, held⟩
          cases innerReady with
          | nil =>
              exact ensures_pure
                (.failed (ready_owns outerReady) (.one .Open router _) nofun held)
          | cons first rest =>
              exact ensures_pure (.ready
                (.serving router outerReady outerNamed (.cons first rest) innerNamed nofun held))

theorem ensures_run (holds : Holds before home [] kernel) (outer : CString)
    (names : List CString) :
    startWorld.Ensures (ProxyRan before home outer names)
      (ProxyObject.construct outer names).run kernel := by
  have failed : ∀ state, Holds before home [] state →
      startWorld.Ensures (ProxyRan before home outer names)
        (return (false, ProxyObject.construct outer names)) state :=
    fun state held => ensures_pure
      (.failed (construct_owns outer) (.nothing .New) (constructed_idle names) held)
  apply ensures_call_bind
  intro filled _
  apply ensures_guard (ensures_quiet (quiet_succeeded _ filled) holds) _ failed
  intro state held
  apply ensures_call_bind
  intro masked _
  apply ensures_guard (ensures_quiet (quiet_succeeded _ masked) held) _ failed
  exact fun state held => ensures_init_all held outer names

theorem ensures_destruct_idle (interfaces : List InterfaceObject)
    (idle : ∀ interface ∈ interfaces, interface.Owns [])
    (holds : Holds before home entries kernel) :
    startWorld.Ensures (fun _ after => Holds before home entries after)
      (ProxyObject.destructAll interfaces) kernel := by
  induction interfaces generalizing kernel with
  | nil => exact ensures_pure holds
  | cons interface rest ih =>
      apply ensures_seq (ensures_destruct_interface (idle interface List.mem_cons_self) holds)
      exact fun _ _ held => ih (fun other member => idle other (List.mem_cons_of_mem _ member)) held

/-- How the program has started, and what is open then. -/
inductive HasStarted (before : Int → Option OpenFile) (home : Option CString) (outer : CString)
    (names : List CString) : Started → Kernel → Prop
  | returned {after : Kernel} (table : after.table = before) :
      HasStarted before home outer names (.returned 1) after
  | polling {proxy : ProxyObject} {after : Kernel}
      (serving : Serving before home outer names proxy after) :
      HasStarted before home outer names (.polling proxy) after

theorem ensures_run_proxy (holds : Holds before home [] kernel) (outer inner : CString) :
    startWorld.Ensures (HasStarted before home outer (inner.splitOn 44))
      (runProxy outer inner) kernel := by
  unfold runProxy
  rw [split_string_eq]
  apply ensures_seq (ensures_run holds outer (inner.splitOn 44))
  rintro ⟨ready, proxy⟩ state outcome
  cases outcome with
  | @failed proxy outerFiles _ _ ownsOuter ownsRouter idle held =>
      apply ensures_bind
      apply ensures_seq (ensures_destruct ownsRouter held)
      intro _ state held
      rw [← List.append_nil outerFiles] at held
      apply ensures_seq (ensures_destruct_interface ownsOuter held)
      intro _ state held
      have idle : ∀ interface ∈ proxy.mInnerIfs.reverse, interface.Owns [] :=
        fun interface member => idle interface (List.mem_reverse.mp member)
      apply ensures_mono (ensures_destruct_idle _ idle held)
      exact fun _ after held => ensures_pure (.returned held.opened.unchanged)
  | ready serving => exact ensures_pure (.polling serving)

/-! ## The namespace -/

/-- Where the proxy runs. -/
def namespaceOf (home : Option CString) : Option CString → Option CString
  | none => home
  | some ns => some (nsPath ns)

/-- The namespace is entered, or the program stays where it is; the file is closed in both cases. -/
theorem ensures_enter_namespace (holds : Holds before home [] kernel)
    (netNamespace : Option CString) :
    startWorld.Ensures
      (fun entered after =>
        Holds before (if entered then namespaceOf home netNamespace else home) [] after)
      (enterNamespace netNamespace) kernel := by
  cases netNamespace with
  | none => exact ensures_pure holds
  | some ns =>
      apply ensures_call_bind
      intro opened free
      cases opened with
      | error text =>
          apply ensures_seq (ensures_quiet (quiet_loge _) holds)
          exact fun _ _ held => ensures_pure held
      | ok nsFd =>
          have inserted := holds_insert holds free
            { origin := .file (nsPath ns), home := kernel.home, settings := [] }
          apply ensures_call_bind
          intro entered _
          cases entered with
          | error text =>
              apply ensures_seq (ensures_quiet (quiet_loge _) inserted)
              intro _ state held
              exact ensures_call_bind fun _ _ => ensures_pure (holds_remove held)
          | ok done =>
              apply ensures_call_bind
              exact fun _ _ => ensures_pure (holds_remove (holds_enter inserted rfl))

/-! ## main -/

theorem quiet_usage (program : Option CString) : startWorld.Quiet (Startup.sys (.usage program)) :=
  quiet_call fun _ _ => rfl

theorem quiet_given (what : CString) (value : Option CString) :
    startWorld.Quiet (given what value) := by
  cases value with
  | none => exact quiet_bind (quiet_loge _) fun _ => quiet_pure false
  | some value => exact quiet_pure true

/-- The program returns 1 with the table as it was, or it polls as it was asked to; 44 is the
comma. -/
inductive MainRan (argv : List CString) (kernel : Kernel) : Started → Kernel → Prop
  | returned {after : Kernel} (table : after.table = kernel.table) :
      MainRan argv kernel (.returned 1) after
  | polling {proxy : ProxyObject} {arguments : ProxyArguments} {outer inner : CString}
      {after : Kernel}
      (parsed : parseArguments argv.tail { inner := none, outer := none, netNamespace := none } =
        .ok arguments)
      (outerGiven : arguments.outer = some outer) (innerGiven : arguments.inner = some inner)
      (serving : Serving kernel.table (namespaceOf kernel.home arguments.netNamespace) outer
        (inner.splitOn 44) proxy after) :
      MainRan argv kernel (.polling proxy) after

theorem ensures_usage (argv : List CString) {state : Kernel} (same : state.table = kernel.table) :
    startWorld.Ensures (MainRan argv kernel)
      (do
        Startup.sys (.usage argv.head?)
        return .returned 1) state :=
  ensures_call_bind fun _ _ => ensures_pure (.returned same)

theorem ensures_main (argv : List CString) (kernel : Kernel) :
    startWorld.Ensures (MainRan argv kernel) (main argv) kernel := by
  unfold main
  cases parsed : parseArguments argv.tail
      { inner := none, outer := none, netNamespace := none } with
  | error argument =>
      dsimp only
      split_ifs
      · exact ensures_usage argv rfl
      · apply ensures_seq (quiet_loge _ kernel)
        rintro - state rfl
        exact ensures_usage argv rfl
  | ok arguments =>
      apply ensures_seq (quiet_given _ arguments.inner kernel)
      rintro innerGiven state rfl
      apply ensures_seq (quiet_given _ arguments.outer state)
      rintro outerGiven state rfl
      apply ensures_seq (ensures_enter_namespace ⟨.start state.table, rfl⟩ arguments.netNamespace)
      intro entered later held
      have table := held.opened.unchanged
      rcases arguments with ⟨inner, outer, netNamespace⟩
      cases allGiven : innerGiven && outerGiven && entered with
      | false =>
          cases inner with
          | none => exact ensures_usage argv table
          | some inner =>
              cases outer with
              | none => exact ensures_usage argv table
              | some outer => exact ensures_usage argv table
      | true =>
          cases inner with
          | none => exact ensures_usage argv table
          | some inner =>
              cases outer with
              | none => exact ensures_usage argv table
              | some outer =>
                  rw [if_pos (Bool.and_eq_true_iff.mp allGiven).2] at held
                  apply ensures_mono (ensures_run_proxy held outer inner)
                  intro started after outcome
                  cases outcome with
                  | returned table => exact .returned table
                  | polling serving => exact .polling parsed rfl rfl serving

end Specifications

/-! ## The poll loop -/

/-- The bytes of a name as characters. -/
def nameText (name : CString) : String := String.ofList (name.map fun byte => Char.ofNat byte.toNat)

/-- What the handlers read of the object. -/
def InterfaceObject.view (interface : InterfaceObject) : Interface where
  name := nameText interface.mName
  index := interface.mIndex.getD 0
  linkAddr := (interface.mLinkAddr.map SockaddrLl.sllAddr).getD fun _ => 0

def InterfaceObject.fd (interface : InterfaceObject) : Int := interface.mIpSocket.mSocket

/-- `run` at its poll loop. -/
def ProxyObject.pollLoop (proxy : ProxyObject) (recv : Nat → Except String (List UInt8))
    (inetNtop : In6Addr → Option String) : Polling where
  proxy :=
    { mInnerIfs := proxy.mInnerIfs.map InterfaceObject.view, mOuterIf := proxy.mOuterIf.view }
  outerSocket := proxy.mOuterIf.fd
  innerSocket := fun index =>
    (proxy.mInnerIfs.get (index.cast (List.length_map InterfaceObject.view))).fd
  recv := recv
  inetNtop := inetNtop

theorem all_ready_sockets {home : Option CString} {interfaces : List InterfaceObject}
    {files : List (Int × OpenFile)} (ready : AllReady home interfaces files) :
    (interfaces.map InterfaceObject.fd).reverse.Sublist (files.map Prod.fst) := by
  induction ready with
  | nil => exact .slnil
  | cons ready rest ih =>
      rw [List.map_cons, List.reverse_cons, List.map_append]
      apply ih.append
      cases ready with
      | ready name index address ip icmp protocol => exact (List.Sublist.refl _).cons _

/-- Every interface of a proxy that polls has a socket of its own. -/
theorem serving_distinct {before : Int → Option OpenFile} {home : Option CString}
    {outer : CString} {names : List CString} {proxy : ProxyObject} {after : Kernel}
    (serving : Serving before home outer names proxy after) :
    ((proxy.mOuterIf :: proxy.mInnerIfs).map InterfaceObject.fd).Nodup := by
  cases serving with
  | serving router outerReady outerNamed innerReady innerNamed some holds =>
      apply List.nodup_reverse.mp
      rw [List.map_cons, List.reverse_cons]
      apply List.Sublist.nodup _ holds.opened.distinct
      rw [List.map_append]
      apply (all_ready_sockets innerReady).append
      cases outerReady with
      | ready name index address ip icmp protocol =>
          exact ((List.Sublist.refl _).cons _).cons _

theorem poll_sockets_distinct {proxy : ProxyObject}
    (distinct : ((proxy.mOuterIf :: proxy.mInnerIfs).map InterfaceObject.fd).Nodup)
    (recv : Nat → Except String (List UInt8)) (inetNtop : In6Addr → Option String) :
    Function.Injective (proxy.pollLoop recv inetNtop).socketOf := by
  rcases List.nodup_cons.mp distinct with ⟨outer, inners⟩
  have other : ∀ index : Fin proxy.mInnerIfs.length,
      proxy.mOuterIf.fd ≠ (proxy.mInnerIfs.get index).fd := by
    intro index same
    apply outer
    rw [same]
    exact List.mem_map_of_mem (List.get_mem _ _)
  intro left right same
  cases left with
  | none =>
      cases right with
      | none => rfl
      | some index => exact absurd same (other _)
  | some first =>
      cases right with
      | none => exact absurd same.symm (other _)
      | some second =>
          have within : ∀ index : Fin (proxy.mInnerIfs.map InterfaceObject.view).length,
              index.val < (proxy.mInnerIfs.map InterfaceObject.fd).length := by
            intro index
            exact Nat.lt_of_lt_of_eq index.isLt (by rw [List.length_map, List.length_map])
          have values : (proxy.mInnerIfs.map InterfaceObject.fd).get ⟨first.val, within first⟩ =
              (proxy.mInnerIfs.map InterfaceObject.fd).get ⟨second.val, within second⟩ := by
            rw [List.get_eq_getElem, List.get_eq_getElem, List.getElem_map, List.getElem_map]
            exact same
          have places := congrArg Fin.val (inners.injective_get values)
          exact congrArg some (Fin.ext places)

/-! ## The whole program -/

/-- In every run of the program: if it returns, then with status 1 and with every descriptor
closed that it has opened. If it polls, the arguments were complete, the namespace that they name was
entered before the first socket was opened, and the sockets of the router, of the outer interface
and of those inner interfaces that could be initialised are all that is open. Every interface
then has a socket of its own, so that the poll loop can tell them apart. -/
theorem main_starts (argv : List CString) (kernel : Kernel) (events : List StartEvent)
    (started : Started) (ran : Program.Runs (main argv) events started)
    (allowed : startWorld.Allowed kernel events) :
    MainRan argv kernel started (startWorld.after kernel events) ∧
      ∀ proxy, started = .polling proxy → ∀ recv inetNtop,
        Function.Injective (proxy.pollLoop recv inetNtop).socketOf := by
  have outcome := ensures_runs (ensures_main argv kernel) ran allowed
  refine ⟨outcome, ?_⟩
  rintro proxy rfl recv inetNtop
  cases outcome with
  | polling parsed outerGiven innerGiven serving =>
      exact poll_sockets_distinct (serving_distinct serving) recv inetNtop

/-- The lowest descriptor that is free. -/
def lowestFree (kernel : Kernel) : Except CString Nat :=
  match (List.range 16).find? fun (descriptor : Nat) => (kernel.table descriptor).isNone with
  | some descriptor => .ok descriptor
  | none => .error (ascii "Too many open files")

theorem lowest_free {kernel : Kernel} {descriptor : Nat}
    (found : lowestFree kernel = .ok descriptor) : kernel.table descriptor = none := by
  unfold lowestFree at found
  cases searched : (List.range 16).find? fun (descriptor : Nat) =>
      (kernel.table descriptor).isNone with
  | none =>
      rw [searched] at found
      cases found
  | some lowest =>
      rw [searched] at found
      cases found
      exact Option.isNone_iff_eq_none.mp (List.find?_eq_some_iff_append.mp searched).1

/-- Everything succeeds, but the interface with index 3 cannot be bound. -/
def homeAnswers (kernel : Kernel) : (call : StartCall) → call.Answer
  | .sigfillset => .ok ()
  | .sigprocmask => .ok ()
  | .socket _ _ _ => lowestFree kernel
  | .getFlags _ _ => .ok 0
  | .setFlags _ _ _ => .ok ()
  | .getHwaddr _ _ => .ok fun _ => 2
  | .ifNametoindex name => .ok (if name = ascii "wlan0" then 3 else 4)
  | .bind _ address =>
      if address.map SockaddrLl.sllIfindex = some 3 then .error (ascii "No such device") else .ok ()
  | .setsockopt _ _ => .ok ()
  | .close _ => ()
  | .openReadOnly _ => lowestFree kernel
  | .setns _ => .ok ()
  | .loge _ => ()
  | .usage _ => ()

theorem home_answers_allowed (kernel : Kernel) (call : StartCall) :
    startWorld.allowed kernel call (homeAnswers kernel call) := by
  cases call with
  | socket domain type protocol =>
      change kernel.allowed (.socket domain type protocol) (lowestFree kernel)
      cases found : lowestFree kernel with
      | error text => trivial
      | ok descriptor => exact lowest_free found
  | openReadOnly path =>
      change kernel.allowed (.openReadOnly path) (lowestFree kernel)
      cases found : lowestFree kernel with
      | error text => trivial
      | ok descriptor => exact lowest_free found
  | _ => trivial

/-- The standard streams are open. -/
def bootKernel : Kernel where
  table := fun fd =>
    if 0 ≤ fd ∧ fd < 3 then some { origin := .file (ascii "/dev/null"), home := none, settings := [] }
    else none
  home := none

def homeArguments : List CString :=
  [ascii "ipv6proxy", ascii "-n", ascii "router", ascii "-o", ascii "eth0", ascii "-i",
    ascii "wlan0,wlan1"]

def Started.innerNames : Started → List CString
  | .returned _ => []
  | .polling proxy => proxy.mInnerIfs.map InterfaceObject.mName

/-- The first inner interface fails and is erased; the second one has sockets of its own. -/
theorem main_starts_home :
    ∃ proxy events, Program.Runs (main homeArguments) events (.polling proxy) ∧
      proxy.mInnerIfs.map InterfaceObject.mName = [ascii "wlan1"] ∧
      MainRan homeArguments bootKernel (.polling proxy) (startWorld.after bootKernel events) ∧
      Function.Injective (proxy.pollLoop (fun _ => .error "") fun _ => none).socketOf := by
  rcases follow_runs home_answers_allowed (main homeArguments) bootKernel with ⟨ran, allowed⟩
  have names : (startWorld.follow homeAnswers (main homeArguments) bootKernel).2.innerNames =
      [ascii "wlan1"] := by
    decide +kernel
  generalize startWorld.follow homeAnswers (main homeArguments) bootKernel = run
    at ran allowed names
  rcases run with ⟨events, started⟩
  cases started with
  | returned status => cases names
  | polling proxy =>
      rcases main_starts homeArguments bootKernel events _ ran allowed with ⟨outcome, distinct⟩
      exact ⟨proxy, events, ran, names, outcome, distinct proxy rfl _ _⟩

end RedroidExt.Ipv6Proxy
