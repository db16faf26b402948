import RedroidExt.Ipv6Proxy.StartupRuns

/-!
# What a started proxy lets through

The start of the program and its poll loop together. Every message is read from a socket
that is bound to an interface of the arguments, and what it leads to leaves by the sockets of
the other side, or goes to the router or into a property.
-/

namespace RedroidExt.Ipv6Proxy

open RedroidExt.Library RedroidExt.Library.World RedroidExt.Netns

set_option autoImplicit false

/-! ## The sockets of the interfaces -/

/-- Both sockets of an interface are open in the namespace `home`: one receives at its address, the
other one sends on the device with its name. -/
structure Attached (home : Option CString) (kernel : Kernel) (interface : InterfaceObject) :
    Prop where
  receives : ∃ address, interface.mLinkAddr = some address ∧
    kernel.table interface.fd = some (ipFile home address)
  sends : kernel.table interface.mIcmpSocket.mSocket = some (icmpFile home interface.mName)

/-- The interfaces that a proxy was left with. -/
structure Joined (home : Option CString) (outer : CString) (names : List CString)
    (kernel : Kernel) (proxy : ProxyObject) : Prop where
  outerAttached : Attached home kernel proxy.mOuterIf
  outerNamed : proxy.mOuterIf.mName = outer
  innerAttached : ∀ interface ∈ proxy.mInnerIfs, Attached home kernel interface
  innerNamed : ∀ interface ∈ proxy.mInnerIfs, interface.mName ∈ names

section Interfaces

variable {home : Option CString} {outer : CString} {names : List CString} {kernel : Kernel}
variable {proxy : ProxyObject}

theorem ready_attached {interface : InterfaceObject} {mine : List (Int × OpenFile)}
    (ready : Ready home interface mine)
    (found : ∀ entry ∈ mine, kernel.table entry.1 = some entry.2) :
    Attached home kernel interface := by
  cases ready with
  | ready name index address ip icmp protocol =>
      constructor
      · exact ⟨address, rfl, found _ (List.mem_cons_of_mem _ List.mem_cons_self)⟩
      · exact found _ List.mem_cons_self

theorem all_ready_attached {interfaces : List InterfaceObject} {files : List (Int × OpenFile)}
    (ready : AllReady home interfaces files)
    (found : ∀ entry ∈ files, kernel.table entry.1 = some entry.2) :
    ∀ interface ∈ interfaces, Attached home kernel interface := by
  induction ready with
  | nil => exact fun _ member => absurd member List.not_mem_nil
  | cons first rest ih =>
      intro interface member
      rcases List.mem_cons.mp member with rfl | later
      · exact ready_attached first fun entry mine => found entry (List.mem_append_right _ mine)
      · exact ih (fun entry other => found entry (List.mem_append_left _ other)) interface later

theorem serving_joined {before : Int → Option OpenFile}
    (serving : Serving before home outer names proxy kernel) :
    Joined home outer names kernel proxy := by
  cases serving with
  | serving router outerReady outerNamed innerReady innerNamed some holds =>
      have found := holds.opened.found
      constructor
      · apply ready_attached outerReady
        intro entry member
        exact found entry (List.mem_append_right _ (List.mem_cons_of_mem _ member))
      · exact outerNamed
      · exact all_ready_attached innerReady fun entry member =>
          found entry (List.mem_append_left _ member)
      · exact fun interface member => innerNamed.subset (List.mem_map_of_mem member)

end Interfaces

/-! ## Messages and calls -/

/-- A message that leaves by the socket of one of the interfaces, which has one of the names. -/
inductive LeavesBy (home : Option CString) (names : List CString) (kernel : Kernel)
    (interfaces : List InterfaceObject) (call : Call) : Prop
  | socket {interface : InterfaceObject} {data : List UInt8} (member : interface ∈ interfaces)
      (attached : Attached home kernel interface) (named : interface.mName ∈ names)
      (sent : call.sent = some (interface.view, data)) :
      LeavesBy home names kernel interfaces call

section Relays

variable (home : Option CString) (outer : CString) (names : List CString) (kernel : Kernel)
variable (proxy : ProxyObject) {served : Proxy}

/-- The message was read from the socket of an interface that the arguments name. -/
inductive Arrived : ProxyEvent served → Prop
  | outer {datagram : List UInt8} (attached : Attached home kernel proxy.mOuterIf)
      (named : proxy.mOuterIf.mName = outer) : Arrived (.outer datagram)
  | inner {index : Fin served.mInnerIfs.length} {datagram : List UInt8}
      {interface : InterfaceObject} (place : proxy.mInnerIfs[index.val]? = some interface)
      (attached : Attached home kernel interface) (named : interface.mName ∈ names) :
      Arrived (.inner index datagram)

/-- What it leads to. -/
inductive Relayed (received : Message) : ProxyEvent served → Call → Prop
  | inside {datagram : List UInt8} {call : Call}
      (type : SentInside (Packet.ofMessage received).mType)
      (leaves : LeavesBy home names kernel proxy.mInnerIfs call) :
      Relayed received (.outer datagram) call
  | property {datagram : List UInt8}
      (type : (Packet.ofMessage received).mType = .routerAdvertisement) (name value : String) :
      Relayed received (.outer datagram) (.propertySet name value)
  | gateway {datagram : List UInt8}
      (type : (Packet.ofMessage received).mType = .routerAdvertisement) :
      Relayed received (.outer datagram)
        (.setDefaultGateway received.ip6Src proxy.mOuterIf.view.index)
  | outside {index : Fin served.mInnerIfs.length} {datagram : List UInt8} {call : Call}
      (type : SentOutside (Packet.ofMessage received).mType)
      (leaves : LeavesBy home [outer] kernel [proxy.mOuterIf] call) :
      Relayed received (.inner index datagram) call
  | route {index : Fin served.mInnerIfs.length} {datagram : List UInt8}
      {interface : InterfaceObject} (type : NeighborMessage (Packet.ofMessage received).mType)
      (place : proxy.mInnerIfs[index.val]? = some interface) :
      Relayed received (.inner index datagram)
        (.addRoute received.ip6Src kNodePrefixLength interface.view.index)

end Relays

section Joins

variable {home : Option CString} {outer : CString} {names : List CString} {kernel : Kernel}
variable {proxy : ProxyObject} {recv : Nat → Except String (List UInt8)}
variable {inetNtop : In6Addr → Option String}

/-- The interface with a number is the one that the handlers see under it. -/
theorem inner_interface (index : Fin (proxy.pollLoop recv inetNtop).proxy.mInnerIfs.length) :
    ∃ interface ∈ proxy.mInnerIfs, proxy.mInnerIfs[index.val]? = some interface ∧
      (proxy.pollLoop recv inetNtop).proxy.mInnerIfs.get index = interface.view := by
  have within : index.val < proxy.mInnerIfs.length :=
    Nat.lt_of_lt_of_eq index.isLt (List.length_map _)
  exact ⟨proxy.mInnerIfs[index.val], List.getElem_mem within, List.getElem?_eq_getElem within,
    List.getElem_map _⟩

theorem joined_arrived (joined : Joined home outer names kernel proxy)
    (event : ProxyEvent (proxy.pollLoop recv inetNtop).proxy) :
    Arrived home outer names kernel proxy event := by
  cases event with
  | outer datagram => exact .outer joined.outerAttached joined.outerNamed
  | inner index datagram =>
      rcases inner_interface index with ⟨interface, member, place, -⟩
      exact .inner place (joined.innerAttached interface member) (joined.innerNamed interface member)

theorem permitted_relayed (joined : Joined home outer names kernel proxy) {received : Message}
    {event : ProxyEvent (proxy.pollLoop recv inetNtop).proxy} {call : Call}
    (permitted : Permitted (proxy.pollLoop recv inetNtop).proxy received event call) :
    Relayed home outer names kernel proxy received event call := by
  cases permitted with
  | sentInside type member sent =>
      rcases List.mem_map.mp member with ⟨interface, here, rfl⟩
      exact .inside type
        (.socket here (joined.innerAttached interface here) (joined.innerNamed interface here) sent)
  | property type name value => exact .property type name value
  | gateway type => exact .gateway type
  | sentOutside type sent =>
      exact .outside type
        (.socket List.mem_cons_self joined.outerAttached
          (List.mem_singleton.mpr joined.outerNamed) sent)
  | @route datagram index type =>
      rcases inner_interface index with ⟨interface, -, place, same⟩
      rw [same]
      exact .route type place

theorem trace_handled {served : Proxy} {buffer : Message} {trace : List (Handled served)}
    (ran : ProxyTrace served inetNtop buffer trace) :
    ∀ handled ∈ trace, ∃ rounds after,
      handleMessage rounds served inetNtop handled.received handled.event =
        some (after, handled.calls) := by
  induction ran with
  | nil => exact fun _ member => absurd member List.not_mem_nil
  | cons returned later ih =>
      intro handled member
      rcases List.mem_cons.mp member with rfl | rest
      · exact ⟨_, _, returned⟩
      · exact ih handled rest

end Joins

/-! ## The whole program -/

/-- Every message that the program handles, in terms of its arguments; 44 is the comma. -/
inductive Relays (argv : List CString) (kernel after : Kernel) (proxy : ProxyObject)
    {served : Proxy} (trace : List (Handled served)) : Prop
  | relays {arguments : ProxyArguments} {outer inner : CString}
      (parsed : parseArguments argv.tail { inner := none, outer := none, netNamespace := none } =
        .ok arguments)
      (outerGiven : arguments.outer = some outer) (innerGiven : arguments.inner = some inner)
      (arrived : ∀ handled ∈ trace,
        Arrived (namespaceOf kernel.home arguments.netNamespace) outer (inner.splitOn 44) after
          proxy handled.event)
      (relayed : ∀ handled ∈ trace, ∀ call ∈ handled.calls,
        Relayed (namespaceOf kernel.home arguments.netNamespace) outer (inner.splitOn 44) after
          proxy handled.received handled.event call) : Relays argv kernel after proxy trace

/-- From the first instruction on, whatever the kernel answers and whatever arrives: each readable
socket is read once in its turn, every message was read from the socket of an interface that the
arguments name, and what it leads to only concerns the interfaces of the other side. -/
theorem proxy_relays (argv : List CString) (kernel : Kernel) (events : List StartEvent)
    (proxy : ProxyObject) (ran : Program.Runs (main argv) events (.polling proxy))
    (allowed : startWorld.Allowed kernel events) (recv : Nat → Except String (List UInt8))
    (inetNtop : In6Addr → Option String) (rounds : Nat) (polls : List PollStatus)
    (buffer : Message) (after : (proxy.pollLoop recv inetNtop).State)
    (returned : Polling.pollLoop rounds polls
      { message := buffer, received := 0, handled := [] } = some after) :
    after.handled.map Handled.event =
        (proxy.pollLoop recv inetNtop).eventsFrom
          ((proxy.pollLoop recv inetNtop).attention polls) 0 ∧
      Relays argv kernel (startWorld.after kernel events) proxy after.handled := by
  have outcome := ensures_runs (ensures_main argv kernel) ran allowed
  cases outcome with
  | polling parsed outerGiven innerGiven serving =>
      have distinct := poll_sockets_distinct (serving_distinct serving) recv inetNtop
      have joined := serving_joined serving
      rw [Polling.poll_loop_attends distinct] at returned
      rcases Polling.attend_serves rounds _ returned with ⟨handled, serves⟩
      have all : after.handled = handled := serves.appended
      rw [all]
      refine ⟨serves.events, .relays parsed outerGiven innerGiven ?_ ?_⟩
      · exact fun handled _ => joined_arrived joined handled.event
      · intro handled member call called
        rcases trace_handled serves.trace handled member with ⟨rounds, last, done⟩
        exact permitted_relayed joined (handle_message_permitted done call called)

/-- The first `recv` fails, the other ones yield a neighbour solicitation. -/
def homeRecv (count : Nat) : Except String (List UInt8) :=
  if count = 0 then .error "Network is down"
  else .ok (linkAddressPacket ndNeighborSolicit 24 ndOptSourceLinkaddr)

/-- How many messages are handled when every socket is readable once. -/
def Started.handledOnce : Started → Option Nat
  | .returned _ => none
  | .polling proxy =>
      (Polling.pollLoop 1 [.ready fun _ => true]
        ({ message := { mData := fun _ => 0, mSize := 0 }, received := 0, handled := [] } :
          (proxy.pollLoop homeRecv fun _ => none).State)).map fun after => after.handled.length

/-- The solicitation comes from `wlan1`, the only inner interface that is left. -/
theorem proxy_relays_home :
    ∃ proxy events, Program.Runs (main homeArguments) events (.polling proxy) ∧
      ∃ after : (proxy.pollLoop homeRecv fun _ => none).State, after.handled.length = 1 ∧
        Relays homeArguments bootKernel (startWorld.after bootKernel events) proxy
          after.handled := by
  rcases follow_runs home_answers_allowed (main homeArguments) bootKernel with ⟨ran, allowed⟩
  have handled : (startWorld.follow homeAnswers (main homeArguments) bootKernel).2.handledOnce =
      some 1 := by
    decide +kernel
  generalize startWorld.follow homeAnswers (main homeArguments) bootKernel = run
    at ran allowed handled
  rcases run with ⟨events, started⟩
  cases started with
  | returned status => cases handled
  | polling proxy =>
      rcases Option.map_eq_some_iff.mp handled with ⟨after, returned, one⟩
      exact ⟨proxy, events, ran, after, one,
        (proxy_relays homeArguments bootKernel events proxy ran allowed homeRecv (fun _ => none) 1
          _ _ after returned).2⟩

end RedroidExt.Ipv6Proxy
