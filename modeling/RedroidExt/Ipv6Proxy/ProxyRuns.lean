import RedroidExt.Ipv6Proxy.Rewriting

/-!
# What the proxy does with messages

The receive loop of `run` with the one buffer it has, over handlers that return. Every
call that a message leads to is on a list of permitted ones: inner networks are only
heard outside, and only routers outside give a default gateway.
-/

namespace RedroidExt.Ipv6Proxy

open RedroidExt.Library RedroidExt.Library.ByteMemory

set_option autoImplicit false

/-! ## The loop of `run` -/

/-- A message received on the outer or on one of the inner interfaces. -/
inductive ProxyEvent (proxy : Proxy) where
  | outer (datagram : List UInt8)
  | inner (index : Fin proxy.mInnerIfs.length) (datagram : List UInt8)

def ProxyEvent.datagram {proxy : Proxy} : ProxyEvent proxy → List UInt8
  | .outer datagram => datagram
  | .inner _ datagram => datagram

/-- The handler of the interface, on the message in the buffer. -/
def handleMessage (rounds : Nat) (proxy : Proxy) (inetNtop : In6Addr → Option String)
    (message : Message) : ProxyEvent proxy → Option (Message × List Call)
  | .outer _ => handleOuterMessage rounds proxy message inetNtop
  | .inner index _ => handleInnerMessage rounds proxy (proxy.mInnerIfs.get index) message

/-- A message that was handled, with the calls it led to. -/
structure Handled (proxy : Proxy) where
  event : ProxyEvent proxy
  received : Message
  calls : List Call

/-- The messages of a run in which every handler returns, from a buffer with any contents. -/
inductive ProxyTrace (proxy : Proxy) (inetNtop : In6Addr → Option String) :
    Message → List (Handled proxy) → Prop
  | nil (buffer : Message) : ProxyTrace proxy inetNtop buffer []
  | cons {buffer after : Message} {event : ProxyEvent proxy} {calls : List Call} {rounds : Nat}
      {rest : List (Handled proxy)}
      (returned : handleMessage rounds proxy inetNtop (buffer.receive event.datagram) event =
        some (after, calls))
      (later : ProxyTrace proxy inetNtop after rest) :
      ProxyTrace proxy inetNtop buffer
        ({ event := event, received := buffer.receive event.datagram, calls := calls } :: rest)

/-! ## Permitted calls -/

/-- The messages from an inner network that are sent on. -/
def SentOutside (type : PacketType) : Prop :=
  type = .routerSolicitation ∨ type = .neighborSolicitation ∨ type = .neighborAdvertisement

def NeighborMessage (type : PacketType) : Prop :=
  type = .neighborSolicitation ∨ type = .neighborAdvertisement

/-- The calls that a message may lead to: the only ones that reach an interface, the router or a
property. -/
inductive Permitted (proxy : Proxy) (received : Message) : ProxyEvent proxy → Call → Prop
  | sentInside {datagram data : List UInt8} {inner : Interface} {call : Call}
      (type : SentInside (Packet.ofMessage received).mType) (member : inner ∈ proxy.mInnerIfs)
      (sent : call.sent = some (inner, data)) : Permitted proxy received (.outer datagram) call
  | property {datagram : List UInt8}
      (type : (Packet.ofMessage received).mType = .routerAdvertisement) (name value : String) :
      Permitted proxy received (.outer datagram) (.propertySet name value)
  | gateway {datagram : List UInt8}
      (type : (Packet.ofMessage received).mType = .routerAdvertisement) :
      Permitted proxy received (.outer datagram)
        (.setDefaultGateway received.ip6Src proxy.mOuterIf.index)
  | sentOutside {datagram data : List UInt8} {index : Fin proxy.mInnerIfs.length} {call : Call}
      (type : SentOutside (Packet.ofMessage received).mType)
      (sent : call.sent = some (proxy.mOuterIf, data)) :
      Permitted proxy received (.inner index datagram) call
  | route {datagram : List UInt8} {index : Fin proxy.mInnerIfs.length}
      (type : NeighborMessage (Packet.ofMessage received).mType) :
      Permitted proxy received (.inner index datagram)
        (.addRoute received.ip6Src kNodePrefixLength (proxy.mInnerIfs.get index).index)

/-! ## The calls of `forward` -/

inductive Forwards (source toIf : Interface) (packet : Packet) (message : Message)
    (options : UInt32) : Call → Prop
  | sent {call : Call} (sent : call.sent = some (toIf, message.icmp)) :
      Forwards source toIf packet message options call
  | route (set : options &&& kAddRoute ≠ 0) :
      Forwards source toIf packet message options
        (.addRoute message.ip6Src kNodePrefixLength source.index)
  | gateway (type : packet.mType = .routerAdvertisement)
      (set : options &&& kSetDefaultGateway ≠ 0) :
      Forwards source toIf packet message options
        (.setDefaultGateway message.ip6Src source.index)

theorem forward_calls_forwards {source toIf : Interface} {packet : Packet} {message : Message}
    {options : UInt32} {call : Call}
    (member : call ∈ forwardCalls source toIf packet message options) :
    Forwards source toIf packet message options call := by
  unfold forwardCalls at member
  rcases List.mem_append.mp member with front | gateway
  · rcases List.mem_cons.mp front with sent | route
    · subst sent
      apply Forwards.sent
      split_ifs
      · rfl
      · rfl
    · split_ifs at route with set
      · rw [List.mem_singleton.mp route]
        exact .route set
      · cases route
  · split_ifs at gateway with set
    · rw [List.mem_singleton.mp gateway]
      exact .gateway set.1 set.2
    · cases gateway

/-- The source address survives all rewriting. -/
theorem dressed_ip6_src {original current : Message} {optionType : Option UInt8}
    (dressed : Dressed original optionType current) : current.ip6Src = original.ip6Src := by
  unfold Message.ip6Src load
  apply List.map_congr_left
  intro index member
  have bounded := List.mem_range.mp member
  exact dressed_ip6_header dressed _ (show 8 + index < 40 by omega)

theorem forward_to_all_forwards {original : Message} {optionType : Option UInt8} {rounds : Nat}
    {source : Interface} {options : UInt32} (only : RewritesOnly options optionType)
    (inners : List Interface) {done : Message × List Call} {after : Message} {calls : List Call}
    (dressed : Dressed original optionType done.1)
    (returned : forwardToAll rounds source (Packet.ofMessage original) options inners done =
      some (after, calls)) :
    ∀ call ∈ calls, call ∈ done.2 ∨ ∃ inner ∈ inners, ∃ current,
      Dressed original optionType current ∧
        Forwards source inner (Packet.ofMessage original) current options call := by
  induction inners generalizing done with
  | nil =>
      have same := Option.some.inj returned
      rw [same]
      exact fun call member => .inl member
  | cons inner rest ih =>
      obtain ⟨⟨next, made⟩, forwarded, behind⟩ := Option.bind_eq_some_iff.mp returned
      obtain ⟨copied, calledFor⟩ := forward_copied only dressed forwarded
      intro call member
      rcases ih copied.toDressed behind call member with early | ⟨last, here, current, later⟩
      · rcases List.mem_append.mp early with old | new
        · exact .inl old
        · right
          rw [calledFor] at new
          exact ⟨inner, List.mem_cons_self, next, copied.toDressed, forward_calls_forwards new⟩
      · exact .inr ⟨last, List.mem_cons_of_mem _ here, current, later⟩

/-! ## The handlers -/

theorem outer_forward_permitted {proxy : Proxy} {message current : Message}
    {optionType : Option UInt8} {options : UInt32} {inner : Interface} {call : Call}
    (type : SentInside (Packet.ofMessage message).mType) (member : inner ∈ proxy.mInnerIfs)
    (noRoute : ¬ options &&& kAddRoute ≠ 0) (dressed : Dressed message optionType current)
    (forwards : Forwards proxy.mOuterIf inner (Packet.ofMessage message) current options call)
    (datagram : List UInt8) : Permitted proxy message (.outer datagram) call := by
  cases forwards with
  | sent sent => exact .sentInside type member sent
  | route set => exact absurd set noRoute
  | gateway advert set =>
      rw [dressed_ip6_src dressed]
      exact .gateway advert

theorem handle_outer_message_permitted {rounds : Nat} {proxy : Proxy} {message after : Message}
    {inetNtop : In6Addr → Option String} {calls : List Call}
    (returned : handleOuterMessage rounds proxy message inetNtop = some (after, calls))
    (datagram : List UInt8) : ∀ call ∈ calls, Permitted proxy message (.outer datagram) call := by
  intro call member
  cases outer_handled returned with
  | routerAdvertisement type extracted forwarded =>
      rcases forward_to_all_forwards (.source (by decide) (by decide)) proxy.mInnerIfs
        (dressed_refl message _) forwarded call member with
        set | ⟨inner, here, current, dressed, forwards⟩
      · obtain ⟨name, value, same⟩ := extract_sets_properties extracted call set
        rw [same]
        exact .property type name value
      · exact outer_forward_permitted (.inl type) here (by decide) dressed forwards datagram
  | neighborSolicitation type forwarded =>
      rcases forward_to_all_forwards (.nothing (by decide) (by decide)) proxy.mInnerIfs
        (dressed_refl message _) forwarded call member with
        none | ⟨inner, here, current, dressed, forwards⟩
      · cases none
      · exact outer_forward_permitted (.inr (.inl type)) here (by decide) dressed forwards datagram
  | neighborAdvertisement type forwarded =>
      rcases forward_to_all_forwards (.target (by decide) (by decide)) proxy.mInnerIfs
        (dressed_refl message _) forwarded call member with
        none | ⟨inner, here, current, dressed, forwards⟩
      · cases none
      · exact outer_forward_permitted (.inr (.inr type)) here (by decide) dressed forwards datagram
  | ignored type same none =>
      rw [none] at member
      cases member

theorem inner_forward_permitted {proxy : Proxy} {index : Fin proxy.mInnerIfs.length}
    {message after : Message} {optionType : Option UInt8} {options : UInt32} {rounds : Nat}
    {calls : List Call} (type : SentOutside (Packet.ofMessage message).mType)
    (only : RewritesOnly options optionType)
    (neighbor : options &&& kAddRoute ≠ 0 → NeighborMessage (Packet.ofMessage message).mType)
    (forwarded : forward rounds (proxy.mInnerIfs.get index) proxy.mOuterIf
      (Packet.ofMessage message) message options = some (after, calls))
    (datagram : List UInt8) :
    ∀ call ∈ calls, Permitted proxy message (.inner index datagram) call := by
  obtain ⟨copied, calledFor⟩ := forward_copied only (dressed_refl message _) forwarded
  intro call member
  rw [calledFor] at member
  cases forward_calls_forwards member with
  | sent sent => exact .sentOutside type sent
  | route set =>
      rw [dressed_ip6_src copied.toDressed]
      exact .route (neighbor set)
  | gateway advert set =>
      rw [advert] at type
      simp [SentOutside] at type

theorem handle_inner_message_permitted {rounds : Nat} {proxy : Proxy}
    {index : Fin proxy.mInnerIfs.length} {message after : Message} {calls : List Call}
    (returned : handleInnerMessage rounds proxy (proxy.mInnerIfs.get index) message =
      some (after, calls)) (datagram : List UInt8) :
    ∀ call ∈ calls, Permitted proxy message (.inner index datagram) call := by
  unfold handleInnerMessage at returned
  dsimp only at returned
  cases type : (Packet.ofMessage message).mType with
  | routerSolicitation =>
      rw [type] at returned
      exact inner_forward_permitted (.inl type) (.nothing (by decide) (by decide))
        (fun set => absurd set (by decide)) returned datagram
  | neighborSolicitation =>
      rw [type] at returned
      exact inner_forward_permitted (.inr (.inl type)) (.nothing (by decide) (by decide))
        (fun _ => .inl type) returned datagram
  | neighborAdvertisement =>
      rw [type] at returned
      exact inner_forward_permitted (.inr (.inr type)) (.target (by decide) (by decide))
        (fun _ => .inr type) returned datagram
  | routerAdvertisement =>
      rw [type] at returned
      rw [← (Prod.mk.inj (Option.some.inj returned)).2]
      exact fun call member => nomatch member
  | other =>
      rw [type] at returned
      rw [← (Prod.mk.inj (Option.some.inj returned)).2]
      exact fun call member => nomatch member

theorem handle_message_permitted {rounds : Nat} {proxy : Proxy} {event : ProxyEvent proxy}
    {message after : Message} {inetNtop : In6Addr → Option String} {calls : List Call}
    (returned : handleMessage rounds proxy inetNtop message event = some (after, calls)) :
    ∀ call ∈ calls, Permitted proxy message event call := by
  cases event with
  | outer datagram => exact handle_outer_message_permitted returned datagram
  | inner index datagram => exact handle_inner_message_permitted returned datagram

/-- Over any run every call is permitted. A message from an inner network is sent on outside only,
unless it is a router advertisement, and sets neither the gateway nor a property; a message from
outside is sent on inside only, unless it is a router solicitation; gateways are the senders of
router advertisements from outside, and routes lead to the senders of neighbour messages. -/
theorem routing_policy (proxy : Proxy) (inetNtop : In6Addr → Option String) (buffer : Message)
    (trace : List (Handled proxy)) (ran : ProxyTrace proxy inetNtop buffer trace) :
    ∀ handled ∈ trace, ∀ call ∈ handled.calls,
      Permitted proxy handled.received handled.event call := by
  induction ran with
  | nil => exact fun handled member => nomatch member
  | cons returned later ih =>
      intro handled member
      rcases List.mem_cons.mp member with first | rest
      · rw [first]
        exact handle_message_permitted returned
      · exact ih handled rest

/-- A neighbour solicitation from the second inner network: it is sent on outside, and the route
to its sender is added. -/
def innerSolicit : ProxyEvent pairProxy :=
  .inner ⟨1, by decide⟩ (linkAddressPacket ndNeighborSolicit 24 ndOptSourceLinkaddr)

theorem routing_policy_solicit :
    ∃ handled : Handled pairProxy,
      ProxyTrace pairProxy (fun _ => none) { mData := fun _ => 0, mSize := 0 } [handled] ∧
      handled.calls.length = 2 ∧
      ∀ call ∈ handled.calls, Permitted pairProxy handled.received handled.event call := by
  generalize buffer : ({ mData := fun _ => 0, mSize := 0 } : Message) = start
  have finished : ((handleMessage 1 pairProxy (fun _ => none) (start.receive innerSolicit.datagram)
      innerSolicit).map fun handled => handled.2.length) = some 2 := by
    rw [← buffer]
    decide +kernel
  obtain ⟨⟨after, calls⟩, returned, count⟩ := Option.map_eq_some_iff.mp finished
  have ran : ProxyTrace pairProxy (fun _ => none) start
      [⟨innerSolicit, start.receive innerSolicit.datagram, calls⟩] :=
    .cons returned (.nil after)
  exact ⟨_, ran, count, routing_policy pairProxy (fun _ => none) start _ ran _ List.mem_cons_self⟩

end RedroidExt.Ipv6Proxy
