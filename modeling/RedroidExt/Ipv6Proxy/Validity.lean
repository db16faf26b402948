import RedroidExt.Ipv6Proxy.ProxyRuns

/-!
# Which messages are sent on

The classifier reads the version, the next header, the ICMP code and type and the
length, and the walk over the options stops at the first one that does not fit. The
hop limit is not read, and neither is what lies behind the last visited option.
-/

namespace RedroidExt.Ipv6Proxy

open RedroidExt.Library RedroidExt.Library.ByteMemory

set_option autoImplicit false

def Message.ip6HopLimit (message : Message) : UInt8 := message.mData 7

/-! ## Neighbour discovery validity -/

/-- Options of nonzero length from the offset on that end exactly where the message does. -/
inductive OptionsFill (message : Message) : Nat → Prop
  | done {offset : Nat} (ended : offset = message.mSize) : OptionsFill message offset
  | option {offset : Nat} (positive : message.ndOptLen offset ≠ 0)
      (inside : message.optEnd offset ≤ message.mSize)
      (rest : OptionsFill message (message.optEnd offset)) : OptionsFill message offset

/-- The validity rules for a neighbour discovery message. -/
structure Valid (message : Message) : Prop extends Classified message where
  hopLimit : message.ip6HopLimit = 255
  options : OptionsFill message (ip6HdrSize + (packetTypeOf message.icmp6Type).headerSize)

/-! ## Messages that are sent on -/

/-- The types whose options the proxy walks along. -/
def Walked (type : PacketType) : Prop :=
  type = .routerAdvertisement ∨ type = .neighborAdvertisement

theorem permitted_sent {proxy : Proxy} {received : Message} {event : ProxyEvent proxy} {call : Call}
    (permitted : Permitted proxy received event call) (sent : call.sent.isSome = true) :
    match event with
    | .outer _ => SentInside (Packet.ofMessage received).mType ∧ proxy.mInnerIfs ≠ []
    | .inner _ _ => SentOutside (Packet.ofMessage received).mType := by
  cases permitted with
  | sentInside type member _ => exact ⟨type, List.ne_nil_of_mem member⟩
  | property type name value => cases sent
  | gateway type => cases sent
  | sentOutside type _ => exact type
  | route type => cases sent

theorem sent_walk_ends {rounds : Nat} {proxy : Proxy} {event : ProxyEvent proxy}
    {message after : Message} {inetNtop : In6Addr → Option String} {calls : List Call}
    (returned : handleMessage rounds proxy inetNtop message event = some (after, calls))
    {call : Call} (member : call ∈ calls) (sent : call.sent.isSome = true)
    (walked : Walked (Packet.ofMessage message).mType) :
    (visitedOptions (Packet.ofMessage message) message rounds).isSome = true := by
  have kind := permitted_sent (handle_message_permitted returned call member) sent
  have returns := Option.isSome_of_eq_some returned
  cases event with
  | outer datagram =>
      apply (handle_outer_message_some_iff rounds proxy message inetNtop).mp returns
      rcases walked with advert | neighbor
      · exact .inl advert
      · exact .inr ⟨neighbor, kind.2⟩
  | inner index datagram =>
      apply (handle_inner_message_some_iff rounds proxy (proxy.mInnerIfs.get index) message).mp returns
      rcases walked with advert | neighbor
      · rw [advert] at kind
        simp [SentOutside] at kind
      · exact neighbor

theorem sent_known {rounds : Nat} {proxy : Proxy} {event : ProxyEvent proxy}
    {message after : Message} {inetNtop : In6Addr → Option String} {calls : List Call}
    (returned : handleMessage rounds proxy inetNtop message event = some (after, calls))
    {call : Call} (member : call ∈ calls) (sent : call.sent.isSome = true) :
    (Packet.ofMessage message).mType ≠ .other := by
  have kind := permitted_sent (handle_message_permitted returned call member) sent
  intro other
  cases event with
  | outer datagram => simp [SentInside, other] at kind
  | inner index datagram => simp [SentOutside, other] at kind

/-- A message that is sent on was classified, and every option that the proxy visits in an
advertisement has a nonzero length and lies inside the message. -/
theorem resent_checked (rounds : Nat) (proxy : Proxy) (inetNtop : In6Addr → Option String)
    (buffer : Message) (event : ProxyEvent proxy) (after : Message) (calls : List Call)
    (returned : handleMessage rounds proxy inetNtop (buffer.receive event.datagram) event =
      some (after, calls))
    (call : Call) (member : call ∈ calls) (sent : call.sent.isSome = true) :
    Classified (buffer.receive event.datagram) ∧
      (Walked (Packet.ofMessage (buffer.receive event.datagram)).mType →
        ∀ opt, Visited (buffer.receive event.datagram) opt →
          (buffer.receive event.datagram).ndOptLen opt ≠ 0 ∧
            (buffer.receive event.datagram).optEnd opt ≤ (buffer.receive event.datagram).mSize) := by
  constructor
  · exact (of_message_classified (sent_known returned member sent)).1
  · intro walked opt visited
    obtain ⟨positive, inside, -⟩ :=
      visited_inside (sent_walk_ends returned member sent walked) visited
    exact ⟨positive, inside⟩

theorem resent_checked_solicit :
    ∃ after calls call,
      handleMessage 1 pairProxy (fun _ => none)
          ((receivedMessage []).receive innerSolicit.datagram) innerSolicit = some (after, calls) ∧
        call ∈ calls ∧ call.sent.isSome = true ∧
        Classified ((receivedMessage []).receive innerSolicit.datagram) := by
  have finished : ((handleMessage 1 pairProxy (fun _ => none)
      ((receivedMessage []).receive innerSolicit.datagram) innerSolicit).map fun handled =>
        (handled.2[0]?.map fun call => call.sent.isSome)) = some (some true) := by
    decide +kernel
  obtain ⟨⟨after, calls⟩, returned, first⟩ := Option.map_eq_some_iff.mp finished
  obtain ⟨call, present, sent⟩ := Option.map_eq_some_iff.mp first
  have member := List.mem_of_getElem? present
  exact ⟨after, calls, call, returned, member, sent,
    (resent_checked 1 pairProxy (fun _ => none) _ innerSolicit after calls returned call member
      sent).1⟩

/-- A neighbour solicitation with hop limit 64 and an option of length zero behind it. -/
def spoofedSolicit : List UInt8 :=
  [0x60, 0, 0, 0, 0, 0, ipprotoIcmpv6, 64] ++ List.replicate 32 0 ++ [ndNeighborSolicit, 0] ++
    List.replicate 22 0 ++ [ndOptSourceLinkaddr, 0, 0]

/-- A router advertisement with hop limit 255 whose second option is cut off. -/
def cutAdvert : List UInt8 :=
  linkAddressPacket ndRouterAdvert 16 ndOptSourceLinkaddr ++ [ndOptSourceLinkaddr, 2]

/-- The message of the event is sent on, and breaks the rules. -/
def ResentInvalid (event : ProxyEvent pairProxy) : Prop :=
  ∃ rounds after calls call,
    handleMessage rounds pairProxy (fun _ => none) (receivedMessage event.datagram) event =
        some (after, calls) ∧
      call ∈ calls ∧ call.sent.isSome = true ∧ ¬ Valid (receivedMessage event.datagram)

theorem resent_of_first {event : ProxyEvent pairProxy} {rounds : Nat}
    (finished : ((handleMessage rounds pairProxy (fun _ => none) (receivedMessage event.datagram)
      event).map fun handled => handled.2[0]?.map fun call => call.sent.isSome) = some (some true))
    (invalid : ¬ Valid (receivedMessage event.datagram)) : ResentInvalid event := by
  obtain ⟨⟨after, calls⟩, returned, first⟩ := Option.map_eq_some_iff.mp finished
  obtain ⟨call, present, sent⟩ := Option.map_eq_some_iff.mp first
  exact ⟨rounds, after, calls, call, returned, List.mem_of_getElem? present, sent, invalid⟩

theorem spoofed_solicit_invalid : ¬ Valid (receivedMessage spoofedSolicit) := by
  have hopLimit : (receivedMessage spoofedSolicit).ip6HopLimit = 64 := by
    decide +kernel
  intro valid
  rw [valid.hopLimit] at hopLimit
  exact absurd hopLimit (by decide)

theorem cut_advert_invalid : ¬ Valid (receivedMessage cutAdvert) := by
  have start : ip6HdrSize + (packetTypeOf (receivedMessage cutAdvert).icmp6Type).headerSize =
      56 := by
    decide +kernel
  have first : (receivedMessage cutAdvert).optEnd 56 = 64 := by
    decide +kernel
  have second : ¬ (receivedMessage cutAdvert).optEnd 64 ≤ (receivedMessage cutAdvert).mSize := by
    decide +kernel
  intro valid
  have fill := valid.options
  rw [start] at fill
  cases fill with
  | done ended => exact absurd ended (by decide +kernel)
  | option _ _ rest =>
      rw [first] at rest
      cases rest with
      | done ended => exact absurd ended (by decide +kernel)
      | option _ inside _ => exact second inside

/-- A hop limit other than 255 and an empty option do not keep the first from being sent outside,
and a cut option not the second from being sent inside. -/
theorem invalid_messages_resent :
    ResentInvalid (.inner ⟨0, by decide⟩ spoofedSolicit) ∧ ResentInvalid (.outer cutAdvert) := by
  have solicit : ((handleMessage 1 pairProxy (fun _ => none) (receivedMessage spoofedSolicit)
      (.inner ⟨0, by decide⟩ spoofedSolicit)).map fun handled =>
        handled.2[0]?.map fun call => call.sent.isSome) = some (some true) := by
    decide +kernel
  have advert : ((handleMessage 2 pairProxy (fun _ => none) (receivedMessage cutAdvert)
      (.outer cutAdvert)).map fun handled =>
        handled.2[0]?.map fun call => call.sent.isSome) = some (some true) := by
    decide +kernel
  exact ⟨resent_of_first solicit spoofed_solicit_invalid,
    resent_of_first advert cut_advert_invalid⟩

end RedroidExt.Ipv6Proxy
