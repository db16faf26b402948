import RedroidExt.Ipv6Proxy.ExaminedBytes

/-!
# Options laid out back to back

What a sender puts behind the fixed header, and that the walk of a receiver finds
each of these options once and in their order.
-/

namespace RedroidExt.Ipv6Proxy

open RedroidExt.Library RedroidExt.Library.ByteMemory

set_option autoImplicit false

/-- An option of `ndOptLen` units of eight bytes, its two header bytes included. -/
structure NdOption where
  ndOptType : UInt8
  ndOptLen : UInt8
  data : List UInt8
  positive : 1 ≤ ndOptLen.toNat
  sized : ndOptHdrSize + data.length = ndOptLen.toNat * 8

namespace NdOption

def encode (option : NdOption) : List UInt8 := option.ndOptType :: option.ndOptLen :: option.data

def encodeAll (options : List NdOption) : List UInt8 := (options.map encode).flatten

theorem encode_length (option : NdOption) : option.encode.length = option.ndOptLen.toNat * 8 := by
  have sized := option.sized
  simp only [ndOptHdrSize] at sized
  simp only [encode, List.length_cons]
  omega

theorem encode_all_cons (option : NdOption) (rest : List NdOption) :
    encodeAll (option :: rest) = option.encode ++ encodeAll rest := rfl

theorem encode_all_cons_length (option : NdOption) (rest : List NdOption) :
    (encodeAll (option :: rest)).length = option.ndOptLen.toNat * 8 + (encodeAll rest).length := by
  rw [encode_all_cons, List.length_append, encode_length]

/-- Where the options start. -/
def offsets : Nat → List NdOption → List Nat
  | _, [] => []
  | start, option :: rest => start :: offsets (start + option.ndOptLen.toNat * 8) rest

end NdOption

/-- The options fill the message behind the fixed header of its type. -/
structure LaidOut (message : Message) (type : PacketType) (options : List NdOption) : Prop where
  version : message.ip6Version = 6
  nextHeader : message.ip6Nxt = ipprotoIcmpv6
  code : message.icmp6Code = 0
  icmp6Type : packetTypeOf message.icmp6Type = type
  known : type ≠ .other
  held : HoldsAt message.mData (ip6HdrSize + type.headerSize) (NdOption.encodeAll options)
  size : message.mSize = ip6HdrSize + type.headerSize + (NdOption.encodeAll options).length
  fits : message.mSize ≤ Message.capacity

section Layout

variable {message : Message} {start : Nat} {option : NdOption} {rest options : List NdOption}

theorem holds_option (held : HoldsAt message.mData start (NdOption.encodeAll (option :: rest))) :
    HoldsAt message.mData start option.encode ∧
      message.optEnd start = start + option.ndOptLen.toNat * 8 ∧
      HoldsAt message.mData (start + option.ndOptLen.toNat * 8) (NdOption.encodeAll rest) := by
  rw [NdOption.encode_all_cons, holds_at_append, NdOption.encode_length] at held
  have length : message.ndOptLen start = option.ndOptLen := held.1.2.1
  refine ⟨held.1, ?_, held.2⟩
  unfold Message.optEnd
  rw [length]

theorem offsets_hold (held : HoldsAt message.mData start (NdOption.encodeAll options)) :
    List.Forall₂ (fun opt option => HoldsAt message.mData opt option.encode)
      (NdOption.offsets start options) options := by
  induction options generalizing start with
  | nil => exact .nil
  | cons option rest ih =>
      obtain ⟨here, -, later⟩ := holds_option held
      exact .cons here (ih later)

/-- From the first of the remaining options the walk visits these and no others. -/
theorem positions_of_layout {packet : Packet} (behind : packet.mFirstOpt.getD 0 ≤ start)
    (held : HoldsAt message.mData start (NdOption.encodeAll (option :: rest)))
    (size : message.mSize = start + (NdOption.encodeAll (option :: rest)).length)
    {rounds : Nat} (enough : rest.length + 1 < rounds) :
    Walk.positions (packet.nextOpt message) rounds (some start) =
      some (NdOption.offsets start (option :: rest)) := by
  induction rest generalizing start option rounds with
  | nil =>
      obtain ⟨-, ends, -⟩ := holds_option held
      obtain ⟨rounds, rfl⟩ : ∃ fewer, rounds = fewer + 2 := ⟨rounds - 2, by simp at enough; omega⟩
      have last : packet.nextOpt message start = none := by
        rw [NdOption.encode_all_cons_length] at size
        unfold Packet.nextOpt
        dsimp only
        rw [ends, if_pos (show start + option.ndOptLen.toNat * 8 ≥ message.mSize from Nat.le_of_eq size)]
        exact ite_self _
      rw [Walk.positions, last]
      rfl
  | cons next rest ih =>
      obtain ⟨-, ends, later⟩ := holds_option held
      obtain ⟨-, nextEnds, -⟩ := holds_option later
      obtain ⟨rounds, rfl⟩ : ∃ fewer, rounds = fewer + 1 := ⟨rounds - 1, by omega⟩
      have positive := option.positive
      have nextPositive := next.positive
      rw [NdOption.encode_all_cons_length] at size
      have sizeLater : message.mSize = start + option.ndOptLen.toNat * 8 +
          (NdOption.encodeAll (next :: rest)).length := by omega
      rw [NdOption.encode_all_cons_length] at size
      have moved : packet.nextOpt message start = some (start + option.ndOptLen.toNat * 8) :=
        next_opt_some_iff.mpr ⟨⟨behind, by omega⟩, ends, by omega, by rw [nextEnds]; omega⟩
      rw [Walk.positions, moved, ih (by omega) later sizeLater (by simpa using enough)]
      rfl

end Layout

theorem laid_out_classified {message : Message} {type : PacketType} {options : List NdOption}
    (laid : LaidOut message type options) : Classified message where
  known := laid.icmp6Type ▸ laid.known
  version := laid.version
  nextHeader := laid.nextHeader
  code := laid.code
  size := by
    rw [laid.icmp6Type, laid.size]
    exact Nat.le_add_right _ _

/-- The first header is that of the first option, if there is one. -/
theorem first_opt_of_layout {message : Message} {type : PacketType} {options : List NdOption}
    (laid : LaidOut message type options) :
    (Packet.ofMessage message).firstOpt =
      (NdOption.offsets (ip6HdrSize + type.headerSize) options).head? := by
  have mType := (classified_known (laid_out_classified laid)).trans laid.icmp6Type
  have size := laid.size
  cases options with
  | nil =>
      cases found : (Packet.ofMessage message).firstOpt with
      | none => rfl
      | some opt =>
          obtain ⟨-, same, room, -⟩ := first_opt_some_iff.mp found
          rw [mType] at same
          simp only [NdOption.encodeAll, List.map_nil, List.flatten_nil, List.length_nil] at size
          omega
  | cons option rest =>
      obtain ⟨-, ends, -⟩ := holds_option laid.held
      have positive := option.positive
      rw [NdOption.encode_all_cons_length] at size
      refine first_opt_some_iff.mpr ⟨mType ▸ laid.known, by rw [mType], ?_, ?_⟩
      · simp only [ndOptHdrSize]
        omega
      · rw [ends]
        omega

/-- In a message of any of the four types the walk finds the options of the list, in order and
once each, and ends behind the last one. -/
theorem walk_finds_every_option {message : Message} {type : PacketType}
    {options : List NdOption} (laid : LaidOut message type options) :
    (Packet.ofMessage message).mType = type ∧
      (Packet.ofMessage message).firstOpt =
        (NdOption.offsets (ip6HdrSize + type.headerSize) options).head? ∧
      (∀ rounds, options.length < rounds →
        visitedOptions (Packet.ofMessage message) message rounds =
          some (NdOption.offsets (ip6HdrSize + type.headerSize) options)) ∧
      List.Forall₂ (fun opt option => HoldsAt message.mData opt option.encode)
        (NdOption.offsets (ip6HdrSize + type.headerSize) options) options := by
  have mType := (classified_known (laid_out_classified laid)).trans laid.icmp6Type
  have first := first_opt_of_layout laid
  refine ⟨mType, first, ?_, offsets_hold laid.held⟩
  intro rounds enough
  unfold visitedOptions
  rw [first]
  cases options with
  | nil =>
      obtain ⟨rounds, rfl⟩ : ∃ fewer, rounds = fewer + 1 := ⟨rounds - 1, by omega⟩
      rfl
  | cons option rest =>
      have behind : (Packet.ofMessage message).mFirstOpt.getD 0 ≤ ip6HdrSize + type.headerSize := by
        rw [show (Packet.ofMessage message).mFirstOpt = _ from first]
        exact Nat.le_refl _
      exact positions_of_layout behind laid.held laid.size enough

/-- A source link address and an RDNSS option with two addresses. -/
def advertisedOptions : List NdOption :=
  [⟨ndOptSourceLinkaddr, 1, List.replicate 6 9, by decide, by decide⟩,
    ⟨ndOptRdnss, 5, List.replicate 38 7, by decide, by decide⟩]

/-- The headers of a router advertisement. -/
def advertHeaders : List UInt8 :=
  [0x60, 0, 0, 0, 0, 0, ipprotoIcmpv6, 255] ++ List.replicate 32 0 ++ [ndRouterAdvert, 0] ++
    List.replicate 14 0

def advertMessage : Message :=
  receivedMessage (advertHeaders ++ NdOption.encodeAll advertisedOptions)

theorem advert_laid_out : LaidOut advertMessage .routerAdvertisement advertisedOptions where
  version := by decide +kernel
  nextHeader := by decide +kernel
  code := by decide +kernel
  icmp6Type := by decide +kernel
  known := by decide
  held := by
    have whole : HoldsAt advertMessage.mData 0
        (advertHeaders ++ NdOption.encodeAll advertisedOptions) := holds_at_store _ _ _
    exact ((holds_at_append _ _ _ _).mp whole).2
  size := by decide +kernel
  fits := by decide +kernel

theorem walk_finds_both_options :
    visitedOptions (Packet.ofMessage advertMessage) advertMessage 3 = some [56, 64] :=
  (walk_finds_every_option advert_laid_out).2.2.1 3 (by decide)

end RedroidExt.Ipv6Proxy
