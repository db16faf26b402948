import RedroidExt.Ipv6Proxy.Rewriting

/-!
# The bytes that the option walk examines

`Packet::Packet` wants room for both bytes of an option's header, `nextOpt` only for
the first. Where an option ends one byte in front of the message's end, the length of
the next one is read from behind it.
-/

namespace RedroidExt.Ipv6Proxy

open RedroidExt.Library RedroidExt.Library.ByteMemory

set_option autoImplicit false

namespace Packet

/-- The offsets that the constructor reads, in order. -/
def examined (message : Message) : List Nat :=
  if message.mSize < ip6HdrSize + icmp6HdrSize then []
  else if message.ip6Version ≠ 6 then [0]
  else if message.ip6Nxt ≠ ipprotoIcmpv6 then [0, 6]
  else if message.icmp6Code ≠ 0 then [0, 6, 41]
  else
    let type := packetTypeOf message.icmp6Type
    if type = .other then [0, 6, 41, 40]
    else if message.mSize - ip6HdrSize < type.headerSize then [0, 6, 41, 40]
    else
      let options := ip6HdrSize + type.headerSize
      if options + ndOptHdrSize < message.mSize then [0, 6, 41, 40, options + 1]
      else [0, 6, 41, 40]

/-- The offsets that `nextOpt` reads. -/
def nextOptExamined (packet : Packet) (message : Message) (current : Nat) : List Nat :=
  if current < packet.mFirstOpt.getD 0 ∨ current ≥ message.mSize then []
  else if message.optEnd current ≥ message.mSize then [current + 1]
  else [current + 1, message.optEnd current + 1]

end Packet

/-! ## Nothing else is examined -/

/-- Two messages of one size with the same bytes at the offsets. -/
structure AgreeAt (left right : Message) (offsets : List Nat) : Prop where
  size : left.mSize = right.mSize
  bytes : ∀ offset ∈ offsets, left.mData offset = right.mData offset

theorem of_message_examined {left right : Message}
    (same : AgreeAt left right (Packet.examined left)) :
    Packet.ofMessage left = Packet.ofMessage right := by
  obtain ⟨size, bytes⟩ := same
  unfold Packet.examined at bytes
  unfold Packet.ofMessage
  rw [← size]
  by_cases small : left.mSize < ip6HdrSize + icmp6HdrSize
  · rw [if_pos small, if_pos small]
  rw [if_neg small] at bytes ⊢
  rw [if_neg small]
  have version : right.ip6Version = left.ip6Version := by
    have first : left.mData 0 = right.mData 0 := bytes 0 (by dsimp only; split_ifs <;> simp)
    unfold Message.ip6Version
    rw [first]
  by_cases foreign : left.ip6Version ≠ 6
  · rw [if_pos (.inl foreign), if_pos (.inl (version ▸ foreign))]
  rw [if_neg foreign] at bytes
  have nextHeader : right.ip6Nxt = left.ip6Nxt :=
    (bytes 6 (by dsimp only; split_ifs <;> simp)).symm
  by_cases other : left.ip6Nxt ≠ ipprotoIcmpv6
  · rw [if_pos (.inr other), if_pos (.inr (nextHeader ▸ other))]
  rw [if_neg other] at bytes
  have code : right.icmp6Code = left.icmp6Code := (bytes 41 (by dsimp only; split_ifs <;> simp)).symm
  rw [version, nextHeader, code, if_neg (not_or.mpr ⟨foreign, other⟩),
    if_neg (not_or.mpr ⟨foreign, other⟩)]
  by_cases coded : left.icmp6Code ≠ 0
  · rw [if_pos coded, if_pos coded]
  rw [if_neg coded] at bytes ⊢
  rw [if_neg coded]
  have type : right.icmp6Type = left.icmp6Type :=
    (bytes 40 (by dsimp only; split_ifs <;> simp)).symm
  rw [type]
  dsimp only at bytes ⊢
  by_cases unknown : packetTypeOf left.icmp6Type = .other
  · rw [if_pos unknown, if_pos unknown]
  rw [if_neg unknown] at bytes ⊢
  rw [if_neg unknown]
  by_cases short : left.mSize - ip6HdrSize < (packetTypeOf left.icmp6Type).headerSize
  · rw [if_pos short, if_pos short]
  rw [if_neg short] at bytes ⊢
  rw [if_neg short]
  by_cases room : ip6HdrSize + (packetTypeOf left.icmp6Type).headerSize + ndOptHdrSize < left.mSize
  · rw [if_pos room] at bytes
    have length : right.optEnd (ip6HdrSize + (packetTypeOf left.icmp6Type).headerSize) =
        left.optEnd (ip6HdrSize + (packetTypeOf left.icmp6Type).headerSize) := by
      have lengthByte := bytes _ (List.mem_cons_of_mem _ (List.mem_cons_of_mem _
        (List.mem_cons_of_mem _ (List.mem_cons_of_mem _ List.mem_cons_self))))
      unfold Message.optEnd Message.ndOptLen
      rw [lengthByte]
    rw [length]
  · rw [if_neg (fun both => room both.1), if_neg (fun both => room both.1)]

theorem opt_end_examined {left right : Message} {opt : Nat}
    (length : left.mData (opt + 1) = right.mData (opt + 1)) : left.optEnd opt = right.optEnd opt := by
  unfold Message.optEnd Message.ndOptLen
  rw [length]

theorem next_opt_examined {packet : Packet} {left right : Message} {current : Nat}
    (same : AgreeAt left right (packet.nextOptExamined left current)) :
    packet.nextOpt left current = packet.nextOpt right current := by
  obtain ⟨size, bytes⟩ := same
  unfold Packet.nextOptExamined at bytes
  unfold Packet.nextOpt
  rw [← size]
  by_cases foreign : current < packet.mFirstOpt.getD 0 ∨ current ≥ left.mSize
  · rw [if_pos foreign, if_pos foreign]
  rw [if_neg foreign] at bytes ⊢
  rw [if_neg foreign]
  have here := opt_end_examined (bytes (current + 1) (by split_ifs <;> simp))
  dsimp only
  rw [← here]
  by_cases past : left.optEnd current ≥ left.mSize
  · rw [if_pos past, if_pos past]
  rw [if_neg past] at bytes
  have next := opt_end_examined (bytes (left.optEnd current + 1) (by simp))
  rw [next]

/-! ## The walk and the end of the message -/

/-- The walk does not look behind the message, and what it returns lies inside. -/
structure WalkInside (message : Message) : Prop where
  constructed : ∀ offset ∈ Packet.examined message, offset < message.mSize
  stepped : ∀ opt,
    Walk.Visits ((Packet.ofMessage message).nextOpt message) (Packet.ofMessage message).firstOpt
      opt →
    ∀ offset ∈ (Packet.ofMessage message).nextOptExamined message opt, offset < message.mSize
  returned : ∀ opt,
    Walk.Visits ((Packet.ofMessage message).nextOpt message) (Packet.ofMessage message).firstOpt
      opt →
    opt + ndOptHdrSize ≤ message.mSize ∧ message.optEnd opt ≤ message.mSize

/-- A neighbour discovery packet in which length bytes lead to an option that ends one byte in
front of the message's end. -/
def EndsInHalfHeader (message : Message) : Prop :=
  Classified message ∧ ∃ opt, OptionAt message message.optionsStart opt ∧
    message.optEnd opt + 1 = message.mSize

theorem classified_known {message : Message} (classified : Classified message) :
    (Packet.ofMessage message).mType = packetTypeOf message.icmp6Type := by
  obtain ⟨known, version, nextHeader, code, size⟩ := classified
  have atLeast : icmp6HdrSize ≤ (packetTypeOf message.icmp6Type).headerSize := by
    cases type : packetTypeOf message.icmp6Type with
    | other => exact absurd type known
    | _ => decide
  unfold Packet.ofMessage
  dsimp only
  simp only [ip6HdrSize, icmp6HdrSize] at size atLeast ⊢
  rw [if_neg (by omega), if_neg (by simp [version, nextHeader]), if_neg (by simp [code]),
    if_neg known, if_neg (by omega)]

/-- The walk visits the options that length bytes lead to. -/
theorem visits_iff_classified (message : Message) (opt : Nat) :
    Walk.Visits ((Packet.ofMessage message).nextOpt message) (Packet.ofMessage message).firstOpt
        opt ↔
      Classified message ∧ OptionAt message message.optionsStart opt := by
  rw [visits_iff_option_at]
  constructor
  · intro visited
    obtain ⟨known, found⟩ := visited
    obtain ⟨classified, type⟩ := of_message_classified known
    rw [type] at found
    exact ⟨classified, found⟩
  · intro visited
    obtain ⟨classified, found⟩ := visited
    rw [classified_known classified]
    exact ⟨classified.known, found⟩

theorem examined_inside (message : Message) :
    ∀ offset ∈ Packet.examined message, offset < message.mSize := by
  intro offset member
  unfold Packet.examined at member
  dsimp only at member
  by_cases small : message.mSize < ip6HdrSize + icmp6HdrSize
  · rw [if_pos small] at member
    cases member
  rw [if_neg small] at member
  simp only [ip6HdrSize, icmp6HdrSize, ndOptHdrSize] at small member ⊢
  split_ifs at member with foreign other coded unknown short room
  all_goals simp only [List.mem_cons, List.not_mem_nil, or_false] at member
  all_goals omega

section Walk

variable {message : Message} {options opt : Nat}

theorem visited_behind_first {packet : Packet}
    (visited : Walk.Visits (packet.nextOpt message) packet.firstOpt opt) :
    packet.mFirstOpt.getD 0 ≤ opt := by
  induction visited with
  | first starts =>
      rw [show packet.mFirstOpt = _ from starts]
      exact Nat.le_refl _
  | later _ moved ih => exact Nat.le_trans ih (next_opt_forward _ _ moved).1

/-- An option whose predecessors leave room for a header has both bytes of its own. -/
theorem option_at_header (whole : ∀ opt, OptionAt message options opt →
      message.optEnd opt + 1 ≠ message.mSize) (found : OptionAt message options opt) :
    opt + ndOptHdrSize ≤ message.mSize := by
  cases found with
  | first room inside => omega
  | next before more inside =>
      have apart := whole _ before
      simp only [ndOptHdrSize]
      omega

theorem next_opt_examined_inside (packet : Packet) (header : opt + ndOptHdrSize ≤ message.mSize)
    (apart : message.optEnd opt + 1 ≠ message.mSize) :
    ∀ offset ∈ packet.nextOptExamined message opt, offset < message.mSize := by
  intro offset member
  unfold Packet.nextOptExamined at member
  simp only [ndOptHdrSize] at header
  split_ifs at member with foreign past
  all_goals simp only [List.mem_cons, List.not_mem_nil, or_false] at member
  all_goals omega

/-- On a header of the walk `nextOpt` reads that header's length and the next one's. -/
theorem next_opt_reads_next {packet : Packet} (behind : packet.mFirstOpt.getD 0 ≤ opt)
    (more : message.optEnd opt < message.mSize) :
    message.optEnd opt + 1 ∈ packet.nextOptExamined message opt := by
  have here : opt ≤ message.optEnd opt := by
    unfold Message.optEnd
    omega
  unfold Packet.nextOptExamined
  rw [if_neg (by omega), if_neg (by omega)]
  exact List.mem_cons_of_mem _ List.mem_cons_self

end Walk

theorem walk_inside_iff (message : Message) :
    WalkInside message ↔ ¬ EndsInHalfHeader message := by
  constructor
  · intro inside half
    obtain ⟨classified, opt, found, last⟩ := half
    have visited := (visits_iff_classified message opt).mpr ⟨classified, found⟩
    have behind := visited_behind_first visited
    have read := @next_opt_reads_next _ _ (Packet.ofMessage message) behind
      (show message.optEnd opt < message.mSize by omega)
    have below := inside.stepped opt visited _ read
    omega
  · intro noHalf
    have apart : Classified message → ∀ opt, OptionAt message message.optionsStart opt →
        message.optEnd opt + 1 ≠ message.mSize := by
      intro classified opt found last
      exact noHalf ⟨classified, opt, found, last⟩
    constructor
    · exact examined_inside message
    · intro opt visited
      obtain ⟨classified, found⟩ := (visits_iff_classified message opt).mp visited
      exact next_opt_examined_inside _ (option_at_header (apart classified) found)
        (apart classified opt found)
    · intro opt visited
      obtain ⟨classified, found⟩ := (visits_iff_classified message opt).mp visited
      exact ⟨option_at_header (apart classified) found, (option_at_inside found).2.2⟩

/-- A router advertisement whose link address option is followed by one byte of another: the
other's length is what the buffer holds behind the message. -/
def halfHeaderAdvert : Message :=
  receivedMessage (linkAddressPacket ndRouterAdvert 16 ndOptSourceLinkaddr ++
    [ndOptSourceLinkaddr])

theorem half_header_examined :
    ¬ WalkInside halfHeaderAdvert ∧ halfHeaderAdvert.mSize = 65 ∧
      (Packet.ofMessage halfHeaderAdvert).firstOpt = some 56 ∧
      (Packet.ofMessage halfHeaderAdvert).nextOptExamined halfHeaderAdvert 56 = [57, 65] ∧
      (Packet.ofMessage halfHeaderAdvert).nextOpt halfHeaderAdvert 56 = some 64 := by
  have first : (Packet.ofMessage halfHeaderAdvert).firstOpt = some 56 := by decide +kernel
  have reads : (Packet.ofMessage halfHeaderAdvert).nextOptExamined halfHeaderAdvert 56 =
      [57, 65] := by decide +kernel
  have size : halfHeaderAdvert.mSize = 65 := by decide +kernel
  refine ⟨?_, size, first, reads, by decide +kernel⟩
  intro inside
  have below := inside.stepped 56 (.first first) 65 (by rw [reads]; decide)
  omega

end RedroidExt.Ipv6Proxy
