import RedroidExt.Ipv6Proxy.OptionWalk

/-!
# Messages whose handling ends

Nothing rejects an option whose length byte is zero, so a walk that reaches one
visits it forever. The walk of a router advertisement from outside and those of a
neighbour advertisement are the ones that handling a message depends on.
-/

namespace RedroidExt.Ipv6Proxy

open RedroidExt.Library RedroidExt.Library.ByteMemory

set_option autoImplicit false

/-! ## The condition -/

/-- The options that length bytes lead to, each of them inside the message; the first is at
`options`, with more than its two header bytes left. -/
inductive OptionAt (message : Message) (options : Nat) : Nat → Prop
  | first (room : options + ndOptHdrSize < message.mSize)
      (inside : message.optEnd options ≤ message.mSize) : OptionAt message options options
  | next {opt : Nat} (before : OptionAt message options opt)
      (more : message.optEnd opt < message.mSize)
      (inside : message.optEnd (message.optEnd opt) ≤ message.mSize) :
      OptionAt message options (message.optEnd opt)

/-- A neighbour discovery packet whose length bytes lead to an option of length zero. -/
def HasEmptyOption (message : Message) : Prop :=
  (Packet.ofMessage message).mType ≠ .other ∧
    ∃ opt, OptionAt message (ip6HdrSize + (Packet.ofMessage message).mType.headerSize) opt ∧
      message.ndOptLen opt = 0

section OptionAt

variable {message : Message} {options : Nat}

theorem option_at_inside {opt : Nat} (found : OptionAt message options opt) :
    options ≤ opt ∧ opt < message.mSize ∧ message.optEnd opt ≤ message.mSize := by
  induction found with
  | first room inside => exact ⟨Nat.le_refl _, by omega, inside⟩
  | next before more inside ih =>
      refine ⟨?_, more, inside⟩
      unfold Message.optEnd
      omega

theorem option_at_first {opt : Nat} (found : OptionAt message options opt) :
    options + ndOptHdrSize < message.mSize ∧ message.optEnd options ≤ message.mSize := by
  induction found with
  | first room inside => exact ⟨room, inside⟩
  | next _ _ _ ih => exact ih

/-- An option of length zero is the only one that is its own successor. -/
theorem opt_end_eq_iff (opt : Nat) : message.optEnd opt = opt ↔ message.ndOptLen opt = 0 := by
  unfold Message.optEnd
  rw [← UInt8.toNat_inj]
  constructor
  · intro same
    change _ = 0
    omega
  · intro zero
    change _ = 0 at zero
    omega

end OptionAt

/-- The walk visits the options of the message. -/
theorem visits_iff_option_at (message : Message) (opt : Nat) :
    Walk.Visits ((Packet.ofMessage message).nextOpt message) (Packet.ofMessage message).firstOpt opt ↔
      (Packet.ofMessage message).mType ≠ .other ∧
        OptionAt message (ip6HdrSize + (Packet.ofMessage message).mType.headerSize) opt := by
  constructor
  · intro visited
    induction visited with
    | first starts =>
        obtain ⟨known, same, room, inside⟩ := first_opt_some_iff.mp starts
        subst same
        exact ⟨known, .first room inside⟩
    | later _ moved ih =>
        obtain ⟨-, same, more, inside⟩ := next_opt_some_iff.mp moved
        subst same
        exact ⟨ih.1, .next ih.2 more inside⟩
  · intro found
    obtain ⟨known, found⟩ := found
    obtain ⟨room, whole⟩ := option_at_first found
    have start := first_opt_some_iff.mpr ⟨known, rfl, room, whole⟩
    induction found with
    | first _ _ => exact .first start
    | next before more inside ih =>
        obtain ⟨behind, here, -⟩ := option_at_inside before
        refine .later ih (next_opt_some_iff.mpr ⟨⟨?_, here⟩, rfl, more, inside⟩)
        rw [show (Packet.ofMessage message).mFirstOpt = _ from start]
        exact behind

theorem walk_ends_iff (message : Message) :
    (∃ rounds, (visitedOptions (Packet.ofMessage message) message rounds).isSome = true) ↔
      ¬ HasEmptyOption message := by
  have ends := Walk.ends_iff (@next_opt_forward (Packet.ofMessage message) message)
    (Packet.ofMessage message).firstOpt
  refine ends.trans ?_
  constructor
  · intro moves empty
    obtain ⟨known, opt, found, zero⟩ := empty
    have visited := (visits_iff_option_at message opt).mpr ⟨known, found⟩
    have start := first_opt_some_iff.mpr ⟨known, rfl, option_at_first found⟩
    obtain ⟨behind, here, inside⟩ := option_at_inside found
    apply moves opt visited
    refine next_opt_some_iff.mpr ⟨⟨?_, here⟩, (opt_end_eq_iff opt).mpr zero, here, inside⟩
    rw [show (Packet.ofMessage message).mFirstOpt = _ from start]
    exact behind
  · intro noEmpty opt visited stuck
    obtain ⟨known, found⟩ := (visits_iff_option_at message opt).mp visited
    have same := (next_opt_some_iff.mp stuck).2.1
    exact noEmpty ⟨known, opt, found, (opt_end_eq_iff opt).mp same⟩

/-! ## Forwarding -/

/-- The options of `forward` that rewrite link addresses. -/
def Rewrites (options : UInt32) : Prop :=
  options &&& kRewriteTargetLink ≠ 0 ∨ options &&& kRewriteSourceLink ≠ 0

instance (options : UInt32) : Decidable (Rewrites options) :=
  inferInstanceAs (Decidable (_ ∨ _))

section Forward

variable {packet : Packet} {start message : Message} {rounds : Nat} {source toIf : Interface}
variable {options : UInt32}

theorem rewrite_for_visited {visited : List Nat}
    (agrees : HeadersAgree packet.origin message start)
    (walked : visitedOptions packet start rounds = some visited) (flag : UInt32)
    (optionType : UInt8) :
    ∃ after, rewriteFor flag optionType rounds toIf packet message options = some after ∧
      HeadersAgree packet.origin after start := by
  unfold rewriteFor
  by_cases wanted : options &&& flag ≠ 0
  · rw [if_pos wanted, rewrite_link_address_option_eq agrees, walked]
    have onGrid := visited_on_grid first_opt_on_grid walked
    exact ⟨rewritten toIf optionType message visited, rfl, headers_agree_trans
      (rewritten_headers_agree toIf optionType message onGrid) agrees⟩
  · rw [if_neg wanted]
    exact ⟨message, rfl, agrees⟩

theorem rewrite_for_unfinished (agrees : HeadersAgree packet.origin message start)
    (unfinished : visitedOptions packet start rounds = none) {flag : UInt32}
    (wanted : options &&& flag ≠ 0) (optionType : UInt8) :
    rewriteFor flag optionType rounds toIf packet message options = none := by
  unfold rewriteFor
  rw [if_pos wanted, rewrite_link_address_option_eq agrees, unfinished]
  rfl

theorem rewrite_for_plain {flag : UInt32} (plain : ¬ options &&& flag ≠ 0) (optionType : UInt8) :
    rewriteFor flag optionType rounds toIf packet message options = some message :=
  if_neg plain

/-- When the walk ends, a packet is forwarded and its options stay where they are. -/
theorem forward_visited {visited : List Nat} (agrees : HeadersAgree packet.origin message start)
    (walked : visitedOptions packet start rounds = some visited) (source toIf : Interface)
    (options : UInt32) :
    ∃ after calls, forward rounds source toIf packet message options = some (after, calls) ∧
      HeadersAgree packet.origin after start := by
  obtain ⟨target, targetSet, targetAgrees⟩ :=
    rewrite_for_visited agrees walked kRewriteTargetLink ndOptTargetLinkaddr
  obtain ⟨both, bothSet, bothAgree⟩ :=
    rewrite_for_visited targetAgrees walked kRewriteSourceLink ndOptSourceLinkaddr
  refine ⟨both, forwardCalls source toIf packet both options, ?_, bothAgree⟩
  unfold forward
  rw [targetSet, Option.bind_eq_bind, Option.bind_some, bothSet]
  rfl

/-- While it does not, a packet to be rewritten is not forwarded. -/
theorem forward_unfinished (agrees : HeadersAgree packet.origin message start)
    (unfinished : visitedOptions packet start rounds = none) (rewrites : Rewrites options) :
    forward rounds source toIf packet message options = none := by
  unfold forward
  by_cases target : options &&& kRewriteTargetLink ≠ 0
  · rw [rewrite_for_unfinished agrees unfinished target]
    rfl
  · have sourceLink : options &&& kRewriteSourceLink ≠ 0 := rewrites.resolve_left target
    rw [rewrite_for_plain target, Option.bind_eq_bind, Option.bind_some,
      rewrite_for_unfinished agrees unfinished sourceLink]
    rfl

theorem forward_plain (plain : ¬ Rewrites options) :
    forward rounds source toIf packet message options =
      some (message, forwardCalls source toIf packet message options) := by
  obtain ⟨target, sourceLink⟩ := not_or.mp plain
  unfold forward
  rw [rewrite_for_plain target, Option.bind_eq_bind, Option.bind_some,
    rewrite_for_plain sourceLink]
  rfl

/-- Forwarding to a list of interfaces waits for the walk when there is one to forward to. -/
theorem forward_to_all_some_iff (inners : List Interface) (done : Message × List Call)
    (agrees : HeadersAgree packet.origin done.1 start) :
    (forwardToAll rounds source packet options inners done).isSome = true ↔
      (Rewrites options ∧ inners ≠ [] → (visitedOptions packet start rounds).isSome = true) := by
  induction inners generalizing done with
  | nil => simp [forwardToAll]
  | cons inner rest ih =>
      unfold forwardToAll
      by_cases rewrites : Rewrites options
      · cases walked : visitedOptions packet start rounds with
        | none =>
            rw [forward_unfinished agrees walked rewrites]
            simp [rewrites]
        | some visited =>
            obtain ⟨after, calls, forwarded, agreesAfter⟩ :=
              forward_visited agrees walked source inner options
            rw [forwarded, Option.bind_eq_bind, Option.bind_some, ih _ agreesAfter, walked]
            simp
      · rw [forward_plain rewrites, Option.bind_eq_bind, Option.bind_some]
        refine (ih _ ?_).trans ?_
        · exact agrees
        · simp [rewrites]

end Forward

/-! ## The handlers -/

section Handlers

variable (rounds : Nat) (proxy : Proxy) (inner : Interface) (message : Message)
variable (inetNtop : In6Addr → Option String)

/-- Handling a message from outside walks along its options. -/
def WalkedOutside : Prop :=
  (Packet.ofMessage message).mType = .routerAdvertisement ∨
    (Packet.ofMessage message).mType = .neighborAdvertisement ∧ proxy.mInnerIfs ≠ []

theorem handle_outer_message_some_iff :
    (handleOuterMessage rounds proxy message inetNtop).isSome = true ↔
      (WalkedOutside proxy message →
        (visitedOptions (Packet.ofMessage message) message rounds).isSome = true) := by
  have refl := headers_agree_refl (Packet.ofMessage message).origin message
  unfold handleOuterMessage WalkedOutside
  cases type : (Packet.ofMessage message).mType with
  | routerAdvertisement =>
      dsimp only
      rw [type]
      dsimp only
      rw [extract_recursive_dns_servers_eq]
      cases walked : visitedOptions (Packet.ofMessage message) message rounds with
      | none => simp
      | some visited =>
          rw [Option.map_some, Option.bind_eq_bind, Option.bind_some,
            forward_to_all_some_iff _ _ refl, walked]
          simp
  | neighborSolicitation =>
      dsimp only
      rw [type]
      dsimp only
      have plain : ¬ Rewrites kSpoofSource := by decide
      rw [forward_to_all_some_iff _ _ refl]
      simp [plain]
  | neighborAdvertisement =>
      dsimp only
      rw [type]
      dsimp only
      have rewrites : Rewrites kRewriteTargetLink := by decide
      rw [forward_to_all_some_iff _ _ refl]
      simp [rewrites]
  | routerSolicitation =>
      dsimp only
      rw [type]
      simp
  | other =>
      dsimp only
      rw [type]
      simp

theorem handle_inner_message_some_iff :
    (handleInnerMessage rounds proxy inner message).isSome = true ↔
      ((Packet.ofMessage message).mType = .neighborAdvertisement →
        (visitedOptions (Packet.ofMessage message) message rounds).isSome = true) := by
  have refl := headers_agree_refl (Packet.ofMessage message).origin message
  unfold handleInnerMessage
  cases type : (Packet.ofMessage message).mType with
  | routerSolicitation =>
      dsimp only
      rw [type]
      dsimp only
      rw [forward_plain (by decide)]
      simp
  | neighborSolicitation =>
      dsimp only
      rw [type]
      dsimp only
      rw [forward_plain (by decide)]
      simp
  | neighborAdvertisement =>
      dsimp only
      rw [type]
      dsimp only
      cases walked : visitedOptions (Packet.ofMessage message) message rounds with
      | none =>
          rw [forward_unfinished refl walked (.inl (by decide))]
          simp
      | some visited =>
          obtain ⟨after, calls, forwarded, -⟩ := forward_visited refl walked inner proxy.mOuterIf
            (kRewriteTargetLink ||| kSpoofSource ||| kAddRoute)
          rw [forwarded]
          simp
  | routerAdvertisement =>
      dsimp only
      rw [type]
      simp
  | other =>
      dsimp only
      rw [type]
      simp

/-- Every loop over the options of the message ends, and both handlers return. -/
structure WalksReturn : Prop where
  rewrite : ∀ interface optionType, ∃ rounds,
    (rewriteLinkAddressOption rounds (Packet.ofMessage message) message interface
      optionType).isSome = true
  extract : ∃ rounds,
    (extractRecursiveDnsServers rounds (Packet.ofMessage message) message inetNtop).isSome = true
  outer : ∃ rounds, (handleOuterMessage rounds proxy message inetNtop).isSome = true
  inner : ∃ rounds, (handleInnerMessage rounds proxy inner message).isSome = true

theorem exists_rounds_iff {walks : Prop} {ends : Nat → Prop} :
    (∃ rounds, walks → ends rounds) ↔ (walks → ∃ rounds, ends rounds) := by
  constructor
  · intro found walked
    obtain ⟨rounds, finished⟩ := found
    exact ⟨rounds, finished walked⟩
  · intro finished
    by_cases walked : walks
    · obtain ⟨rounds, done⟩ := finished walked
      exact ⟨rounds, fun _ => done⟩
    · exact ⟨0, fun walks => absurd walks walked⟩

theorem handle_outer_message_returns_iff :
    (∃ rounds, (handleOuterMessage rounds proxy message inetNtop).isSome = true) ↔
      ¬ (WalkedOutside proxy message ∧ HasEmptyOption message) := by
  simp only [handle_outer_message_some_iff, exists_rounds_iff, walk_ends_iff, not_and]

theorem handle_inner_message_returns_iff :
    (∃ rounds, (handleInnerMessage rounds proxy inner message).isSome = true) ↔
      ¬ ((Packet.ofMessage message).mType = .neighborAdvertisement ∧ HasEmptyOption message) := by
  simp only [handle_inner_message_some_iff, exists_rounds_iff, walk_ends_iff, not_and]

/-- The loops end exactly when no option of length zero is reached; a handler that does not walk
returns in any case. -/
theorem walks_return_iff :
    (WalksReturn proxy inner message inetNtop ↔ ¬ HasEmptyOption message) ∧
      ((∃ rounds, (handleOuterMessage rounds proxy message inetNtop).isSome = true) ↔
        ¬ (WalkedOutside proxy message ∧ HasEmptyOption message)) ∧
      ((∃ rounds, (handleInnerMessage rounds proxy inner message).isSome = true) ↔
        ¬ ((Packet.ofMessage message).mType = .neighborAdvertisement ∧ HasEmptyOption message)) := by
  have outer := handle_outer_message_returns_iff proxy message inetNtop
  have inside := handle_inner_message_returns_iff proxy inner message
  refine ⟨?_, outer, inside⟩
  constructor
  · intro returns empty
    obtain ⟨rounds, finished⟩ := returns.extract
    rw [extract_recursive_dns_servers_eq, Option.isSome_map] at finished
    exact (walk_ends_iff message).mp ⟨rounds, finished⟩ empty
  · intro noEmpty
    obtain ⟨rounds, finished⟩ := (walk_ends_iff message).mpr noEmpty
    have refl := headers_agree_refl (Packet.ofMessage message).origin message
    constructor
    · intro interface optionType
      refine ⟨rounds, ?_⟩
      rw [rewrite_link_address_option_eq refl, Option.isSome_map]
      exact finished
    · refine ⟨rounds, ?_⟩
      rw [extract_recursive_dns_servers_eq, Option.isSome_map]
      exact finished
    · exact outer.mpr fun both => noEmpty both.2
    · exact inside.mpr fun both => noEmpty both.2

end Handlers

/-! ## A message that is never done with -/

/-- A packet of the given type without addresses: the IPv6 header, the ICMPv6 type and code, the
rest of the fixed header, and behind it three bytes of an option of length zero. -/
def emptyOptionPacket (icmp6Type : UInt8) (headerSize : Nat) (optionType : UInt8) : List UInt8 :=
  [0x60, 0, 0, 0, 0, 0, ipprotoIcmpv6] ++ List.replicate 33 0 ++ [icmp6Type, 0] ++
    List.replicate (headerSize - 2) 0 ++ [optionType, 0, 0]

/-- The message in a buffer that was cleared. -/
def receivedMessage (received : List UInt8) : Message :=
  ({ mData := fun _ => 0, mSize := 0 } : Message).receive received

/-- A router advertisement with a source link address option of length zero. -/
def emptyOptionAdvert : Message :=
  receivedMessage (emptyOptionPacket ndRouterAdvert 16 ndOptSourceLinkaddr)

/-- A proxy between two interfaces. -/
def homeProxy : Proxy where
  mInnerIfs := [{ name := "wlan1", index := 2, linkAddr := fun _ => 2 }]
  mOuterIf := { name := "eth0", index := 1, linkAddr := fun _ => 1 }

theorem empty_option_advert_hangs :
    ¬ WalksReturn homeProxy homeProxy.mOuterIf emptyOptionAdvert (fun _ => none) ∧
      ∀ rounds, handleOuterMessage rounds homeProxy emptyOptionAdvert (fun _ => none) = none := by
  have known : (Packet.ofMessage emptyOptionAdvert).mType = .routerAdvertisement := by
    decide +kernel
  have empty : HasEmptyOption emptyOptionAdvert := by
    unfold HasEmptyOption
    rw [known]
    exact ⟨by decide, _, .first (by decide +kernel) (by decide +kernel), by decide +kernel⟩
  have never := (handle_outer_message_returns_iff homeProxy emptyOptionAdvert
    fun _ => none).not_left.mpr ⟨.inl known, empty⟩
  constructor
  · exact fun returns => never returns.outer
  · intro rounds
    exact Option.not_isSome_iff_eq_none.mp fun returned => never ⟨rounds, returned⟩

end RedroidExt.Ipv6Proxy
