import RedroidExt.Ipv6Proxy.Proxy

/-!
# The walk over the options

Options start at multiples of eight bytes behind the first one, and a rewritten link
address lies between two such places. So no rewrite changes the walk, and all loops
of a handler visit the same options. An option of length zero is its own successor:
the walk ends exactly when it reaches none.
-/

namespace RedroidExt.Ipv6Proxy

open RedroidExt.Library RedroidExt.Library.ByteMemory

set_option autoImplicit false

/-! ## One step -/

theorem next_opt_some_iff {packet : Packet} {message : Message} {current next : Nat} :
    packet.nextOpt message current = some next ↔
      (packet.mFirstOpt.getD 0 ≤ current ∧ current < message.mSize) ∧
        message.optEnd current = next ∧ next < message.mSize ∧
          message.optEnd next ≤ message.mSize := by
  unfold Packet.nextOpt
  dsimp only
  by_cases foreign : current < packet.mFirstOpt.getD 0 ∨ current ≥ message.mSize
  · rw [if_pos foreign]
    constructor
    · exact fun none => nomatch none
    · intro found
      omega
  · rw [if_neg foreign]
    by_cases past : message.optEnd current ≥ message.mSize
    · rw [if_pos past]
      constructor
      · exact fun none => nomatch none
      · intro found
        omega
    · rw [if_neg past]
      by_cases beyond : message.optEnd (message.optEnd current) > message.mSize
      · rw [if_pos beyond]
        constructor
        · exact fun none => nomatch none
        · intro found
          obtain ⟨-, same, -, inside⟩ := found
          rw [same] at beyond
          omega
      · rw [if_neg beyond, Option.some.injEq]
        constructor
        · intro same
          rw [same] at beyond past
          exact ⟨by omega, same, by omega, by omega⟩
        · exact fun found => found.2.1

/-- A step does not go back and stays inside the message. -/
theorem next_opt_forward {packet : Packet} {message : Message} (current next : Nat)
    (moved : packet.nextOpt message current = some next) :
    current ≤ next ∧ next < message.mSize := by
  obtain ⟨-, same, inside, -⟩ := next_opt_some_iff.mp moved
  unfold Message.optEnd at same
  omega

/-! ## The classifier -/

/-- The part of the rules that the classifier checks. -/
structure Classified (message : Message) : Prop where
  known : packetTypeOf message.icmp6Type ≠ .other
  version : message.ip6Version = 6
  nextHeader : message.ip6Nxt = ipprotoIcmpv6
  code : message.icmp6Code = 0
  size : ip6HdrSize + (packetTypeOf message.icmp6Type).headerSize ≤ message.mSize

/-- Behind the fixed header of the message's type. -/
def Message.optionsStart (message : Message) : Nat :=
  ip6HdrSize + (packetTypeOf message.icmp6Type).headerSize

theorem of_message_cases (message : Message) :
    Packet.ofMessage message = .other ∨
      Classified message ∧ Packet.ofMessage message =
        { mType := packetTypeOf message.icmp6Type
          mFirstOpt :=
            if message.optionsStart + ndOptHdrSize < message.mSize ∧
                message.optEnd message.optionsStart ≤ message.mSize then
              some message.optionsStart
            else none } := by
  unfold Packet.ofMessage
  dsimp only
  by_cases small : message.mSize < ip6HdrSize + icmp6HdrSize
  · exact .inl (if_pos small)
  · rw [if_neg small]
    by_cases foreign : message.ip6Version ≠ 6 ∨ message.ip6Nxt ≠ ipprotoIcmpv6
    · exact .inl (if_pos foreign)
    · rw [if_neg foreign]
      obtain ⟨version, nextHeader⟩ := not_or.mp foreign
      by_cases coded : message.icmp6Code ≠ 0
      · exact .inl (if_pos coded)
      · rw [if_neg coded]
        by_cases unknown : packetTypeOf message.icmp6Type = .other
        · exact .inl (if_pos unknown)
        · rw [if_neg unknown]
          by_cases short : message.mSize - ip6HdrSize <
              (packetTypeOf message.icmp6Type).headerSize
          · exact .inl (if_pos short)
          · right
            constructor
            · have size : ip6HdrSize + (packetTypeOf message.icmp6Type).headerSize ≤
                  message.mSize := by
                simp only [ip6HdrSize, icmp6HdrSize] at small short ⊢
                omega
              exact ⟨unknown, not_not.mp version, not_not.mp nextHeader, not_not.mp coded, size⟩
            · exact if_neg short

theorem of_message_classified {message : Message}
    (known : (Packet.ofMessage message).mType ≠ .other) :
    Classified message ∧ (Packet.ofMessage message).mType = packetTypeOf message.icmp6Type := by
  rcases of_message_cases message with other | ⟨classified, same⟩
  · rw [other] at known
    exact absurd rfl known
  · rw [same]
    exact ⟨classified, rfl⟩

/-- The first option lies behind the fixed header and inside the message. -/
theorem first_opt_some_iff {message : Message} {opt : Nat} :
    (Packet.ofMessage message).firstOpt = some opt ↔
      (Packet.ofMessage message).mType ≠ .other ∧
        opt = ip6HdrSize + (Packet.ofMessage message).mType.headerSize ∧
        opt + ndOptHdrSize < message.mSize ∧ message.optEnd opt ≤ message.mSize := by
  rcases of_message_cases message with other | ⟨classified, same⟩
  · rw [other]
    simp [Packet.other, Packet.firstOpt]
  · rw [same]
    simp only [Packet.firstOpt]
    constructor
    · intro found
      split_ifs at found with room
      rw [← Option.some.inj found]
      exact ⟨classified.known, rfl, room⟩
    · intro found
      obtain ⟨-, start, room⟩ := found
      subst start
      exact if_pos room

/-! ## Rewriting and the walk -/

/-- The header bytes at the places where an option can start are the same. -/
structure HeadersAgree (first : Nat) (left right : Message) : Prop where
  size : left.mSize = right.mSize
  type : ∀ step, left.ndOptType (first + 8 * step) = right.ndOptType (first + 8 * step)
  length : ∀ step, left.ndOptLen (first + 8 * step) = right.ndOptLen (first + 8 * step)

theorem headers_agree_refl (first : Nat) (message : Message) :
    HeadersAgree first message message where
  size := rfl
  type := fun _ => rfl
  length := fun _ => rfl

theorem headers_agree_trans {first : Nat} {left middle right : Message}
    (leftAgrees : HeadersAgree first left middle) (rightAgrees : HeadersAgree first middle right) :
    HeadersAgree first left right where
  size := leftAgrees.size.trans rightAgrees.size
  type := fun step => (leftAgrees.type step).trans (rightAgrees.type step)
  length := fun step => (leftAgrees.length step).trans (rightAgrees.length step)

/-- Where an option can start. -/
def OnGrid (first opt : Nat) : Prop := ∃ step, opt = first + 8 * step

theorem opt_end_on_grid {first opt : Nat} (message : Message) (onGrid : OnGrid first opt) :
    OnGrid first (message.optEnd opt) := by
  obtain ⟨step, same⟩ := onGrid
  refine ⟨step + (message.ndOptLen opt).toNat, ?_⟩
  unfold Message.optEnd
  omega

theorem next_opt_on_grid {packet : Packet} {message : Message} {first : Nat} (current next : Nat)
    (onGrid : OnGrid first current) (moved : packet.nextOpt message current = some next) :
    OnGrid first next := by
  rw [← (next_opt_some_iff.mp moved).2.1]
  exact opt_end_on_grid message onGrid

theorem opt_end_agrees {first opt : Nat} {left right : Message}
    (agrees : HeadersAgree first left right) (onGrid : OnGrid first opt) :
    left.optEnd opt = right.optEnd opt := by
  obtain ⟨step, same⟩ := onGrid
  unfold Message.optEnd
  rw [same, agrees.length step]

theorem next_opt_agrees {packet : Packet} {first current : Nat} {left right : Message}
    (agrees : HeadersAgree first left right) (onGrid : OnGrid first current) :
    packet.nextOpt left current = packet.nextOpt right current := by
  unfold Packet.nextOpt
  dsimp only
  rw [← agrees.size, ← opt_end_agrees agrees onGrid,
    ← opt_end_agrees agrees (opt_end_on_grid left onGrid)]

theorem rewrite_headers_agree {first opt : Nat} (interface : Interface) (optionType : UInt8)
    (message : Message) (onGrid : OnGrid first opt) :
    HeadersAgree first (rewriteOption interface optionType opt message) message := by
  obtain ⟨step, same⟩ := onGrid
  unfold rewriteOption
  by_cases rewritten : message.ndOptType opt = optionType
  · rw [if_pos rewritten]
    constructor
    · rfl
    · intro other
      exact store_outside _ _ _ _ (by simp only [List.length_ofFn, kLinkAddressSize, ndOptHdrSize]; omega)
    · intro other
      exact store_outside _ _ _ _ (by simp only [List.length_ofFn, kLinkAddressSize, ndOptHdrSize]; omega)
  · rw [if_neg rewritten]
    exact headers_agree_refl first message

/-! ## Loops as folds -/

/-- The options that the loops of a handler visit. -/
def visitedOptions (packet : Packet) (message : Message) (rounds : Nat) : Option (List Nat) :=
  Walk.positions (packet.nextOpt message) rounds packet.firstOpt

/-- Where the grid of a packet starts. -/
def Packet.origin (packet : Packet) : Nat := packet.mFirstOpt.getD 0

theorem first_opt_on_grid {packet : Packet} (opt : Nat) (first : packet.firstOpt = some opt) :
    OnGrid packet.origin opt := by
  refine ⟨0, ?_⟩
  unfold Packet.origin
  rw [show packet.mFirstOpt = some opt from first]
  rfl

/-- A body that keeps the headers is applied to the options of the message at the start. -/
theorem for_each_option_eq {State : Type} {packet : Packet} {view : State → Message}
    {body : Nat → State → State} {message : Message}
    (keeps : ∀ opt state, OnGrid packet.origin opt →
      HeadersAgree packet.origin (view (body opt state)) (view state))
    (rounds : Nat) {state : State} (before : HeadersAgree packet.origin (view state) message) :
    packet.forEachOption view body rounds state =
      (visitedOptions packet message rounds).map fun visited =>
        visited.foldl (fun state opt => body opt state) state := by
  refine Walk.for_each_eq_foldl (OnGrid packet.origin)
    (fun state => HeadersAgree packet.origin (view state) message) ?_ ?_ ?_ rounds
    first_opt_on_grid before
  · exact fun current next onGrid moved => next_opt_on_grid current next onGrid moved
  · exact fun opt state onGrid agrees => headers_agree_trans (keeps opt state onGrid) agrees
  · exact fun opt state onGrid agrees => next_opt_agrees agrees onGrid

/-- The options after rewriting, for the options that are visited. -/
def rewritten (interface : Interface) (optionType : UInt8) (message : Message)
    (visited : List Nat) : Message :=
  visited.foldl (fun message opt => rewriteOption interface optionType opt message) message

theorem rewrite_link_address_option_eq {packet : Packet} {message start : Message}
    (agrees : HeadersAgree packet.origin message start) (rounds : Nat) (interface : Interface)
    (optionType : UInt8) :
    rewriteLinkAddressOption rounds packet message interface optionType =
      (visitedOptions packet start rounds).map (rewritten interface optionType message) := by
  refine for_each_option_eq ?_ rounds agrees
  exact fun opt message onGrid => rewrite_headers_agree interface optionType message onGrid

theorem extract_recursive_dns_servers_eq (packet : Packet) (message : Message) (rounds : Nat)
    (inetNtop : In6Addr → Option String) :
    extractRecursiveDnsServers rounds packet message inetNtop =
      (visitedOptions packet message rounds).map fun visited =>
        visited.foldl (fun calls opt => extractOption message inetNtop opt calls) [] := by
  unfold extractRecursiveDnsServers
  refine for_each_option_eq ?_ rounds (headers_agree_refl packet.origin message)
  exact fun _ _ _ => headers_agree_refl packet.origin message

theorem visited_on_grid {packet : Packet} {message : Message} {rounds : Nat}
    {start : Option Nat} {visited : List Nat}
    (starts : ∀ opt, start = some opt → OnGrid packet.origin opt)
    (walked : Walk.positions (packet.nextOpt message) rounds start = some visited) :
    ∀ opt ∈ visited, OnGrid packet.origin opt := by
  induction rounds generalizing start visited with
  | zero => cases walked
  | succ rounds ih =>
      cases start with
      | none =>
          cases walked
          exact fun opt member => nomatch member
      | some first =>
          obtain ⟨later, rest, same⟩ := Option.map_eq_some_iff.mp walked
          have here := starts first rfl
          have behind := ih (fun opt moved => next_opt_on_grid first opt here moved) rest
          rw [← same]
          intro opt member
          rcases List.mem_cons.mp member with first | tail
          · exact first ▸ here
          · exact behind opt tail

theorem rewritten_headers_agree {first : Nat} (interface : Interface) (optionType : UInt8)
    (message : Message) {visited : List Nat} (onGrid : ∀ opt ∈ visited, OnGrid first opt) :
    HeadersAgree first (rewritten interface optionType message visited) message := by
  induction visited generalizing message with
  | nil => exact headers_agree_refl first message
  | cons opt rest ih =>
      have here := rewrite_headers_agree interface optionType message
        (onGrid opt List.mem_cons_self)
      have behind := ih (rewriteOption interface optionType opt message)
        fun other member => onGrid other (List.mem_cons_of_mem _ member)
      exact headers_agree_trans behind here

end RedroidExt.Ipv6Proxy
