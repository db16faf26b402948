import RedroidExt.Ipv6Proxy.WalkEnds

/-!
# What is sent on the inner interfaces

One buffer is rewritten for every inner interface in turn. A link address goes into
the cell of eight bytes that its option starts with, cells never overlap, and no
cell's two header bytes are written. So the last rewriting covers the earlier ones,
and everything else is as it was received.
-/

namespace RedroidExt.Ipv6Proxy

open RedroidExt.Library RedroidExt.Library.ByteMemory

set_option autoImplicit false

/-- The options of a received message that the walk visits. -/
def Visited (message : Message) : Nat → Prop :=
  Walk.Visits ((Packet.ofMessage message).nextOpt message) (Packet.ofMessage message).firstOpt

/-- The type of the options that are rewritten for an inner interface. -/
def rewriteType : PacketType → Option UInt8
  | .routerAdvertisement => some ndOptSourceLinkaddr
  | .neighborAdvertisement => some ndOptTargetLinkaddr
  | .neighborSolicitation => none
  | .routerSolicitation => none
  | .other => none

/-- A visited option of the type that is rewritten. -/
structure Rewritten (message : Message) (optionType : Option UInt8) (opt : Nat) : Prop where
  visited : Visited message opt
  type : optionType = some (message.ndOptType opt)

/-- The six bytes behind the header of an option. -/
def InAddress (opt index : Nat) : Prop :=
  opt + ndOptHdrSize ≤ index ∧ index < opt + ndOptHdrSize + kLinkAddressSize

/-! ## Rewriting the options of a list -/

theorem rewrite_option_outside (interface : Interface) (optionType : UInt8) (opt index : Nat)
    (message : Message) (outside : message.ndOptType opt = optionType → ¬ InAddress opt index) :
    (rewriteOption interface optionType opt message).mData index = message.mData index := by
  unfold rewriteOption
  by_cases wanted : message.ndOptType opt = optionType
  · rw [if_pos wanted]
    apply store_outside
    have apart := outside wanted
    unfold InAddress at apart
    rw [List.length_ofFn]
    omega
  · rw [if_neg wanted]

theorem rewrite_option_inside (interface : Interface) (optionType : UInt8) (opt : Nat)
    (message : Message) (wanted : message.ndOptType opt = optionType)
    (index : Fin kLinkAddressSize) :
    (rewriteOption interface optionType opt message).mData (opt + ndOptHdrSize + index.val) =
      interface.linkAddr index := by
  unfold rewriteOption
  rw [if_pos wanted]
  dsimp only
  rw [store_inside _ _ _ _ (by rw [List.length_ofFn]; exact index.isLt),
    List.getD_eq_getElem _ _ (by rw [List.length_ofFn]; exact index.isLt), List.getElem_ofFn]

/-- Addresses of two options on the grid do not overlap. -/
theorem in_address_unique {first left right index : Nat} (leftOnGrid : OnGrid first left)
    (rightOnGrid : OnGrid first right) (inLeft : InAddress left index)
    (inRight : InAddress right index) : left = right := by
  obtain ⟨leftStep, leftSame⟩ := leftOnGrid
  obtain ⟨rightStep, rightSame⟩ := rightOnGrid
  simp only [InAddress, ndOptHdrSize, kLinkAddressSize] at inLeft inRight
  omega

section Options

variable {first : Nat} (interface : Interface) (optionType : UInt8)

theorem rewritten_outside (message : Message) {visited : List Nat}
    (onGrid : ∀ opt ∈ visited, OnGrid first opt) (index : Nat)
    (outside : ∀ opt ∈ visited, message.ndOptType opt = optionType → ¬ InAddress opt index) :
    (rewritten interface optionType message visited).mData index = message.mData index := by
  induction visited generalizing message with
  | nil => rfl
  | cons opt rest ih =>
      have here := onGrid opt List.mem_cons_self
      have agrees := rewrite_headers_agree interface optionType message here
      have later := ih (rewriteOption interface optionType opt message)
        (fun other member => onGrid other (List.mem_cons_of_mem _ member)) (by
          intro other member wanted
          obtain ⟨step, same⟩ := onGrid other (List.mem_cons_of_mem _ member)
          apply outside other (List.mem_cons_of_mem _ member)
          rw [same, ← agrees.type step, ← same]
          exact wanted)
      exact later.trans (rewrite_option_outside interface optionType opt index message
        (outside opt List.mem_cons_self))

theorem rewritten_inside (message : Message) {visited : List Nat}
    (onGrid : ∀ opt ∈ visited, OnGrid first opt) {opt : Nat} (member : opt ∈ visited)
    (wanted : message.ndOptType opt = optionType) (index : Fin kLinkAddressSize) :
    (rewritten interface optionType message visited).mData (opt + ndOptHdrSize + index.val) =
      interface.linkAddr index := by
  induction visited generalizing message with
  | nil => cases member
  | cons head rest ih =>
      have here := onGrid head List.mem_cons_self
      have behind := fun other later => onGrid other (List.mem_cons_of_mem head later)
      have agrees := rewrite_headers_agree interface optionType message here
      change (rewritten interface optionType (rewriteOption interface optionType head message)
        rest).mData _ = _
      by_cases again : opt ∈ rest
      · obtain ⟨step, same⟩ := behind opt again
        apply ih (rewriteOption interface optionType head message) behind again
        rw [same, agrees.type step, ← same]
        exact wanted
      · have own : opt = head := (List.mem_cons.mp member).resolve_right again
        subst own
        rw [rewritten_outside interface optionType _ behind]
        · exact rewrite_option_inside interface optionType opt message wanted index
        · intro other later _ overlap
          have inOwn : InAddress opt (opt + ndOptHdrSize + index.val) := by
            have bounded := index.isLt
            constructor
            · omega
            · omega
          exact again (in_address_unique (behind other later) here overlap inOwn ▸ later)

end Options

/-! ## One buffer for all copies -/

/-- The buffer differs from the received message in addresses of rewritten options at most. -/
structure Dressed (original : Message) (optionType : Option UInt8) (current : Message) : Prop where
  size : current.mSize = original.mSize
  kept : ∀ index, (∀ opt, Rewritten original optionType opt → ¬ InAddress opt index) →
    current.mData index = original.mData index

/-- These addresses are those of one interface, and lie inside the message. -/
structure Copied (original : Message) (optionType : Option UInt8) (interface : Interface)
    (current : Message) : Prop extends Dressed original optionType current where
  inside : ∀ opt, Rewritten original optionType opt →
    opt + ndOptHdrSize + kLinkAddressSize ≤ original.mSize
  address : ∀ opt, Rewritten original optionType opt → ∀ index : Fin kLinkAddressSize,
    current.mData (opt + ndOptHdrSize + index.val) = interface.linkAddr index

theorem dressed_refl (original : Message) (optionType : Option UInt8) :
    Dressed original optionType original where
  size := rfl
  kept := fun _ _ => rfl

theorem visited_grid {original : Message} {opt : Nat} (visited : Visited original opt) :
    OnGrid (Packet.ofMessage original).origin opt := by
  induction visited with
  | first starts => exact first_opt_on_grid _ starts
  | later _ moved ih => exact next_opt_on_grid _ _ ih moved

/-- Headers are never addresses. -/
theorem dressed_headers {original current : Message} {optionType : Option UInt8}
    (dressed : Dressed original optionType current) :
    HeadersAgree (Packet.ofMessage original).origin current original := by
  have header : ∀ step within, within < ndOptHdrSize → ∀ opt, Rewritten original optionType opt →
      ¬ InAddress opt ((Packet.ofMessage original).origin + 8 * step + within) := by
    intro step within small opt rewrites overlap
    obtain ⟨own, same⟩ := visited_grid rewrites.visited
    simp only [InAddress, ndOptHdrSize, kLinkAddressSize] at overlap small
    omega
  constructor
  · exact dressed.size
  · exact fun step => dressed.kept _ (header step 0 (by decide))
  · exact fun step => dressed.kept _ (header step 1 (by decide))

/-- In a walk that ends, every option is at least eight bytes long and inside the message. -/
theorem visited_inside {original : Message} {rounds : Nat}
    (ended : (visitedOptions (Packet.ofMessage original) original rounds).isSome = true) {opt : Nat}
    (visited : Visited original opt) :
    original.ndOptLen opt ≠ 0 ∧ original.optEnd opt ≤ original.mSize ∧
      opt + ndOptHdrSize + kLinkAddressSize ≤ original.optEnd opt := by
  obtain ⟨known, found⟩ := (visits_iff_option_at original opt).mp visited
  have positive : original.ndOptLen opt ≠ 0 := by
    intro zero
    exact (walk_ends_iff original).mp ⟨rounds, ended⟩ ⟨known, opt, found, zero⟩
  have length : (original.ndOptLen opt).toNat ≠ 0 := fun zero =>
    positive (UInt8.toNat_inj.mp zero)
  refine ⟨positive, (option_at_inside found).2.2, ?_⟩
  simp only [Message.optEnd, ndOptHdrSize, kLinkAddressSize]
  omega

theorem copied_rewritten {original current : Message} {rounds : Nat} {visited : List Nat}
    {optionType : UInt8} (dressed : Dressed original (some optionType) current)
    (walked : visitedOptions (Packet.ofMessage original) original rounds = some visited)
    (interface : Interface) :
    Copied original (some optionType) interface
      (rewritten interface optionType current visited) := by
  have agrees := dressed_headers dressed
  have onGrid := visited_on_grid first_opt_on_grid walked
  have type : ∀ opt ∈ visited, current.ndOptType opt = original.ndOptType opt := by
    intro opt member
    obtain ⟨step, same⟩ := onGrid opt member
    rw [same]
    exact agrees.type step
  constructor
  · constructor
    · exact (rewritten_headers_agree interface optionType current onGrid).size.trans dressed.size
    · intro index outside
      rw [rewritten_outside interface optionType current onGrid]
      · exact dressed.kept index outside
      · intro opt member wanted
        apply outside opt
        constructor
        · exact (Walk.mem_positions_iff walked opt).mp member
        · rw [← type opt member, wanted]
  · intro opt rewrites
    have ended : (visitedOptions (Packet.ofMessage original) original rounds).isSome = true := by
      rw [walked]
      rfl
    have bounds := visited_inside ended rewrites.visited
    omega
  · intro opt rewrites index
    have member := (Walk.mem_positions_iff walked opt).mpr rewrites.visited
    apply rewritten_inside interface optionType current onGrid member
    rw [type opt member]
    exact (Option.some.inj rewrites.type).symm

/-! ## Forwarding -/

/-- The options of `forward` rewrite options of one type, or none. -/
inductive RewritesOnly (options : UInt32) : Option UInt8 → Prop
  | nothing (target : ¬ options &&& kRewriteTargetLink ≠ 0)
      (source : ¬ options &&& kRewriteSourceLink ≠ 0) : RewritesOnly options none
  | target (target : options &&& kRewriteTargetLink ≠ 0)
      (source : ¬ options &&& kRewriteSourceLink ≠ 0) :
      RewritesOnly options (some ndOptTargetLinkaddr)
  | source (target : ¬ options &&& kRewriteTargetLink ≠ 0)
      (source : options &&& kRewriteSourceLink ≠ 0) :
      RewritesOnly options (some ndOptSourceLinkaddr)

section Forward

variable {original : Message} {optionType : Option UInt8} {rounds : Nat}
variable {source toIf : Interface} {options : UInt32}

theorem rewrite_for_copied {current after : Message} {flag : UInt32} {wanted : UInt8}
    (dressed : Dressed original (some wanted) current) (set : options &&& flag ≠ 0)
    (returned : rewriteFor flag wanted rounds toIf (Packet.ofMessage original) current options =
      some after) : Copied original (some wanted) toIf after := by
  unfold rewriteFor at returned
  rw [if_pos set, rewrite_link_address_option_eq (dressed_headers dressed)] at returned
  obtain ⟨visited, walked, same⟩ := Option.map_eq_some_iff.mp returned
  rw [← same]
  exact copied_rewritten dressed walked toIf

theorem forward_copied (only : RewritesOnly options optionType) {current after : Message}
    {calls : List Call} (dressed : Dressed original optionType current)
    (forwarded : forward rounds source toIf (Packet.ofMessage original) current options =
      some (after, calls)) :
    Copied original optionType toIf after ∧
      calls = forwardCalls source toIf (Packet.ofMessage original) after options := by
  unfold forward at forwarded
  cases only with
  | nothing target source =>
      rw [rewrite_for_plain target, Option.bind_eq_bind, Option.bind_some,
        rewrite_for_plain source] at forwarded
      obtain ⟨same, made⟩ := Prod.mk.inj (Option.some.inj forwarded)
      subst same
      refine ⟨⟨dressed, ?_, ?_⟩, made.symm⟩
      · exact fun opt rewrites => nomatch rewrites.type
      · exact fun opt rewrites => nomatch rewrites.type
  | target target source =>
      obtain ⟨first, rewrote, rest⟩ := Option.bind_eq_some_iff.mp forwarded
      rw [rewrite_for_plain source] at rest
      obtain ⟨same, made⟩ := Prod.mk.inj (Option.some.inj rest)
      subst same
      exact ⟨rewrite_for_copied dressed target rewrote, made.symm⟩
  | source target source =>
      rw [rewrite_for_plain target, Option.bind_eq_bind, Option.bind_some] at forwarded
      obtain ⟨last, rewrote, rest⟩ := Option.bind_eq_some_iff.mp forwarded
      obtain ⟨same, made⟩ := Prod.mk.inj (Option.some.inj rest)
      subst same
      exact ⟨rewrite_for_copied dressed source rewrote, made.symm⟩

end Forward

/-- What a call sends, and on which interface. -/
def Call.sent : Call → Option (Interface × List UInt8)
  | .sendFrom toIf _ _ data => some (toIf, data)
  | .sendTo toIf _ data => some (toIf, data)
  | .propertySet _ _ => none
  | .addRoute _ _ _ => none
  | .setDefaultGateway _ _ => none

theorem forward_calls_sent (source toIf : Interface) (packet : Packet) (message : Message)
    (options : UInt32) :
    (forwardCalls source toIf packet message options).filterMap Call.sent =
      [(toIf, message.icmp)] := by
  unfold forwardCalls
  dsimp only
  split_ifs
  all_goals simp [Call.sent]

/-- The ICMPv6 bytes of the received message with the interface's link address in each rewritten
option. -/
structure Readdressed (message : Message) (optionType : Option UInt8) (interface : Interface)
    (data : List UInt8) : Prop where
  length : data.length = message.mSize - ip6HdrSize
  inside : ∀ opt, Rewritten message optionType opt →
    ip6HdrSize ≤ opt ∧ opt + ndOptHdrSize + kLinkAddressSize ≤ message.mSize
  address : ∀ opt, Rewritten message optionType opt → ∀ index : Fin kLinkAddressSize,
    data[opt + ndOptHdrSize + index.val - ip6HdrSize]? = some (interface.linkAddr index)
  kept : ∀ index, index < message.mSize - ip6HdrSize →
    (∀ opt, Rewritten message optionType opt → ¬ InAddress opt (ip6HdrSize + index)) →
    data[index]? = some (message.mData (ip6HdrSize + index))

theorem visited_behind_header {message : Message} {opt : Nat} (visited : Visited message opt) :
    ip6HdrSize ≤ opt := by
  obtain ⟨-, found⟩ := (visits_iff_option_at message opt).mp visited
  have behind := (option_at_inside found).1
  omega

theorem readdressed_of_copied {original current : Message} {optionType : Option UInt8}
    {interface : Interface} (copied : Copied original optionType interface current) :
    Readdressed original optionType interface current.icmp := by
  unfold Message.icmp
  rw [copied.size]
  constructor
  · exact load_length _ _ _
  · intro opt rewrites
    exact ⟨visited_behind_header rewrites.visited, copied.inside opt rewrites⟩
  · intro opt rewrites index
    have behind := visited_behind_header rewrites.visited
    have inside := copied.inside opt rewrites
    have bounded := index.isLt
    rw [load_getElem? _ _ _ _ (by omega), Nat.add_sub_cancel' (by omega),
      copied.address opt rewrites index]
  · intro index bounded outside
    rw [load_getElem? _ _ _ _ bounded, copied.kept _ outside]

/-- An inner interface and what is sent on it. -/
def Receives (message : Message) (optionType : Option UInt8) (inner : Interface)
    (sent : Interface × List UInt8) : Prop :=
  sent.1 = inner ∧ Readdressed message optionType inner sent.2

/-- Each interface gets one copy, the next rewriting starts from what the last one left, and in
the end the buffer holds the last copy. -/
theorem forward_to_all_copied {original : Message} {optionType : Option UInt8} {rounds : Nat}
    {source : Interface} {options : UInt32} (only : RewritesOnly options optionType)
    (inners : List Interface) {done : Message × List Call} {after : Message} {calls : List Call}
    (dressed : Dressed original optionType done.1)
    (returned : forwardToAll rounds source (Packet.ofMessage original) options inners done =
      some (after, calls)) :
    (after = done.1 ∨ ∃ inner ∈ inners, Copied original optionType inner after) ∧
      ∃ later, calls = done.2 ++ later ∧
        List.Forall₂ (Receives original optionType) inners (later.filterMap Call.sent) := by
  induction inners generalizing done with
  | nil =>
      have same := Option.some.inj returned
      rw [same]
      exact ⟨.inl rfl, [], (List.append_nil _).symm, .nil⟩
  | cons inner rest ih =>
      obtain ⟨⟨next, made⟩, forwarded, behind⟩ := Option.bind_eq_some_iff.mp returned
      obtain ⟨copied, calledFor⟩ := forward_copied only dressed forwarded
      obtain ⟨finished, later, split, received⟩ := ih copied.toDressed behind
      refine ⟨?_, made ++ later, ?_, ?_⟩
      · right
        rcases finished with same | ⟨last, member, lastCopied⟩
        · exact ⟨inner, List.mem_cons_self, same ▸ copied⟩
        · exact ⟨last, List.mem_cons_of_mem _ member, lastCopied⟩
      · rw [split, List.append_assoc]
      · rw [List.filterMap_append, calledFor, forward_calls_sent, List.singleton_append]
        exact .cons ⟨rfl, readdressed_of_copied copied⟩ received

/-- Nothing is written in front of the ICMPv6 message. -/
theorem dressed_ip6_header {original current : Message} {optionType : Option UInt8}
    (dressed : Dressed original optionType current) (index : Nat) (front : index < ip6HdrSize) :
    current.mData index = original.mData index := by
  apply dressed.kept
  intro opt rewrites overlap
  have behind := visited_behind_header rewrites.visited
  unfold InAddress at overlap
  omega

/-- No byte in front of the ICMPv6 message or behind its end is another one afterwards. -/
theorem copied_outside {original after : Message} {optionType : Option UInt8}
    {inners : List Interface}
    (finished : after = original ∨ ∃ inner ∈ inners, Copied original optionType inner after) :
    after.mSize = original.mSize ∧
      ∀ index, index < ip6HdrSize ∨ original.mSize ≤ index →
        after.mData index = original.mData index := by
  rcases finished with same | ⟨inner, -, copied⟩
  · rw [same]
    exact ⟨rfl, fun _ _ => rfl⟩
  · refine ⟨copied.size, ?_⟩
    intro index outside
    apply copied.kept
    intro opt rewrites overlap
    have behind := visited_behind_header rewrites.visited
    have inside := copied.inside opt rewrites
    unfold InAddress at overlap
    omega

/-! ## DNS servers -/

/-- Only properties are set for an option. -/
def SetsProperties (calls : List Call) : Prop :=
  ∀ call ∈ calls, ∃ name value, call = .propertySet name value

theorem extract_option_sets_properties {message : Message} {inetNtop : In6Addr → Option String}
    {calls : List Call} (before : SetsProperties calls) (opt : Nat) :
    SetsProperties (extractOption message inetNtop opt calls) := by
  unfold extractOption
  split_ifs
  · exact before
  · intro call member
    rcases List.mem_append.mp member with old | new
    · exact before call old
    · obtain ⟨index, -, built⟩ := List.mem_map.mp new
      exact ⟨_, _, built.symm⟩

theorem extract_sets_properties {rounds : Nat} {packet : Packet} {message : Message}
    {inetNtop : In6Addr → Option String} {calls : List Call}
    (extracted : extractRecursiveDnsServers rounds packet message inetNtop = some calls) :
    SetsProperties calls := by
  rw [extract_recursive_dns_servers_eq] at extracted
  obtain ⟨visited, -, same⟩ := Option.map_eq_some_iff.mp extracted
  have every : ∀ (visited : List Nat) (calls : List Call), SetsProperties calls →
      SetsProperties
        (visited.foldl (fun calls opt => extractOption message inetNtop opt calls) calls) := by
    intro visited
    induction visited with
    | nil => exact fun _ before => before
    | cons opt rest ih => exact fun _ before => ih _ (extract_option_sets_properties before opt)
  rw [← same]
  exact every visited [] fun call member => nomatch member

theorem sets_properties_sent {calls : List Call} (sets : SetsProperties calls) :
    calls.filterMap Call.sent = [] := by
  rw [List.filterMap_eq_nil_iff]
  intro call member
  obtain ⟨name, value, built⟩ := sets call member
  rw [built]
  rfl

/-! ## The handler -/

/-- The messages from outside that are sent on. -/
def SentInside (type : PacketType) : Prop :=
  type = .routerAdvertisement ∨ type = .neighborSolicitation ∨ type = .neighborAdvertisement

/-- How the handler comes to what it returns. -/
inductive OuterHandled (rounds : Nat) (proxy : Proxy) (message : Message)
    (inetNtop : In6Addr → Option String) (after : Message) (calls : List Call) : Prop
  | routerAdvertisement {published : List Call}
      (type : (Packet.ofMessage message).mType = .routerAdvertisement)
      (extracted : extractRecursiveDnsServers rounds (Packet.ofMessage message) message inetNtop =
        some published)
      (forwarded : forwardToAll rounds proxy.mOuterIf (Packet.ofMessage message)
        (kRewriteSourceLink ||| kSetDefaultGateway) proxy.mInnerIfs (message, published) =
          some (after, calls))
  | neighborSolicitation (type : (Packet.ofMessage message).mType = .neighborSolicitation)
      (forwarded : forwardToAll rounds proxy.mOuterIf (Packet.ofMessage message) kSpoofSource
        proxy.mInnerIfs (message, []) = some (after, calls))
  | neighborAdvertisement (type : (Packet.ofMessage message).mType = .neighborAdvertisement)
      (forwarded : forwardToAll rounds proxy.mOuterIf (Packet.ofMessage message)
        kRewriteTargetLink proxy.mInnerIfs (message, []) = some (after, calls))
  | ignored (type : ¬ SentInside (Packet.ofMessage message).mType) (same : after = message)
      (none : calls = [])

theorem outer_handled {rounds : Nat} {proxy : Proxy} {message after : Message}
    {inetNtop : In6Addr → Option String} {calls : List Call}
    (returned : handleOuterMessage rounds proxy message inetNtop = some (after, calls)) :
    OuterHandled rounds proxy message inetNtop after calls := by
  unfold handleOuterMessage at returned
  dsimp only at returned
  cases type : (Packet.ofMessage message).mType with
  | routerAdvertisement =>
      rw [type] at returned
      obtain ⟨published, extracted, forwarded⟩ := Option.bind_eq_some_iff.mp returned
      exact .routerAdvertisement type extracted forwarded
  | neighborSolicitation =>
      rw [type] at returned
      exact .neighborSolicitation type returned
  | neighborAdvertisement =>
      rw [type] at returned
      exact .neighborAdvertisement type returned
  | routerSolicitation =>
      rw [type] at returned
      obtain ⟨same, none⟩ := Prod.mk.inj (Option.some.inj returned)
      exact .ignored (by simp [type, SentInside]) same.symm none.symm
  | other =>
      rw [type] at returned
      obtain ⟨same, none⟩ := Prod.mk.inj (Option.some.inj returned)
      exact .ignored (by simp [type, SentInside]) same.symm none.symm

/-- What the handler makes of a message: its calls send one copy to each inner interface, in
order, and the message in the buffer is the received one up to rewritten addresses. -/
theorem handle_outer_message_copies {rounds : Nat} {proxy : Proxy} {message after : Message}
    {inetNtop : In6Addr → Option String} {calls : List Call}
    (returned : handleOuterMessage rounds proxy message inetNtop = some (after, calls)) :
    (after = message ∨ ∃ inner ∈ proxy.mInnerIfs,
        Copied message (rewriteType (Packet.ofMessage message).mType) inner after) ∧
      (SentInside (Packet.ofMessage message).mType →
        List.Forall₂ (Receives message (rewriteType (Packet.ofMessage message).mType))
          proxy.mInnerIfs (calls.filterMap Call.sent)) ∧
      (¬ SentInside (Packet.ofMessage message).mType → calls = []) := by
  cases outer_handled returned with
  | routerAdvertisement type extracted forwarded =>
      rw [type]
      obtain ⟨finished, later, split, received⟩ := forward_to_all_copied
        (.source (by decide) (by decide)) proxy.mInnerIfs (dressed_refl message _) forwarded
      refine ⟨finished, fun _ => ?_, fun other => absurd (.inl rfl) other⟩
      rw [split, List.filterMap_append, sets_properties_sent (extract_sets_properties extracted)]
      exact received
  | neighborSolicitation type forwarded =>
      rw [type]
      obtain ⟨finished, later, split, received⟩ := forward_to_all_copied
        (.nothing (by decide) (by decide)) proxy.mInnerIfs (dressed_refl message _) forwarded
      refine ⟨finished, fun _ => ?_, fun other => absurd (.inr (.inl rfl)) other⟩
      rw [split]
      exact received
  | neighborAdvertisement type forwarded =>
      rw [type]
      obtain ⟨finished, later, split, received⟩ := forward_to_all_copied
        (.target (by decide) (by decide)) proxy.mInnerIfs (dressed_refl message _) forwarded
      refine ⟨finished, fun _ => ?_, fun other => absurd (.inr (.inr rfl)) other⟩
      rw [split]
      exact received
  | ignored type same none => exact ⟨.inl same, fun inside => absurd inside type, fun _ => none⟩

/-- Each inner network gets the received ICMPv6 bytes, with its own link address in the options
that are rewritten. Nothing in front of them or behind them is written. -/
theorem inner_copies (rounds : Nat) (proxy : Proxy) (message after : Message)
    (inetNtop : In6Addr → Option String) (calls : List Call)
    (returned : handleOuterMessage rounds proxy message inetNtop = some (after, calls)) :
    (SentInside (Packet.ofMessage message).mType →
      List.Forall₂ (Receives message (rewriteType (Packet.ofMessage message).mType))
        proxy.mInnerIfs (calls.filterMap Call.sent)) ∧
      (¬ SentInside (Packet.ofMessage message).mType → calls.filterMap Call.sent = []) ∧
      after.mSize = message.mSize ∧
      ∀ index, index < ip6HdrSize ∨ message.mSize ≤ index →
        after.mData index = message.mData index := by
  obtain ⟨finished, received, nothing⟩ := handle_outer_message_copies returned
  refine ⟨received, ?_, copied_outside finished⟩
  intro other
  rw [nothing other]
  rfl

/-- A packet of the given type with hop limit 255 and one option with a link address. -/
def linkAddressPacket (icmp6Type : UInt8) (headerSize : Nat) (optionType : UInt8) : List UInt8 :=
  [0x60, 0, 0, 0, 0, 0, ipprotoIcmpv6, 255] ++ List.replicate 32 0 ++ [icmp6Type, 0] ++
    List.replicate (headerSize - 2) 0 ++ [optionType, 1] ++ List.replicate kLinkAddressSize 9

def linkAddressAdvert : Message :=
  receivedMessage (linkAddressPacket ndRouterAdvert 16 ndOptSourceLinkaddr)

/-- A proxy with two inner interfaces. -/
def pairProxy : Proxy where
  mInnerIfs :=
    [{ name := "wlan1", index := 2, linkAddr := fun _ => 2 },
      { name := "wlan2", index := 3, linkAddr := fun _ => 3 }]
  mOuterIf := { name := "eth0", index := 1, linkAddr := fun _ => 1 }

theorem inner_copies_pair :
    ∃ after calls,
      handleOuterMessage 2 pairProxy linkAddressAdvert (fun _ => none) = some (after, calls) ∧
      List.Forall₂ (Receives linkAddressAdvert (some ndOptSourceLinkaddr)) pairProxy.mInnerIfs
        (calls.filterMap Call.sent) := by
  have known : (Packet.ofMessage linkAddressAdvert).mType = .routerAdvertisement := by
    decide +kernel
  have finished : (handleOuterMessage 2 pairProxy linkAddressAdvert fun _ => none).isSome = true := by
    decide +kernel
  obtain ⟨⟨after, calls⟩, returned⟩ := Option.isSome_iff_exists.mp finished
  have copies := (inner_copies 2 pairProxy linkAddressAdvert after (fun _ => none) calls
    returned).1 (.inl known)
  rw [known] at copies
  exact ⟨after, calls, returned, copies⟩

end RedroidExt.Ipv6Proxy
