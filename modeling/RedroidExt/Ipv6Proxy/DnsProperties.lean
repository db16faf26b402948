import RedroidExt.Ipv6Proxy.Rewriting
import RedroidExt.Library.Assignments

/-!
# The published DNS servers

Each recursive DNS server option sets all four properties, so behind a router
advertisement they hold the servers of its last such option: servers of earlier ones
are cleared or overwritten.
-/

namespace RedroidExt.Ipv6Proxy

open RedroidExt.Library RedroidExt.Library.ByteMemory

set_option autoImplicit false

/-! ## Properties -/

/-- The property that a call sets, and its value. -/
def Call.assignment : Call → Option (String × String)
  | .propertySet name value => some (name, value)
  | .sendFrom _ _ _ _ => none
  | .sendTo _ _ _ => none
  | .addRoute _ _ _ => none
  | .setDefaultGateway _ _ => none

/-- The properties behind calls. -/
def propertiesAfter (properties : String → String) (calls : List Call) : String → String :=
  assignAll properties (calls.filterMap Call.assignment)

def dnsPropertyName (index : Nat) : String := "net.eth0.ipv6dns" ++ toString index

/-- The four properties with the values for a list of servers. -/
def dnsAssignments (servers : List String) : List (String × String) :=
  [1, 2, 3, 4].map fun index => (dnsPropertyName index, servers.getD (index - 1) "")

theorem publish_assignments (servers : List String) :
    (publish servers).filterMap Call.assignment = dnsAssignments servers := rfl

theorem dns_assignments_names (servers : List String) :
    (dnsAssignments servers).map Prod.fst = [1, 2, 3, 4].map dnsPropertyName := rfl

theorem dns_property_names_distinct : ([1, 2, 3, 4].map dnsPropertyName).Nodup := by
  decide +kernel

theorem dns_assignment_member (servers : List String) {index : Nat} (below : index < 4) :
    (dnsPropertyName (index + 1), servers.getD index "") ∈ dnsAssignments servers := by
  apply List.mem_map.mpr
  exact ⟨index + 1, by simp; omega, rfl⟩

theorem assign_dns_assignments (properties : String → String) (servers : List String)
    {index : Nat} (below : index < 4) :
    assignAll properties (dnsAssignments servers) (dnsPropertyName (index + 1)) =
      servers.getD index "" :=
  Assignments.assign_member properties
    (by rw [dns_assignments_names]; exact dns_property_names_distinct)
    (dns_assignment_member servers below)

/-! ## Forwarding sets none -/

section Forwarding

variable {rounds : Nat} {source toIf : Interface} {packet : Packet} {options : UInt32}

theorem forward_assignments {message after : Message} {calls : List Call}
    (forwarded : forward rounds source toIf packet message options = some (after, calls)) :
    calls.filterMap Call.assignment = [] := by
  obtain ⟨first, -, rest⟩ := Option.bind_eq_some_iff.mp forwarded
  obtain ⟨second, -, done⟩ := Option.bind_eq_some_iff.mp rest
  obtain ⟨-, made⟩ := Prod.mk.inj (Option.some.inj done)
  rw [← made]
  unfold forwardCalls
  dsimp only
  split_ifs
  all_goals rfl

theorem forward_to_all_assignments (inners : List Interface) {done : Message × List Call}
    {after : Message} {calls : List Call}
    (returned : forwardToAll rounds source packet options inners done = some (after, calls)) :
    calls.filterMap Call.assignment = done.2.filterMap Call.assignment := by
  induction inners generalizing done with
  | nil => rw [Option.some.inj returned]
  | cons inner rest ih =>
      obtain ⟨⟨next, made⟩, forwarded, behind⟩ := Option.bind_eq_some_iff.mp returned
      rw [ih behind, List.filterMap_append, forward_assignments forwarded, List.append_nil]

end Forwarding

/-! ## The options of the packet -/

/-- What the loop takes for a recursive DNS server option. -/
def IsRdnss (message : Message) (opt : Nat) : Prop :=
  message.ndOptType opt = ndOptRdnss ∧ 1 ≤ message.ndOptLen opt

instance (message : Message) : DecidablePred (IsRdnss message) :=
  fun _ => inferInstanceAs (Decidable (_ ∧ _))

/-- The recursive DNS server options among the options of a packet. -/
def rdnssOptions (message : Message) (visited : List Nat) : List Nat :=
  visited.filter fun opt => IsRdnss message opt

section Options

variable (message : Message) (inetNtop : In6Addr → Option String)

theorem extract_option_assignments (opt : Nat) (calls : List Call) :
    (extractOption message inetNtop opt calls).filterMap Call.assignment =
      calls.filterMap Call.assignment ++
        if IsRdnss message opt then dnsAssignments (recursiveDnsServers message inetNtop opt)
        else [] := by
  unfold extractOption
  by_cases rdnss : IsRdnss message opt
  · have taken : ¬ (message.ndOptType opt ≠ ndOptRdnss ∨ message.ndOptLen opt < 1) := by
      rw [not_or, not_not, UInt8.not_lt]
      exact rdnss
    rw [if_neg taken, if_pos rdnss, List.filterMap_append, publish_assignments]
  · have skipped : message.ndOptType opt ≠ ndOptRdnss ∨ message.ndOptLen opt < 1 := by
      rw [← UInt8.not_le]
      exact not_and_or.mp rdnss
    rw [if_pos skipped, if_neg rdnss, List.append_nil]

theorem extracted_assignments (visited : List Nat) (calls : List Call) :
    (visited.foldl (fun calls opt => extractOption message inetNtop opt calls)
        calls).filterMap Call.assignment =
      calls.filterMap Call.assignment ++ (rdnssOptions message visited).flatMap fun opt =>
        dnsAssignments (recursiveDnsServers message inetNtop opt) := by
  induction visited generalizing calls with
  | nil => exact (List.append_nil _).symm
  | cons opt rest ih =>
      rw [List.foldl_cons, ih, extract_option_assignments, List.append_assoc]
      unfold rdnssOptions
      by_cases rdnss : IsRdnss message opt
      · rw [if_pos rdnss, List.filter_cons_of_pos (by simpa using rdnss), List.flatMap_cons]
      · rw [if_neg rdnss, List.filter_cons_of_neg (by simpa using rdnss), List.nil_append]

/-- Behind a router advertisement the properties are those of its last option. -/
theorem outer_properties {proxy : Proxy} {rounds : Nat} {visited : List Nat} {after : Message}
    {calls : List Call} (advert : (Packet.ofMessage message).mType = .routerAdvertisement)
    (walked : visitedOptions (Packet.ofMessage message) message rounds = some visited)
    (returned : handleOuterMessage rounds proxy message inetNtop = some (after, calls))
    (properties : String → String) :
    propertiesAfter properties calls =
      assignAll properties ((rdnssOptions message visited).flatMap fun opt =>
        dnsAssignments (recursiveDnsServers message inetNtop opt)) := by
  cases outer_handled returned with
  | routerAdvertisement _ extracted forwarded =>
      rw [extract_recursive_dns_servers_eq, walked] at extracted
      have set := forward_to_all_assignments _ forwarded
      dsimp only at set
      rw [← Option.some.inj extracted, extracted_assignments] at set
      unfold propertiesAfter
      rw [set]
      rfl
  | neighborSolicitation type => rw [advert] at type; cases type
  | neighborAdvertisement type => rw [advert] at type; cases type
  | ignored type => exact absurd (by simp [advert, SentInside]) type

end Options

/-! ## Servers of all options -/

/-- The addresses of an option. -/
def rdnssAddresses (message : Message) (opt : Nat) : List In6Addr :=
  (List.range (((message.ndOptLen opt).toNat - 1) / 2)).map fun index =>
    load message.mData (opt + kRecursiveDnsOptHeaderSize + 16 * index) 16

/-- The properties hold the first four servers of all options, whose addresses lie inside them. -/
structure ServersPublished (message : Message) (inetNtop : In6Addr → Option String)
    (visited : List Nat) (before after : String → String) : Prop where
  published : rdnssOptions message visited ≠ [] → ∀ index < 4,
    after (dnsPropertyName (index + 1)) =
      (((rdnssOptions message visited).flatMap (rdnssAddresses message)).filterMap inetNtop).getD
        index ""
  inside : ∀ opt ∈ rdnssOptions message visited,
    ∀ index < ((message.ndOptLen opt).toNat - 1) / 2,
      opt + kRecursiveDnsOptHeaderSize + 16 * index + 16 ≤ message.optEnd opt
  unchanged : rdnssOptions message visited = [] → after = before

/-- `inet_ntop` succeeds on every address, with a text that is not empty. -/
def PrintsAddresses (inetNtop : In6Addr → Option String) : Prop :=
  ∀ address, address.length = 16 → ∃ text, inetNtop address = some text ∧ text ≠ ""

/-- No option in front of the last one has room for an address, or the last one holds four and
starts like all of them together. -/
def LastCovers (message : Message) (inetNtop : In6Addr → Option String) (visited : List Nat) :
    Prop :=
  ∀ earlier last, rdnssOptions message visited = earlier ++ [last] →
    (∀ opt ∈ earlier, message.ndOptLen opt < 3) ∨
      9 ≤ message.ndOptLen last ∧
        (((earlier ++ [last]).flatMap (rdnssAddresses message)).filterMap inetNtop).take 4 =
          ((rdnssAddresses message last).filterMap inetNtop).take 4

section Servers

variable {message : Message} {inetNtop : In6Addr → Option String}

theorem recursive_dns_servers_eq (opt : Nat) :
    recursiveDnsServers message inetNtop opt =
      (rdnssAddresses message opt).filterMap inetNtop := by
  unfold recursiveDnsServers rdnssAddresses
  rw [List.filterMap_map]
  rfl

theorem rdnss_address_inside (opt : Nat) {index : Nat}
    (below : index < ((message.ndOptLen opt).toNat - 1) / 2) :
    opt + kRecursiveDnsOptHeaderSize + 16 * index + 16 ≤ message.optEnd opt := by
  unfold Message.optEnd kRecursiveDnsOptHeaderSize
  omega

theorem printed_texts (prints : PrintsAddresses inetNtop) {addresses : List In6Addr}
    (whole : ∀ address ∈ addresses, address.length = 16) :
    (addresses.filterMap inetNtop).length = addresses.length ∧
      "" ∉ addresses.filterMap inetNtop := by
  induction addresses with
  | nil => exact ⟨rfl, List.not_mem_nil⟩
  | cons address rest ih =>
      obtain ⟨text, printed, filled⟩ := prints address (whole address List.mem_cons_self)
      obtain ⟨length, texts⟩ := ih fun other member => whole other (List.mem_cons_of_mem _ member)
      rw [List.filterMap_cons_some printed]
      constructor
      · rw [List.length_cons, List.length_cons, length]
      · rw [List.mem_cons, not_or]
        exact ⟨filled.symm, texts⟩

theorem rdnss_addresses_whole (opt : Nat) :
    ∀ address ∈ rdnssAddresses message opt, address.length = 16 := by
  intro address member
  obtain ⟨index, -, same⟩ := List.mem_map.mp member
  rw [← same, load_length]

theorem rdnss_addresses_length (opt : Nat) :
    (rdnssAddresses message opt).length = ((message.ndOptLen opt).toNat - 1) / 2 := by
  unfold rdnssAddresses
  rw [List.length_map, List.length_range]

end Servers

/-- Padded to the same length, a list with more in front of it is the same list exactly when
nothing is in front or it is long enough and repeats. -/
theorem padded_eq_iff {Value : Type} {padding : Value} {front back : List Value} {count : Nat}
    (filled : padding ∉ front ++ back) :
    (∀ index < count, back.getD index padding = (front ++ back).getD index padding) ↔
      front = [] ∨ count ≤ back.length ∧ (front ++ back).take count = back.take count := by
  constructor
  · intro same
    by_cases nothing : front = []
    · exact .inl nothing
    right
    have positive := List.length_pos_of_ne_nil nothing
    have long : count ≤ back.length := by
      by_contra short
      have ended := same back.length (by omega)
      have more : back.length < (front ++ back).length := by
        rw [List.length_append]
        omega
      rw [List.getD_eq_default _ _ (Nat.le_refl _), List.getD_eq_getElem _ _ more] at ended
      exact filled (ended ▸ List.getElem_mem more)
    refine ⟨long, ?_⟩
    apply List.ext_getElem
    · rw [List.length_take, List.length_take, List.length_append]
      omega
    · intro index left right
      rw [List.length_take] at left right
      have here := same index (by omega)
      rw [List.getD_eq_getElem _ _ (by omega), List.getD_eq_getElem _ _ (by omega)] at here
      rw [List.getElem_take, List.getElem_take, here]
  · intro covered index below
    rcases covered with nothing | ⟨-, repeated⟩
    · rw [nothing, List.nil_append]
    · rw [List.getD_eq_getElem?_getD, List.getD_eq_getElem?_getD,
        ← List.getElem?_take_of_lt below, ← repeated, List.getElem?_take_of_lt below]

section LastOption

variable {message : Message} {inetNtop : In6Addr → Option String}

theorem rdnss_addresses_nil_iff (opt : Nat) :
    rdnssAddresses message opt = [] ↔ message.ndOptLen opt < 3 := by
  rw [← List.length_eq_zero_iff, rdnss_addresses_length, UInt8.lt_iff_toNat_lt]
  change _ ↔ _ < 3
  omega

theorem flat_addresses_whole (options : List Nat) :
    ∀ address ∈ options.flatMap (rdnssAddresses message), address.length = 16 := by
  intro address member
  obtain ⟨opt, -, inside⟩ := List.mem_flatMap.mp member
  exact rdnss_addresses_whole opt address inside

theorem printed_nil_iff (prints : PrintsAddresses inetNtop) (options : List Nat) :
    (options.flatMap (rdnssAddresses message)).filterMap inetNtop = [] ↔
      ∀ opt ∈ options, message.ndOptLen opt < 3 := by
  rw [← List.length_eq_zero_iff, (printed_texts prints (flat_addresses_whole options)).1,
    List.length_eq_zero_iff, List.flatMap_eq_nil_iff]
  simp only [rdnss_addresses_nil_iff]

theorem four_printed_iff (prints : PrintsAddresses inetNtop) (opt : Nat) :
    4 ≤ ((rdnssAddresses message opt).filterMap inetNtop).length ↔ 9 ≤ message.ndOptLen opt := by
  rw [(printed_texts prints (rdnss_addresses_whole opt)).1, rdnss_addresses_length,
    UInt8.le_iff_toNat_le]
  change _ ↔ 9 ≤ _
  omega

/-- With a last option, its servers are the published ones. -/
theorem last_option_values {visited earlier : List Nat} {last : Nat}
    (split : rdnssOptions message visited = earlier ++ [last]) (properties : String → String)
    {index : Nat} (below : index < 4) :
    assignAll properties ((rdnssOptions message visited).flatMap fun opt =>
        dnsAssignments (recursiveDnsServers message inetNtop opt)) (dnsPropertyName (index + 1)) =
      ((rdnssAddresses message last).filterMap inetNtop).getD index "" := by
  rw [split, Assignments.assign_last_group fun _ => dns_assignments_names _,
    assign_dns_assignments _ _ below, recursive_dns_servers_eq]

theorem last_covers_iff (prints : PrintsAddresses inetNtop) {visited earlier : List Nat}
    {last : Nat} (split : rdnssOptions message visited = earlier ++ [last]) :
    LastCovers message inetNtop visited ↔
      ∀ index < 4, ((rdnssAddresses message last).filterMap inetNtop).getD index "" =
        (((rdnssOptions message visited).flatMap (rdnssAddresses message)).filterMap
          inetNtop).getD index "" := by
  have texts := (printed_texts prints (@flat_addresses_whole message
    (earlier ++ [last]))).2
  rw [List.flatMap_append, List.flatMap_singleton, List.filterMap_append] at texts
  rw [split, List.flatMap_append, List.flatMap_singleton, List.filterMap_append,
    padded_eq_iff texts, printed_nil_iff prints, four_printed_iff prints]
  constructor
  · intro covers
    have here := covers earlier last split
    rw [List.flatMap_append, List.flatMap_singleton, List.filterMap_append] at here
    exact here
  · intro here otherEarlier otherLast otherSplit
    obtain ⟨sameEarlier, sameLast⟩ := List.append_inj' (split.symm.trans otherSplit) rfl
    rw [← sameEarlier, ← List.singleton_inj.mp sameLast, List.flatMap_append,
      List.flatMap_singleton, List.filterMap_append]
    exact here

end LastOption

/-- When the walk over a router advertisement from outside ends, the servers of all its options
are published exactly when the last option covers the others. -/
theorem dns_servers_published_iff (proxy : Proxy) (message : Message)
    (inetNtop : In6Addr → Option String) (prints : PrintsAddresses inetNtop)
    (advert : (Packet.ofMessage message).mType = .routerAdvertisement) (rounds : Nat)
    (visited : List Nat)
    (walked : visitedOptions (Packet.ofMessage message) message rounds = some visited) :
    ∃ after calls, handleOuterMessage rounds proxy message inetNtop = some (after, calls) ∧
      ∀ properties, ServersPublished message inetNtop visited properties
          (propertiesAfter properties calls) ↔ LastCovers message inetNtop visited := by
  have finished : (handleOuterMessage rounds proxy message inetNtop).isSome = true := by
    rw [handle_outer_message_some_iff, walked]
    exact fun _ => rfl
  obtain ⟨⟨after, calls⟩, returned⟩ := Option.isSome_iff_exists.mp finished
  refine ⟨after, calls, returned, ?_⟩
  intro properties
  have made := outer_properties message inetNtop advert walked returned properties
  rcases List.eq_nil_or_concat' (rdnssOptions message visited) with none | ⟨earlier, last, split⟩
  · constructor
    · intro published earlier last split
      rw [none] at split
      exact absurd split.symm (List.append_ne_nil_of_right_ne_nil _ (List.cons_ne_nil _ _))
    · intro covers
      constructor
      · exact fun some => absurd none some
      · exact fun opt _ index below => rdnss_address_inside opt below
      · intro empty
        rw [made, none]
        rfl
  · rw [last_covers_iff prints split]
    have some : rdnssOptions message visited ≠ [] := by
      rw [split]
      exact List.append_ne_nil_of_right_ne_nil _ (List.cons_ne_nil _ _)
    constructor
    · intro published index below
      rw [← published.published some index below, made, last_option_values split _ below]
    · intro same
      constructor
      · intro _ index below
        rw [made, last_option_values split _ below, same index below]
      · exact fun opt _ index below => rdnss_address_inside opt below
      · exact fun empty => absurd empty some

/-! ## Two options -/

/-- The two hexadecimal digits of `inet_ntop` for a group, without leading zeros. -/
def printGroup (high low : UInt8) : List Char := Nat.toDigits 16 (high.toNat * 256 + low.toNat)

/-- The groups behind the first one. -/
def printGroups : In6Addr → List Char
  | high :: low :: rest => ':' :: printGroup high low ++ printGroups rest
  | _ => []

/-- What `inet_ntop` prints for an address without two zero groups in a row. -/
def printAddress : In6Addr → Option String
  | high :: low :: rest => some (String.ofList (printGroup high low ++ printGroups rest))
  | _ => none

theorem print_address_prints : PrintsAddresses printAddress := by
  intro address whole
  match address with
  | high :: low :: rest =>
      refine ⟨_, rfl, ?_⟩
      intro empty
      have nothing := congrArg String.toList empty
      rw [String.toList_ofList] at nothing
      exact Nat.toDigits_ne_nil (List.append_eq_nil_iff.mp nothing).1

/-- A recursive DNS server option with the address `2001:db8:1:1:1:1:1:host`. -/
def rdnssOption (host : UInt8) : List UInt8 :=
  [ndOptRdnss, 3, 0, 0, 0, 0, 2, 88, 32, 1, 13, 184, 0, 1, 0, 1, 0, 1, 0, 1, 0, 1, 0, host]

/-- A router advertisement without other options. -/
def rdnssAdvert (options : List UInt8) : Message :=
  receivedMessage ([0x60, 0, 0, 0, 0, 0, ipprotoIcmpv6, 255] ++ List.replicate 32 0 ++
    [ndRouterAdvert, 0] ++ List.replicate 14 0 ++ options)

theorem one_option_published :
    ∃ after calls, handleOuterMessage 2 pairProxy (rdnssAdvert (rdnssOption 1)) printAddress =
        some (after, calls) ∧
      ServersPublished (rdnssAdvert (rdnssOption 1)) printAddress [56] (fun _ => "")
        (propertiesAfter (fun _ => "") calls) := by
  have walked : visitedOptions (Packet.ofMessage (rdnssAdvert (rdnssOption 1)))
      (rdnssAdvert (rdnssOption 1)) 2 = some [56] := by decide +kernel
  obtain ⟨after, calls, returned, published⟩ := dns_servers_published_iff pairProxy
    (rdnssAdvert (rdnssOption 1)) printAddress print_address_prints (by decide +kernel) 2 [56]
    walked
  refine ⟨after, calls, returned, (published _).mpr ?_⟩
  intro earlier last split
  have alone : earlier = [] := by
    have only : rdnssOptions (rdnssAdvert (rdnssOption 1)) [56] = [56] := by decide +kernel
    have length := congrArg List.length (only.symm.trans split)
    rw [List.length_append] at length
    exact List.length_eq_zero_iff.mp (by simpa using length)
  rw [alone]
  exact .inl fun opt member => nomatch member

/-- Two options with one server each. -/
def twoServersAdvert : Message := rdnssAdvert (rdnssOption 1 ++ rdnssOption 2)

theorem first_option_cleared :
    visitedOptions (Packet.ofMessage twoServersAdvert) twoServersAdvert 3 = some [56, 80] ∧
      ∃ after calls,
        handleOuterMessage 3 pairProxy twoServersAdvert printAddress = some (after, calls) ∧
          propertiesAfter (fun _ => "") calls (dnsPropertyName 1) = "2001:db8:1:1:1:1:1:2" ∧
          propertiesAfter (fun _ => "") calls (dnsPropertyName 2) = "" ∧
          ¬ ServersPublished twoServersAdvert printAddress [56, 80] (fun _ => "")
            (propertiesAfter (fun _ => "") calls) := by
  have values : (handleOuterMessage 3 pairProxy twoServersAdvert printAddress).map (fun handled =>
      (propertiesAfter (fun _ => "") handled.2 (dnsPropertyName 1),
        propertiesAfter (fun _ => "") handled.2 (dnsPropertyName 2))) =
      some ("2001:db8:1:1:1:1:1:2", "") := by decide +kernel
  obtain ⟨⟨after, calls⟩, returned, properties⟩ := Option.map_eq_some_iff.mp values
  obtain ⟨first, second⟩ := Prod.mk.inj properties
  refine ⟨by decide +kernel, after, calls, returned, first, second, ?_⟩
  intro published
  have some : rdnssOptions twoServersAdvert [56, 80] ≠ [] := by decide +kernel
  have both := published.published some 1 (by decide)
  have expected : ((([56, 80].filter fun opt => IsRdnss twoServersAdvert opt).flatMap
      (rdnssAddresses twoServersAdvert)).filterMap printAddress).getD 1 "" ≠ "" := by
    decide +kernel
  exact expected (both.symm.trans second)

end RedroidExt.Ipv6Proxy
