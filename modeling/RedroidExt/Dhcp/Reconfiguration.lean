import RedroidExt.Dhcp.AckDecoding
import RedroidExt.Dhcp.Refusals

/-!
# Leases and a configuration that changes

Gateway and netmask of a reply are read again for every message, its address was
chosen when the lease was created. So the address lies in the subnet that was
reported then, which need not be the one the reply describes.
-/

namespace RedroidExt.Dhcp

open RedroidExt.Library RedroidExt.Library.ByteMemory

set_option autoImplicit false

/-- The address of a reply is a usable host of the subnet that its own options give. -/
def Coherent (reply : Message) : Prop :=
  UsableHost (swap32 (readOptions reply).2.gateway) (swap32 (readOptions reply).2.subnetMask)
    (swap32 reply.yiaddr)

/-! ## Where the address comes from -/

/-- An address in range on which the search stopped is usable, for any mask. -/
theorem found_address_usable {interfaceAddress mask offset : InAddr}
    (inRange : addressInRange (findAddress interfaceAddress mask offset).nextAddress
      interfaceAddress mask = true) :
    UsableHost interfaceAddress mask (findAddress interfaceAddress mask offset).nextAddress := by
  have stopped := (search_address_rule interfaceAddress mask (fun _ => True)
    (fun _ _ _ _ => trivial)
    ⟨(interfaceAddress &&& mask) + startOffset offset, startOffset offset⟩ trivial).2
  change isValidHost (findAddress interfaceAddress mask offset).nextAddress interfaceAddress mask =
      true ∨
    addressInRange (findAddress interfaceAddress mask offset).nextAddress interfaceAddress mask =
      false at stopped
  have valid : isValidHost (findAddress interfaceAddress mask offset).nextAddress interfaceAddress
      mask = true := by
    apply stopped.resolve_right
    rw [inRange]
    decide
  obtain ⟨above, below⟩ := (address_in_range_iff _ _ _).mp inRange
  constructor
  · exact above
  · exact below
  · intro own
    simp [isValidHost, own] at valid

/-- The configuration that the system reported for a call. -/
structure Reported (answers : HostAnswers) (call : Nat) (gateway netmask : InAddr) : Prop where
  gateway : answers.interfaceAddress call = .ok gateway
  netmask : answers.interfaceNetmask call = .ok netmask

/-- A call that creates the lease takes its address from the subnet reported to it. -/
theorem created_usable {tables : LeaseTables} {message : Message} {interfaceIndex : UInt32}
    {answers : HostAnswers} (free : tables.mLeases ⟨interfaceIndex, message.chaddr⟩ = 0)
    (created : ((answers.offerCall interfaceIndex message 0).apply tables).mLeases
      ⟨interfaceIndex, message.chaddr⟩ ≠ 0) :
    ∃ gateway netmask, Reported answers 0 gateway netmask ∧
      UsableHost (swap32 gateway) (swap32 netmask)
        (swap32 (((answers.offerCall interfaceIndex message 0).apply tables).mLeases
          ⟨interfaceIndex, message.chaddr⟩)) := by
  have outcome := get_offer_address_outcome tables interfaceIndex message.chaddr
    (answers.interfaceAddress 0) (answers.interfaceNetmask 0)
  change OfferOutcome tables interfaceIndex message.chaddr (answers.interfaceAddress 0)
    (answers.interfaceNetmask 0) _ ((answers.offerCall interfaceIndex message 0).apply tables)
    at outcome
  generalize (answers.offerCall interfaceIndex message 0).apply tables = after at outcome created ⊢
  generalize (getOfferAddress tables interfaceIndex message.chaddr (answers.interfaceAddress 0)
    (answers.interfaceNetmask 0)).1 = result at outcome
  cases outcome with
  | lookupFailed _ => exact absurd free created
  | held _ _ nonzero => exact absurd free nonzero
  | exhausted _ _ _ _ _ => exact absurd free created
  | @fresh gateway netmask found addressGiven maskGiven _ searched inRange =>
      subst searched
      refine ⟨gateway, netmask, ⟨addressGiven, maskGiven⟩, ?_⟩
      dsimp only
      rw [Function.update_self, swap32_swap32]
      exact found_address_usable inRange

/-! ## What the options give -/

theorem grant_options (type : UInt8) (message : Message)
    (serverAddress address netmask gateway : InAddr) (servers : Message.DnsServers)
    (transactionId : UInt32) :
    (readOptions (message.grant type serverAddress address netmask gateway servers.val
        transactionId)).2.gateway = gateway ∧
      (readOptions (message.grant type serverAddress address netmask gateway servers.val
        transactionId)).2.subnetMask = netmask := by
  have laid := Message.grant_records type message serverAddress address netmask gateway servers
    transactionId
  rw [read_options_of_records laid, grant_records_info]
  exact ⟨rfl, rfl⟩

theorem offer_reported {tables after : LeaseTables} {interfaceIndex : UInt32}
    {macAddress : MacAddress} {interfaceAnswer netmaskAnswer : Except String InAddr}
    {offer : OfferAddress}
    (outcome : OfferOutcome tables interfaceIndex macAddress interfaceAnswer netmaskAnswer
      (.ok offer) after) :
    interfaceAnswer = .ok offer.gateway ∧ netmaskAnswer = .ok offer.netmask := by
  cases outcome with
  | held addressGiven maskGiven _ => exact ⟨addressGiven, maskGiven⟩
  | fresh addressGiven maskGiven _ _ _ => exact ⟨addressGiven, maskGiven⟩

/-- The options of an OFFER or an ACK repeat what was reported to its call. -/
theorem send_grant_options {server : DhcpServer} {message reply : Message}
    {interfaceIndex : UInt32} {answers : HostAnswers} {type : UInt8} {calls : Nat}
    (sent : (sendGrant server type message interfaceIndex answers calls).1 = some reply) :
    Reported answers calls (readOptions reply).2.gateway (readOptions reply).2.subnetMask := by
  obtain ⟨offer, serverAddress, result, built⟩ :=
    send_grant_sent server message interfaceIndex answers sent
  have outcome := get_offer_address_outcome server.tables interfaceIndex message.chaddr
    (answers.interfaceAddress calls) (answers.interfaceNetmask calls)
  rw [result] at outcome
  obtain ⟨addressGiven, maskGiven⟩ := offer_reported outcome
  obtain ⟨gateway, netmask⟩ := grant_options type message serverAddress offer.address
    offer.netmask offer.gateway answers.dnsServers server.sNextTransactionId
  rw [built]
  constructor
  · rw [gateway]
    exact addressGiven
  · rw [netmask]
    exact maskGiven

/-- The call whose answers a reply carries: an ACK is preceded by the check of the request. -/
def grantCall (type : UInt8) : Nat := if type = dhcpAck then 1 else 0

theorem handle_message_options {server : DhcpServer} {message reply : Message}
    {interfaceIndex : UInt32} {answers : HostAnswers}
    (sent : (handleMessage server message interfaceIndex answers).1 = some reply)
    (grants : reply.type = dhcpOffer ∨ reply.type = dhcpAck) :
    Reported answers (grantCall reply.type) (readOptions reply).2.gateway
      (readOptions reply).2.subnetMask := by
  have handled := handle_message_handled server message interfaceIndex answers
  generalize handleMessage server message interfaceIndex answers = handling at handled sent
  rcases handling with ⟨answer, after⟩
  cases handled with
  | dropped => cases sent
  | discover _ _ =>
      have granted := (send_grant_reply server message interfaceIndex answers sent).2
      rw [(granted_fields granted).type]
      exact send_grant_options sent
  | @acknowledge checked _ _ _ =>
      have granted := (send_grant_reply checked message interfaceIndex answers sent).2
      rw [(granted_fields granted).type]
      exact send_grant_options sent
  | @refuse checked _ _ _ =>
      obtain ⟨serverAddress, transactionId, built⟩ := send_nack_reply checked message answers sent
      rw [built, Message.nack_type] at grants
      exact absurd grants (by decide)

/-! ## Runs -/

theorem creates_run {start : ServerRun} {events before rest : List ServerEvent} {lease : Lease}
    {datagram : List UInt8} {answers : HostAnswers}
    (creates : Creates start events lease before datagram answers rest) :
    (serverRun start events).server.tables.mLeases lease =
      (serverStep (serverRun start before)
        (.datagram datagram lease.InterfaceIndex answers)).2.server.tables.mLeases lease := by
  have continued : serverRun start events = serverRun (serverStep (serverRun start before)
      (.datagram datagram lease.InterfaceIndex answers)).2 rest := by
    rw [creates.split]
    unfold serverRun
    rw [List.foldl_append, List.foldl_cons]
  rw [continued]
  exact (server_run_keeps _ rest lease creates.created).1

/-- A lease lies in the subnet reported at the message that created it. -/
theorem creates_usable {start : ServerRun} {events before rest : List ServerEvent} {lease : Lease}
    {datagram : List UInt8} {answers : HostAnswers}
    (creates : Creates start events lease before datagram answers rest) :
    ∃ gateway netmask, Reported answers 0 gateway netmask ∧
      UsableHost (swap32 gateway) (swap32 netmask)
        (swap32 ((serverRun start events).server.tables.mLeases lease)) := by
  have own : lease =
      ⟨lease.InterfaceIndex, ((serverRun start before).receive datagram).chaddr⟩ := by
    rw [creates.sender]
  have free := creates.free
  have created := creates.created
  rw [creates_run creates]
  rcases handle_message_tables (serverRun start before).server
    ((serverRun start before).receive datagram) lease.InterfaceIndex answers with
    same | ⟨-, called⟩
  · exact absurd ((congrArg (fun tables => tables.mLeases lease) same).trans free) created
  · change (serverStep (serverRun start before)
      (.datagram datagram lease.InterfaceIndex answers)).2.server.tables = _ at called
    rw [called] at created ⊢
    rw [own] at free created ⊢
    exact created_usable free created

/-- In every run, the address of an OFFER or an ACK to a client that had a lease is a usable host
of the subnet reported at the message that created the lease, while the gateway and the netmask
of its options are the ones reported now. Where the two agree the reply is coherent. -/
theorem lease_keeps_subnet (excludeInterface : UInt32) (behind : Memory)
    (events : List ServerEvent) (datagram : List UInt8) (interfaceIndex : UInt32)
    (answers : HostAnswers) (state : ServerRun)
    (reached : state = serverRun (.init excludeInterface behind) events)
    (held : state.server.tables.mLeases ⟨interfaceIndex, (state.receive datagram).chaddr⟩ ≠ 0)
    (reply : Message)
    (sent : (serverStep state (.datagram datagram interfaceIndex answers)).1 = some reply)
    (grants : reply.type = dhcpOffer ∨ reply.type = dhcpAck) :
    Reported answers (grantCall reply.type) (readOptions reply).2.gateway
        (readOptions reply).2.subnetMask ∧
      ∃ before creating creatingAnswers rest gateway netmask,
        Creates (.init excludeInterface behind) events
          ⟨interfaceIndex, (state.receive datagram).chaddr⟩ before creating creatingAnswers rest ∧
        Reported creatingAnswers 0 gateway netmask ∧
        UsableHost (swap32 gateway) (swap32 netmask) (swap32 reply.yiaddr) ∧
        ((readOptions reply).2.gateway = gateway → (readOptions reply).2.subnetMask = netmask →
          Coherent reply) := by
  refine ⟨handle_message_options sent grants, ?_⟩
  have lease := (sent_grant_lease sent grants).2.1
  rw [server_step_keeps _ _ held] at lease
  subst reached
  obtain ⟨before, creating, creatingAnswers, rest, creates⟩ :=
    lease_created (.init excludeInterface behind) events _ rfl held
  obtain ⟨gateway, netmask, reported, usable⟩ := creates_usable creates
  rw [lease] at usable
  refine ⟨before, creating, creatingAnswers, rest, gateway, netmask, creates, reported, usable, ?_⟩
  intro sameGateway sameNetmask
  unfold Coherent
  rw [sameGateway, sameNetmask]
  exact usable

/-- A host that was given the address 10.0.0.1/24. -/
def movedAnswers : HostAnswers :=
  { homeAnswers with
    interfaceAddress := fun _ => .ok (swap32 0x0A000001)
    interfaceNetmask := fun _ => .ok (swap32 0xFFFFFF00) }

/-- The first client's DISCOVER, answered with 192.168.0.2. -/
def firstDiscover : ServerEvent :=
  .datagram (Message.discover (fun _ => 2) 1).bytes 1 homeAnswers

/-- The same client discovers again after the interface has moved. -/
def repeatedDiscover : ServerEvent :=
  .datagram (Message.discover (fun _ => 2) 2).bytes 1 movedAnswers

theorem moved_offer :
    (serverStep (serverRun (.init 0 fun _ => 0) [firstDiscover]) repeatedDiscover).1.map
        (fun reply => (reply.type, reply.yiaddr, (readOptions reply).2.gateway,
          (readOptions reply).2.subnetMask)) =
      some (dhcpOffer, swap32 0xC0A80002, swap32 0x0A000001, swap32 0xFFFFFF00) := by
  decide +kernel

theorem moved_lease :
    (serverRun (.init 0 fun _ => 0) [firstDiscover]).server.tables.mLeases ⟨1, fun _ => 2⟩ =
      swap32 0xC0A80002 := by
  decide +kernel

/-- 192.168.0.2 is offered together with the gateway 10.0.0.1/24. -/
theorem lease_keeps_subnet_not_coherent :
    ∃ reply,
      (serverRun (.init 0 fun _ => 0) [firstDiscover]).server.tables.mLeases ⟨1, fun _ => 2⟩ ≠ 0 ∧
      (serverStep (serverRun (.init 0 fun _ => 0) [firstDiscover]) repeatedDiscover).1 =
        some reply ∧
      reply.type = dhcpOffer ∧
      Netmask.Contiguous (swap32 (readOptions reply).2.subnetMask) ∧ ¬ Coherent reply := by
  have offered := moved_offer
  cases sent : (serverStep (serverRun (.init 0 fun _ => 0) [firstDiscover]) repeatedDiscover).1 with
  | none => simp [sent] at offered
  | some reply =>
      rw [sent, Option.map_some, Option.some.injEq, Prod.mk.injEq, Prod.mk.injEq,
        Prod.mk.injEq] at offered
      obtain ⟨type, address, gateway, netmask⟩ := offered
      refine ⟨reply, ?_, rfl, type, ?_, ?_⟩
      · rw [moved_lease]
        decide
      · rw [netmask]
        exact slash_24_contiguous
      · intro coherent
        have below := coherent.below
        rw [address, gateway, netmask] at below
        exact absurd below (by decide)

theorem lease_keeps_subnet_moved :
    ∃ reply,
      (serverStep (serverRun (.init 0 fun _ => 0) [firstDiscover]) repeatedDiscover).1 =
        some reply ∧
      ∃ before creating creatingAnswers rest gateway netmask,
        Creates (.init 0 fun _ => 0) [firstDiscover] ⟨1, fun _ => 2⟩ before creating
          creatingAnswers rest ∧
        Reported creatingAnswers 0 gateway netmask ∧
        UsableHost (swap32 gateway) (swap32 netmask) (swap32 reply.yiaddr) := by
  have offered := moved_offer
  cases sent : (serverStep (serverRun (.init 0 fun _ => 0) [firstDiscover]) repeatedDiscover).1 with
  | none => simp [sent] at offered
  | some reply =>
      rw [sent, Option.map_some, Option.some.injEq, Prod.mk.injEq] at offered
      have client : ((serverRun (.init 0 fun _ => 0) [firstDiscover]).receive
          (Message.discover (fun _ => 2) 2).bytes).chaddr = fun _ => 2 := by
        decide +kernel
      have kept := (lease_keeps_subnet 0 (fun _ => 0) [firstDiscover]
        (Message.discover (fun _ => 2) 2).bytes 1 movedAnswers _ rfl
        (by rw [client, moved_lease]; decide) reply sent (.inl offered.1)).2
      obtain ⟨before, creating, creatingAnswers, rest, gateway, netmask, creates, reported, usable,
        -⟩ := kept
      rw [client] at creates
      exact ⟨reply, rfl, before, creating, creatingAnswers, rest, gateway, netmask, creates,
        reported, usable⟩

end RedroidExt.Dhcp
