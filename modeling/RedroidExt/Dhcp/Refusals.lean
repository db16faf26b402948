import RedroidExt.Dhcp.ServerRuns

/-!
# What a refused request costs

`isValidDhcpRequest` asks `getOfferAddress`, which allocates for a client it has not
seen. A message that is refused or left without an answer amounts to at most one
call: it can cost one address, the client's own, and nothing once the client has it.
-/

namespace RedroidExt.Dhcp

open RedroidExt.Library RedroidExt.Library.ByteMemory

set_option autoImplicit false

section Outcome

variable {tables after : LeaseTables} {interfaceIndex : UInt32} {macAddress : MacAddress}
variable {interfaceAnswer netmaskAnswer : Except String InAddr}
variable {result : Except String OfferAddress}

/-- A call writes no entry but its own key's and its own interface's. -/
theorem offer_frame
    (outcome : OfferOutcome tables interfaceIndex macAddress interfaceAnswer netmaskAnswer
      result after) :
    (∀ lease, lease ≠ ⟨interfaceIndex, macAddress⟩ →
        after.mLeases lease = tables.mLeases lease) ∧
      ∀ other, other ≠ interfaceIndex →
        after.mNextAddressOffsets other = tables.mNextAddressOffsets other := by
  cases outcome with
  | lookupFailed _ => exact ⟨fun _ _ => rfl, fun _ _ => rfl⟩
  | held _ _ _ => exact ⟨fun _ _ => rfl, fun _ _ => rfl⟩
  | fresh _ _ _ _ _ =>
      exact ⟨fun _ different => Function.update_of_ne different _ _,
        fun _ different => Function.update_of_ne different _ _⟩
  | exhausted _ _ _ _ _ =>
      exact ⟨fun _ _ => rfl, fun _ different => Function.update_of_ne different _ _⟩

theorem offer_unchanged
    (outcome : OfferOutcome tables interfaceIndex macAddress interfaceAnswer netmaskAnswer
      result after)
    (settled : tables.mLeases ⟨interfaceIndex, macAddress⟩ ≠ 0 ∨
      (∃ text, interfaceAnswer = .error text) ∨ ∃ text, netmaskAnswer = .error text) :
    after = tables := by
  have unsettled : ∀ {interfaceAddress mask : InAddr}, interfaceAnswer = .ok interfaceAddress →
      netmaskAnswer = .ok mask → tables.mLeases ⟨interfaceIndex, macAddress⟩ = 0 → False := by
    intro interfaceAddress mask addressGiven maskGiven zero
    rcases settled with held | ⟨text, failed⟩ | ⟨text, failed⟩
    · exact held zero
    · rw [addressGiven] at failed
      cases failed
    · rw [maskGiven] at failed
      cases failed
  cases outcome with
  | lookupFailed _ => rfl
  | held _ _ _ => rfl
  | fresh addressGiven maskGiven zero _ _ => exact (unsettled addressGiven maskGiven zero).elim
  | exhausted addressGiven maskGiven zero _ _ => exact (unsettled addressGiven maskGiven zero).elim

end Outcome

section Refusal

variable (server : DhcpServer) (message : Message) (interfaceIndex : UInt32)
variable (answers : HostAnswers)

/-- An accepted request has a lease, so the second call of `getOfferAddress` changes nothing. -/
theorem accepted_tables
    (accepted : (isValidDhcpRequest server message interfaceIndex answers).1 = true) :
    (answers.offerCall interfaceIndex message 1).apply
        (isValidDhcpRequest server message interfaceIndex answers).2.tables =
      (isValidDhcpRequest server message interfaceIndex answers).2.tables := by
  obtain ⟨lease, nonzero⟩ :=
    is_valid_dhcp_request_accepts server message interfaceIndex answers accepted
  have held : (isValidDhcpRequest server message interfaceIndex answers).2.tables.mLeases
      ⟨interfaceIndex, message.chaddr⟩ ≠ 0 := by
    rw [lease]
    exact nonzero
  exact offer_unchanged (get_offer_address_outcome _ _ _ _ _) (.inl held)

/-- Handling a message is no call of `getOfferAddress` or, as far as the tables go, one. -/
theorem handle_message_tables :
    (handleMessage server message interfaceIndex answers).2.tables = server.tables ∨
      (Served server message interfaceIndex ∧
        (message.type = dhcpDiscover ∨ message.type = dhcpRequest)) ∧
      (handleMessage server message interfaceIndex answers).2.tables =
        (answers.offerCall interfaceIndex message 0).apply server.tables := by
  have handled := handle_message_handled server message interfaceIndex answers
  have checkedTables := (is_valid_dhcp_request_server server message interfaceIndex answers).1
  have acceptedTables := accepted_tables server message interfaceIndex answers
  generalize handleMessage server message interfaceIndex answers = handling at handled ⊢
  rcases handling with ⟨reply, after⟩
  cases handled with
  | dropped => exact .inl rfl
  | discover served discovers =>
      right
      exact ⟨⟨served, .inl discovers⟩,
        (send_grant_server server message interfaceIndex answers dhcpOffer 0).1⟩
  | @acknowledge checked served requests accepted =>
      right
      rw [accepted] at checkedTables acceptedTables
      refine ⟨⟨served, .inr requests⟩, ?_⟩
      exact (send_grant_server checked message interfaceIndex answers dhcpAck 1).1.trans
        ((acceptedTables rfl).trans checkedTables)
  | @refuse checked served requests denied =>
      right
      rw [denied] at checkedTables
      exact ⟨⟨served, .inr requests⟩,
        (send_nack_server checked message answers 1).1.trans checkedTables⟩

/-- The most that a message can cost. -/
structure RefusalCost (after : LeaseTables) : Prop where
  single : after = server.tables ∨
    after = (answers.offerCall interfaceIndex message 0).apply server.tables
  otherClients : ∀ lease, lease ≠ ⟨interfaceIndex, message.chaddr⟩ →
    after.mLeases lease = server.tables.mLeases lease
  otherInterfaces : ∀ other, other ≠ interfaceIndex →
    after.mNextAddressOffsets other = server.tables.mNextAddressOffsets other
  known : server.tables.mLeases ⟨interfaceIndex, message.chaddr⟩ ≠ 0 → after = server.tables
  unserved : ¬ Served server message interfaceIndex → after = server.tables
  otherType : message.type ≠ dhcpDiscover → message.type ≠ dhcpRequest → after = server.tables
  unknownInterface : (∃ text, answers.interfaceAddress 0 = .error text) ∨
    (∃ text, answers.interfaceNetmask 0 = .error text) → after = server.tables

theorem handle_message_cost :
    RefusalCost server message interfaceIndex answers
      (handleMessage server message interfaceIndex answers).2.tables := by
  rcases handle_message_tables server message interfaceIndex answers with
    same | ⟨⟨served, type⟩, called⟩
  · rw [same]
    exact ⟨.inl rfl, fun _ _ => rfl, fun _ _ => rfl, fun _ => rfl, fun _ => rfl, fun _ _ => rfl,
      fun _ => rfl⟩
  · rw [called]
    have outcome := get_offer_address_outcome server.tables interfaceIndex message.chaddr
      (answers.interfaceAddress 0) (answers.interfaceNetmask 0)
    obtain ⟨otherClients, otherInterfaces⟩ := offer_frame outcome
    constructor
    · exact .inr rfl
    · exact otherClients
    · exact otherInterfaces
    · exact fun held => offer_unchanged outcome (.inl held)
    · exact fun unserved => absurd served unserved
    · intro noDiscover noRequest
      rcases type with discovers | requests
      · exact absurd discovers noDiscover
      · exact absurd requests noRequest
    · exact fun failed => offer_unchanged outcome (.inr failed)

end Refusal

/-! ## Runs -/

/-- The message of a run that a lease comes from: one of the lease's own client. -/
structure Creates (start : ServerRun) (events : List ServerEvent) (lease : Lease)
    (before : List ServerEvent) (datagram : List UInt8) (answers : HostAnswers)
    (rest : List ServerEvent) : Prop where
  split : events = before ++ .datagram datagram lease.InterfaceIndex answers :: rest
  sender : ((serverRun start before).receive datagram).chaddr = lease.MacAddress
  free : (serverRun start before).server.tables.mLeases lease = 0
  created : (serverStep (serverRun start before)
    (.datagram datagram lease.InterfaceIndex answers)).2.server.tables.mLeases lease ≠ 0

/-- Only a message of the client itself gives it a lease. -/
theorem lease_sender {state : ServerRun} {event : ServerEvent} {lease : Lease}
    (free : state.server.tables.mLeases lease = 0)
    (held : (serverStep state event).2.server.tables.mLeases lease ≠ 0) :
    ∃ datagram answers, event = .datagram datagram lease.InterfaceIndex answers ∧
      (state.receive datagram).chaddr = lease.MacAddress := by
  cases event with
  | idle => exact absurd free held
  | datagram bytes interfaceIndex answers =>
      have cost := handle_message_cost state.server (state.receive bytes) interfaceIndex answers
      have own : lease = ⟨interfaceIndex, (state.receive bytes).chaddr⟩ := by
        by_contra different
        exact held ((cost.otherClients lease different).trans free)
      subst own
      exact ⟨bytes, answers, rfl, rfl⟩

theorem lease_created (start : ServerRun) (events : List ServerEvent) (lease : Lease)
    (free : start.server.tables.mLeases lease = 0)
    (held : (serverRun start events).server.tables.mLeases lease ≠ 0) :
    ∃ before datagram answers rest, Creates start events lease before datagram answers rest := by
  induction events generalizing start with
  | nil => exact absurd free held
  | cons event rest ih =>
      by_cases later : (serverStep start event).2.server.tables.mLeases lease = 0
      · obtain ⟨before, datagram, answers, tail, creates⟩ := ih (serverStep start event).2 later held
        refine ⟨event :: before, datagram, answers, tail, ?_, creates.sender, creates.free,
          creates.created⟩
        rw [creates.split]
        rfl
      · obtain ⟨datagram, answers, same, sender⟩ := lease_sender free later
        subst same
        exact ⟨[], datagram, answers, rest, rfl, sender, free, later⟩

/-- Whether a message is refused or not, it costs at most one call of `getOfferAddress`, and
nothing when its client has a lease. Over a run the entry of a client changes at most once, from
zero and at a message of that client: requests that are refused use up one address a client. -/
theorem refused_request_cost :
    (∀ (server : DhcpServer) (message : Message) (interfaceIndex : UInt32) (answers : HostAnswers),
      RefusalCost server message interfaceIndex answers
        (handleMessage server message interfaceIndex answers).2.tables) ∧
    ∀ (start : ServerRun) (events : List ServerEvent) (lease : Lease),
      (serverRun start events).server.tables.mLeases lease ≠ start.server.tables.mLeases lease →
      start.server.tables.mLeases lease = 0 ∧
        ∃ before datagram answers rest,
          Creates start events lease before datagram answers rest := by
  refine ⟨handle_message_cost, ?_⟩
  intro start events lease changed
  have free : start.server.tables.mLeases lease = 0 := by
    by_contra held
    exact changed (server_run_keeps start events lease held).1
  refine ⟨free, lease_created start events lease free ?_⟩
  rw [← free]
  exact changed

/-- A REQUEST for 192.168.0.77 by a client that a fresh server does not know. -/
def strangeRequest : List UInt8 :=
  (Message.request (fun _ => 2) (swap32 0xC0A8004D) (swap32 0xC0A80001) 1).bytes

theorem strange_request_lease :
    (serverRun (.init 0 fun _ => 0)
      [.datagram strangeRequest 1 homeAnswers]).server.tables.mLeases ⟨1, fun _ => 2⟩ =
        swap32 0xC0A80002 := by
  decide +kernel

theorem refused_request_cost_stranger :
    ∃ before datagram answers rest,
      Creates (.init 0 fun _ => 0) [.datagram strangeRequest 1 homeAnswers] ⟨1, fun _ => 2⟩
        before datagram answers rest :=
  (refused_request_cost.2 (.init 0 fun _ => 0) [.datagram strangeRequest 1 homeAnswers]
    ⟨1, fun _ => 2⟩ (by rw [strange_request_lease]; decide +kernel)).2

/-- The request is answered with a NAK and leaves the client with a lease of 192.168.0.2. -/
theorem refused_request_allocates :
    (serverStep (.init 0 fun _ => 0) (.datagram strangeRequest 1 homeAnswers)).1.map Message.type =
        some dhcpNak ∧
      (serverStep (.init 0 fun _ => 0)
        (.datagram strangeRequest 1 homeAnswers)).2.server.tables.mLeases ⟨1, fun _ => 2⟩ ≠
        (ServerRun.init 0 fun _ => 0).server.tables.mLeases ⟨1, fun _ => 2⟩ := by
  decide +kernel

end RedroidExt.Dhcp
