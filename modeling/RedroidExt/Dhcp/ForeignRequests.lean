import RedroidExt.Dhcp.Refusals

/-!
# Requests for another server

The server never reads the server identifier of a request, so a request directed
to another server is checked, allocated for and answered like its own. What keeps
it out of the exchange is not serving the interface, or lookups that fail.
-/

namespace RedroidExt.Dhcp

open RedroidExt.Library RedroidExt.Library.ByteMemory

set_option autoImplicit false

/-- A request that names a server, which is not the one that gets it. -/
structure Foreign (message : Message) (answers : HostAnswers) : Prop where
  requests : message.type = dhcpRequest
  directed : message.serverId ≠ inAddrBroadcast
  other : ∀ call, answers.interfaceAddress call ≠ .ok message.serverId

def HostAnswers.addressFails (answers : HostAnswers) (call : Nat) : Prop :=
  ∃ text, answers.interfaceAddress call = .error text

def HostAnswers.netmaskFails (answers : HostAnswers) (call : Nat) : Prop :=
  ∃ text, answers.interfaceNetmask call = .error text

section Message

variable (server : DhcpServer) (message : Message) (interfaceIndex : UInt32)
variable (answers : HostAnswers)

/-- The check of the request finds a lease, no configuration or no free address. -/
inductive NothingAllocated : Prop
  | held (nonzero : server.tables.mLeases ⟨interfaceIndex, message.chaddr⟩ ≠ 0)
  | unconfigured (failed : answers.addressFails 0 ∨ answers.netmaskFails 0)
  | exhausted {interfaceAddress mask : InAddr}
      (addressGiven : answers.interfaceAddress 0 = .ok interfaceAddress)
      (maskGiven : answers.interfaceNetmask 0 = .ok mask)
      (outside : addressInRange (findAddress (swap32 interfaceAddress) (swap32 mask)
        (server.tables.mNextAddressOffsets interfaceIndex)).nextAddress (swap32 interfaceAddress)
        (swap32 mask) = false)

/-- The lookups for the reply fail: an ACK needs more of them than a NAK. -/
inductive NoReply : Prop
  | noAddress (failed : answers.addressFails 1)
  | noGrant (nonzero : server.tables.mLeases ⟨interfaceIndex, message.chaddr⟩ ≠ 0)
      (asked : message.requestedIp = server.tables.mLeases ⟨interfaceIndex, message.chaddr⟩)
      (known : ¬ answers.addressFails 0 ∧ ¬ answers.netmaskFails 0)
      (failed : answers.netmaskFails 1 ∨ answers.addressFails 2)

/-- The condition under which a request has no effect. -/
def StaysOut : Prop :=
  Served server message interfaceIndex →
    NothingAllocated server message interfaceIndex answers ∧
      NoReply server message interfaceIndex answers

variable {server message interfaceIndex answers}

theorem ok_of_not_error {Given : Type} {answer : Except String Given}
    (known : ¬ ∃ text, answer = .error text) : ∃ given, answer = .ok given := by
  cases answer with
  | error text => exact absurd ⟨text, rfl⟩ known
  | ok given => exact ⟨given, rfl⟩

/-! ## The check -/

theorem nothing_allocated_iff :
    ((answers.offerCall interfaceIndex message 0).apply server.tables).mLeases =
        server.tables.mLeases ↔
      NothingAllocated server message interfaceIndex answers := by
  have outcome := get_offer_address_outcome server.tables interfaceIndex message.chaddr
    (answers.interfaceAddress 0) (answers.interfaceNetmask 0)
  change OfferOutcome server.tables interfaceIndex message.chaddr (answers.interfaceAddress 0)
    (answers.interfaceNetmask 0) _
    ((answers.offerCall interfaceIndex message 0).apply server.tables) at outcome
  generalize (answers.offerCall interfaceIndex message 0).apply server.tables = after at outcome ⊢
  generalize (getOfferAddress server.tables interfaceIndex message.chaddr
    (answers.interfaceAddress 0) (answers.interfaceNetmask 0)).1 = result at outcome
  cases outcome with
  | @lookupFailed text failed =>
      apply iff_of_true rfl
      rcases failed with address | netmask
      · exact .unconfigured (.inl ⟨text, address⟩)
      · exact .unconfigured (.inr ⟨text, netmask⟩)
  | held _ _ nonzero => exact iff_of_true rfl (.held nonzero)
  | exhausted addressGiven maskGiven _ searched outside =>
      subst searched
      exact iff_of_true rfl (.exhausted addressGiven maskGiven outside)
  | @fresh interfaceAddress mask found addressGiven maskGiven zero searched inRange =>
      apply iff_of_false
      · intro same
        have entry := congrFun same ⟨interfaceIndex, message.chaddr⟩
        dsimp only at entry
        rw [Function.update_self, zero] at entry
        exact in_range_ne_zero inRange entry
      · intro nothing
        cases nothing with
        | held nonzero => exact nonzero zero
        | unconfigured failed =>
            rcases failed with ⟨text, address⟩ | ⟨text, netmask⟩
            · rw [addressGiven] at address
              contradiction
            · rw [maskGiven] at netmask
              contradiction
        | exhausted address netmask outside =>
            rw [addressGiven] at address
            rw [maskGiven] at netmask
            rw [← Except.ok.inj address, ← Except.ok.inj netmask, ← searched, inRange] at outside
            contradiction

/-- A request that is accepted was looked up with both answers of the system. -/
theorem accepted_known
    (accepted : (isValidDhcpRequest server message interfaceIndex answers).1 = true) :
    ¬ answers.addressFails 0 ∧ ¬ answers.netmaskFails 0 := by
  unfold isValidDhcpRequest getOfferAddress at accepted
  constructor
  · intro ⟨text, failed⟩
    simp [failed] at accepted
  · intro ⟨text, failed⟩
    cases answer : answers.interfaceAddress 0 with
    | error text => simp [answer] at accepted
    | ok given => simp [answer, failed] at accepted

theorem accepted_of_known (known : ¬ answers.addressFails 0 ∧ ¬ answers.netmaskFails 0)
    (nonzero : server.tables.mLeases ⟨interfaceIndex, message.chaddr⟩ ≠ 0)
    (asked : message.requestedIp = server.tables.mLeases ⟨interfaceIndex, message.chaddr⟩) :
    (isValidDhcpRequest server message interfaceIndex answers).1 = true := by
  obtain ⟨address, addressGiven⟩ := ok_of_not_error known.1
  obtain ⟨netmask, netmaskGiven⟩ := ok_of_not_error known.2
  unfold isValidDhcpRequest
  dsimp only
  rw [get_offer_address_held addressGiven netmaskGiven nonzero]
  simp [asked]

/-! ## The reply -/

theorem send_nack_none_iff (calls : Nat) :
    (sendNack server message answers calls).1 = none ↔ answers.addressFails calls := by
  unfold sendNack HostAnswers.addressFails
  cases answers.interfaceAddress calls with
  | error text => simp
  | ok serverAddress => simp

theorem send_grant_none_iff (type : UInt8) (calls : Nat)
    (held : server.tables.mLeases ⟨interfaceIndex, message.chaddr⟩ ≠ 0) :
    (sendGrant server type message interfaceIndex answers calls).1 = none ↔
      answers.addressFails calls ∨ answers.netmaskFails calls ∨
        answers.addressFails (calls + 1) := by
  unfold sendGrant getOfferAddress HostAnswers.addressFails HostAnswers.netmaskFails
  cases answers.interfaceAddress calls with
  | error text => simp
  | ok address =>
      cases answers.interfaceNetmask calls with
      | error text => simp
      | ok netmask =>
          dsimp only
          rw [if_neg held]
          cases answers.interfaceAddress (calls + 1) with
          | error text => simp
          | ok serverAddress => simp

theorem handle_message_request (served : Served server message interfaceIndex)
    (requests : message.type = dhcpRequest) :
    handleMessage server message interfaceIndex answers =
      if (isValidDhcpRequest server message interfaceIndex answers).1 then
        sendAck (isValidDhcpRequest server message interfaceIndex answers).2 message interfaceIndex
          answers 1
      else
        sendNack (isValidDhcpRequest server message interfaceIndex answers).2 message answers 1 := by
  have other : message.type ≠ dhcpDiscover := by
    rw [requests]
    decide
  unfold handleMessage
  rw [if_neg (not_or.mpr ⟨served.known, served.wanted⟩), if_neg (not_not.mpr served.valid),
    if_neg other, if_pos requests]

theorem handle_message_unserved (unserved : ¬ Served server message interfaceIndex) :
    handleMessage server message interfaceIndex answers = (none, server) := by
  have handled := handle_message_handled server message interfaceIndex answers
  generalize handleMessage server message interfaceIndex answers = result at handled ⊢
  rcases result with ⟨reply, after⟩
  cases handled with
  | dropped => rfl
  | discover served _ => exact absurd served unserved
  | acknowledge served _ _ => exact absurd served unserved
  | refuse served _ _ => exact absurd served unserved

/-- Every reply has the transaction id of the message it answers. -/
theorem handle_message_xid {reply : Message}
    (sent : (handleMessage server message interfaceIndex answers).1 = some reply) :
    reply.xid = message.xid := by
  have handled := handle_message_handled server message interfaceIndex answers
  generalize handleMessage server message interfaceIndex answers = result at handled sent
  rcases result with ⟨answer, after⟩
  cases handled with
  | dropped => cases sent
  | discover _ _ =>
      exact (granted_fields (send_grant_reply server message interfaceIndex answers sent).2).xid
  | @acknowledge checked _ _ _ =>
      exact (granted_fields (send_grant_reply checked message interfaceIndex answers sent).2).xid
  | @refuse checked _ _ _ =>
      obtain ⟨serverAddress, transactionId, built⟩ := send_nack_reply checked message answers sent
      rw [built]
      exact Message.nack_xid message serverAddress transactionId

theorem request_tables (served : Served server message interfaceIndex)
    (requests : message.type = dhcpRequest) :
    (handleMessage server message interfaceIndex answers).2.tables =
      (answers.offerCall interfaceIndex message 0).apply server.tables := by
  have checked := (is_valid_dhcp_request_server server message interfaceIndex answers).1
  rw [handle_message_request served requests]
  by_cases accepted : (isValidDhcpRequest server message interfaceIndex answers).1 = true
  · rw [if_pos accepted]
    exact ((send_grant_server _ message interfaceIndex answers dhcpAck 1).1.trans
      (accepted_tables server message interfaceIndex answers accepted)).trans checked
  · rw [if_neg accepted]
    exact (send_nack_server _ message answers 1).1.trans checked

theorem no_reply_iff (served : Served server message interfaceIndex)
    (requests : message.type = dhcpRequest)
    (nothing : NothingAllocated server message interfaceIndex answers) :
    (handleMessage server message interfaceIndex answers).1 = none ↔
      NoReply server message interfaceIndex answers := by
  have leases := nothing_allocated_iff.mpr nothing
  rw [← (is_valid_dhcp_request_server server message interfaceIndex answers).1] at leases
  rw [handle_message_request served requests]
  by_cases accepted : (isValidDhcpRequest server message interfaceIndex answers).1 = true
  · obtain ⟨lease, nonzero⟩ :=
      is_valid_dhcp_request_accepts server message interfaceIndex answers accepted
    have held : server.tables.mLeases ⟨interfaceIndex, message.chaddr⟩ = message.requestedIp := by
      rw [← leases]
      exact lease
    rw [if_pos accepted]
    unfold sendAck
    rw [send_grant_none_iff dhcpAck 1 (by rw [lease]; exact nonzero)]
    constructor
    · intro failed
      rcases failed with address | later
      · exact .noAddress address
      · exact .noGrant (by rw [held]; exact nonzero) held.symm (accepted_known accepted) later
    · intro none
      cases none with
      | noAddress failed => exact .inl failed
      | noGrant _ _ _ failed => exact .inr failed
  · rw [if_neg accepted, send_nack_none_iff]
    constructor
    · exact .noAddress
    · intro none
      cases none with
      | noAddress failed => exact failed
      | noGrant nonzero asked known _ =>
          exact absurd (accepted_of_known known nonzero asked) accepted

/-- Exactly under the condition a request is not answered and gives no lease. -/
theorem stays_out_iff (requests : message.type = dhcpRequest) :
    ((handleMessage server message interfaceIndex answers).1 = none ∧
        (handleMessage server message interfaceIndex answers).2.tables.mLeases =
          server.tables.mLeases) ↔
      StaysOut server message interfaceIndex answers := by
  unfold StaysOut
  by_cases served : Served server message interfaceIndex
  · rw [request_tables served requests, nothing_allocated_iff, and_comm]
    constructor
    · intro ⟨nothing, silent⟩ _
      exact ⟨nothing, (no_reply_iff served requests nothing).mp silent⟩
    · intro condition
      obtain ⟨nothing, none⟩ := condition served
      exact ⟨nothing, (no_reply_iff served requests nothing).mpr none⟩
  · rw [handle_message_unserved served]
    exact iff_of_true ⟨rfl, rfl⟩ fun serves => absurd serves served

end Message

end RedroidExt.Dhcp
