import RedroidExt.Dhcp.Halted
import RedroidExt.Dhcp.HeardReplies
import RedroidExt.Dhcp.RejectedAck
import RedroidExt.Dhcp.Renewal

/-!
# From the server's host to the client's

What the server's interface and its DNS properties say when it acknowledges a
request, and what the client's interface and its properties say behind the ACK.
-/

namespace RedroidExt.Dhcp

open RedroidExt.Library RedroidExt.Library.ByteMemory

set_option autoImplicit false

/-- What an ACK of the server says about the network, the DNS servers in order. -/
structure NetworkConfig where
  address : InAddr
  netmask : InAddr
  gateway : InAddr
  server : Fin 4 → InAddr

/-- What an ACK that is taken leaves of the host before it. -/
structure ConfiguredHost (name : String) (options : UInt32) (config : NetworkConfig)
    (before after : Host) : Prop where
  address : after.address = config.address
  prefixLength : after.prefixLength = Host.popcount config.netmask
  broadcast : after.broadcast = Host.broadcastFromNetmask config.address config.netmask
  isUp : after.isUp = true
  mtu : after.mtu = before.mtu
  gateway : after.gateway = if options &&& noGateway = 0 then config.gateway else before.gateway
  gatewayProperty : after.property ("vendor.net." ++ name ++ ".gw") = addrToStr config.gateway
  dnsProperty : ∀ index : Fin 4,
    after.property ("vendor.net." ++ name ++ ".dns" ++ toString (index.val + 1)) =
      if config.server index ≠ 0 then addrToStr (config.server index) else ""
  otherProperties : ∀ property, property ≠ "vendor.net." ++ name ++ ".gw" →
    (∀ index : Fin 4, property ≠ "vendor.net." ++ name ++ ".dns" ++ toString (index.val + 1)) →
    after.property property = before.property property

namespace DhcpClient

section Accepted

variable {client : DhcpClient} {msg : Message} {answers : KernelAnswers}

theorem configure_dhcp_accepts (accepts : client.accepts msg answers = true) (t1Now t2Now : Nat) :
    client.configureDhcp msg answers t1Now t2Now =
      (true, client.withAck (readAck msg).2 t1Now t2Now
        (configureGateway
          (configureInterface client.host client.mInterface.mInterfaceName (readAck msg).2
            answers).2
          client.mOptions (readAck msg).2 answers).2) := by
  have configures := (of_decide_eq_true accepts).1
  have outcome := configure_dhcp_configured client msg answers t1Now t2Now
  generalize client.configureDhcp msg answers t1Now t2Now = result at outcome ⊢
  rcases result with ⟨succeeded, after⟩
  dsimp only at outcome
  cases outcome with
  | small short => exact absurd short (of_decide_eq_true configures).1
  | unread failed => exact nomatch failed.symm.trans (configures_read configures).1
  | unconfigured read failed => exact nomatch failed.symm.trans (configures_read configures).2
  | configured configures result => rw [← result, accepts]

theorem handle_ack (state : AwaitsAck client.mState) (acknowledges : msg.type = dhcpAck)
    (accepts : client.accepts msg answers = true) (t1Now t2Now : Nat) :
    (client.handleDhcpMessage msg answers t1Now t2Now).2 =
      (client.withAck (readAck msg).2 t1Now t2Now
        (configureGateway
          (configureInterface client.host client.mInterface.mInterfaceName (readAck msg).2
            answers).2
          client.mOptions (readAck msg).2 answers).2).setNextState .bound := by
  have handled : client.handleDhcpMessage msg answers t1Now t2Now =
      client.handleReply msg answers t1Now t2Now := by
    unfold handleDhcpMessage
    cases known : client.mState with
    | init => exact nomatch known ▸ state
    | selecting => exact nomatch known ▸ state
    | bound => exact nomatch known ▸ state
    | requesting => rfl
    | renewing => rfl
    | rebinding => rfl
  rw [handled]
  unfold handleReply
  rw [if_pos acknowledges, configure_dhcp_accepts accepts]
  rfl

end Accepted

def networkConfig (info : DhcpInfo) : NetworkConfig where
  address := info.offeredAddress
  netmask := info.subnetMask
  gateway := info.gateway
  server := info.dns

/-- The host behind a configuration of which every call succeeds. -/
theorem configured_host {answers : KernelAnswers} (succeed : answers.AllSucceed) (host : Host)
    (name : String) (options : UInt32) (info : DhcpInfo) (noMtu : info.mtu = 0) :
    ConfiguredHost name options (networkConfig info) host
      (configureGateway (configureInterface host name info answers).2 options info answers).2 := by
  have up : BringsUp host answers :=
    ⟨succeed.interface.flagsRead, .inr succeed.interface.flagsWritten⟩
  have written : (info.properties name).filter (fun pair => answers.propertyWritten pair.1) =
      info.properties name :=
    List.filter_eq_self.mpr fun pair _ => succeed.propertyWritten pair.1
  have distinct := property_names_distinct info name
  have interface : (configureInterface host name info answers).2 =
      { host with
        address := info.offeredAddress
        prefixLength := Host.popcount info.subnetMask
        broadcast := Host.broadcastFromNetmask info.offeredAddress info.subnetMask
        isUp := true
        property := assignAll host.property (info.properties name) } := by
    rw [configure_interface_up up]
    unfold addressedHost Host.setAddress
    rw [succeed.interface.address, written, if_neg fun wanted => wanted.1 noMtu]
    rfl
  have routed : (configureGateway (configureInterface host name info answers).2 options info
      answers).2 =
      { (configureInterface host name info answers).2 with
        gateway := if options &&& noGateway = 0 then info.gateway else host.gateway } := by
    rw [interface]
    unfold configureGateway Host.setDefaultGateway
    rw [if_neg (not_not.mpr succeed.gatewayWritten)]
    split_ifs
    · rfl
    · rfl
  rw [routed, interface]
  constructor
  · rfl
  · rfl
  · rfl
  · rfl
  · rfl
  · rfl
  · exact Assignments.assign_member host.property distinct List.mem_cons_self
  · intro index
    have member : ("vendor.net." ++ name ++ ".dns" ++ toString (index.val + 1),
        if info.dns index ≠ 0 then addrToStr (info.dns index) else "") ∈ info.properties name :=
      List.mem_cons_of_mem _ (List.mem_map.mpr ⟨index, List.mem_finRange index, rfl⟩)
    exact Assignments.assign_member host.property distinct member
  · intro property notGateway notDns
    apply Assignments.assign_other
    intro member
    rcases List.mem_map.mp member with ⟨pair, present, rfl⟩
    rcases List.mem_cons.mp present with same | later
    · rw [same] at notGateway
      exact notGateway rfl
    · rcases List.mem_map.mp later with ⟨index, -, same⟩
      rw [← same] at notDns
      exact notDns index rfl

end DhcpClient

/-! ## Both hosts -/

/-- A lease with what a server's host says; only the first four DNS servers are read. -/
def HostAnswers.networkConfig (answers : HostAnswers) (address netmask gateway : InAddr) :
    NetworkConfig where
  address := address
  netmask := netmask
  gateway := gateway
  server := fun index => (updateDnsServers answers).getD index.val 0

theorem offer_config {tables after : LeaseTables} {interfaceIndex : UInt32}
    {macAddress : MacAddress} {interfaceAnswer netmaskAnswer : Except String InAddr}
    {result : Except String OfferAddress} {offer : OfferAddress}
    (outcome : OfferOutcome tables interfaceIndex macAddress interfaceAnswer netmaskAnswer
      result after) (succeeded : result = .ok offer) :
    interfaceAnswer = .ok offer.gateway ∧ netmaskAnswer = .ok offer.netmask := by
  cases outcome with
  | lookupFailed failed => cases succeeded
  | held addressGiven maskGiven nonzero =>
      cases succeeded
      exact ⟨addressGiven, maskGiven⟩
  | fresh addressGiven maskGiven zero searched inRange =>
      cases succeeded
      exact ⟨addressGiven, maskGiven⟩
  | exhausted addressGiven maskGiven zero searched outside => cases succeeded

/-- An ACK carries the answers that the second lookup of its message got. -/
theorem handle_message_ack {server : DhcpServer} {message : Message} {interfaceIndex : UInt32}
    {answers : HostAnswers} {reply : Message}
    (sent : (handleMessage server message interfaceIndex answers).1 = some reply)
    (acknowledges : reply.type = dhcpAck) :
    ∃ serverAddress address gateway netmask transactionId,
      answers.interfaceAddress 1 = .ok gateway ∧ answers.interfaceNetmask 1 = .ok netmask ∧
      reply = message.ack serverAddress address netmask gateway answers.dnsServers.val
        transactionId := by
  have handled := handle_message_handled server message interfaceIndex answers
  generalize handleMessage server message interfaceIndex answers = result at handled sent
  rcases result with ⟨answer, after⟩
  cases handled with
  | dropped => cases sent
  | discover served discovers =>
      rcases send_grant_sent server message interfaceIndex answers sent with
        ⟨offer, serverAddress, result, built⟩
      rw [built, Message.grant_type] at acknowledges
      exact absurd acknowledges (by decide)
  | @refuse checked served requests denied =>
      rcases send_nack_reply checked message answers sent with ⟨serverAddress, id, built⟩
      rw [built, Message.nack_type] at acknowledges
      exact absurd acknowledges (by decide)
  | @acknowledge checked served requests accepted =>
      rcases send_grant_sent checked message interfaceIndex answers sent with
        ⟨offer, serverAddress, result, built⟩
      have outcome := get_offer_address_outcome checked.tables interfaceIndex message.chaddr
        (answers.interfaceAddress 1) (answers.interfaceNetmask 1)
      rcases offer_config outcome result with ⟨gateway, netmask⟩
      exact ⟨serverAddress, offer.address, offer.gateway, offer.netmask, _, gateway, netmask,
        built⟩

theorem raw_header_append (port : UInt16) (header : RawHeader) (payload : List UInt8) :
    rawHeaderValid port (header.val ++ payload) = rawHeaderValid port header.val := by
  have sized := header.property
  unfold rawHeaderSize at sized
  unfold rawHeaderValid
  rw [List.getD_append _ _ _ _ (by omega), List.getD_append _ _ _ _ (by omega),
    List.getD_append _ _ _ _ (by omega), List.getD_append _ _ _ _ (by omega)]

namespace ClientRun

/-- What a waiting client sent last is a message of its own. -/
def AsksItself (run : ClientRun) : Prop :=
  run.phase = .evaluating ∧ (run.client.mState = .init ∨ run.client.mState = .selecting) ∨
    run.client.mLastMsg.FromClient run.client.mInterface.mMacAddress

theorem asks_itself_step {run after : ClientRun} {input : ClientInput} {sent : Option Message}
    (before : run.AsksItself) (advanced : Advanced run input sent after) : after.AsksItself := by
  cases advanced with
  | evaluated ready outcome =>
      cases outcome with
      | sends sent =>
          right
          cases sent with
          | discover state => exact Message.discover_from_client _ _
          | request state more unexpired => exact Message.request_from_client _ _ _ _
      | leaves moved =>
          rcases before with ⟨-, unsent⟩ | own
          · left
            cases moved with
            | start state => exact ⟨rfl, .inr rfl⟩
            | giveUp state exceeded => exact ⟨rfl, .inl rfl⟩
            | renew state expired => simp [state] at unsent
            | rebind state expired => simp [state] at unsent
          · exact .inr own
      | waits state unexpired =>
          rcases before with ⟨-, unsent⟩ | own
          · simp [state] at unsent
          · exact .inr own
  | timedOut waiting nothing =>
      rcases before with ⟨ready, -⟩ | own
      · exact nomatch ready.symm.trans waiting
      · exact .inr own
  | again waiting nothing woken =>
      rcases before with ⟨ready, -⟩ | own
      · exact nomatch ready.symm.trans waiting
      · exact .inr own
  | @received timeout waiting msg answers reaction client got outcome =>
      rcases before with ⟨ready, -⟩ | own
      · exact nomatch ready.symm.trans waiting
      · right
        rw [(run.record_same _ _ _ _).1]
        cases outcome with
        | ignored noOffer noAnswer => exact own
        | offer state offers => exact own
        | accepted state acknowledges accepts read host address => exact own
        | nak state refuses => exact own
        | turnedDown state acknowledges refuses configured =>
            have same := DhcpClient.configured_same_protocol configured
            dsimp only
            rw [same.mLastMsg, same.mInterface]
            exact own

theorem asks_itself_reachable {run : ClientRun} (reached : clientSystem.Reachable run) :
    run.AsksItself := by
  refine TransitionSystem.reachable_invariant AsksItself ?_ ?_ reached
  · exact fun state started => .inl ⟨started.phase, .inl started.mState⟩
  · intro state input after before taken
    have advanced := step_advanced state input
    rw [show (state.step input).2 = after from taken] at advanced
    exact asks_itself_step before advanced

theorem awaits_from_client {run : ClientRun} (reached : clientSystem.Reachable run)
    (awaits : DhcpClient.AwaitsAck run.client.mState) :
    run.client.mLastMsg.FromClient run.client.mInterface.mMacAddress := by
  rcases asks_itself_reachable reached with ⟨-, init | selecting⟩ | own
  · exact nomatch init ▸ awaits
  · exact nomatch selecting ▸ awaits
  · exact own

/-- A client that gets the ACK to its request holds, behind it, the lease in the server's tables,
and its host says of the network what the server's host said. -/
theorem acknowledged_host (run : ClientRun) (reached : clientSystem.Reachable run)
    (awaits : DhcpClient.AwaitsAck run.client.mState) (timeout : UInt32)
    (waiting : run.phase = .polling timeout) (state : ServerRun) (interfaceIndex : UInt32)
    (answers : HostAnswers) (reply : Message)
    (sent : (serverStep state (.datagram run.client.mLastMsg.bytes interfaceIndex answers)).1 =
      some reply) (acknowledges : reply.type = dhcpAck) (input : ClientInput) (header : RawHeader)
    (accepted : rawHeaderValid portBootpClient header.val = true) (behind : Memory)
    (kernel : KernelAnswers) (succeed : kernel.AllSucceed) :
    (run.step (input.hearing header reply behind kernel)).2.client.mState = .bound ∧
      ∃ gateway netmask, answers.interfaceAddress 1 = .ok gateway ∧
        answers.interfaceNetmask 1 = .ok netmask ∧
        ConfiguredHost run.client.mInterface.mInterfaceName run.client.mOptions
          (answers.networkConfig
            ((serverStep state
              (.datagram run.client.mLastMsg.bytes interfaceIndex answers)).2.server.tables.mLeases
                ⟨interfaceIndex, run.client.mInterface.mMacAddress⟩) netmask gateway)
          run.client.host
          (run.step (input.hearing header reply behind kernel)).2.client.host := by
  have sender := awaits_from_client reached awaits
  have same := received_sent_agrees state.message run.client.mLastMsg sender.fits
  have large := Message.is_valid_size sender.valid
  have headers := Message.same_header_agrees (Message.agrees_symm same) large
  rcases handle_message_ack sent acknowledges with
    ⟨serverAddress, address, gateway, netmask, transactionId, gatewayGiven, netmaskGiven, built⟩
  rcases sent_grant_lease sent (.inr acknowledges) with ⟨-, lease, -⟩
  rw [show (state.receive run.client.mLastMsg.bytes).chaddr =
    run.client.mInterface.mMacAddress from headers.chaddr.symm.trans sender.chaddr] at lease
  have granted : GrantedAs dhcpAck (state.receive run.client.mLastMsg.bytes) address reply := by
    rw [built]
    exact .built serverAddress netmask gateway answers.dnsServers transactionId
  have fields := granted_fields granted
  have got := hears_reply waiting fields.sized.2 (granted_valid granted)
    (fields.xid.trans headers.xid.symm) input
    (fun payload => (raw_header_append _ header payload).trans accepted) behind kernel
  have arrived := received_sent_agrees (Message.init behind) reply fields.sized.2
  generalize receiveFromInterface (Message.init behind) reply.bytes = msg at got arrived
  have type := (Message.type_agrees arrived).trans acknowledges
  have sized := fields.sized.1
  rw [← arrived.1] at sized
  rw [built] at arrived
  have read := ack_read_agrees _ serverAddress address netmask gateway answers.dnsServers
    transactionId arrived
  rw [ack_read] at read
  have accepts : run.client.accepts msg _ = true :=
    DhcpClient.accepts_of_read succeed sized (congrArg Prod.fst read)
  have configured := DhcpClient.configured_host succeed run.client.host
    run.client.mInterface.mInterfaceName run.client.mOptions (DhcpClient.readAck msg).2
    (by rw [read]; rfl)
  rw [step_handled got, DhcpClient.handle_ack awaits type accepts]
  refine ⟨rfl, gateway, netmask, gatewayGiven, netmaskGiven, ?_⟩
  rw [lease, fields.yiaddr]
  rw [read] at configured ⊢
  exact configured

/-- A client that was offered 192.168.0.2 and has just asked for it. -/
def requestingInputs : List ClientInput :=
  [stepInput 0 .timeout, stepInput 0 .timeout, arrival homeOffer, stepInput 0 .timeout]

/-- The host at home with one DNS server. -/
def namedAnswers : HostAnswers :=
  { homeAnswers with
    property := fun name => if name = "net.eth0.dns1" then "8.8.8.8" else ""
    inetPton := fun text => if text = "8.8.8.8" then some (swap32 0x08080808) else none }

/-- A server that just started acknowledges the request. -/
theorem acknowledged_host_home :
    ∃ before after : ClientRun, before.client.mState = .requesting ∧
      after.client.mState = .bound ∧ after.client.host.prefixLength = 24 ∧
      ∃ address netmask gateway,
        ConfiguredHost "eth0" 0 (namedAnswers.networkConfig address netmask gateway)
          before.client.host after.client.host := by
  have reached := TransitionSystem.reachable_of_check clientSystem next (fun _ _ => true)
    requestingInputs (fun _ _ _ _ => rfl) (.start (started_run_started fun _ => 2)) rfl
  generalize computed : requestingInputs.foldl next (startedRun fun _ => 2) = run at reached
  have facts : run.client.mState = .requesting ∧
      (run.phase = .polling 4000 ∧ run.client.mInterface.mInterfaceName = "eth0" ∧
        run.client.mOptions = 0) ∧
      (serverStep (.init 0 fun _ => 0)
        (.datagram run.client.mLastMsg.bytes 1 namedAnswers)).1.map Message.type =
          some dhcpAck := by
    rw [← computed]
    decide +kernel
  rcases facts with ⟨requesting, ⟨waiting, name, options⟩, acknowledged⟩
  rcases Option.map_eq_some_iff.mp acknowledged with ⟨reply, sent, acknowledges⟩
  rcases acknowledged_host run reached (requesting ▸ .requesting) 4000 waiting
    (.init 0 fun _ => 0) 1 namedAnswers reply sent acknowledges (stepInput 0 .timeout)
    ⟨udpHeader portBootpClient, rfl⟩ (by decide) (fun _ => 0) readyAnswers
    ready_answers_all_succeed with ⟨bound, gateway, netmask, gatewayGiven, netmaskGiven, host⟩
  rw [name, options] at host
  refine ⟨run, _, requesting, bound, ?_, _, _, _, host⟩
  rw [host.prefixLength]
  cases netmaskGiven
  change Host.popcount (swap32 0xFFFFFF00) = 24
  decide

end ClientRun

end RedroidExt.Dhcp
