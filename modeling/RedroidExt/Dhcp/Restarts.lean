import RedroidExt.Dhcp.Exclusivity
import RedroidExt.Dhcp.Recovery
import RedroidExt.Dhcp.Refusals
import Mathlib.Data.Fintype.Card

/-!
# Restarts of the server

The server keeps its leases in memory, and its service is started again whenever it has
ended. The messages that were sent stay in flight, and the clients do not notice.
-/

namespace RedroidExt.Dhcp

open RedroidExt.Library RedroidExt.Library.ByteMemory

set_option autoImplicit false

variable {ι : Type}

/-- A segment, with the tables of those processes of the server that have ended. -/
structure Restarting (ι : Type) where
  segment : Segment ι
  ended : List LeaseTables

inductive RestartLabel (ι : Type) where
  | runs (label : SegmentLabel ι)
  | restart (behind : Memory)

namespace Restarting

/-- The new process gets the arguments of the old one, but nothing of its memory. -/
def restart (state : Restarting ι) (behind : Memory) : Restarting ι where
  segment :=
    { state.segment with
      server := .init state.segment.server.server.mExcludeInterface behind }
  ended := state.ended ++ [state.segment.server.server.tables]

/-- The tables of all processes so far, the running one's last. -/
def processes (state : Restarting ι) : List LeaseTables :=
  state.ended ++ [state.segment.server.server.tables]

def step [DecidableEq ι] (interfaceIndex : UInt32) (state : Restarting ι) :
    RestartLabel ι → Restarting ι
  | .runs label => { state with segment := state.segment.step interfaceIndex label }
  | .restart behind => state.restart behind

end Restarting

def restartSystem [DecidableEq ι] (interfaceIndex : UInt32) (macs : ι → MacAddress) :
    TransitionSystem (Restarting ι) (RestartLabel ι) where
  initial := fun state => state.segment.Started macs ∧ state.ended = []
  step := fun state label after => state.step interfaceIndex label = after

/-- The interface's configuration is the same for every process of the server. -/
def RestartLabel.ReportsConfig (config : InterfaceConfig) : RestartLabel ι → Prop
  | .runs label => Segment.ReportsConfig config label
  | .restart _ => True

namespace Segment

/-! ## What restarts leave alone -/

/-- The server knows the clients of the segment and no others. -/
structure Sound (interfaceIndex : UInt32) (config : InterfaceConfig) (macs : ι → MacAddress)
    (segment : Segment ι) : Prop where
  alone : segment.RunAlone macs
  requests : ∀ request ∈ segment.requests, ∃ who, request.FromClient (macs who)
  cursor : CursorInvariant segment.server.server.tables interfaceIndex config
  owners : ∀ macAddress, segment.server.server.tables.mLeases ⟨interfaceIndex, macAddress⟩ ≠ 0 →
    ∃ who, macs who = macAddress

section Steps

variable {interfaceIndex : UInt32} {config : InterfaceConfig} {macs : ι → MacAddress}
variable {segment after : Segment ι}

theorem fresh_owners {server : ServerRun} {excludeInterface : UInt32} {behind : Memory}
    (fresh : server = .init excludeInterface behind) (macAddress : MacAddress)
    (held : server.server.tables.mLeases ⟨interfaceIndex, macAddress⟩ ≠ 0) :
    ∃ who, macs who = macAddress := by
  rw [fresh] at held
  exact absurd rfl held

theorem sound_started (started : segment.Started macs) :
    segment.Sound interfaceIndex config macs := by
  rcases started.server with ⟨excludeInterface, behind, fresh⟩
  constructor
  · exact run_alone_started started
  · intro request member
    rw [started.requests] at member
    exact nomatch member
  · rw [fresh]
    exact cursor_invariant_empty interfaceIndex config
  · exact fresh_owners fresh

/-- A message that a client sends is its own. -/
theorem sent_from_client (before : segment.Sound interfaceIndex config macs) {who : ι}
    {input : ClientInput} {message : Message}
    (sent : ((segment.clients who).step input).1 = some message) :
    message.FromClient (macs who) := by
  have stepped := ClientRun.step_stepped (segment.clients who) input
  rw [sent] at stepped
  rw [← before.alone.identity who]
  rcases ClientRun.sent_step stepped with
    ⟨transactionId, rfl⟩ | ⟨-, serverAddress, transactionId, rfl⟩
  · exact Message.discover_from_client _ _
  · exact Message.request_from_client _ _ _ _

/-- Only a request of one of the clients gives a lease on the segment's interface. -/
theorem owners_served (before : segment.Sound interfaceIndex config macs) {request : Message}
    (present : request ∈ segment.requests) (answers : HostAnswers) (macAddress : MacAddress)
    (held : (segment.serve interfaceIndex request answers).server.server.tables.mLeases
      ⟨interfaceIndex, macAddress⟩ ≠ 0) : ∃ who, macs who = macAddress := by
  by_cases free : segment.server.server.tables.mLeases ⟨interfaceIndex, macAddress⟩ = 0
  · rcases lease_sender free held with ⟨datagram, given, same, sender⟩
    rcases before.requests request present with ⟨who, own⟩
    have agrees := received_sent_agrees segment.server.message request own.fits
    have header := Message.same_header_agrees (Message.agrees_symm agrees)
      (Message.is_valid_size own.valid)
    cases same
    exact ⟨who, own.chaddr.symm.trans (header.chaddr.trans sender)⟩
  · exact before.owners macAddress free

variable [DecidableEq ι]

theorem sound_moved {label : SegmentLabel ι} (before : segment.Sound interfaceIndex config macs)
    (reports : ReportsConfig config label) (moved : Moved interfaceIndex segment label after) :
    after.Sound interfaceIndex config macs := by
  have alone := run_alone_moved before.alone moved
  cases moved with
  | stays => exact before
  | @advanced who turn input possible =>
      refine ⟨alone, ?_, before.cursor, before.owners⟩
      intro request member
      rcases mem_sent member with old | new
      · exact before.requests request old
      · exact ⟨who, sent_from_client before new⟩
  | @served index answers request present =>
      refine ⟨alone, before.requests, ?_, owners_served before present answers⟩
      exact server_step_cursor (fun _ => reports) before.cursor
  | @elsewhere datagram other answers different =>
      refine ⟨alone, before.requests, ?_, ?_⟩
      · exact server_step_cursor (fun same => absurd same different) before.cursor
      · intro macAddress held
        by_cases free : segment.server.server.tables.mLeases ⟨interfaceIndex, macAddress⟩ = 0
        · rcases lease_sender free held with ⟨_, _, same, -⟩
          cases same
          exact absurd rfl different
        · exact before.owners macAddress free

theorem sound_step {label : SegmentLabel ι} (before : segment.Sound interfaceIndex config macs)
    (reports : ReportsConfig config label) (taken : segment.step interfaceIndex label = after) :
    after.Sound interfaceIndex config macs := by
  have moved := step_moved interfaceIndex segment label
  rw [taken] at moved
  exact sound_moved before reports moved

theorem sound_reachable {state : Restarting ι}
    (reached : ((restartSystem interfaceIndex macs).restrict fun _ label =>
      label.ReportsConfig config).Reachable state) :
    state.segment.Sound interfaceIndex config macs := by
  refine TransitionSystem.reachable_invariant
    (fun state : Restarting ι => state.segment.Sound interfaceIndex config macs) ?_ ?_ reached
  · exact fun state started => sound_started started.1
  · rintro state label later before ⟨reports, rfl⟩
    cases label with
    | runs label => exact sound_step before reports rfl
    | restart behind =>
        have alone : (state.restart behind).segment.RunAlone macs :=
          ⟨before.alone.reachable, before.alone.identity⟩
        exact ⟨alone, before.requests, cursor_invariant_empty interfaceIndex config,
          fresh_owners rfl⟩

end Steps

end Segment

/-! ## Where an address comes from -/

namespace Restarting

variable {interfaceIndex : UInt32} {config : InterfaceConfig} {macs : ι → MacAddress}
variable {state after : Restarting ι}

def AcceptsOwnAcks (state : Restarting ι) : RestartLabel ι → Prop
  | .runs label => state.segment.AcceptsOwnAcks label
  | .restart _ => True

/-- What is in flight and what is configured was leased by some process of the server. -/
structure Granted (interfaceIndex : UInt32) (config : InterfaceConfig) (macs : ι → MacAddress)
    (state : Restarting ι) : Prop where
  cursors : ∀ tables ∈ state.processes, CursorInvariant tables interfaceIndex config
  replies : ∀ reply ∈ state.segment.replies, ∃ tables ∈ state.processes,
    Leased tables interfaceIndex reply
  identity : ∀ who, (state.segment.clients who).client.mInterface.mMacAddress = macs who
  bound : ∀ who, (state.segment.clients who).client.mState = .bound →
    (state.segment.clients who).client.host.address ≠ 0 ∧ ∃ tables ∈ state.processes,
      tables.mLeases ⟨interfaceIndex, macs who⟩ = (state.segment.clients who).client.host.address

theorem mem_processes {tables : LeaseTables} (member : tables ∈ state.processes) :
    tables ∈ state.ended ∨ tables = state.segment.server.server.tables := by
  rcases List.mem_append.mp member with ended | running
  · exact .inl ended
  · exact .inr (List.mem_singleton.mp running)

theorem granted_started (started : state.segment.Started macs) (fresh : state.ended = []) :
    state.Granted interfaceIndex config macs where
  cursors := by
    intro tables member
    rcases started.server with ⟨excludeInterface, behind, server⟩
    rcases mem_processes member with old | rfl
    · rw [fresh] at old
      exact absurd old List.not_mem_nil
    · rw [server]
      exact cursor_invariant_empty interfaceIndex config
  replies := by
    rw [started.replies]
    exact fun _ member => absurd member List.not_mem_nil
  identity := fun who => (started.clients who).2
  bound := by
    intro who bound
    rw [(started.clients who).1.mState] at bound
    exact nomatch bound

theorem running_mem (state : Restarting ι) :
    state.segment.server.server.tables ∈ state.processes :=
  List.mem_append_right _ List.mem_cons_self

/-- No process takes a lease back, and what one has leased stays known when it has ended. -/
def Keeps (state after : Restarting ι) : Prop :=
  ∀ tables ∈ state.processes, ∃ later ∈ after.processes,
    ∀ lease, tables.mLeases lease ≠ 0 → later.mLeases lease = tables.mLeases lease

theorem keeps_server (ended : after.ended = state.ended)
    (keeps : ∀ lease, state.segment.server.server.tables.mLeases lease ≠ 0 →
      after.segment.server.server.tables.mLeases lease =
        state.segment.server.server.tables.mLeases lease) : state.Keeps after := by
  intro tables member
  rcases mem_processes member with old | rfl
  · refine ⟨tables, List.mem_append_left _ ?_, fun _ _ => rfl⟩
    rw [ended]
    exact old
  · exact ⟨_, running_mem after, keeps⟩

/-- A step that moves no client keeps what is granted, if the new tables and replies are sound. -/
theorem granted_server (before : state.Granted interfaceIndex config macs)
    (clients : after.segment.clients = state.segment.clients) (keeps : state.Keeps after)
    (cursors : ∀ tables ∈ after.processes, CursorInvariant tables interfaceIndex config)
    (replies : ∀ reply ∈ after.segment.replies, reply ∈ state.segment.replies ∨
      Leased after.segment.server.server.tables interfaceIndex reply) :
    after.Granted interfaceIndex config macs where
  cursors := cursors
  replies := by
    intro reply member
    rcases replies reply member with old | new
    · rcases before.replies reply old with ⟨tables, process, leased⟩
      rcases keeps tables process with ⟨later, processLater, kept⟩
      exact ⟨later, processLater, leased_keeps leased kept⟩
    · exact ⟨_, running_mem after, new⟩
  identity := by
    rw [clients]
    exact before.identity
  bound := by
    rw [clients]
    intro who bound
    rcases before.bound who bound with ⟨nonzero, tables, process, lease⟩
    rcases keeps tables process with ⟨later, processLater, kept⟩
    refine ⟨nonzero, later, processLater, ?_⟩
    rw [kept _ (by rw [lease]; exact nonzero)]
    exact lease

theorem granted_running {server : ServerRun} {replies : List Message}
    (before : state.Granted interfaceIndex config macs)
    (keeps : ∀ lease, state.segment.server.server.tables.mLeases lease ≠ 0 →
      server.server.tables.mLeases lease = state.segment.server.server.tables.mLeases lease)
    (cursor : CursorInvariant server.server.tables interfaceIndex config)
    (sent : ∀ reply ∈ replies, reply ∈ state.segment.replies ∨
      Leased server.server.tables interfaceIndex reply) :
    Granted interfaceIndex config macs
      { state with segment := { state.segment with server := server, replies := replies } } := by
  refine granted_server before rfl (keeps_server rfl keeps) ?_ sent
  intro tables member
  rcases mem_processes member with old | rfl
  · exact before.cursors tables (List.mem_append_left _ old)
  · exact cursor

theorem granted_restart (before : state.Granted interfaceIndex config macs) (behind : Memory) :
    (state.restart behind).Granted interfaceIndex config macs := by
  refine granted_server before rfl ?_ ?_ (fun reply member => .inl member)
  · exact fun tables member => ⟨tables, List.mem_append_left _ member, fun _ _ => rfl⟩
  · intro tables member
    rcases mem_processes member with old | rfl
    · exact before.cursors tables old
    · exact cursor_invariant_empty interfaceIndex config

/-- A client that becomes Bound has accepted an ACK for itself, of one of the processes. -/
theorem granted_bound (before : state.Granted interfaceIndex config macs) {who : ι}
    {input : ClientInput} (hears : state.segment.Hears who input)
    (own : (state.segment.clients who).AcceptsOwnAck input) {run : ClientRun}
    {sent : Option Message} (stepped : ClientRun.Stepped (state.segment.clients who) input sent run)
    (bound : run.client.mState = .bound) :
    run.client.host.address ≠ 0 ∧ ∃ tables ∈ state.processes,
      tables.mLeases ⟨interfaceIndex, macs who⟩ = run.client.host.address := by
  rcases ClientRun.holds_lease_step stepped (bound ▸ .bound) with
    kept | ⟨msg, answers, acknowledged⟩
  · rw [kept.address]
    exact before.bound who (kept.bound bound)
  · have mine := own msg answers acknowledged.got acknowledged.awaits acknowledged.acknowledges
      (acknowledged.accepted bound)
    rcases hears msg answers acknowledged.got with ⟨reply, member, buffer, received⟩
    rcases before.replies reply member with ⟨tables, process, leased⟩
    have agrees := received_sent_agrees buffer reply leased.sized.2
    rw [← received] at agrees
    have header := Message.same_header_agrees agrees
      (Message.is_valid_size (ClientRun.received_valid acknowledged.got).1)
    have acknowledges := (Message.type_agrees agrees).symm.trans acknowledged.acknowledges
    rcases leased.leased (.inr acknowledges) with ⟨nonzero, lease⟩
    rw [← header.chaddr, mine, before.identity who] at lease
    rw [acknowledged.address, header.yiaddr]
    exact ⟨nonzero, tables, process, lease⟩

variable [DecidableEq ι]

theorem granted_advance (before : state.Granted interfaceIndex config macs) {who : ι}
    {input : ClientInput} (hears : state.segment.Hears who input)
    (own : (state.segment.clients who).AcceptsOwnAck input) :
    Granted interfaceIndex config macs
      { state with segment := state.segment.advance who input } where
  cursors := before.cursors
  replies := before.replies
  identity := by
    intro other
    by_cases same : other = who
    · subst same
      rw [Segment.advance_self, ClientRun.mac_address_step (ClientRun.step_stepped _ input)]
      exact before.identity other
    · rw [Segment.advance_other _ same]
      exact before.identity other
  bound := by
    intro other bound
    by_cases same : other = who
    · subst same
      rw [Segment.advance_self] at bound ⊢
      exact granted_bound before hears own (ClientRun.step_stepped _ input) bound
    · rw [Segment.advance_other _ same] at bound ⊢
      exact before.bound other bound

theorem granted_runs (before : state.Granted interfaceIndex config macs)
    {label : SegmentLabel ι} {segment : Segment ι} (reports : Segment.ReportsConfig config label)
    (own : state.segment.AcceptsOwnAcks label)
    (moved : Segment.Moved interfaceIndex state.segment label segment) :
    Granted interfaceIndex config macs { state with segment := segment } := by
  have cursor := before.cursors _ (running_mem state)
  cases moved with
  | stays => exact before
  | @advanced who turn input possible =>
      exact granted_advance before (Segment.input_hears possible) (own input possible)
  | @served index answers request present =>
      refine granted_running before (fun _ held => server_step_keeps _ _ held)
        (server_step_cursor (fun _ => reports) cursor) ?_
      intro reply member
      rcases Segment.mem_sent member with old | new
      · exact .inl old
      · exact .inr (sent_leased new)
  | elsewhere different =>
      exact granted_running before (fun _ held => server_step_keeps _ _ held)
        (server_step_cursor (fun same => absurd same different) cursor)
        (fun _ member => .inl member)

theorem granted_reachable
    (reached : ((restartSystem interfaceIndex macs).restrict fun before label =>
      label.ReportsConfig config ∧ before.AcceptsOwnAcks label).Reachable state) :
    state.Granted interfaceIndex config macs := by
  refine TransitionSystem.reachable_invariant (Granted interfaceIndex config macs) ?_ ?_ reached
  · exact fun state started => granted_started started.1 started.2
  · rintro state label later before ⟨⟨reports, own⟩, rfl⟩
    cases label with
    | restart behind => exact granted_restart before behind
    | runs label =>
        exact granted_runs before reports own (Segment.step_moved interfaceIndex state.segment label)

/-- While the clients only accept ACKs for themselves, a Bound client has the address that some
process of the server leased to it, and two Bound clients have the same address only from two
processes. -/
theorem shared_by_two_processes (interfaceIndex : UInt32) (config : InterfaceConfig)
    (macs : ι → MacAddress) (distinct : Function.Injective macs) (state : Restarting ι)
    (reached : ((restartSystem interfaceIndex macs).restrict fun before label =>
      label.ReportsConfig config ∧ before.AcceptsOwnAcks label).Reachable state)
    (first second : ι) (different : first ≠ second)
    (firstBound : (state.segment.clients first).client.mState = .bound)
    (secondBound : (state.segment.clients second).client.mState = .bound)
    (shared : (state.segment.clients first).client.host.address =
      (state.segment.clients second).client.host.address) :
    (∃ tables ∈ state.processes, tables.mLeases ⟨interfaceIndex, macs first⟩ =
      (state.segment.clients first).client.host.address) ∧
    (∃ tables ∈ state.processes, tables.mLeases ⟨interfaceIndex, macs second⟩ =
      (state.segment.clients first).client.host.address) ∧
    ∀ tables ∈ state.processes,
      ¬(tables.mLeases ⟨interfaceIndex, macs first⟩ =
          (state.segment.clients first).client.host.address ∧
        tables.mLeases ⟨interfaceIndex, macs second⟩ =
          (state.segment.clients first).client.host.address) := by
  have granted := granted_reachable reached
  rcases granted.bound first firstBound with ⟨nonzero, one, oneProcess, oneLease⟩
  rcases granted.bound second secondBound with ⟨-, other, otherProcess, otherLease⟩
  rw [← shared] at otherLease
  refine ⟨⟨one, oneProcess, oneLease⟩, ⟨other, otherProcess, otherLease⟩, ?_⟩
  rintro tables process ⟨firstLease, secondLease⟩
  have sameMac : macs first = macs second := by
    apply client_of_lease (granted.cursors tables process)
    · rw [firstLease]
      exact nonzero
    · rw [firstLease, secondLease]
  exact different (distinct sameMac)

/-! ## Two clients and two processes -/

/-- A check of the conditions on a step. -/
def checkOwnAcks (state : Restarting Bool) : RestartLabel Bool → Bool
  | .runs label => state.segment.acceptsOwnAcks label
  | .restart _ => true

/-- One client is Bound by the first process, the other one by the second. -/
def restartedLabels : List (RestartLabel Bool) :=
  (Segment.bindLabels false 0 0).map .runs ++ [.restart fun _ => 0] ++
    (Segment.bindLabels true 2 2).map .runs

def startedOnce : Restarting Bool := ⟨startedSegment Segment.pairMacs, []⟩

def restartedPair : Restarting Bool :=
  restartedLabels.foldl (step 1) startedOnce

theorem restarted_labels_report :
    ∀ label ∈ restartedLabels, label.ReportsConfig Segment.homeConfig := by
  intro label member
  rcases List.mem_append.mp member with before | behind
  · rcases List.mem_append.mp before with first | restart
    · rcases List.mem_map.mp first with ⟨label, bind, rfl⟩
      exact Segment.bind_labels_answered _ _ _ label bind
    · rw [List.mem_singleton.mp restart]
      trivial
  · rcases List.mem_map.mp behind with ⟨label, bind, rfl⟩
    exact Segment.bind_labels_answered _ _ _ label bind

theorem restarted_reachable :
    ((restartSystem 1 Segment.pairMacs).restrict fun before label =>
      label.ReportsConfig Segment.homeConfig ∧ before.AcceptsOwnAcks label).Reachable
        restartedPair := by
  apply TransitionSystem.reachable_of_check _ (step 1) checkOwnAcks
  · intro state label member checked
    refine ⟨⟨restarted_labels_report label member, ?_⟩, rfl⟩
    cases label with
    | runs label => exact Segment.accepts_own_acks_of_check checked
    | restart behind => trivial
  · exact .start ⟨started_segment_started _, rfl⟩
  · decide +kernel

theorem restarted_shared :
    (restartedPair.segment.clients false).client.mState = .bound ∧
    (restartedPair.segment.clients true).client.mState = .bound ∧
    (restartedPair.segment.clients false).client.host.address =
      (restartedPair.segment.clients true).client.host.address := by
  decide +kernel

/-- Both clients are Bound with 192.168.0.2. -/
theorem shared_by_two_processes_restarted :
    (∃ tables ∈ restartedPair.processes, tables.mLeases ⟨1, Segment.pairMacs false⟩ =
      (restartedPair.segment.clients false).client.host.address) ∧
    (∃ tables ∈ restartedPair.processes, tables.mLeases ⟨1, Segment.pairMacs true⟩ =
      (restartedPair.segment.clients false).client.host.address) ∧
    ∀ tables ∈ restartedPair.processes,
      ¬(tables.mLeases ⟨1, Segment.pairMacs false⟩ =
          (restartedPair.segment.clients false).client.host.address ∧
        tables.mLeases ⟨1, Segment.pairMacs true⟩ =
          (restartedPair.segment.clients false).client.host.address) := by
  rcases restarted_shared with ⟨firstBound, secondBound, shared⟩
  exact shared_by_two_processes 1 Segment.homeConfig Segment.pairMacs Segment.pair_macs_distinct
    _ restarted_reachable false true (by decide) firstBound secondBound shared

end Restarting

namespace Segment

/-! ## Everyone's lease -/

section Leases

variable {interfaceIndex : UInt32} {config : InterfaceConfig} {macs : ι → MacAddress}
variable {segment after : Segment ι}

/-- There is a host for every client. -/
structure Room (config : InterfaceConfig) (hosts : ι → InAddr) : Prop where
  distinct : Function.Injective hosts
  usable : ∀ who, hosts who ∈ config.usableHosts

theorem room_for_client [Finite ι] (sound : segment.Sound interfaceIndex config macs)
    {answers : HostAnswers} (succeed : answers.Succeed) (reports : answers.Reports config)
    {hosts : ι → InAddr} (room : Room config hosts) (who : ι) :
    ∃ offer, (getOfferAddress segment.server.server.tables interfaceIndex (macs who)
      (answers.interfaceAddress 0) (answers.interfaceNetmask 0)).1 = .ok offer := by
  rcases succeed.address 0 with ⟨address, addressGiven⟩
  rcases succeed.netmask 0 with ⟨netmask, netmaskGiven⟩
  rw [addressGiven, netmaskGiven, reports.address 0 address addressGiven,
    reports.netmask 0 netmask netmaskGiven]
  have outcome := get_offer_address_outcome segment.server.server.tables interfaceIndex (macs who)
    (.ok config.address) (.ok config.netmask)
  have granted := (offer_refines_allocator sound.cursor outcome).1
  have owners : ∀ macAddress host,
      leasesOn segment.server.server.tables interfaceIndex macAddress = some host →
        ∃ who, macs who = macAddress := fun macAddress host owned =>
    sound.owners macAddress ((leases_on_some_iff _ _ _ _).mp owned).1
  rcases Allocator.grant_succeeds granted owners room.distinct room.usable with ⟨host, success⟩
  generalize (getOfferAddress segment.server.server.tables interfaceIndex (macs who)
    (.ok config.address) (.ok config.netmask)).1 = result at success
  cases result with
  | ok offer => exact ⟨offer, rfl⟩
  | error text => exact nomatch success

/-- The client is Bound with the address that the running server has for it. -/
structure HoldsOwn (interfaceIndex : UInt32) (macs : ι → MacAddress) (who : ι)
    (segment : Segment ι) : Prop where
  bound : (segment.clients who).client.mState = .bound
  leased : segment.server.server.tables.mLeases ⟨interfaceIndex, macs who⟩ ≠ 0
  address : (segment.clients who).client.host.address =
    segment.server.server.tables.mLeases ⟨interfaceIndex, macs who⟩

/-- These clients have got their leases, and the other ones did nothing. -/
structure Regained (interfaceIndex : UInt32) (macs : ι → MacAddress) (clients : List ι)
    (before after : Segment ι) : Prop where
  holds : ∀ who ∈ clients, after.HoldsOwn interfaceIndex macs who
  others : ∀ who, who ∉ clients → after.clients who = before.clients who
  leases : ∀ lease, before.server.server.tables.mLeases lease ≠ 0 →
    after.server.server.tables.mLeases lease = before.server.server.tables.mLeases lease

theorem regained_cons {who : ι} {clients : List ι} {middle : Segment ι} (fresh : who ∉ clients)
    (first : segment.Rebound interfaceIndex (macs who) who middle)
    (rest : middle.Regained interfaceIndex macs clients after) :
    segment.Regained interfaceIndex macs (who :: clients) after where
  holds := by
    intro other member
    rcases List.mem_cons.mp member with rfl | later
    · have kept := rest.leases ⟨interfaceIndex, macs other⟩ first.leased
      have same := rest.others other fresh
      constructor
      · rw [same]
        exact first.bound
      · rw [kept]
        exact first.leased
      · rw [same, kept]
        exact first.address
    · exact rest.holds other later
  others := by
    intro other absent
    rcases not_or.mp (mt List.mem_cons.mpr absent) with ⟨different, outside⟩
    exact (rest.others other outside).trans (first.moved.others other different)
  leases := by
    intro lease held
    have kept := first.moved.leases lease held
    rw [← kept]
    apply rest.leases lease
    rw [kept]
    exact held

/-- One client after the other gets its lease. -/
theorem takes_regained [DecidableEq ι] [Finite ι] {answers : HostAnswers} (succeed : answers.Succeed)
    (reports : answers.Reports config) {hosts : ι → InAddr} (room : Room config hosts)
    (known : interfaceIndex ≠ 0) (clients : List ι) (once : clients.Nodup)
    (sound : segment.Sound interfaceIndex config macs)
    (wanted : segment.server.server.mExcludeInterface ≠ interfaceIndex)
    (up : ∀ who ∈ clients, (segment.clients who).client.host.isUp = true) :
    ∃ labels after, labels.length ≤ 24 * clients.length ∧
      (audibleSystem interfaceIndex macs).Takes segment labels after ∧
      segment.Regained interfaceIndex macs clients after ∧
      after.Sound interfaceIndex config macs := by
  induction clients generalizing segment with
  | nil =>
      have nothing : segment.Regained interfaceIndex macs [] segment :=
        ⟨fun _ member => absurd member List.not_mem_nil, fun _ _ => rfl, fun _ _ => rfl⟩
      exact ⟨[], segment, Nat.le_refl 0, .stops, nothing, sound⟩
  | cons who rest ih =>
      rcases List.nodup_cons.mp once with ⟨fresh, onceRest⟩
      have serves : Serves interfaceIndex (macs who) answers segment.server :=
        ⟨known, wanted, succeed, room_for_client sound succeed reports room who⟩
      rcases takes_rebound sound.alone serves (up who List.mem_cons_self) with
        ⟨middle, ⟨first, few, path, answered, moved⟩, rebound⟩
      have soundThen : middle.Sound interfaceIndex config macs := by
        refine TransitionSystem.takes_keeps (Sound interfaceIndex config macs)
          (AnsweredBy answers) ?_ sound path answered
        rintro state label later before given ⟨-, taken⟩
        refine sound_step before ?_ taken
        cases label with
        | client mover turn => trivial
        | request index given => exact given ▸ reports
        | elsewhere datagram other given => trivial
      have wantedThen : middle.server.server.mExcludeInterface ≠ interfaceIndex := by
        rw [moved.exclude]
        exact wanted
      have upThen : ∀ other ∈ rest, (middle.clients other).client.host.isUp = true := by
        intro other member
        have different : other ≠ who := fun same => fresh (same ▸ member)
        rw [moved.others other different]
        exact up other (List.mem_cons_of_mem _ member)
      rcases ih onceRest soundThen wantedThen upThen with
        ⟨second, after, fewThen, later, regained, soundAfter⟩
      refine ⟨first ++ second, after, ?_, TransitionSystem.takes_append path later,
        regained_cons fresh rebound regained, soundAfter⟩
      rw [List.length_append, List.length_cons]
      omega

end Leases

/-- What the clients of a segment get back after restarts. -/
structure AllRegained (interfaceIndex : UInt32) (macs : ι → MacAddress)
    (before after : Segment ι) : Prop where
  holds : ∀ who, (before.clients who).client.host.isUp = true →
    after.HoldsOwn interfaceIndex macs who
  distinct : ∀ first second, first ≠ second →
    (before.clients first).client.host.isUp = true →
    (before.clients second).client.host.isUp = true →
    (after.clients first).client.host.address ≠ (after.clients second).client.host.address
  halted : ∀ who, (before.clients who).client.host.isUp = false →
    after.clients who = before.clients who

theorem up_clients_listed [Fintype ι] (segment : Segment ι) :
    ∃ clients : List ι, clients.Nodup ∧ clients.length ≤ Fintype.card ι ∧
      ∀ who, who ∈ clients ↔ (segment.clients who).client.host.isUp = true := by
  refine ⟨(Finset.univ.filter fun who => (segment.clients who).client.host.isUp = true).toList,
    Finset.nodup_toList _, ?_, ?_⟩
  · rw [Finset.length_toList]
    exact Finset.card_le_univ _
  · intro who
    simp

/-- However often the server was restarted, and whatever is in flight: if there is a host for
every client, then within 24 steps for each of them all clients whose interface is up are Bound
again, with different addresses and those that the running server has for them. -/
theorem regains_leases [DecidableEq ι] [Fintype ι] (interfaceIndex : UInt32)
    (macs : ι → MacAddress) (distinct : Function.Injective macs) (config : InterfaceConfig)
    (answers : HostAnswers) (succeed : answers.Succeed) (reports : answers.Reports config)
    (hosts : ι → InAddr) (room : Room config hosts) (state : Restarting ι)
    (reached : ((restartSystem interfaceIndex macs).restrict fun _ label =>
      label.ReportsConfig config).Reachable state)
    (known : interfaceIndex ≠ 0)
    (wanted : state.segment.server.server.mExcludeInterface ≠ interfaceIndex) :
    ∃ labels after, labels.length ≤ 24 * Fintype.card ι ∧
      (audibleSystem interfaceIndex macs).Takes state.segment labels after ∧
      state.segment.AllRegained interfaceIndex macs after := by
  have sound := sound_reachable reached
  rcases up_clients_listed state.segment with ⟨clients, once, all, listed⟩
  rcases takes_regained succeed reports room known clients once sound wanted
    (fun who => (listed who).mp) with ⟨labels, after, few, path, regained, soundAfter⟩
  have holds : ∀ who, (state.segment.clients who).client.host.isUp = true →
      after.HoldsOwn interfaceIndex macs who := fun who up =>
    regained.holds who ((listed who).mpr up)
  refine ⟨labels, after, ?_, path, holds, ?_, ?_⟩
  · omega
  · intro first second different firstUp secondUp same
    have one := holds first firstUp
    have other := holds second secondUp
    rw [one.address, other.address] at same
    exact different (distinct (client_of_lease soundAfter.cursor one.leased same))
  · intro who isDown
    apply regained.others who
    rw [listed, isDown]
    exact Bool.false_ne_true

/-- The first two free hosts of the home network. -/
def pairHosts (second : Bool) : InAddr := if second then 0xC0A80003 else 0xC0A80002

theorem pair_hosts_room : Room homeConfig pairHosts where
  distinct := by
    intro first second same
    revert first second
    decide
  usable := by
    intro who
    cases who with
    | _ => constructor <;> decide

/-- The two clients that share an address get two different ones. -/
theorem regains_leases_shared :
    ∃ labels after, labels.length ≤ 48 ∧
      (audibleSystem 1 pairMacs).Takes Restarting.restartedPair.segment labels after ∧
      (after.clients false).client.mState = .bound ∧ (after.clients true).client.mState = .bound ∧
      (after.clients false).client.host.address ≠ (after.clients true).client.host.address := by
  have reached := TransitionSystem.reachable_of_weaker
    (fun _ _ allowed => allowed.1) Restarting.restarted_reachable
  have up : ∀ who,
      (Restarting.restartedPair.segment.clients who).client.host.isUp = true := by
    decide +kernel
  rcases regains_leases 1 pairMacs pair_macs_distinct homeConfig homeAnswers home_answers_succeed
    home_answers_report pairHosts pair_hosts_room _ reached (by decide) (by decide +kernel) with
    ⟨labels, after, few, path, regained⟩
  exact ⟨labels, after, few, path, (regained.holds false (up false)).bound,
    (regained.holds true (up true)).bound,
    regained.distinct false true (by decide) (up false) (up true)⟩

end Segment

end RedroidExt.Dhcp
