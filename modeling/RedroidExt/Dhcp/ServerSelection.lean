import RedroidExt.Dhcp.ClientLeases
import RedroidExt.Dhcp.ClientTraces
import RedroidExt.Dhcp.ForeignRequests
import RedroidExt.Dhcp.Reconfiguration
import RedroidExt.Dhcp.Segment

/-!
# One client and several servers on a segment

Every server hears every request, late, twice or never, and the client may hear
every reply. A NAK taken in Requesting answers the request sent last, so it comes
from the server selected as long as the others stay out.
-/

namespace RedroidExt.Dhcp

open RedroidExt.Library RedroidExt.Library.ByteMemory

set_option autoImplicit false

variable {ι : Type}

/-- A reply with the server that sent it and what the system told that server meanwhile. -/
structure SentReply (ι : Type) where
  server : ι
  answers : HostAnswers
  message : Message

structure SharedSegment (ι : Type) where
  trace : ClientTrace
  servers : ι → ServerRun
  replies : List (SentReply ι)

inductive SharedLabel (ι : Type) where
  | client (turn : ClientTurn)
  | request (who : ι) (index : Nat) (answers : HostAnswers)
  | elsewhere (who : ι) (datagram : List UInt8) (interfaceIndex : UInt32) (answers : HostAnswers)

/-! ## The client's side -/

/-- In Requesting the client waits for the server that it asked last. -/
def Directed (run : ClientRun) : Prop :=
  run.client.mState = .requesting →
    run.phase = .evaluating ∨ run.client.mLastMsg.serverId = run.client.mServerAddress

/-- An OFFER that is taken ends the wait. -/
theorem offer_evaluates {run : ClientRun} {input : ClientInput} {timeout : UInt32}
    (waiting : run.phase = .polling timeout) (other : run.client.mState ≠ .requesting)
    (requesting : (run.next input).client.mState = .requesting) :
    (run.next input).phase = .evaluating := by
  unfold ClientRun.next ClientRun.step at requesting ⊢
  rw [waiting] at requesting ⊢
  cases poll : input.poll with
  | timeout => rfl
  | failed =>
      rw [poll] at requesting
      exact absurd requesting other
  | readable frame behind answers =>
      rw [poll] at requesting
      dsimp only at requesting ⊢
      cases valid : run.client.receiveDhcpMessage frame behind with
      | none =>
          rw [valid] at requesting
          exact absurd requesting other
      | some msg =>
          rw [valid] at requesting
          dsimp only at requesting ⊢
          rw [(run.record_same _ _ _ _).1] at requesting
          rw [(run.record_same _ _ _ _).2.1]
          have outcome := DhcpClient.handle_dhcp_message_reacted run.client msg answers
            (run.clock + input.first + input.second)
            (run.clock + input.first + input.second + input.third)
          generalize run.client.handleDhcpMessage msg answers
            (run.clock + input.first + input.second)
            (run.clock + input.first + input.second + input.third) = handled
            at outcome requesting ⊢
          rcases handled with ⟨reaction, after⟩
          dsimp only at outcome requesting ⊢
          cases outcome with
          | ignored noOffer noAnswer => exact absurd requesting other
          | offer state offers => rfl
          | accepted state acknowledges accepts read host address => exact nomatch requesting
          | turnedDown state acknowledges refuses configured =>
              have kept := (DhcpClient.configured_same_protocol configured).mState
              rw [kept] at requesting
              exact absurd requesting other
          | nak state refuses => exact nomatch requesting

/-- While it waits in Requesting, neither the last message nor the server changes. -/
theorem requesting_waits {run : ClientRun} {input : ClientInput} {timeout : UInt32}
    (waiting : run.phase = .polling timeout) (before : run.client.mState = .requesting)
    (requesting : (run.next input).client.mState = .requesting) :
    (run.next input).client.mLastMsg = run.client.mLastMsg ∧
      (run.next input).client.mServerAddress = run.client.mServerAddress := by
  have stepped := run.step_stepped input
  change ClientRun.Stepped run input (run.step input).1 (run.next input) at stepped
  generalize run.next input = after at stepped requesting ⊢
  generalize (run.step input).1 = sent at stepped
  cases stepped with
  | waited phase nothing => exact ⟨rfl, rfl⟩
  | evaluated phase ready outcome =>
      rw [waiting] at ready
      contradiction
  | @received msg answers reaction client phase got outcome =>
      rw [(run.record_same _ _ _ _).1] at requesting ⊢
      dsimp only at requesting ⊢
      cases outcome with
      | ignored noOffer noAnswer => exact ⟨rfl, rfl⟩
      | offer state offers =>
          rw [before] at state
          contradiction
      | accepted state acknowledges accepts read host address => exact nomatch requesting
      | turnedDown state acknowledges refuses configured =>
          have kept := DhcpClient.configured_same_protocol configured
          exact ⟨kept.mLastMsg, kept.mServerAddress⟩
      | nak state refuses => exact nomatch requesting

theorem directed_evaluated {client after : DhcpClient} {now : Nat} {sent : Option Message}
    (outcome : DhcpClient.Evaluated client now sent after) (requesting : after.mState = .requesting) :
    after.mLastMsg.serverId = after.mServerAddress := by
  cases outcome with
  | start state => cases requesting
  | discover state timeout =>
      rw [show client.mState = .requesting from requesting] at state
      contradiction
  | request state timeout =>
      have target : client.destination = client.mServerAddress := by
        simp [DhcpClient.destination, show client.mState = .requesting from requesting]
      exact (Message.request_server_id _ _ _ _).trans target
  | giveUp state exceeded => cases requesting
  | renew state expired => cases requesting
  | wait state timeout =>
      rw [show client.mState = .requesting from requesting] at state
      contradiction
  | rebind state expired => cases requesting

theorem directed_step {run : ClientRun} (before : Directed run) (input : ClientInput) :
    Directed (run.next input) := by
  intro requesting
  cases ready : run.phase with
  | evaluating =>
      right
      have outcome := DhcpClient.evaluate_evaluated run.client (run.clock + input.first)
        (run.clock + input.first + input.second)
      unfold ClientRun.next ClientRun.step at requesting ⊢
      rw [ready] at requesting ⊢
      exact directed_evaluated outcome requesting
  | polling timeout =>
      by_cases waited : run.client.mState = .requesting
      · right
        obtain ⟨last, server⟩ := requesting_waits ready waited requesting
        rw [last, server]
        apply (before waited).resolve_left
        rw [ready]
        nofun
      · exact .inl (offer_evaluates ready waited requesting)

/-- A message that arrives as it was sent, its server identifier included. -/
structure Arrives (message : Message) : Prop where
  fits : message.mSize ≤ Message.capacity
  complete : message.Complete optServerId

theorem sent_arrives {run after : ClientRun} {input : ClientInput} {message : Message}
    (stepped : ClientRun.Stepped run input (some message) after) : Arrives message := by
  rcases ClientRun.sent_step stepped with
    ⟨transactionId, built⟩ | ⟨-, serverAddress, transactionId, built⟩
  · rw [built]
    constructor
    · exact (Message.discover_from_client _ _).fits
    · exact Message.complete_of_records (Message.discover_records _ _) _
  · rw [built]
    constructor
    · exact (Message.request_from_client _ _ _ _).fits
    · exact Message.complete_of_records (Message.request_records _ _ _ _) _

/-! ## The segment -/

namespace SharedSegment

def input (segment : SharedSegment ι) : ClientTurn → Option ClientInput
  | .alone input => if (segment.trace.run.received input).isNone then some input else none
  | .reply input header index behind answers =>
      segment.replies[index]?.map fun reply => input.hearing header reply.message behind answers

def advance (segment : SharedSegment ι) (input : ClientInput) : SharedSegment ι :=
  { segment with trace := segment.trace.step input }

variable [DecidableEq ι]

def serve (segment : SharedSegment ι) (who : ι) (interfaceIndex : UInt32) (request : Message)
    (answers : HostAnswers) : SharedSegment ι :=
  let served := serverStep (segment.servers who) (.datagram request.bytes interfaceIndex answers)
  { segment with
    servers := Function.update segment.servers who served.2
    replies := segment.replies ++
      served.1.toList.map fun message => { server := who, answers := answers, message := message } }

def serveElsewhere (segment : SharedSegment ι) (who : ι) (datagram : List UInt8) (other : UInt32)
    (answers : HostAnswers) : SharedSegment ι :=
  { segment with
    servers := Function.update segment.servers who
      (serverStep (segment.servers who) (.datagram datagram other answers)).2 }

/-- A label that is not possible changes nothing. Each server is on the segment with the
interface that `port` gives. -/
def step (port : ι → UInt32) (segment : SharedSegment ι) : SharedLabel ι → SharedSegment ι
  | .client turn =>
      match segment.input turn with
      | none => segment
      | some input => segment.advance input
  | .request who index answers =>
      match segment.trace.sent[index]? with
      | none => segment
      | some request => segment.serve who (port who) request answers
  | .elsewhere who datagram other answers =>
      if other = port who then segment else segment.serveElsewhere who datagram other answers

omit [DecidableEq ι] in
/-- All processes just started and nothing was sent. -/
structure Started (segment : SharedSegment ι) : Prop where
  trace : segment.trace.run.Started ∧ segment.trace.sent = []
  servers : ∀ who, ∃ excludeInterface behind, segment.servers who = .init excludeInterface behind
  replies : segment.replies = []

end SharedSegment

def sharedSystem [DecidableEq ι] (port : ι → UInt32) :
    TransitionSystem (SharedSegment ι) (SharedLabel ι) where
  initial := SharedSegment.Started
  step := fun segment label after => segment.step port label = after

namespace SharedSegment

/-- The request arrives in the server's message object. -/
def arrived (segment : SharedSegment ι) (who : ι) (request : Message) : Message :=
  (segment.servers who).receive request.bytes

/-- Servers stay out of requests for others, and the client has transaction ids left. -/
def Apart (port : ι → UInt32) (segment : SharedSegment ι) : SharedLabel ι → Prop
  | .client _ => segment.trace.sent.length < 2 ^ 32
  | .request who index answers =>
      ∀ request, segment.trace.sent[index]? = some request →
        Foreign (segment.arrived who request) answers →
        StaysOut (segment.servers who).server (segment.arrived who request) (port who) answers
  | .elsewhere _ _ _ _ => True

/-! ## The invariant -/

/-- A NAK answers a request that was sent to its server or to all. -/
structure Answers (sent : List Message) (reply : SentReply ι) : Prop where
  sized : 240 ≤ reply.message.mSize ∧ reply.message.mSize ≤ Message.capacity
  refused : reply.message.type = dhcpNak →
    ∃ request ∈ sent, request.type = dhcpRequest ∧ reply.message.xid = request.xid ∧
      (request.serverId = inAddrBroadcast ∨
        ∃ call, reply.answers.interfaceAddress call = .ok request.serverId)

structure Selection (segment : SharedSegment ι) : Prop where
  reached : clientTraces.Reachable segment.trace
  few : segment.trace.sent.length ≤ 2 ^ 32
  directed : Directed segment.trace.run
  arrives : ∀ request ∈ segment.trace.sent, Arrives request
  answers : ∀ reply ∈ segment.replies, Answers segment.trace.sent reply

theorem selection_started {segment : SharedSegment ι} (started : segment.Started) :
    segment.Selection where
  reached := .start started.trace
  few := by
    rw [started.trace.2]
    decide
  directed := by
    intro requesting
    rw [started.trace.1.mState] at requesting
    contradiction
  arrives := by
    intro request member
    rw [started.trace.2] at member
    cases member
  answers := by
    intro reply member
    rw [started.replies] at member
    cases member

theorem selection_advance {segment : SharedSegment ι} (before : segment.Selection)
    (left : segment.trace.sent.length < 2 ^ 32) (input : ClientInput) :
    (segment.advance input).Selection := by
  have stepped := segment.trace.run.step_stepped input
  have sentOne : (segment.trace.run.step input).1.toList.length ≤ 1 := by
    cases (segment.trace.run.step input).1 with
    | none => decide
    | some message => exact Nat.le_refl 1
  constructor
  · exact .next before.reached rfl
  · unfold advance ClientTrace.step
    dsimp only
    rw [List.length_append]
    omega
  · exact directed_step before.directed input
  · intro request member
    rcases Segment.mem_sent member with old | new
    · exact before.arrives request old
    · rw [new] at stepped
      exact sent_arrives stepped
  · intro reply member
    have answers := before.answers reply member
    refine ⟨answers.sized, fun refuses => ?_⟩
    obtain ⟨request, present, kind⟩ := answers.refused refuses
    exact ⟨request, List.mem_append_left _ present, kind⟩

section Server

variable {segment : SharedSegment ι} {port : ι → UInt32} {who : ι} {request : Message}
variable {answers : HostAnswers}

variable (segment who) in
/-- What the server reads of a request is what the client wrote. -/
theorem arrived_reads (arrives : Arrives request) :
    (segment.arrived who request).type = request.type ∧
      (segment.arrived who request).serverId = request.serverId := by
  have agrees := received_sent_agrees (segment.servers who).message request arrives.fits
  constructor
  · exact Message.type_agrees agrees
  · exact (Message.address_option_agrees (Message.agrees_symm agrees) arrives.complete).symm

theorem answers_served (arrives : Arrives request) (present : request ∈ segment.trace.sent)
    (apart : Foreign (segment.arrived who request) answers →
      StaysOut (segment.servers who).server (segment.arrived who request) (port who) answers)
    {reply : Message}
    (sent : (serverStep (segment.servers who) (.datagram request.bytes (port who) answers)).1 =
      some reply) :
    Answers segment.trace.sent { server := who, answers := answers, message := reply } := by
  obtain ⟨type, serverId⟩ := arrived_reads segment who arrives
  have replied := handle_message_reply (segment.servers who).server (segment.arrived who request)
    (port who) answers sent
  cases replied with
  | offer _ _ _ granted =>
      have fields := granted_fields granted
      refine ⟨fields.sized, fun refused => ?_⟩
      rw [fields.type] at refused
      exact absurd refused (by decide)
  | ack _ _ _ _ granted =>
      have fields := granted_fields granted
      refine ⟨fields.sized, fun refused => ?_⟩
      rw [fields.type] at refused
      exact absurd refused (by decide)
  | nak served requests _ _ sized =>
      refine ⟨sized, fun _ => ⟨request, present, type ▸ requests, ?_, ?_⟩⟩
      · have agrees := received_sent_agrees (segment.servers who).message request arrives.fits
        have large := Message.is_valid_size served.valid
        exact (handle_message_xid sent).trans (Message.same_header_agrees agrees large).xid
      · by_contra elsewhere
        obtain ⟨directed, other⟩ := not_or.mp elsewhere
        have foreign : Foreign (segment.arrived who request) answers := by
          constructor
          · exact requests
          · rw [serverId]
            exact directed
          · intro call own
            rw [serverId] at own
            exact other ⟨call, own⟩
        have silent := ((stays_out_iff requests).mpr (apart foreign)).1
        exact absurd (silent.symm.trans sent) (by simp)

end Server

/-! ## NAKs -/

/-- The client takes the reply for a NAK while it is in Requesting. -/
structure TakesNak (segment : SharedSegment ι) (reply : SentReply ι) (input : ClientInput)
    (header : RawHeader) (behind : Memory) (answers : KernelAnswers) : Prop where
  sent : reply ∈ segment.replies
  requesting : segment.trace.run.client.mState = .requesting
  taken : ∃ got, segment.trace.run.received
    (input.hearing header reply.message behind answers) = some got ∧ got.1.type = dhcpNak

/-- A NAK that is taken in Requesting comes from the server that was asked. -/
theorem nak_from_selected {segment : SharedSegment ι} (selection : segment.Selection)
    {reply : SentReply ι} {input : ClientInput} {header : RawHeader} {behind : Memory}
    {answers : KernelAnswers} (takes : segment.TakesNak reply input header behind answers) :
    segment.trace.run.client.mServerAddress = inAddrBroadcast ∨
      ∃ call, reply.answers.interfaceAddress call =
        .ok segment.trace.run.client.mServerAddress := by
  obtain ⟨⟨msg, given⟩, got, refuses⟩ := takes.taken
  have numbered := numbered_reachable selection.reached
  have polling : segment.trace.run.phase ≠ .evaluating := by
    intro evaluating
    rw [ClientRun.received_evaluating evaluating] at got
    contradiction
  have newest : segment.trace.run.client.mLastMsg ∈ segment.trace.sent := by
    apply List.mem_of_getLast?
    apply numbered.last
    exact fun nothing => polling (numbered.unsent nothing).phase
  obtain ⟨valid, last⟩ := ClientRun.received_valid got
  have answered := selection.answers reply takes.sent
  have agrees := received_sent_agrees (Message.init behind) reply.message answered.sized.2
  rw [← Segment.hearing_received got] at agrees
  have type := Message.type_agrees agrees
  have xid := (Message.same_header_agrees agrees (Message.is_valid_size valid)).xid
  obtain ⟨request, present, -, same, directed⟩ := answered.refused (type.symm.trans refuses)
  have distinct := transaction_ids_nodup selection.few
  rw [← numbered.xids] at distinct
  have current : request = segment.trace.run.client.mLastMsg :=
    List.inj_on_of_nodup_map distinct present newest (same.symm.trans (xid.symm.trans last))
  rw [current, (selection.directed takes.requesting).resolve_left polling] at directed
  exact directed

/-! ## Runs -/

variable [DecidableEq ι]

theorem selection_step {segment after : SharedSegment ι} {port : ι → UInt32}
    {label : SharedLabel ι} (before : segment.Selection) (apart : segment.Apart port label)
    (taken : segment.step port label = after) : after.Selection := by
  subst taken
  cases label with
  | client turn =>
      unfold step
      dsimp only
      cases segment.input turn with
      | none => exact before
      | some input => exact selection_advance before apart input
  | request who index answers =>
      unfold step
      dsimp only
      cases present : segment.trace.sent[index]? with
      | none => exact before
      | some request =>
          have member := List.mem_of_getElem? present
          refine ⟨before.reached, before.few, before.directed, before.arrives, ?_⟩
          intro reply sent
          rcases List.mem_append.mp sent with old | new
          · exact before.answers reply old
          · obtain ⟨message, built, same⟩ := List.mem_map.mp new
            rw [← same]
            exact answers_served (before.arrives request member) member (apart request present)
              (Option.mem_toList.mp built)
  | elsewhere who datagram other answers =>
      unfold step
      dsimp only
      by_cases same : other = port who
      · rw [if_pos same]
        exact before
      · rw [if_neg same]
        exact ⟨before.reached, before.few, before.directed, before.arrives, before.answers⟩

theorem selection_reachable {segment : SharedSegment ι} {port : ι → UInt32}
    (reached : ((sharedSystem port).restrict (Apart port)).Reachable segment) :
    segment.Selection := by
  apply TransitionSystem.reachable_invariant Selection _ _ reached
  · exact fun _ started => selection_started started
  · exact fun _ _ _ before ⟨apart, taken⟩ => selection_step before apart taken

/-! ## Requests for others -/

/-- Nothing comes of the request: no reply and no lease. -/
structure NoEffect (port : ι → UInt32) (segment : SharedSegment ι) (who : ι) (index : Nat)
    (answers : HostAnswers) : Prop where
  replies : (segment.step port (.request who index answers)).replies = segment.replies
  leases : ((segment.step port (.request who index answers)).servers who).server.tables.mLeases =
    (segment.servers who).server.tables.mLeases

theorem no_effect_iff {segment : SharedSegment ι} {port : ι → UInt32} {who : ι} {index : Nat}
    {answers : HostAnswers} {request : Message}
    (present : segment.trace.sent[index]? = some request)
    (requests : (segment.arrived who request).type = dhcpRequest) :
    segment.NoEffect port who index answers ↔
      StaysOut (segment.servers who).server (segment.arrived who request) (port who) answers := by
  have served : segment.step port (.request who index answers) =
      segment.serve who (port who) request answers := by
    simp only [step, present]
  have tables : ((segment.serve who (port who) request answers).servers who).server.tables =
      (handleMessage (segment.servers who).server (segment.arrived who request) (port who)
        answers).2.tables := by
    unfold serve
    dsimp only
    rw [Function.update_self]
    rfl
  have replies : (segment.serve who (port who) request answers).replies = segment.replies ↔
      (handleMessage (segment.servers who).server (segment.arrived who request) (port who)
        answers).1 = none := by
    change segment.replies ++ _ = segment.replies ↔ _
    rw [List.append_right_eq_self, List.map_eq_nil_iff, Option.toList_eq_nil_iff]
    rfl
  rw [← stays_out_iff requests, ← replies, ← tables, ← served]
  exact ⟨fun nothing => ⟨nothing.replies, nothing.leases⟩, fun nothing => ⟨nothing.1, nothing.2⟩⟩

/-- A request for another server has no effect exactly when the server stays out of it. Where in a
run all of them do, a NAK that is taken in Requesting was sent by the server selected. -/
theorem other_servers_stay_out (port : ι → UInt32) (segment : SharedSegment ι)
    (reached : ((sharedSystem port).restrict (Apart port)).Reachable segment) :
    (∀ who index answers request, segment.trace.sent[index]? = some request →
      Foreign (segment.arrived who request) answers →
      (segment.NoEffect port who index answers ↔
        StaysOut (segment.servers who).server (segment.arrived who request) (port who) answers)) ∧
    ∀ reply input header behind answers,
      segment.TakesNak reply input header behind answers →
      segment.trace.run.client.mServerAddress ≠ inAddrBroadcast →
      ∃ call, reply.answers.interfaceAddress call =
        .ok segment.trace.run.client.mServerAddress := by
  constructor
  · intro who index answers request present foreign
    exact no_effect_iff present foreign.requests
  · intro reply input header behind answers takes directed
    exact (nak_from_selected (selection_reachable reached) takes).resolve_left directed

/-! ## Two servers -/

/-- Two servers that just started, each on the segment with its interface 1. -/
def startedShared : SharedSegment Bool where
  trace := { run := startedRun fun _ => 2, sent := [] }
  servers := fun _ => .init 0 fun _ => 0
  replies := []

theorem started_shared_started : startedShared.Started where
  trace := ⟨started_run_started fun _ => 2, rfl⟩
  servers := fun _ => ⟨_, _, rfl⟩
  replies := rfl

def bothPorts : Bool → UInt32 := fun _ => 1

def proceeds : SharedLabel Bool := .client (.alone (stepInput 0 .timeout))

theorem reply_header_length : (udpHeader portBootpClient).length = rawHeaderSize := rfl

def hears (index : Nat) : SharedLabel Bool :=
  .client (.reply (stepInput 0 .timeout) ⟨udpHeader portBootpClient, reply_header_length⟩ index
    (fun _ => 0) readyAnswers)

/-- The client discovers 192.168.0.1/24, takes its OFFER and sends its REQUEST. -/
def selectedLabels : List (SharedLabel Bool) :=
  [proceeds, proceeds, .request false 0 homeAnswers, hears 0, proceeds]

/-- The segment when the client has sent its REQUEST for 192.168.0.2 to 192.168.0.1. -/
def selectedSegment : SharedSegment Bool :=
  selectedLabels.foldl (step bothPorts) startedShared

theorem selected_reachable : (sharedSystem bothPorts).Reachable selectedSegment :=
  TransitionSystem.reachable_of_check (sharedSystem bothPorts) (step bothPorts) (fun _ _ => true)
    selectedLabels (fun _ _ _ _ => rfl) (.start started_shared_started) (by decide +kernel)

/-- A check that implies that the label keeps servers apart: what a server gets is a DISCOVER or
names the server's own address. -/
def checkApart (segment : SharedSegment Bool) : SharedLabel Bool → Bool
  | .client _ => segment.trace.sent.length < 2 ^ 32
  | .request who index answers =>
      match segment.trace.sent[index]? with
      | none => true
      | some request =>
          (segment.arrived who request).type ≠ dhcpRequest ∨
            answers.interfaceAddress 0 = .ok (segment.arrived who request).serverId
  | .elsewhere _ _ _ _ => true

theorem apart_of_check {segment : SharedSegment Bool} {label : SharedLabel Bool}
    (checked : checkApart segment label = true) : segment.Apart bothPorts label := by
  cases label with
  | client turn =>
      have left : segment.trace.sent.length < 2 ^ 32 := of_decide_eq_true checked
      exact left
  | elsewhere who datagram other answers => trivial
  | request who index answers =>
      intro request present foreign
      simp only [checkApart, present] at checked
      rcases of_decide_eq_true checked with other | own
      · exact absurd foreign.requests other
      · exact absurd own (foreign.other 0)

/-- The first server's interface without a netmask. -/
def unmaskedAnswers : HostAnswers :=
  { homeAnswers with
    interfaceNetmask := fun _ =>
      .error "Failed to get data for interface wlan0: Cannot assign requested address" }

/-- The server that was selected cannot check the request and refuses it. -/
def refusedLabels : List (SharedLabel Bool) :=
  selectedLabels ++ [.request false 1 unmaskedAnswers]

theorem other_servers_stay_out_refused :
    ∃ segment : SharedSegment Bool,
      ((sharedSystem bothPorts).restrict (Apart bothPorts)).Reachable segment ∧
      ∃ reply input header behind answers,
        segment.TakesNak reply input header behind answers ∧
        ∃ call, reply.answers.interfaceAddress call =
          .ok segment.trace.run.client.mServerAddress := by
  have reached := TransitionSystem.reachable_of_check
    ((sharedSystem bothPorts).restrict (Apart bothPorts)) (step bothPorts) checkApart refusedLabels
    (fun segment label _ checked => ⟨apart_of_check checked, rfl⟩) (.start started_shared_started)
    (by decide +kernel)
  generalize computed : refusedLabels.foldl (step bothPorts) startedShared = segment at reached
  -- one statement, so that the run is evaluated once
  have ends : segment.trace.run.client.mState = .requesting ∧
      segment.trace.run.client.mServerAddress ≠ inAddrBroadcast ∧
      segment.replies[1]?.map (fun reply =>
        (segment.trace.run.received ((stepInput 0 .timeout).hearing
          ⟨udpHeader portBootpClient, rfl⟩ reply.message (fun _ => 0) readyAnswers)).map
            fun got => got.1.type) = some (some dhcpNak) := by
    rw [← computed]
    decide +kernel
  obtain ⟨requesting, directed, refused⟩ := ends
  obtain ⟨reply, sent, nak⟩ := Option.map_eq_some_iff.mp refused
  obtain ⟨got, received, type⟩ := Option.map_eq_some_iff.mp nak
  have takes : segment.TakesNak reply (stepInput 0 .timeout) ⟨udpHeader portBootpClient, rfl⟩
      (fun _ => 0) readyAnswers := ⟨List.mem_of_getElem? sent, requesting, got, received, type⟩
  exact ⟨segment, reached, reply, _, _, _, _, takes,
    (other_servers_stay_out bothPorts segment reached).2 reply _ _ _ _ takes directed⟩

theorem selected_sent : ∃ request, selectedSegment.trace.sent[1]? = some request := by
  have isSent : selectedSegment.trace.sent[1]?.isSome = true := by
    decide +kernel
  exact Option.isSome_iff_exists.mp isSent

/-- What the second server reads of the REQUEST. -/
theorem selected_request {request : Message}
    (present : selectedSegment.trace.sent[1]? = some request) :
    (selectedSegment.arrived true request).type = dhcpRequest ∧
      (selectedSegment.arrived true request).serverId = swap32 0xC0A80001 := by
  have read : (selectedSegment.trace.sent[1]?.map fun request =>
      ((selectedSegment.arrived true request).type,
        (selectedSegment.arrived true request).serverId)) =
      some (dhcpRequest, swap32 0xC0A80001) := by
    decide +kernel
  rw [present] at read
  exact Prod.mk.inj (Option.some.inj read)

theorem selected_foreign {request : Message}
    (present : selectedSegment.trace.sent[1]? = some request) :
    Foreign (selectedSegment.arrived true request) movedAnswers := by
  obtain ⟨type, serverId⟩ := selected_request present
  constructor
  · exact type
  · rw [serverId]
    decide
  · intro call own
    rw [serverId] at own
    exact absurd (Except.ok.inj own) (by decide)

/-- What the second server sends, it sends as 10.0.0.1. -/
theorem second_reply_answers {reply : SentReply Bool}
    (sent : (selectedSegment.step bothPorts (.request true 1 movedAnswers)).replies[1]? =
      some reply) : reply.answers = movedAnswers := by
  have single : selectedSegment.replies.length = 1 := by
    decide +kernel
  obtain ⟨request, present⟩ := selected_sent
  simp only [step, present, serve] at sent
  rw [List.getElem?_append_right single.le] at sent
  obtain ⟨message, -, built⟩ := List.mem_map.mp (List.mem_of_getElem? sent)
  rw [← built]

/-- The second server, 10.0.0.1/24, gives the client 10.0.0.2 and answers with a NAK, which sends
the client back to Init. -/
theorem other_server_refuses :
    ∃ request, (sharedSystem bothPorts).Reachable selectedSegment ∧
      selectedSegment.trace.sent[1]? = some request ∧
      Foreign (selectedSegment.arrived true request) movedAnswers ∧
      ¬ selectedSegment.NoEffect bothPorts true 1 movedAnswers ∧
      ∃ reply input header behind answers,
        (selectedSegment.step bothPorts (.request true 1 movedAnswers)).TakesNak reply input header
          behind answers ∧
        selectedSegment.trace.run.client.mServerAddress = swap32 0xC0A80001 ∧
        (∀ call, reply.answers.interfaceAddress call = .ok (swap32 0x0A000001)) ∧
        ((selectedSegment.step bothPorts (.request true 1 movedAnswers)).trace.run.next
          (input.hearing header reply.message behind answers)).client.mState = .init := by
  obtain ⟨request, present⟩ := selected_sent
  have leases : ((selectedSegment.step bothPorts (.request true 1 movedAnswers)).servers
      true).server.tables.mLeases ⟨1, fun _ => 2⟩ = swap32 0x0A000002 ∧
      (selectedSegment.servers true).server.tables.mLeases ⟨1, fun _ => 2⟩ = 0 := by
    decide +kernel
  obtain ⟨granted, free⟩ := leases
  have refused : (selectedSegment.step bothPorts (.request true 1 movedAnswers)).replies[1]?.map
      (fun reply => (((selectedSegment.step bothPorts
        (.request true 1 movedAnswers)).trace.run.received
          ((stepInput 0 .timeout).hearing ⟨udpHeader portBootpClient, rfl⟩ reply.message
            (fun _ => 0) readyAnswers)).map fun got => got.1.type,
        ((selectedSegment.step bothPorts (.request true 1 movedAnswers)).trace.run.next
          ((stepInput 0 .timeout).hearing ⟨udpHeader portBootpClient, rfl⟩ reply.message
            (fun _ => 0) readyAnswers)).client.mState)) =
      some (some dhcpNak, .init) := by
    decide +kernel
  obtain ⟨reply, sent, taken⟩ := Option.map_eq_some_iff.mp refused
  obtain ⟨nak, init⟩ := Prod.mk.inj taken
  obtain ⟨got, received, type⟩ := Option.map_eq_some_iff.mp nak
  refine ⟨request, selected_reachable, present, selected_foreign present, ?_, reply, _, _, _, _,
    ⟨List.mem_of_getElem? sent, by decide +kernel, got, received, type⟩, by decide +kernel, ?_, init⟩
  · intro nothing
    have same := congrFun nothing.leases ⟨1, fun _ => 2⟩
    rw [granted, free] at same
    exact absurd same (by decide)
  · intro call
    rw [second_reply_answers sent]
    rfl

end SharedSegment

end RedroidExt.Dhcp
