import RedroidExt.Dhcp.ClientRuns
import RedroidExt.Dhcp.ServerRuns

/-!
# Clients and a server on one segment

Any number of clients, one server interface and the messages that were ever sent.
A message stays, so it can be delivered late, twice, out of order or never, and a
reply to every client. What the server gets on its other interfaces is arbitrary.
-/

namespace RedroidExt.Dhcp

open RedroidExt.Library RedroidExt.Library.ByteMemory

set_option autoImplicit false

variable {ι : Type}

structure Segment (ι : Type) where
  clients : ι → ClientRun
  server : ServerRun
  requests : List Message
  replies : List Message

/-- The IP and UDP headers of a frame, whatever they say. -/
abbrev RawHeader := { header : List UInt8 // header.length = rawHeaderSize }

/-- A client goes on by itself, which includes a poll that fails, times out or yields a frame it
does not take, or it gets the reply that was sent as number `index`. -/
inductive ClientTurn where
  | alone (input : ClientInput)
  | reply (input : ClientInput) (header : RawHeader) (index : Nat) (behind : Memory)
      (answers : KernelAnswers)

inductive SegmentLabel (ι : Type) where
  | client (who : ι) (turn : ClientTurn)
  | request (index : Nat) (answers : HostAnswers)
  | elsewhere (datagram : List UInt8) (interfaceIndex : UInt32) (answers : HostAnswers)

def ClientInput.hearing (input : ClientInput) (header : RawHeader) (reply : Message)
    (behind : Memory) (answers : KernelAnswers) : ClientInput :=
  { input with poll := .readable (some (header.val ++ reply.bytes)) behind answers }

namespace Segment

/-- What a client gets in its turn; nothing else than a reply is a message to it. -/
def input (segment : Segment ι) (who : ι) : ClientTurn → Option ClientInput
  | .alone input => if ((segment.clients who).received input).isNone then some input else none
  | .reply input header index behind answers =>
      segment.replies[index]?.map fun reply => input.hearing header reply behind answers

def serve (segment : Segment ι) (interfaceIndex : UInt32) (request : Message)
    (answers : HostAnswers) : Segment ι :=
  let served := serverStep segment.server (.datagram request.bytes interfaceIndex answers)
  { segment with server := served.2, replies := segment.replies ++ served.1.toList }

def serveElsewhere (segment : Segment ι) (datagram : List UInt8) (other : UInt32)
    (answers : HostAnswers) : Segment ι :=
  { segment with server := (serverStep segment.server (.datagram datagram other answers)).2 }

variable [DecidableEq ι]

def advance (segment : Segment ι) (who : ι) (input : ClientInput) : Segment ι :=
  let stepped := (segment.clients who).step input
  { segment with
    clients := Function.update segment.clients who stepped.2
    requests := segment.requests ++ stepped.1.toList }

theorem advance_self (segment : Segment ι) (who : ι) (input : ClientInput) :
    (segment.advance who input).clients who = ((segment.clients who).step input).2 :=
  Function.update_self _ _ _

theorem advance_other (segment : Segment ι) {who other : ι} (different : other ≠ who)
    (input : ClientInput) : (segment.advance who input).clients other = segment.clients other :=
  Function.update_of_ne different _ _

/-- A label that is not possible changes nothing. -/
def step (interfaceIndex : UInt32) (segment : Segment ι) : SegmentLabel ι → Segment ι
  | .client who turn =>
      match segment.input who turn with
      | none => segment
      | some input => segment.advance who input
  | .request index answers =>
      match segment.requests[index]? with
      | none => segment
      | some request => segment.serve interfaceIndex request answers
  | .elsewhere datagram other answers =>
      if other = interfaceIndex then segment else segment.serveElsewhere datagram other answers

/-- All processes just started and nothing was sent. -/
structure Started (macs : ι → MacAddress) (segment : Segment ι) : Prop where
  clients : ∀ who, (segment.clients who).Started ∧
    (segment.clients who).client.mInterface.mMacAddress = macs who
  server : ∃ excludeInterface behind, segment.server = .init excludeInterface behind
  requests : segment.requests = []
  replies : segment.replies = []

end Segment

def segmentSystem [DecidableEq ι] (interfaceIndex : UInt32) (macs : ι → MacAddress) :
    TransitionSystem (Segment ι) (SegmentLabel ι) where
  initial := Segment.Started macs
  step := fun segment label after => segment.step interfaceIndex label = after

namespace Segment

/-! ## What a step can do -/

/-- What a client takes of a frame with a reply is the reply, read into a new object. -/
theorem hearing_received {run : ClientRun} {own : ClientInput} {header : RawHeader}
    {reply msg : Message} {behind : Memory} {given answers : KernelAnswers}
    (got : run.received (own.hearing header reply behind given) = some (msg, answers)) :
    msg = receiveFromInterface (Message.init behind) reply.bytes := by
  unfold ClientRun.received ClientInput.hearing at got
  cases ready : run.phase with
  | evaluating => simp [ready] at got
  | polling timeout =>
      rw [ready] at got
      obtain ⟨taken, valid, pair⟩ := Option.map_eq_some_iff.mp got
      unfold DhcpClient.receiveDhcpMessage at valid
      dsimp only at valid
      rw [receive_raw_udp_payload _ _ header.property] at valid
      dsimp only at valid
      split_ifs at valid
      rw [← (Prod.mk.inj pair).1, ← Option.some.inj valid]

/-- What the client takes in its turn is a reply of the server. -/
def Hears (segment : Segment ι) (who : ι) (input : ClientInput) : Prop :=
  ∀ msg answers, (segment.clients who).received input = some (msg, answers) →
    ∃ reply ∈ segment.replies, ∃ buffer, msg = receiveFromInterface buffer reply.bytes

theorem input_hears {segment : Segment ι} {who : ι} {turn : ClientTurn} {input : ClientInput}
    (possible : segment.input who turn = some input) : segment.Hears who input := by
  intro msg answers got
  cases turn with
  | alone own =>
      unfold Segment.input at possible
      dsimp only at possible
      by_cases silent : ((segment.clients who).received own).isNone = true
      · rw [if_pos silent] at possible
        rw [← Option.some.inj possible] at got
        rw [got] at silent
        cases silent
      · rw [if_neg silent] at possible
        cases possible
  | reply own header index behind given =>
      obtain ⟨reply, present, same⟩ := Option.map_eq_some_iff.mp possible
      rw [← same] at got
      exact ⟨reply, List.mem_of_getElem? present, Message.init behind, hearing_received got⟩

variable [DecidableEq ι]

inductive Moved (interfaceIndex : UInt32) (segment : Segment ι) :
    SegmentLabel ι → Segment ι → Prop
  | stays (label : SegmentLabel ι) : Moved interfaceIndex segment label segment
  | advanced {who : ι} {turn : ClientTurn} {input : ClientInput}
      (possible : segment.input who turn = some input) :
      Moved interfaceIndex segment (.client who turn) (segment.advance who input)
  | served {index : Nat} {answers : HostAnswers} {request : Message}
      (present : request ∈ segment.requests) :
      Moved interfaceIndex segment (.request index answers)
        (segment.serve interfaceIndex request answers)
  | elsewhere {datagram : List UInt8} {other : UInt32} {answers : HostAnswers}
      (different : other ≠ interfaceIndex) :
      Moved interfaceIndex segment (.elsewhere datagram other answers)
        (segment.serveElsewhere datagram other answers)

theorem step_moved (interfaceIndex : UInt32) (segment : Segment ι) (label : SegmentLabel ι) :
    Moved interfaceIndex segment label (segment.step interfaceIndex label) := by
  cases label with
  | client who turn =>
      unfold step
      dsimp only
      cases possible : segment.input who turn with
      | none => exact .stays _
      | some input => exact .advanced possible
  | request index answers =>
      unfold step
      dsimp only
      cases present : segment.requests[index]? with
      | none => exact .stays _
      | some request => exact .served (List.mem_of_getElem? present)
  | elsewhere datagram other answers =>
      unfold step
      dsimp only
      by_cases same : other = interfaceIndex
      · rw [if_pos same]
        exact .stays _
      · rw [if_neg same]
        exact .elsewhere same

end Segment

/-! ## Replies carry leases -/

/-- What a reply says in the long run: an OFFER and an ACK carry the lease of the client whose
hardware address they repeat. -/
structure Leased (tables : LeaseTables) (interfaceIndex : UInt32) (reply : Message) : Prop where
  sized : 240 ≤ reply.mSize ∧ reply.mSize ≤ Message.capacity
  leased : reply.type = dhcpOffer ∨ reply.type = dhcpAck →
    reply.yiaddr ≠ 0 ∧ tables.mLeases ⟨interfaceIndex, reply.chaddr⟩ = reply.yiaddr

theorem leased_keeps {tables after : LeaseTables} {interfaceIndex : UInt32} {reply : Message}
    (before : Leased tables interfaceIndex reply)
    (keeps : ∀ lease, tables.mLeases lease ≠ 0 → after.mLeases lease = tables.mLeases lease) :
    Leased after interfaceIndex reply where
  sized := before.sized
  leased := by
    intro grants
    obtain ⟨nonzero, lease⟩ := before.leased grants
    refine ⟨nonzero, ?_⟩
    rw [keeps _ (by rw [lease]; exact nonzero)]
    exact lease

theorem sent_leased {state : ServerRun} {datagram : List UInt8} {interfaceIndex : UInt32}
    {answers : HostAnswers} {reply : Message}
    (sent : (serverStep state (.datagram datagram interfaceIndex answers)).1 = some reply) :
    Leased (serverStep state (.datagram datagram interfaceIndex answers)).2.server.tables
      interfaceIndex reply := by
  have replied := handle_message_reply state.server (state.receive datagram) interfaceIndex answers
    sent
  cases replied with
  | offer _ _ nonzero granted =>
      have fields := granted_fields granted
      refine ⟨fields.sized, fun _ => ?_⟩
      rw [fields.yiaddr, fields.chaddr]
      exact ⟨nonzero, rfl⟩
  | ack _ _ nonzero lease granted =>
      have fields := granted_fields granted
      refine ⟨fields.sized, fun _ => ?_⟩
      rw [fields.yiaddr, fields.chaddr]
      exact ⟨nonzero, lease⟩
  | nak _ _ _ refused sized =>
      refine ⟨sized, fun grants => ?_⟩
      rw [refused] at grants
      exact absurd grants (by decide)

namespace Segment

def RepliesLeased (interfaceIndex : UInt32) (segment : Segment ι) : Prop :=
  ∀ reply ∈ segment.replies, Leased segment.server.server.tables interfaceIndex reply

/-- A client reads the type and the header of some reply. -/
theorem heard_reply {interfaceIndex : UInt32} {segment : Segment ι} {who : ι} {input : ClientInput}
    (leased : segment.RepliesLeased interfaceIndex) (hears : segment.Hears who input)
    {msg : Message} {answers : KernelAnswers}
    (got : (segment.clients who).received input = some (msg, answers)) :
    ∃ reply ∈ segment.replies, msg.type = reply.type ∧ Message.SameHeader msg reply := by
  obtain ⟨reply, member, buffer, received⟩ := hears msg answers got
  have agrees := received_sent_agrees buffer reply (leased reply member).sized.2
  rw [← received] at agrees
  have large := Message.is_valid_size (ClientRun.received_valid got).1
  exact ⟨reply, member, Message.type_agrees agrees, Message.same_header_agrees agrees large⟩

theorem mem_sent {sent : Option Message} {message : Message} {before : List Message}
    (member : message ∈ before ++ sent.toList) : message ∈ before ∨ sent = some message := by
  rcases List.mem_append.mp member with old | new
  · exact .inl old
  · exact .inr (Option.mem_toList.mp new)

variable [DecidableEq ι]

theorem replies_leased_step {interfaceIndex : UInt32} {segment after : Segment ι}
    {label : SegmentLabel ι} (before : segment.RepliesLeased interfaceIndex)
    (moved : Moved interfaceIndex segment label after) : after.RepliesLeased interfaceIndex := by
  cases moved with
  | stays => exact before
  | advanced possible => exact before
  | @served index answers request present =>
      intro reply member
      rcases mem_sent member with old | new
      · exact leased_keeps (before reply old) fun _ held => server_step_keeps _ _ held
      · exact sent_leased new
  | elsewhere different =>
      intro reply member
      exact leased_keeps (before reply member) fun _ held => server_step_keeps _ _ held

end Segment

/-! ## A concrete segment -/

/-- Clients and a server that just started. -/
def startedSegment (macs : ι → MacAddress) : Segment ι where
  clients := fun who => startedRun (macs who)
  server := .init 0 fun _ => 0
  requests := []
  replies := []

theorem started_segment_started (macs : ι → MacAddress) :
    (startedSegment macs).Started macs where
  clients := fun who => ⟨started_run_started (macs who), rfl⟩
  server := ⟨_, _, rfl⟩
  requests := rfl
  replies := rfl

/-- The client goes on without a message. -/
def goesOn (who : ι) : SegmentLabel ι := .client who (.alone (stepInput 0 .timeout))

/-- The client gets a reply. -/
def getsReply (who : ι) (index : Nat) : SegmentLabel ι :=
  .client who (.reply (stepInput 0 .timeout) ⟨udpHeader portBootpClient, rfl⟩ index (fun _ => 0)
    readyAnswers)

end RedroidExt.Dhcp
