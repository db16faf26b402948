import RedroidExt.Dhcp.Halted
import RedroidExt.Dhcp.HeardReplies
import RedroidExt.Dhcp.RetrySchedule
import RedroidExt.Dhcp.ServerSelection

/-!
# Recovery

Wherever a run has led a client whose interface is up, timeouts alone take it back
to Selecting, and one exchange with the server from there to Bound. A client whose
interface is down gets nowhere.
-/

namespace RedroidExt.Dhcp

open RedroidExt.Library RedroidExt.Library.ByteMemory

set_option autoImplicit false

namespace ClientRun

/-! ## Back to Selecting -/

/-- Where the client gets in so many steps when every poll times out. -/
inductive Drifts (run : ClientRun) : Nat → ClientRun → Prop
  | stops : Drifts run 0 run
  | goes {rounds : Nat} {state : ClientRun} {input : ClientInput} (before : Drifts run rounds state)
      (timeout : input.poll = .timeout) : Drifts run (rounds + 1) (state.next input)

theorem drifts_trans {run middle after : ClientRun} {first second : Nat}
    (before : Drifts run first middle) (behind : Drifts middle second after) :
    Drifts run (first + second) after := by
  induction behind with
  | stops => exact before
  | goes _ timeout ih => exact .goes ih timeout

theorem drifts_reachable {run after : ClientRun} {rounds : Nat}
    (reached : clientSystem.Reachable run) (drifts : Drifts run rounds after) :
    clientSystem.Reachable after := by
  induction drifts with
  | stops => exact reached
  | goes _ timeout ih => exact .next ih rfl

theorem drifts_of_inputs (inputs : List ClientInput)
    (timeouts : ∀ input ∈ inputs, input.poll = .timeout) {run : ClientRun} :
    Drifts run inputs.length (inputs.foldl next run) := by
  induction inputs generalizing run with
  | nil => exact .stops
  | cons input rest ih =>
      have first : Drifts run 1 (run.next input) := .goes .stops (timeouts input List.mem_cons_self)
      have later : Drifts (run.next input) rest.length (rest.foldl next (run.next input)) :=
        ih fun other member => timeouts other (List.mem_cons_of_mem _ member)
      rw [List.length_cons, Nat.add_comm]
      exact drifts_trans first later

/-- Nothing but the waiting happens to the lease and the host. -/
theorem silent_same_lease {run : ClientRun} {input : ClientInput}
    (silent : run.received input = none) :
    DhcpClient.SameLease run.client (run.next input).client := by
  have stepped := step_stepped run input
  unfold next
  generalize (run.step input).1 = sent at stepped
  generalize (run.step input).2 = after at stepped ⊢
  cases stepped with
  | waited phase nothing => exact ⟨rfl, rfl, rfl, rfl⟩
  | received phase got outcome => exact nomatch got.symm.trans silent
  | evaluated phase ready outcome => exact DhcpClient.evaluated_same_lease outcome

/-- A wait that times out ends in front of the next evaluation. -/
theorem drifts_to_evaluating (run : ClientRun) :
    ∃ rounds ≤ 1, ∃ after, Drifts run rounds after ∧ after.phase = .evaluating ∧
      after.client = run.client := by
  cases ready : run.phase with
  | evaluating => exact ⟨0, Nat.zero_le _, run, .stops, ready, rfl⟩
  | polling timeout =>
      have silent : (stepInput 0 .timeout).poll = .timeout := rfl
      refine ⟨1, Nat.le_refl _, _, .goes .stops silent, ?_⟩
      unfold next step
      rw [ready]
      exact ⟨rfl, rfl⟩

theorem next_evaluates {run : ClientRun} (ready : run.phase = .evaluating) (input : ClientInput) :
    (run.next input).client =
        (run.client.evaluate (run.clock + input.first)
          (run.clock + input.first + input.second)).2 ∧
      (run.next input).phase = (run.next input).client.enterWait input.adjustment := by
  unfold next step
  rw [ready]
  exact ⟨rfl, rfl⟩

/-- An evaluation that moves to another state is followed by the next one at once. -/
theorem moves_at_once {run : ClientRun} (ready : run.phase = .evaluating) {input : ClientInput}
    {client : DhcpClient} {state : ClientState}
    (moves : (run.client.evaluate (run.clock + input.first)
      (run.clock + input.first + input.second)).2 = client.setNextState state) :
    (run.next input).client.mState = state ∧ (run.next input).phase = .evaluating := by
  rcases next_evaluates ready input with ⟨evaluated, phase⟩
  rw [moves] at evaluated
  rw [phase, evaluated]
  exact ⟨rfl, rfl⟩

/-- Every reachable client outside of Init is in a stay. -/
theorem stay_of_reachable {run : ClientRun} (reached : clientSystem.Reachable run)
    (started : run.client.mState ≠ .init) : ∃ sent, Stay run.client.mState sent run := by
  induction reached with
  | start first => exact absurd first.mState started
  | @next run after input reached taken ih =>
      rw [← show run.next input = after from taken] at started ⊢
      by_cases same : run.client.mState = (run.next input).client.mState
      · rw [← same] at started
        rcases ih started with ⟨sent, stay⟩
        rw [← same]
        exact ⟨_, .stayed stay same.symm⟩
      · exact ⟨[], .entered reached same rfl⟩

theorem steps_left_le (sent : Nat) (phase : Phase) : stepsLeft sent phase ≤ 12 := by
  cases phase with
  | evaluating =>
      simp only [stepsLeft]
      omega
  | polling timeout =>
      simp only [stepsLeft]
      omega

theorem drifts_given_up {run : ClientRun} (reached : clientSystem.Reachable run)
    (givesUp : GivesUp run.client.mState) :
    ∃ rounds ≤ 12, ∃ after, Drifts run rounds after ∧ after.client.mState = .init := by
  have started : run.client.mState ≠ .init := by
    intro init
    exact nomatch init ▸ givesUp
  rcases stay_of_reachable reached started with ⟨sent, stay⟩
  have timeouts : ∀ input ∈ List.replicate 12 (stepInput 0 .timeout), input.poll = .timeout := by
    intro input member
    rw [List.eq_of_mem_replicate member]
    rfl
  have enough : stepsLeft sent.length run.phase ≤
      (List.replicate 12 (stepInput 0 .timeout)).length := by
    rw [List.length_replicate]
    exact steps_left_le _ _
  rcases stay_ends givesUp _ timeouts stay enough with ⟨first, rest, split, init⟩
  have length := congrArg List.length split
  rw [List.length_replicate, List.length_append] at length
  refine ⟨first.length, by omega, _, drifts_of_inputs first ?_, init⟩
  intro input member
  apply timeouts
  rw [split]
  exact List.mem_append_left _ member

/-- In front of an evaluation in Selecting. -/
structure Discovering (run : ClientRun) : Prop where
  ready : run.phase = .evaluating
  selecting : run.client.mState = .selecting

theorem drifts_from_init {run : ClientRun} (init : run.client.mState = .init) :
    ∃ rounds ≤ 2, ∃ after, Drifts run rounds after ∧ after.Discovering := by
  rcases drifts_to_evaluating run with ⟨rounds, few, ready, drifts, evaluating, same⟩
  rw [← same] at init
  have moves : (ready.client.evaluate (ready.clock + (stepInput 0 .timeout).first)
      (ready.clock + (stepInput 0 .timeout).first + (stepInput 0 .timeout).second)).2 =
        ready.client.setNextState .selecting := by
    unfold DhcpClient.evaluate
    rw [init]
  rcases moves_at_once evaluating moves with ⟨selecting, phase⟩
  exact ⟨rounds + 1, by omega, _, .goes drifts rfl, phase, selecting⟩

theorem drifts_from_given_up {run : ClientRun} (reached : clientSystem.Reachable run)
    (givesUp : GivesUp run.client.mState) :
    ∃ rounds ≤ 14, ∃ after, Drifts run rounds after ∧ after.Discovering := by
  rcases drifts_given_up reached givesUp with ⟨first, few, middle, drifts, init⟩
  rcases drifts_from_init init with ⟨second, fewer, after, later, discovering⟩
  exact ⟨first + second, by omega, after, drifts_trans drifts later, discovering⟩

/-- A timer expires, once the clock reading is late enough. -/
theorem drifts_renewing {run : ClientRun} (reached : clientSystem.Reachable run)
    (renewing : run.client.mState = .renewing) :
    ∃ rounds ≤ 16, ∃ after, Drifts run rounds after ∧ after.Discovering := by
  rcases drifts_to_evaluating run with ⟨first, few, ready, drifts, evaluating, same⟩
  rw [← same] at renewing
  let late : ClientInput := stepInput ready.client.mT2.mExpires .timeout
  have expired : ready.client.mT2.expired (ready.clock + late.first) = true :=
    decide_eq_true (Nat.le_add_left _ _)
  have moves : (ready.client.evaluate (ready.clock + late.first)
      (ready.clock + late.first + late.second)).2 = ready.client.setNextState .rebinding := by
    unfold DhcpClient.evaluate
    rw [renewing]
    dsimp only
    rw [if_pos expired]
  rcases moves_at_once evaluating moves with ⟨rebinding, -⟩
  have drifted : Drifts run (first + 1) (ready.next late) := .goes drifts rfl
  rcases drifts_from_given_up (drifts_reachable reached drifted) (rebinding ▸ .rebinding) with
    ⟨second, fewer, after, later, discovering⟩
  exact ⟨first + 1 + second, by omega, after, drifts_trans drifted later, discovering⟩

theorem drifts_bound {run : ClientRun} (reached : clientSystem.Reachable run)
    (bound : run.client.mState = .bound) :
    ∃ rounds ≤ 18, ∃ after, Drifts run rounds after ∧ after.Discovering := by
  rcases drifts_to_evaluating run with ⟨first, few, ready, drifts, evaluating, same⟩
  rw [← same] at bound
  let late : ClientInput := stepInput ready.client.mT1.mExpires .timeout
  have expired : ready.client.mT1.expired (ready.clock + late.first) = true :=
    decide_eq_true (Nat.le_add_left _ _)
  have moves : (ready.client.evaluate (ready.clock + late.first)
      (ready.clock + late.first + late.second)).2 = ready.client.setNextState .renewing := by
    unfold DhcpClient.evaluate
    rw [bound]
    dsimp only
    rw [if_pos expired]
  rcases moves_at_once evaluating moves with ⟨renewing, -⟩
  have drifted : Drifts run (first + 1) (ready.next late) := .goes drifts rfl
  rcases drifts_renewing (drifts_reachable reached drifted) renewing with
    ⟨second, fewer, after, later, discovering⟩
  exact ⟨first + 1 + second, by omega, after, drifts_trans drifted later, discovering⟩

theorem drifts_to_selecting {run : ClientRun} (reached : clientSystem.Reachable run) :
    ∃ rounds ≤ 18, ∃ after, Drifts run rounds after ∧ after.Discovering := by
  have widened : ∀ {bound : Nat}, bound ≤ 18 →
      (∃ rounds ≤ bound, ∃ after, Drifts run rounds after ∧ after.Discovering) →
      ∃ rounds ≤ 18, ∃ after, Drifts run rounds after ∧ after.Discovering := by
    rintro bound small ⟨rounds, few, found⟩
    exact ⟨rounds, Nat.le_trans few small, found⟩
  cases state : run.client.mState with
  | init => exact widened (by decide) (drifts_from_init state)
  | selecting =>
      rcases drifts_to_evaluating run with ⟨rounds, few, ready, drifts, evaluating, same⟩
      rw [← same] at state
      exact widened (by decide) ⟨rounds, few, ready, drifts, evaluating, state⟩
  | requesting => exact widened (by decide) (drifts_from_given_up reached (state ▸ .requesting))
  | bound => exact drifts_bound reached state
  | renewing => exact widened (by decide) (drifts_renewing reached state)
  | rebinding => exact widened (by decide) (drifts_from_given_up reached (state ▸ .rebinding))

theorem drifts_same_lease {run after : ClientRun} {rounds : Nat}
    (drifts : Drifts run rounds after) : DhcpClient.SameLease run.client after.client := by
  induction drifts with
  | stops => exact ⟨rfl, rfl, rfl, rfl⟩
  | @goes rounds state input before timeout ih =>
      have step := silent_same_lease (received_timeout timeout : state.received input = none)
      constructor
      · exact step.mInterface.trans ih.mInterface
      · exact step.mRequestAddress.trans ih.mRequestAddress
      · exact step.mServerAddress.trans ih.mServerAddress
      · exact step.host.trans ih.host

end ClientRun

theorem increased_waits {timeout : UInt32} (schedule : OnSchedule timeout) :
    DhcpClient.increasedTimeout timeout ≠ kNoTimeout := by
  rcases increased_on_schedule schedule with ⟨doublings, few, value⟩
  intro none
  rw [none] at value
  have positive : 0 < 4000 * 2 ^ doublings := by positivity
  rw [← value] at positive
  exact absurd positive (by decide)

namespace DhcpClient

theorem evaluate_selecting {client : DhcpClient} (selecting : client.mState = .selecting)
    (now later : Nat) :
    client.evaluate now later =
      (some (Message.discover client.mInterface.mMacAddress client.sNextTransactionId),
        client.afterSending
          (Message.discover client.mInterface.mMacAddress client.sNextTransactionId)
          (increasedTimeout client.mNextTimeout)) := by
  unfold evaluate
  rw [selecting]
  dsimp only
  rw [increase_timeout_eq]
  rfl

theorem evaluate_requesting {client : DhcpClient} (requesting : client.mState = .requesting)
    (fresh : client.mNextTimeout = kNoTimeout) (now later : Nat) :
    client.evaluate now later =
      (some (Message.request client.mInterface.mMacAddress client.mRequestAddress
          client.mServerAddress client.sNextTransactionId),
        client.afterSending
          (Message.request client.mInterface.mMacAddress client.mRequestAddress
            client.mServerAddress client.sNextTransactionId)
          (increasedTimeout client.mNextTimeout)) := by
  have more : ¬ client.mNextTimeout ≥ kMaxTimeout := by
    rw [fresh]
    decide
  unfold evaluate
  rw [requesting]
  dsimp only
  rw [if_neg more, increase_timeout_eq]
  rfl

end DhcpClient

/-! ## The exchange -/

namespace Segment

variable {ι : Type}

/-- Only one client went on, and the server kept every lease that it had. -/
structure OnlyMoved (who : ι) (before after : Segment ι) : Prop where
  others : ∀ other, other ≠ who → after.clients other = before.clients other
  exclude : after.server.server.mExcludeInterface = before.server.server.mExcludeInterface
  leases : ∀ lease, before.server.server.tables.mLeases lease ≠ 0 →
    after.server.server.tables.mLeases lease = before.server.server.tables.mLeases lease

section Moves

variable {who : ι} {segment : Segment ι}

theorem only_moved_trans {middle after : Segment ι} (first : segment.OnlyMoved who middle)
    (second : middle.OnlyMoved who after) : segment.OnlyMoved who after where
  others := fun other different =>
    (second.others other different).trans (first.others other different)
  exclude := second.exclude.trans first.exclude
  leases := by
    intro lease held
    have kept := first.leases lease held
    rw [← kept]
    apply second.leases lease
    rw [kept]
    exact held

theorem only_moved_serve (interfaceIndex : UInt32) (request : Message) (answers : HostAnswers) :
    segment.OnlyMoved who (segment.serve interfaceIndex request answers) where
  others := fun _ _ => rfl
  exclude := (server_step_tables _ _).2
  leases := fun _ held => server_step_keeps _ _ held

variable [DecidableEq ι]

theorem only_moved_advance (input : ClientInput) :
    segment.OnlyMoved who (segment.advance who input) where
  others := fun _ different => segment.advance_other different input
  exclude := rfl
  leases := fun _ _ => rfl

variable {interfaceIndex : UInt32} {macs : ι → MacAddress}

theorem steps_alone {input : ClientInput}
    (silent : (segment.clients who).received input = none) :
    (audibleSystem interfaceIndex macs).step segment (.client who (.alone input))
      (segment.advance who input) := by
  refine ⟨trivial, ?_⟩
  change segment.step interfaceIndex (.client who (.alone input)) = _
  unfold step Segment.input
  dsimp only
  rw [silent]
  rfl

theorem steps_request {index : Nat} {request : Message}
    (present : segment.requests[index]? = some request) (answers : HostAnswers) :
    (audibleSystem interfaceIndex macs).step segment (.request index answers)
      (segment.serve interfaceIndex request answers) := by
  refine ⟨trivial, ?_⟩
  change segment.step interfaceIndex (.request index answers) = _
  unfold step
  dsimp only
  rw [present]

theorem steps_reply {index : Nat} {reply : Message}
    (present : segment.replies[index]? = some reply)
    (up : (segment.clients who).client.host.isUp = true) :
    (audibleSystem interfaceIndex macs).step segment (getsReply who index)
      (segment.advance who (ClientRun.hearing reply)) := by
  refine ⟨up, ?_⟩
  change segment.step interfaceIndex (getsReply who index) = _
  unfold step getsReply Segment.input
  dsimp only
  rw [present]
  rfl

/-- The client and the server go on, the server with these answers of its host. -/
def AnsweredBy (answers : HostAnswers) : SegmentLabel ι → Prop
  | .client _ _ => True
  | .request _ given => given = answers
  | .elsewhere _ _ _ => False

/-- One client and the server get there in so many steps, while nobody else does anything. -/
def GetsTo (interfaceIndex : UInt32) (macs : ι → MacAddress) (who : ι) (answers : HostAnswers)
    (segment : Segment ι) (steps : Nat) (after : Segment ι) : Prop :=
  ∃ labels : List (SegmentLabel ι), labels.length ≤ steps ∧
    (audibleSystem interfaceIndex macs).Takes segment labels after ∧
    (∀ label ∈ labels, AnsweredBy answers label) ∧ segment.OnlyMoved who after

theorem gets_to_one {answers : HostAnswers} {after : Segment ι} {label : SegmentLabel ι}
    (taken : (audibleSystem interfaceIndex macs).step segment label after)
    (answered : AnsweredBy answers label) (moved : segment.OnlyMoved who after) :
    segment.GetsTo interfaceIndex macs who answers 1 after := by
  refine ⟨[label], Nat.le_refl 1, .goes .stops taken, ?_, moved⟩
  intro other member
  rw [List.mem_singleton.mp member]
  exact answered

theorem gets_to_trans {answers : HostAnswers} {middle after : Segment ι} {first second : Nat}
    (before : segment.GetsTo interfaceIndex macs who answers first middle)
    (behind : middle.GetsTo interfaceIndex macs who answers second after) :
    segment.GetsTo interfaceIndex macs who answers (first + second) after := by
  rcases before with ⟨early, few, path, answered, moved⟩
  rcases behind with ⟨late, fewLate, pathLate, answeredLate, movedLate⟩
  refine ⟨early ++ late, ?_, TransitionSystem.takes_append path pathLate, ?_,
    only_moved_trans moved movedLate⟩
  · rw [List.length_append]
    omega
  · intro label member
    rcases List.mem_append.mp member with first | second
    · exact answered label first
    · exact answeredLate label second

/-- Timeouts take the client along its drift, and nothing else changes. -/
theorem takes_drift (interfaceIndex : UInt32) (macs : ι → MacAddress) (answers : HostAnswers)
    {after : ClientRun} {rounds : Nat} (drifts : (segment.clients who).Drifts rounds after) :
    ∃ later, segment.GetsTo interfaceIndex macs who answers rounds later ∧
      later.clients who = after ∧ later.server = segment.server := by
  induction drifts with
  | stops =>
      have still : segment.OnlyMoved who segment := ⟨fun _ _ => rfl, rfl, fun _ _ => rfl⟩
      have unlabelled : ∀ label ∈ ([] : List (SegmentLabel ι)), AnsweredBy answers label :=
        fun _ member => absurd member List.not_mem_nil
      exact ⟨segment, ⟨[], Nat.le_refl 0, .stops, unlabelled, still⟩, rfl, rfl⟩
  | @goes rounds state input before timeout ih =>
      rcases ih with ⟨later, path, reached, server⟩
      have silent : (later.clients who).received input = none :=
        ClientRun.received_timeout timeout
      have goesOn : later.GetsTo interfaceIndex macs who answers 1 (later.advance who input) :=
        gets_to_one (steps_alone silent) trivial (only_moved_advance input)
      refine ⟨later.advance who input, gets_to_trans path goesOn, ?_, server⟩
      rw [advance_self, reached]
      rfl

/-- The client has sent a message, and its answer can be waited for. -/
structure Asked (who : ι) (message : Message) (segment : Segment ι) : Prop where
  awaits : (segment.clients who).Awaits message
  sent : ∃ index : Nat, segment.requests[index]? = some message

/-- An evaluation that sends a message. -/
theorem asks {message : Message} (ready : (segment.clients who).phase = .evaluating)
    (evaluated : (segment.clients who).client.evaluate (segment.clients who).clock
        (segment.clients who).clock =
      (some message, (segment.clients who).client.afterSending message
        (DhcpClient.increasedTimeout (segment.clients who).client.mNextTimeout)))
    (waits : DhcpClient.increasedTimeout (segment.clients who).client.mNextTimeout ≠ kNoTimeout) :
    (segment.advance who (stepInput 0 .timeout)).Asked who message ∧
      ((segment.advance who (stepInput 0 .timeout)).clients who).client =
        (segment.clients who).client.afterSending message
          (DhcpClient.increasedTimeout (segment.clients who).client.mNextTimeout) := by
  have stepped : (segment.clients who).step (stepInput 0 .timeout) =
      (some message,
        { segment.clients who with
          client := (segment.clients who).client.afterSending message
            (DhcpClient.increasedTimeout (segment.clients who).client.mNextTimeout)
          phase := ((segment.clients who).client.afterSending message
            (DhcpClient.increasedTimeout (segment.clients who).client.mNextTimeout)).enterWait
              ⟨0, by decide⟩
          clock := (segment.clients who).clock }) := by
    unfold ClientRun.step
    rw [ready]
    dsimp only
    rw [show (segment.clients who).clock + (stepInput 0 .timeout).first +
      (stepInput 0 .timeout).second = (segment.clients who).clock from rfl,
      show (segment.clients who).clock + (stepInput 0 .timeout).first =
        (segment.clients who).clock from rfl, evaluated]
    rfl
  constructor
  · constructor
    · rw [advance_self, stepped]
      constructor
      · exact ⟨_, if_neg waits⟩
      · rfl
    · refine ⟨segment.requests.length, ?_⟩
      unfold advance
      rw [stepped]
      exact List.getElem?_concat_length
  · rw [advance_self, stepped]

/-- The client goes on by itself. -/
theorem gets_to_asked (macs : ι → MacAddress) (answers : HostAnswers) :
    segment.GetsTo interfaceIndex macs who answers 1
      (segment.advance who (stepInput 0 .timeout)) :=
  gets_to_one (steps_alone (ClientRun.received_timeout rfl)) trivial (only_moved_advance _)

/-- The server gets the message and the client its answer. -/
theorem exchanges (macs : ι → MacAddress) {request reply : Message} {answers : HostAnswers}
    (asked : segment.Asked who request)
    (sent : (serverStep segment.server (.datagram request.bytes interfaceIndex answers)).1 =
      some reply) (up : (segment.clients who).client.host.isUp = true) :
    ∃ after, segment.GetsTo interfaceIndex macs who answers 2 after ∧
      after.clients who = ((segment.clients who).step (ClientRun.hearing reply)).2 ∧
      after.server = (serverStep segment.server (.datagram request.bytes interfaceIndex answers)).2
      := by
  rcases asked.sent with ⟨index, present⟩
  have replied : (segment.serve interfaceIndex request answers).replies[segment.replies.length]? =
      some reply := by
    unfold serve
    dsimp only
    rw [sent]
    exact List.getElem?_concat_length
  have served : segment.GetsTo interfaceIndex macs who answers 1
      (segment.serve interfaceIndex request answers) :=
    gets_to_one (steps_request present answers) rfl
      (only_moved_serve interfaceIndex request answers)
  have heard : (segment.serve interfaceIndex request answers).GetsTo interfaceIndex macs who
      answers 1 ((segment.serve interfaceIndex request answers).advance who
        (ClientRun.hearing reply)) :=
    gets_to_one (steps_reply replied up) trivial (only_moved_advance _)
  exact ⟨_, gets_to_trans served heard, advance_self _ _ _, rfl⟩

/-- What the server needs to take a client in. -/
structure Serves (interfaceIndex : UInt32) (macAddress : MacAddress) (answers : HostAnswers)
    (state : ServerRun) : Prop where
  known : interfaceIndex ≠ 0
  wanted : state.server.mExcludeInterface ≠ interfaceIndex
  succeed : answers.Succeed
  room : ∃ offer, (getOfferAddress state.server.tables interfaceIndex macAddress
    (answers.interfaceAddress 0) (answers.interfaceNetmask 0)).1 = .ok offer

/-- The client holds its lease, and only it moved. -/
structure Rebound (interfaceIndex : UInt32) (macAddress : MacAddress) (who : ι)
    (before after : Segment ι) : Prop where
  bound : (after.clients who).client.mState = .bound
  leased : after.server.server.tables.mLeases ⟨interfaceIndex, macAddress⟩ ≠ 0
  address : (after.clients who).client.host.address =
    after.server.server.tables.mLeases ⟨interfaceIndex, macAddress⟩
  moved : before.OnlyMoved who after

/-- DISCOVER and OFFER. -/
theorem takes_offered (macs : ι → MacAddress) {answers : HostAnswers}
    (reached : clientSystem.Reachable (segment.clients who))
    (discovering : (segment.clients who).Discovering)
    (up : (segment.clients who).client.host.isUp = true)
    (serves : Serves interfaceIndex (segment.clients who).client.mInterface.mMacAddress answers
      segment.server) :
    ∃ after lease, segment.GetsTo interfaceIndex macs who answers 3 after ∧
      (after.clients who).AboutToRequest lease ∧ lease ≠ 0 ∧
      after.server.server.tables.mLeases
        ⟨interfaceIndex, (segment.clients who).client.mInterface.mMacAddress⟩ = lease ∧
      (after.clients who).client.host.isUp = true ∧
      (after.clients who).client.mInterface = (segment.clients who).client.mInterface := by
  have unbound : (segment.clients who).client.mState ≠ .bound := by
    rw [discovering.selecting]
    decide
  have waits := increased_waits (ClientRun.scheduled_reachable reached unbound).1
  have evaluated := DhcpClient.evaluate_selecting discovering.selecting
    (segment.clients who).clock (segment.clients who).clock
  rcases asks discovering.ready evaluated waits with ⟨asked, client⟩
  have sender := Message.discover_from_client (segment.clients who).client.mInterface.mMacAddress
    (segment.clients who).client.sNextTransactionId
  rcases discover_answered sender (Message.discover_type _ _)
    serves.known serves.wanted serves.succeed serves.room with
    ⟨reply, lease, sent, leased, nonzero, answer⟩
  have upThen : ((segment.advance who (stepInput 0 .timeout)).clients who).client.host.isUp =
      true := by
    rw [client]
    exact up
  rcases exchanges macs asked sent upThen with ⟨after, path, heard, server⟩
  have selecting : ((segment.advance who (stepInput 0 .timeout)).clients who).client.mState =
      .selecting := by
    rw [client]
    exact discovering.selecting
  rcases ClientRun.takes_offer asked.awaits selecting answer with ⟨about, host, interface⟩
  rw [← heard] at about host interface
  refine ⟨after, lease, gets_to_trans (gets_to_asked macs answers) path, about, nonzero, ?_, ?_,
    ?_⟩
  · rw [server]
    exact leased
  · rw [host]
    exact upThen
  · rw [interface, client]
    rfl

/-- REQUEST and ACK. -/
theorem takes_acknowledged (macs : ι → MacAddress) {answers : HostAnswers} {lease : InAddr}
    (about : (segment.clients who).AboutToRequest lease) (nonzero : lease ≠ 0)
    (up : (segment.clients who).client.host.isUp = true) (known : interfaceIndex ≠ 0)
    (wanted : segment.server.server.mExcludeInterface ≠ interfaceIndex)
    (succeed : answers.Succeed)
    (leased : segment.server.server.tables.mLeases
      ⟨interfaceIndex, (segment.clients who).client.mInterface.mMacAddress⟩ = lease) :
    ∃ after, segment.GetsTo interfaceIndex macs who answers 3 after ∧
      segment.Rebound interfaceIndex (segment.clients who).client.mInterface.mMacAddress who after
      := by
  rcases about with ⟨ready, requesting, fresh, rfl⟩
  have waits : DhcpClient.increasedTimeout (segment.clients who).client.mNextTimeout ≠
      kNoTimeout := by
    rw [fresh]
    decide
  have evaluated := DhcpClient.evaluate_requesting requesting fresh (segment.clients who).clock
    (segment.clients who).clock
  rcases asks ready evaluated waits with ⟨asked, client⟩
  have sender := Message.request_from_client (segment.clients who).client.mInterface.mMacAddress
    (segment.clients who).client.mRequestAddress (segment.clients who).client.mServerAddress
    (segment.clients who).client.sNextTransactionId
  have complete := Message.complete_of_records (Message.request_records
    (segment.clients who).client.mInterface.mMacAddress
    (segment.clients who).client.mRequestAddress (segment.clients who).client.mServerAddress
    (segment.clients who).client.sNextTransactionId) optRequestedIp
  have requested := Message.request_requested_ip
    (segment.clients who).client.mInterface.mMacAddress
    (segment.clients who).client.mRequestAddress (segment.clients who).client.mServerAddress
    (segment.clients who).client.sNextTransactionId
  rcases request_answered sender
    (Message.request_type _ _ _ _) complete known wanted succeed
    (by rw [requested]; exact nonzero) (by rw [requested]; exact leased) with
    ⟨reply, sent, answer⟩
  have upThen : ((segment.advance who (stepInput 0 .timeout)).clients who).client.host.isUp =
      true := by
    rw [client]
    exact up
  rcases exchanges macs asked sent upThen with ⟨after, path, heard, server⟩
  have waiting : ((segment.advance who (stepInput 0 .timeout)).clients who).client.mState =
      .requesting := by
    rw [client]
    exact requesting
  rcases ClientRun.takes_ack asked.awaits waiting answer with ⟨bound, address⟩
  rw [← heard] at bound address
  have whole := gets_to_trans (gets_to_asked macs answers) path
  rcases whole with ⟨labels, few, taken, answered, onlyMoved⟩
  have kept := onlyMoved.leases
    ⟨interfaceIndex, (segment.clients who).client.mInterface.mMacAddress⟩
    (by rw [leased]; exact nonzero)
  rw [leased] at kept
  refine ⟨after, ⟨labels, few, taken, answered, onlyMoved⟩, bound, ?_, ?_, onlyMoved⟩
  · rw [kept]
    exact nonzero
  · rw [address, kept, requested]

end Moves

/-! ## Whether a client recovers -/

/-- The clients run as they do alone, each with its own hardware address. -/
structure RunAlone (macs : ι → MacAddress) (segment : Segment ι) : Prop where
  reachable : ∀ who, clientSystem.Reachable (segment.clients who)
  identity : ∀ who, (segment.clients who).client.mInterface.mMacAddress = macs who

theorem run_alone_started {macs : ι → MacAddress} {segment : Segment ι}
    (started : segment.Started macs) :
    segment.RunAlone macs where
  reachable := fun who => .start (started.clients who).1
  identity := fun who => (started.clients who).2

section Recovers

variable [DecidableEq ι] {interfaceIndex : UInt32} {macs : ι → MacAddress}

theorem run_alone_moved {segment after : Segment ι} {label : SegmentLabel ι}
    (before : segment.RunAlone macs) (moved : Moved interfaceIndex segment label after) :
    after.RunAlone macs := by
  cases moved with
  | stays label => exact before
  | served present => exact ⟨before.reachable, before.identity⟩
  | elsewhere different => exact ⟨before.reachable, before.identity⟩
  | @advanced mover turn input possible =>
      have stepped := ClientRun.step_stepped (segment.clients mover) input
      constructor
      · intro who
        by_cases same : who = mover
        · subst same
          rw [advance_self]
          have goesOn : clientSystem.step (segment.clients who) input
              ((segment.clients who).step input).2 := rfl
          exact .next (before.reachable who) goesOn
        · rw [advance_other _ same]
          exact before.reachable who
      · intro who
        by_cases same : who = mover
        · subst same
          rw [advance_self, ClientRun.mac_address_step stepped]
          exact before.identity who
        · rw [advance_other _ same]
          exact before.identity who

theorem run_alone_reachable {segment : Segment ι}
    (reached : (segmentSystem interfaceIndex macs).Reachable segment) : segment.RunAlone macs := by
  refine TransitionSystem.reachable_invariant (RunAlone macs) ?_ ?_ reached
  · exact fun segment started => run_alone_started started
  · intro segment label after before taken
    have moved := step_moved interfaceIndex segment label
    rw [show segment.step interfaceIndex label = after from taken] at moved
    exact run_alone_moved before moved

/-- Silence leads back to Selecting, and two exchanges from there to the lease. -/
theorem takes_rebound {segment : Segment ι} {who : ι} {answers : HostAnswers}
    (alone : segment.RunAlone macs)
    (serves : Serves interfaceIndex (macs who) answers segment.server)
    (up : (segment.clients who).client.host.isUp = true) :
    ∃ after, segment.GetsTo interfaceIndex macs who answers 24 after ∧
      segment.Rebound interfaceIndex (macs who) who after := by
  have client := alone.reachable who
  rcases ClientRun.drifts_to_selecting client with ⟨rounds, few, run, drifts, discovering⟩
  have same := ClientRun.drifts_same_lease drifts
  rcases takes_drift interfaceIndex macs answers drifts with ⟨waiting, drifted, rfl, server⟩
  have runs := ClientRun.drifts_reachable client drifts
  rw [← alone.identity who, ← same.mInterface, ← server] at serves
  rw [← same.host] at up
  rcases takes_offered macs runs discovering up serves with
    ⟨offered, lease, asked, about, nonzero, leased, stillUp, interface⟩
  rw [← interface] at leased
  have wanted : offered.server.server.mExcludeInterface ≠ interfaceIndex := by
    rcases asked with ⟨labels, length, path, answered, moved⟩
    rw [moved.exclude]
    exact serves.wanted
  rcases takes_acknowledged macs about nonzero stillUp serves.known wanted
    serves.succeed leased with ⟨after, requested, rebound⟩
  rw [interface, same.mInterface, alone.identity who] at rebound
  rcases gets_to_trans (gets_to_trans drifted asked) requested with
    ⟨labels, length, path, answered, moved⟩
  refine ⟨after, ⟨labels, ?_, path, answered, moved⟩, rebound.bound, rebound.leased,
    rebound.address, moved⟩
  omega

/-- From every state of a run, 24 steps of one client and the server suffice for the client to
hold its lease, if its interface is up. If it is down, the client never gets anywhere. -/
theorem recovers_while_up (interfaceIndex : UInt32) (macs : ι → MacAddress) (who : ι)
    (answers : HostAnswers) (segment : Segment ι)
    (reached : (audibleSystem interfaceIndex macs).Reachable segment)
    (serves : Serves interfaceIndex (macs who) answers segment.server) :
    ((segment.clients who).client.host.isUp = true →
      ∃ labels after, labels.length ≤ 24 ∧
        (audibleSystem interfaceIndex macs).Takes segment labels after ∧
        segment.Rebound interfaceIndex (macs who) who after) ∧
    ((segment.clients who).client.host.isUp = false →
      ∀ labels after, (audibleSystem interfaceIndex macs).Takes segment labels after →
        (after.clients who).Halted ∧
          (after.clients who).client.host = (segment.clients who).client.host) := by
  have alone := run_alone_reachable (TransitionSystem.reachable_of_restrict reached)
  constructor
  · intro up
    rcases takes_rebound alone serves up with ⟨after, ⟨labels, few, path, -, -⟩, rebound⟩
    exact ⟨labels, after, few, path, rebound⟩
  · intro isDown labels after path
    rcases up_or_halted_reachable reached who with up | halted
    · exact nomatch isDown.symm.trans up
    · exact halted_takes halted path

end Recovers

instance {ι : Type} (segment : Segment ι) : DecidablePred segment.HeardWhileUp := fun label =>
  match label with
  | .client who (.reply _ _ _ _ _) =>
      inferInstanceAs (Decidable ((segment.clients who).client.host.isUp = true))
  | .client _ (.alone _) => inferInstanceAs (Decidable True)
  | .request _ _ => inferInstanceAs (Decidable True)
  | .elsewhere _ _ _ => inferInstanceAs (Decidable True)

/-- The server's interface loses its netmask, so that the first request is refused. -/
def haltLabels : List (SegmentLabel Unit) :=
  [goesOn (), goesOn (), .request 0 homeAnswers, getsReply () 0, goesOn (),
    .request 1 SharedSegment.unmaskedAnswers, getsReply () 1]

/-- A client that just started can get its lease; one that a NAK has halted cannot. -/
theorem recovers_while_up_home :
    (∃ labels after, labels.length ≤ 24 ∧
      (audibleSystem 1 fun _ => fun _ => 2).Takes (startedSegment fun _ : Unit => fun _ => 2)
        labels after ∧
      (startedSegment fun _ => fun _ => 2).Rebound 1 (fun _ => 2) () after) ∧
    ∃ segment, (audibleSystem 1 fun _ => fun _ => 2).Reachable segment ∧
      ∀ labels after, (audibleSystem 1 fun _ => fun _ => 2).Takes segment labels after →
        (after.clients ()).Halted := by
  have serves : ∀ state : ServerRun, state.server.mExcludeInterface ≠ 1 →
      (getOfferAddress state.server.tables 1 (fun _ => 2) (homeAnswers.interfaceAddress 0)
        (homeAnswers.interfaceNetmask 0)).1.isOk = true →
      Serves 1 (fun _ => 2) homeAnswers state := by
    intro state wanted room
    refine ⟨by decide, wanted, home_answers_succeed, ?_⟩
    cases offered : (getOfferAddress state.server.tables 1 (fun _ => 2)
        (homeAnswers.interfaceAddress 0) (homeAnswers.interfaceNetmask 0)).1 with
    | error text => simp [offered, Except.isOk, Except.toBool] at room
    | ok offer => exact ⟨offer, rfl⟩
  have started : (audibleSystem 1 fun _ => fun _ => 2).Reachable
      (startedSegment fun _ : Unit => fun _ => 2) := .start (started_segment_started _)
  have halted := TransitionSystem.reachable_of_check (audibleSystem 1 fun _ => fun _ => 2) (step 1)
    (fun segment label => decide (segment.HeardWhileUp label)) haltLabels
    (fun _ _ _ checked => ⟨of_decide_eq_true checked, rfl⟩) started (by decide +kernel)
  constructor
  · exact (recovers_while_up 1 _ () homeAnswers _ started
      (serves _ (by decide +kernel) (by decide +kernel))).1 rfl
  · generalize computed : haltLabels.foldl (step 1) (startedSegment fun _ => fun _ => 2) = segment
      at halted
    have facts : segment.server.server.mExcludeInterface ≠ 1 ∧
        (getOfferAddress segment.server.server.tables 1 (fun _ => 2)
          (homeAnswers.interfaceAddress 0) (homeAnswers.interfaceNetmask 0)).1.isOk = true ∧
        (segment.clients ()).client.host.isUp = false := by
      rw [← computed]
      decide +kernel
    rcases facts with ⟨wanted, room, isDown⟩
    refine ⟨segment, halted, ?_⟩
    intro labels after path
    exact ((recovers_while_up 1 _ () homeAnswers segment halted (serves _ wanted room)).2 isDown
      labels after path).1

end Segment

end RedroidExt.Dhcp
