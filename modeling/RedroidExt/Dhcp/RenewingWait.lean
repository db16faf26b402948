import RedroidExt.Dhcp.AckDecoding
import RedroidExt.Dhcp.RetrySchedule

/-!
# The wait in Renewing

Renewing is to end when T2 expires, but it waits by the retry schedule and looks at T2
only between two waits. A wait that starts shortly before T2 goes on after it.
-/

namespace RedroidExt.Dhcp

open RedroidExt.Library RedroidExt.Library.ByteMemory

set_option autoImplicit false

/-- The timeout that follows on the schedule, in milliseconds. -/
def scheduledMillis (timeout : UInt32) : Nat :=
  if timeout = kNoTimeout then 4000 else min (2 * timeout.toNat) 64000

theorem increased_timeout_millis {timeout : UInt32} (schedule : OnSchedule timeout) :
    (DhcpClient.increasedTimeout timeout).toNat = scheduledMillis timeout := by
  rcases schedule with none | ⟨doublings, few, value⟩
  · rw [none]
    decide
  · have known : timeout = UInt32.ofNat (4000 * 2 ^ doublings) := by
      rw [← value, UInt32.ofNat_toNat]
    rw [known]
    interval_cases doublings <;> decide

namespace ClientRun

/-- A wait in Renewing is over before T2: its timeout is at most what remains, and T2 does not
expire while it goes on. -/
structure WaitsInTime (run : ClientRun) (timeout : UInt32) : Prop where
  remaining : timeout.toNat ≤ run.client.mT2.remainingMillis run.clock
  unexpired : ∀ now < run.clock + timeout.toNat, run.client.mT2.expired now = false

/-- No wait in Renewing goes past T2. -/
def RenewsInTime (run : ClientRun) : Prop :=
  run.client.mState = .renewing → ∀ timeout, run.phase = .polling timeout →
    run.WaitsInTime timeout

/-- The poll does not time out and no message ends the wait. -/
def PollsAgain (run : ClientRun) (input : ClientInput) : Prop :=
  input.poll ≠ .timeout ∧ ∀ msg answers, run.received input = some (msg, answers) →
    msg.type ≠ dhcpNak ∧ (msg.type = dhcpAck → run.client.accepts msg answers = false)

/-- What keeps the waits of Renewing in front of T2. -/
structure RoomBeforeT2 (run : ClientRun) (input : ClientInput) : Prop where
  /-- A request is sent at least a wait before T2. -/
  request : run.client.mState = .renewing → run.phase = .evaluating →
    run.client.mT2.expired (run.clock + input.first) = false →
    (run.clock + input.elapsed + scheduledMillis run.client.mNextTimeout : Int) +
      input.adjustment.val ≤ run.client.mT2.mExpires
  /-- The time that passes in front of a poll which goes again is still there before T2. -/
  delay : run.client.mState = .renewing → ∀ timeout, run.phase = .polling timeout →
    run.PollsAgain input → input.elapsed < input.first + timeout.toNat →
    run.clock + input.first + timeout.toNat ≤ run.client.mT2.mExpires
  /-- T2 comes from an accepted ACK: no other ACK sets the timers. -/
  accepted : run.client.mState = .renewing → ∀ msg answers,
    run.received input = some (msg, answers) → msg.type = dhcpAck →
    (DhcpClient.readAck msg).1 = true → run.client.accepts msg answers = true

theorem waits_in_time_of_le {run : ClientRun} {timeout : UInt32}
    (room : run.clock + timeout.toNat ≤ run.client.mT2.mExpires) : run.WaitsInTime timeout where
  remaining := by
    unfold Timer.remainingMillis
    rw [if_neg (by omega)]
    omega
  unexpired := by
    intro now during
    unfold Timer.expired
    rw [decide_eq_false_iff_not]
    omega

/-- A message that does not end the wait leaves T2 alone, unless it is an ACK that is turned
down after its timers were set. -/
theorem reacted_t2 {client after : DhcpClient} {msg : Message} {answers : KernelAnswers}
    {t1Now t2Now : Nat} {reaction : DhcpClient.Reaction}
    (outcome : DhcpClient.Reacted client msg answers t1Now t2Now reaction after)
    (waits : reaction.returns = false)
    (accepted : msg.type = dhcpAck → (DhcpClient.readAck msg).1 = true →
      client.accepts msg answers = true) : after.mT2 = client.mT2 := by
  cases outcome with
  | ignored noOffer noAnswer => rfl
  | offer state offers => cases waits
  | accepted state acknowledges accepts read host address => cases waits
  | turnedDown state acknowledges refuses configured =>
      have refused : ¬ client.accepts msg answers = true := Bool.eq_false_iff.mp refuses
      cases configured with
      | small short => rfl
      | unread failed => rfl
      | unconfigured read failed => exact absurd (accepted acknowledges read) refused
      | configured configures result =>
          have read := (DhcpClient.configures_read configures).1
          exact absurd (accepted acknowledges read) refused
  | nak state refuses => cases waits

/-- In a state that waits for an ACK, a message that goes back to the poll is no NAK and no
accepted ACK. -/
theorem reacted_polls_again {client after : DhcpClient} {msg : Message} {answers : KernelAnswers}
    {t1Now t2Now : Nat} {reaction : DhcpClient.Reaction}
    (outcome : DhcpClient.Reacted client msg answers t1Now t2Now reaction after)
    (waits : reaction.returns = false) (awaits : DhcpClient.AwaitsAck client.mState) :
    msg.type ≠ dhcpNak ∧ (msg.type = dhcpAck → client.accepts msg answers = false) := by
  cases outcome with
  | ignored noOffer noAnswer =>
      obtain ⟨noAck, noNak⟩ := noAnswer awaits
      exact ⟨noNak, fun acknowledges => absurd acknowledges noAck⟩
  | offer state offers => cases waits
  | accepted state acknowledges accepts read host address => cases waits
  | turnedDown state acknowledges refuses configured =>
      refine ⟨?_, fun _ => refuses⟩
      rw [acknowledges]
      decide
  | nak state refuses => cases waits

theorem renews_in_time_step {run after : ClientRun} {input : ClientInput}
    {sent : Option Message} (schedule : run.Scheduled) (room : run.RoomBeforeT2 input)
    (advanced : Advanced run input sent after) : after.RenewsInTime := by
  cases advanced with
  | @evaluated sent client ready outcome =>
      intro renewing timeout waits
      apply waits_in_time_of_le
      obtain ⟨some, given⟩ := DhcpClient.enter_wait_polling waits
      cases outcome with
      | leaves moved => exact absurd rfl some
      | sends sent =>
          have state : run.client.mState = .renewing := renewing
          obtain ⟨before, varied⟩ := schedule (sends_unbound sent)
          have unexpired : run.client.mT2.expired (run.clock + input.first) = false := by
            cases sent with
            | discover selecting => exact nomatch selecting.symm.trans state
            | request awaits more unexpired => exact unexpired state
          have exact : (timeout.toNat : Int) =
              (DhcpClient.increasedTimeout run.client.mNextTimeout).toNat +
                input.adjustment.val := by
            rw [← given]
            exact calculate_timeout_varied input.adjustment varied
              (.inr (increased_on_schedule before)) some
          rw [increased_timeout_millis before] at exact
          have enough := room.request state ready unexpired
          dsimp only [DhcpClient.afterSending]
          omega
      | waits bound unexpired => exact nomatch bound.symm.trans renewing
  | timedOut waiting nothing => exact fun _ _ waits => nomatch waits
  | @again timeout waiting nothing woken =>
      intro renewing left waits
      apply waits_in_time_of_le
      obtain ⟨early, same⟩ := go_again_polling (by unfold ClientInput.elapsed; omega) waits
      have again : run.PollsAgain input :=
        ⟨woken, fun msg answers got => nomatch got.symm.trans nothing⟩
      have enough := room.delay renewing timeout waiting again (by omega)
      dsimp only
      omega
  | @received timeout waiting msg answers reaction client got outcome =>
      unfold RenewsInTime
      rw [(run.record_same _ _ _ _).1, (run.record_same _ _ _ _).2.1]
      intro renewing left waits
      apply waits_in_time_of_le
      rw [(run.record_same _ _ _ _).1, (run.record_same _ _ _ _).2.2]
      dsimp only at renewing waits ⊢
      cases returns : reaction.returns with
      | true =>
          rw [returns, if_pos rfl] at waits
          cases waits
      | false =>
          rw [returns, if_neg (by decide)] at waits
          obtain ⟨early, same⟩ := go_again_polling (by unfold ClientInput.elapsed; omega) waits
          have state := (DhcpClient.reacted_waits outcome returns).1.symm.trans renewing
          have woken : input.poll ≠ .timeout := by
            intro timedOut
            exact nomatch got.symm.trans (received_timeout timedOut)
          have again : run.PollsAgain input := by
            refine ⟨woken, ?_⟩
            intro other given same
            rw [same] at got
            cases got
            exact reacted_polls_again outcome returns (state ▸ .renewing)
          have enough := room.delay state timeout waiting again (by omega)
          rw [reacted_t2 outcome returns (room.accepted state msg answers got)]
          omega

/-- In every run in which requests of Renewing leave room for their waits, the client is never
waiting there after T2. -/
theorem renewing_ends_at_t2 {run : ClientRun}
    (reached : (clientSystem.restrict RoomBeforeT2).Reachable run) : run.RenewsInTime := by
  have both : run.Scheduled ∧ run.RenewsInTime := by
    refine TransitionSystem.reachable_invariant (fun run => run.Scheduled ∧ run.RenewsInTime)
      ?_ ?_ reached
    · intro state started
      refine ⟨scheduled_started started, ?_⟩
      intro _ timeout waits
      exact nomatch started.phase.symm.trans waits
    · intro state input after before taken
      have advanced := step_advanced state input
      rw [taken.2] at advanced
      exact ⟨scheduled_step before.1 advanced, renews_in_time_step before.1 taken.1 advanced⟩
  exact both.2

/-! ## A lease of ten minutes -/

/-- The client gets a lease of ten minutes, and T1 comes after five. -/
def tenMinuteInputs : List ClientInput :=
  [stepInput 0 .timeout, stepInput 0 .timeout, arrival homeOffer, stepInput 0 .timeout,
    arrival tenMinuteAck, stepInput 0 .timeout, stepInput 300000 .timeout, stepInput 0 .timeout]

/-- Requests that nobody answers, each with its wait, and one more request. -/
def unansweredRenewals (waits : List Nat) : List ClientInput :=
  waits.flatMap (fun wait => [stepInput 0 .timeout, stepInput wait .timeout]) ++
    [stepInput 0 .timeout]

/-- A check that implies the condition on a step. -/
def checkRoom (run : ClientRun) (input : ClientInput) : Bool :=
  run.client.mState ≠ .renewing ∨ run.phase = .evaluating ∧
    (run.clock + input.elapsed + scheduledMillis run.client.mNextTimeout : Int) +
      input.adjustment.val ≤ run.client.mT2.mExpires

theorem room_before_t2_of_check {run : ClientRun} {input : ClientInput}
    (checked : run.checkRoom input = true) : run.RoomBeforeT2 input := by
  rcases of_decide_eq_true checked with elsewhere | ⟨ready, room⟩
  · constructor
    · exact fun renewing => absurd renewing elsewhere
    · exact fun renewing => absurd renewing elsewhere
    · exact fun renewing => absurd renewing elsewhere
  · constructor
    · exact fun _ _ _ => room
    · exact fun _ timeout waiting => nomatch ready.symm.trans waiting
    · intro _ msg answers got
      exact nomatch (received_evaluating ready input).symm.trans got

/-- The first request after T1 leaves room: T2 is 225 seconds ahead. -/
theorem renewing_ends_at_t2_ten_minutes :
    ∃ run : ClientRun, run.client.mState = .renewing ∧ run.phase = .polling 4000 ∧
      run.RenewsInTime := by
  have reached := TransitionSystem.reachable_of_check (clientSystem.restrict RoomBeforeT2) next
    checkRoom (tenMinuteInputs ++ unansweredRenewals [])
    (fun _ _ _ checked => ⟨room_before_t2_of_check checked, rfl⟩)
    (.start (started_run_started fun _ => 2)) (by decide +kernel)
  generalize computed : (tenMinuteInputs ++ unansweredRenewals []).foldl next
    (startedRun fun _ => 2) = run at reached
  refine ⟨run, ?_, ?_, renewing_ends_at_t2 reached⟩
  · rw [← computed]
    decide +kernel
  · rw [← computed]
    decide +kernel

/-- Nobody answers. The seventh request goes out 188 seconds after T1, 37 seconds before T2,
and its wait takes 64. -/
theorem renewing_oversleeps :
    ∃ run : ClientRun, clientSystem.Reachable run ∧ run.client.mState = .renewing ∧
      run.phase = .polling 64000 ∧ run.client.mT2.remainingMillis run.clock = 37000 ∧
      ¬ run.RenewsInTime := by
  have reached := TransitionSystem.reachable_of_check clientSystem next (fun _ _ => true)
    (tenMinuteInputs ++ unansweredRenewals [4000, 8000, 16000, 32000, 64000, 64000])
    (fun _ _ _ _ => rfl) (.start (started_run_started fun _ => 2)) rfl
  generalize computed : (tenMinuteInputs ++
    unansweredRenewals [4000, 8000, 16000, 32000, 64000, 64000]).foldl next
    (startedRun fun _ => 2) = run at reached
  have renewing : run.client.mState = .renewing := by
    rw [← computed]
    decide +kernel
  have waits : run.phase = .polling 64000 := by
    rw [← computed]
    decide +kernel
  have left : run.client.mT2.remainingMillis run.clock = 37000 := by
    rw [← computed]
    decide +kernel
  refine ⟨run, reached, renewing, waits, left, ?_⟩
  intro inTime
  have short := (inTime renewing 64000 waits).remaining
  rw [left] at short
  exact absurd short (by decide)

end ClientRun

end RedroidExt.Dhcp
