import Mathlib.Tactic.IntervalCases
import RedroidExt.Dhcp.ClientWaits

/-!
# The retry schedule

`mNextTimeout` counts the messages of a state: 0, 4000, 8000 and so on up to 64000.
Requesting and Rebinding give up at the largest value, after five messages.
-/

namespace RedroidExt.Dhcp

open RedroidExt.Library RedroidExt.Library.ByteMemory

set_option autoImplicit false

/-- No timeout, or the initial one doubled up to four times. -/
def OnSchedule (timeout : UInt32) : Prop :=
  timeout = kNoTimeout ∨ ∃ doublings ≤ 4, timeout.toNat = 4000 * 2 ^ doublings

theorem increased_on_schedule {timeout : UInt32} (before : OnSchedule timeout) :
    ∃ doublings ≤ 4, (DhcpClient.increasedTimeout timeout).toNat = 4000 * 2 ^ doublings := by
  rcases before with none | ⟨doublings, few, value⟩
  · rw [none]
    exact ⟨0, by decide, by decide⟩
  · have known : timeout = UInt32.ofNat (4000 * 2 ^ doublings) := by
      rw [← value, UInt32.ofNat_toNat]
    rw [known]
    interval_cases doublings
    · exact ⟨1, by decide, by decide⟩
    · exact ⟨2, by decide, by decide⟩
    · exact ⟨3, by decide, by decide⟩
    · exact ⟨4, by decide, by decide⟩
    · exact ⟨4, by decide, by decide⟩

/-- A timeout of the schedule is varied by the adjustment, without wrapping. -/
theorem calculate_timeout_varied {client : DhcpClient} (adjustment : DhcpClient.Adjustment)
    (varied : client.mFuzzNextTimeout = true) (schedule : OnSchedule client.mNextTimeout)
    (waits : client.mNextTimeout ≠ kNoTimeout) :
    ((client.calculateTimeoutMillis adjustment).toNat : Int) =
      client.mNextTimeout.toNat + adjustment.val := by
  obtain ⟨low, high⟩ := adjustment.property
  unfold kTimeoutSpan at low high
  have bounds : 4000 ≤ client.mNextTimeout.toNat ∧ client.mNextTimeout.toNat ≤ 64000 := by
    rcases schedule with none | ⟨doublings, few, value⟩
    · exact absurd none waits
    · rw [value]
      interval_cases doublings <;> decide
  unfold DhcpClient.calculateTimeoutMillis
  rw [if_neg (by simp [varied]), if_neg (by omega)]
  have word : (client.mNextTimeout.toNat + adjustment.val).toNat < 2 ^ 32 := by omega
  rw [UInt32.toNat_ofNat_of_lt' word]
  omega

namespace ClientRun

/-! ## The schedule in every run -/

/-- Outside of Bound the timeout is on the schedule and will be varied. -/
def Scheduled (run : ClientRun) : Prop :=
  run.client.mState ≠ .bound →
    OnSchedule run.client.mNextTimeout ∧ run.client.mFuzzNextTimeout = true

theorem scheduled_started {run : ClientRun} (started : run.Started) : run.Scheduled := by
  intro _
  rw [started.mNextTimeout, started.mFuzzNextTimeout]
  exact ⟨.inr ⟨0, by decide, by decide⟩, rfl⟩

/-- What is sent, is sent in a state other than Bound. -/
theorem sends_unbound {client : DhcpClient} {now : Nat} {message : Message}
    (sent : client.Sends now message) : client.mState ≠ .bound := by
  intro bound
  cases sent with
  | discover state => exact nomatch state.symm.trans bound
  | request awaits more unexpired =>
      rw [bound] at awaits
      cases awaits

theorem scheduled_step {run after : ClientRun} {input : ClientInput} {sent : Option Message}
    (before : run.Scheduled) (advanced : Advanced run input sent after) : after.Scheduled := by
  cases advanced with
  | evaluated ready outcome =>
      cases outcome with
      | leaves moved => exact fun _ => ⟨.inl rfl, rfl⟩
      | sends sent =>
          obtain ⟨schedule, varied⟩ := before (sends_unbound sent)
          exact fun _ => ⟨.inr (increased_on_schedule schedule), varied⟩
      | waits state unexpired => exact fun elsewhere => absurd state elsewhere
  | timedOut waiting nothing => exact before
  | again waiting nothing woken => exact before
  | @received timeout waiting msg answers reaction client got outcome =>
      intro elsewhere
      rw [(run.record_same _ _ _ _).1] at elsewhere ⊢
      dsimp only at elsewhere ⊢
      cases returns : reaction.returns with
      | true =>
          obtain ⟨none, varied, -⟩ := DhcpClient.reacted_returns outcome returns
          rw [none, varied]
          exact ⟨.inl rfl, rfl⟩
      | false =>
          obtain ⟨state, next, varied⟩ := DhcpClient.reacted_waits outcome returns
          rw [next, varied]
          exact before (state ▸ elsewhere)

theorem scheduled_reachable {run : ClientRun} (reached : clientSystem.Reachable run) :
    run.Scheduled := by
  refine TransitionSystem.reachable_invariant Scheduled ?_ ?_ reached
  · exact fun state started => scheduled_started started
  · intro state input after before taken
    have advanced := step_advanced state input
    rw [taken] at advanced
    exact scheduled_step before advanced

/-- A call of `waitAndReceive`: the timeout is on the schedule, and the first poll takes it with
the adjustment added, which is at most a second. -/
structure WaitOnSchedule (adjustment : DhcpClient.Adjustment) (after : ClientRun) : Prop where
  schedule : OnSchedule after.client.mNextTimeout
  poll : after.client.mNextTimeout ≠ kNoTimeout → ∃ timeout, after.phase = .polling timeout ∧
    (timeout.toNat : Int) = after.client.mNextTimeout.toNat + adjustment.val ∧
    timeout.toNat ≤ after.client.mNextTimeout.toNat + 1000 ∧
    after.client.mNextTimeout.toNat ≤ timeout.toNat + 1000

theorem wait_on_schedule {run : ClientRun} (reached : clientSystem.Reachable run)
    {input : ClientInput} (ready : run.phase = .evaluating)
    (elsewhere : (run.next input).client.mState ≠ .bound) :
    WaitOnSchedule input.adjustment (run.next input) := by
  obtain ⟨schedule, varied⟩ := scheduled_reachable (.next reached rfl : clientSystem.Reachable
    (run.next input)) elsewhere
  refine ⟨schedule, ?_⟩
  intro waits
  have phase : (run.next input).phase =
      (run.next input).client.enterWait input.adjustment := by
    unfold next step
    rw [ready]
  rw [phase]
  unfold DhcpClient.enterWait
  rw [if_neg waits]
  have exact := calculate_timeout_varied input.adjustment varied schedule waits
  obtain ⟨low, high⟩ := input.adjustment.property
  unfold kTimeoutSpan at low high
  exact ⟨_, rfl, exact, by omega, by omega⟩

/-! ## A stay in a state -/

/-- The client came into the state and has not left it; `sent` is what it has sent there. -/
inductive Stay (state : ClientState) : List Message → ClientRun → Prop
  | entered {run : ClientRun} {input : ClientInput} (reached : clientSystem.Reachable run)
      (elsewhere : run.client.mState ≠ state)
      (entered : (run.next input).client.mState = state) : Stay state [] (run.next input)
  | stayed {sent : List Message} {run : ClientRun} {input : ClientInput}
      (stay : Stay state sent run) (stays : (run.next input).client.mState = state) :
      Stay state (sent ++ (run.step input).1.toList) (run.next input)

/-- The states that give up after so many requests. -/
inductive GivesUp : ClientState → Prop
  | requesting : GivesUp .requesting
  | rebinding : GivesUp .rebinding

/-- The timeout after that many messages. -/
def timeoutAfter : Nat → UInt32
  | 0 => kNoTimeout
  | count + 1 => DhcpClient.increasedTimeout (timeoutAfter count)

/-- The first five timeouts are below the largest one, the next one is not. -/
theorem timeout_after_lt {count : Nat} (few : count ≤ 5) :
    timeoutAfter count < kMaxTimeout ↔ count < 5 := by
  interval_cases count <;> decide

/-- A step into another state starts the schedule again. -/
theorem moved_no_timeout {run after : ClientRun} {input : ClientInput} {sent : Option Message}
    (advanced : Advanced run input sent after)
    (moved : run.client.mState ≠ after.client.mState) :
    after.client.mNextTimeout = kNoTimeout := by
  cases advanced with
  | evaluated ready outcome =>
      cases outcome with
      | leaves moves => rfl
      | sends sent => exact absurd rfl moved
      | waits state unexpired => exact absurd rfl moved
  | timedOut waiting nothing => exact absurd rfl moved
  | again waiting nothing woken => exact absurd rfl moved
  | received waiting got outcome =>
      rw [(run.record_same _ _ _ _).1] at moved ⊢
      cases returns : DhcpClient.Reaction.returns _ with
      | true => exact (DhcpClient.reacted_returns outcome returns).1
      | false => exact absurd (DhcpClient.reacted_waits outcome returns).1.symm moved

/-- What is sent in such a state is a REQUEST, and the timeout was not yet the largest. -/
theorem sends_gives_up {client : DhcpClient} {now : Nat} {message : Message}
    (sent : client.Sends now message) (givesUp : GivesUp client.mState) :
    message.type = dhcpRequest ∧ client.mNextTimeout < kMaxTimeout := by
  cases sent with
  | discover state =>
      rw [state] at givesUp
      cases givesUp
  | request awaits more unexpired =>
      refine ⟨Message.request_type .., more ?_⟩
      intro renewing
      rw [renewing] at givesUp
      cases givesUp

/-- What holds as long as the stay lasts. -/
structure StayCounts (sent : List Message) (run : ClientRun) : Prop where
  timeout : run.client.mNextTimeout = timeoutAfter sent.length
  few : sent.length ≤ 5
  requests : ∀ message ∈ sent, message.type = dhcpRequest

theorem stay_counts_step {state : ClientState} {sent : List Message} {run after : ClientRun}
    {input : ClientInput} {message : Option Message} (givesUp : GivesUp state)
    (before : StayCounts sent run) (inState : run.client.mState = state)
    (advanced : Advanced run input message after) (stays : after.client.mState = state) :
    StayCounts (sent ++ message.toList) after := by
  cases advanced with
  | evaluated ready outcome =>
      cases outcome with
      | leaves moved =>
          exact absurd (stays.trans inState.symm) (DhcpClient.leaves_moves moved)
      | @sends message sends =>
          rw [← inState] at givesUp
          obtain ⟨request, below⟩ := sends_gives_up sends givesUp
          have fewer := (timeout_after_lt before.few).mp (before.timeout ▸ below)
          constructor
          · simp only [Option.toList_some, List.length_append, List.length_singleton]
            exact congrArg DhcpClient.increasedTimeout before.timeout
          · simp only [Option.toList_some, List.length_append, List.length_singleton]
            omega
          · intro other member
            rcases List.mem_append.mp member with earlier | last
            · exact before.requests other earlier
            · rw [List.mem_singleton.mp last]
              exact request
      | waits bound unexpired =>
          rw [← inState, bound] at givesUp
          cases givesUp
  | timedOut waiting nothing =>
      rw [Option.toList_none, List.append_nil]
      exact ⟨before.timeout, before.few, before.requests⟩
  | again waiting nothing woken =>
      rw [Option.toList_none, List.append_nil]
      exact ⟨before.timeout, before.few, before.requests⟩
  | received waiting got outcome =>
      rw [Option.toList_none, List.append_nil]
      rw [(run.record_same _ _ _ _).1] at stays
      refine ⟨?_, before.few, before.requests⟩
      rw [(run.record_same _ _ _ _).1]
      cases returns : DhcpClient.Reaction.returns _ with
      | true => exact absurd (stays.trans inState.symm) (DhcpClient.reacted_moves outcome returns)
      | false => exact (DhcpClient.reacted_waits outcome returns).2.1.trans before.timeout

theorem stay_state {state : ClientState} {sent : List Message} {run : ClientRun}
    (stay : Stay state sent run) : run.client.mState = state := by
  cases stay with
  | entered reached elsewhere entered => exact entered
  | stayed stay stays => exact stays

theorem stay_reachable {state : ClientState} {sent : List Message} {run : ClientRun}
    (stay : Stay state sent run) : clientSystem.Reachable run := by
  induction stay with
  | entered reached elsewhere entered => exact .next reached rfl
  | stayed stay stays ih => exact .next ih rfl

theorem stay_counts {state : ClientState} {sent : List Message} {run : ClientRun}
    (givesUp : GivesUp state) (stay : Stay state sent run) : StayCounts sent run := by
  induction stay with
  | @entered run input reached elsewhere entered =>
      have moved : run.client.mState ≠ (run.next input).client.mState := by
        rw [entered]
        exact elsewhere
      constructor
      · exact moved_no_timeout (step_advanced run input) moved
      · exact Nat.zero_le _
      · exact fun _ member => nomatch member
  | @stayed sent run input stay stays ih =>
      exact stay_counts_step givesUp ih (stay_state stay) (step_advanced run input) stays

/-- A step out of such a state, other than by a message, gives up after five requests. -/
theorem stay_left {state : ClientState} {sent : List Message} {run after : ClientRun}
    {input : ClientInput} {message : Option Message} (givesUp : GivesUp state)
    (counts : StayCounts sent run) (inState : run.client.mState = state)
    (advanced : Advanced run input message after) (nothing : run.received input = none)
    (left : after.client.mState ≠ state) :
    sent.length = 5 ∧ message = none ∧ after.client.mState = .init := by
  rw [← inState] at givesUp left
  cases advanced with
  | evaluated ready outcome =>
      cases outcome with
      | leaves moved =>
          cases moved with
          | start init =>
              rw [init] at givesUp
              cases givesUp
          | giveUp requested exceeded =>
              have five : ¬ sent.length < 5 := by
                rw [← timeout_after_lt counts.few, ← counts.timeout]
                exact UInt32.not_lt.mpr exceeded
              exact ⟨Nat.le_antisymm counts.few (Nat.le_of_not_lt five), rfl, rfl⟩
          | renew bound expired =>
              rw [bound] at givesUp
              cases givesUp
          | rebind renewing expired =>
              rw [renewing] at givesUp
              cases givesUp
      | sends sent => exact absurd rfl left
      | waits bound unexpired => exact absurd rfl left
  | timedOut waiting nothing => exact absurd rfl left
  | again waiting nothing woken => exact absurd rfl left
  | received waiting got outcome => exact nomatch got.symm.trans nothing

/-- Steps until a stay ends by itself, when every poll times out. -/
def stepsLeft (sent : Nat) : Phase → Nat
  | .evaluating => 1 + 2 * (5 - sent)
  | .polling _ => 2 + 2 * (5 - sent)

theorem steps_left_decrease {state : ClientState} {sent : List Message} {run after : ClientRun}
    {input : ClientInput} {message : Option Message} (givesUp : GivesUp state)
    (counts : StayCounts sent run) (inState : run.client.mState = state)
    (advanced : Advanced run input message after) (nothing : input.poll = .timeout)
    (stays : after.client.mState = state) :
    stepsLeft (sent ++ message.toList).length after.phase < stepsLeft sent.length run.phase := by
  cases advanced with
  | evaluated ready outcome =>
      rw [ready]
      cases outcome with
      | leaves moved =>
          exact absurd (stays.trans inState.symm) (DhcpClient.leaves_moves moved)
      | @sends message sends =>
          rw [← inState] at givesUp
          obtain ⟨-, below⟩ := sends_gives_up sends givesUp
          have fewer := (timeout_after_lt counts.few).mp (counts.timeout ▸ below)
          rw [Option.toList_some, List.length_append, List.length_singleton]
          dsimp only [DhcpClient.enterWait]
          split_ifs
          · simp only [stepsLeft]
            omega
          · simp only [stepsLeft]
            omega
      | waits bound unexpired =>
          rw [← inState, bound] at givesUp
          cases givesUp
  | timedOut waiting none =>
      rw [waiting, Option.toList_none, List.append_nil]
      simp only [stepsLeft]
      omega
  | again waiting none woken => exact absurd nothing woken
  | @received timeout waiting msg answers reaction client got outcome =>
      unfold received at got
      simp [waiting, nothing] at got

theorem received_timeout {run : ClientRun} {input : ClientInput} (timeout : input.poll = .timeout) :
    run.received input = none := by
  unfold received
  rw [timeout]
  cases run.phase with
  | evaluating => rfl
  | polling _ => rfl

/-- When every poll times out, the client is back in Init after at most twelve steps. -/
theorem stay_ends {state : ClientState} (givesUp : GivesUp state) (inputs : List ClientInput)
    (timeouts : ∀ input ∈ inputs, input.poll = .timeout) {sent : List Message} {run : ClientRun}
    (stay : Stay state sent run) (enough : stepsLeft sent.length run.phase ≤ inputs.length) :
    ∃ first rest, inputs = first ++ rest ∧ (first.foldl next run).client.mState = .init := by
  have counts := stay_counts givesUp stay
  have inState := stay_state stay
  induction inputs generalizing sent run with
  | nil =>
      cases phase : run.phase with
      | evaluating => simp [phase, stepsLeft] at enough
      | polling timeout => simp [phase, stepsLeft] at enough
  | cons input inputs ih =>
      have timeout := timeouts input List.mem_cons_self
      by_cases stays : (run.next input).client.mState = state
      · have decreased := steps_left_decrease givesUp counts inState (step_advanced run input)
          timeout stays
        have onward : Stay state _ (run.next input) := .stayed stay stays
        rw [List.length_cons] at enough
        obtain ⟨first, rest, same, init⟩ := ih
          (fun other member => timeouts other (List.mem_cons_of_mem _ member)) onward
          (Nat.le_of_lt_succ (Nat.lt_of_lt_of_le decreased enough)) (stay_counts givesUp onward)
          (stay_state onward)
        exact ⟨input :: first, rest, congrArg (input :: ·) same, init⟩
      · obtain ⟨-, -, init⟩ := stay_left givesUp counts inState (step_advanced run input)
          (received_timeout timeout) stays
        exact ⟨[input], inputs, rfl, init⟩

/-- A stay that no message ends: five requests, then Init. -/
structure GivesUpAfterFive (state : ClientState) (sent : List Message) (run : ClientRun) :
    Prop where
  requests : ∀ message ∈ sent, message.type = dhcpRequest
  few : sent.length ≤ 5
  left : ∀ input, run.received input = none → (run.next input).client.mState ≠ state →
    sent.length = 5 ∧ (run.step input).1 = none ∧ (run.next input).client.mState = .init
  ends : ∀ inputs : List ClientInput, (∀ input ∈ inputs, input.poll = .timeout) →
    12 ≤ inputs.length → ∃ first rest, inputs = first ++ rest ∧
      (first.foldl next run).client.mState = .init

/-- In every run: outside of Bound each wait is on the schedule, and a stay in Requesting or
Rebinding that no message ends takes exactly five requests. -/
theorem retry_schedule {run : ClientRun} (reached : clientSystem.Reachable run) :
    (∀ input, run.phase = .evaluating → (run.next input).client.mState ≠ .bound →
      WaitOnSchedule input.adjustment (run.next input)) ∧
    ∀ state sent, GivesUp state → Stay state sent run → GivesUpAfterFive state sent run := by
  constructor
  · exact fun input => wait_on_schedule reached
  · intro state sent givesUp stay
    have counts := stay_counts givesUp stay
    have inState := stay_state stay
    refine ⟨counts.requests, counts.few, ?_, ?_⟩
    · exact fun input => stay_left givesUp counts inState (step_advanced run input)
    · intro inputs timeouts enough
      apply stay_ends givesUp inputs timeouts stay
      refine Nat.le_trans ?_ enough
      cases run.phase with
      | evaluating =>
          simp only [stepsLeft]
          omega
      | polling timeout =>
          simp only [stepsLeft]
          omega

/-- Checked steps in the state lengthen the stay. -/
theorem stay_of_check {state : ClientState} (inputs : List ClientInput) {sent : List Message}
    {run : ClientRun} (stay : Stay state sent run)
    (checked : TransitionSystem.checkRun next
      (fun run input => decide ((run.next input).client.mState = state)) run inputs = true) :
    ∃ later, Stay state later (inputs.foldl next run) := by
  induction inputs generalizing sent run with
  | nil => exact ⟨sent, stay⟩
  | cons input inputs ih =>
      obtain ⟨stays, rest⟩ := Bool.and_eq_true_iff.mp checked
      exact ih (.stayed stay (of_decide_eq_true stays)) rest

/-- The first stay in Requesting: nobody answers, and the fifth wait is the last one. -/
theorem retry_schedule_requesting :
    ∃ sent run, Stay .requesting sent run ∧ sent.length = 5 ∧
      (run.next (stepInput 0 .timeout)).client.mState = .init := by
  have reached := TransitionSystem.reachable_of_check clientSystem next (fun _ _ => true)
    [stepInput 0 .timeout, stepInput 0 .timeout] (fun _ _ _ _ => rfl)
    (.start (started_run_started fun _ => 2)) rfl
  generalize computed : [stepInput 0 .timeout, stepInput 0 .timeout].foldl next
    (startedRun fun _ => 2) = selecting at reached
  have entered : Stay .requesting [] (selecting.next (arrival homeOffer)) := by
    apply Stay.entered reached
    · rw [← computed]
      decide +kernel
    · rw [← computed]
      decide +kernel
  obtain ⟨sent, stay⟩ := stay_of_check (List.replicate 10 (stepInput 4000 .timeout)) entered (by
    rw [← computed]
    decide +kernel)
  generalize last : (List.replicate 10 (stepInput 4000 .timeout)).foldl next
    (selecting.next (arrival homeOffer)) = run at stay
  have init : (run.next (stepInput 0 .timeout)).client.mState = .init := by
    rw [← last, ← computed]
    decide +kernel
  have five := ((retry_schedule (stay_reachable stay)).2 .requesting sent .requesting stay).left
    (stepInput 0 .timeout) (received_timeout rfl) (by rw [init]; exact fun same => nomatch same)
  exact ⟨sent, run, stay, five.1, init⟩

end ClientRun

end RedroidExt.Dhcp
