import RedroidExt.Dhcp.Renewal

/-!
# How long the client waits

What the poll loop and a message do to the timeouts, and the wait in Bound: T1 is
64 bits of milliseconds and `mNextTimeout` has 32, so a long wait is cut into
shorter ones, none of which goes past T1.
-/

namespace RedroidExt.Dhcp

open RedroidExt.Library RedroidExt.Library.ByteMemory

set_option autoImplicit false

/-- A poll that goes again ends when the one before it would have ended, counted from the
clock reading in front of it. -/
theorem go_again_polling {timeout left : UInt32} {startedAt currentTime : Nat}
    (ordered : startedAt ≤ currentTime) (again : goAgain timeout startedAt currentTime = .polling left) :
    currentTime < startedAt + timeout.toNat ∧
      currentTime + left.toNat = startedAt + timeout.toNat := by
  unfold goAgain at again
  by_cases done : currentTime ≥ startedAt + timeout.toNat
  · rw [if_pos done] at again
    cases again
  · rw [if_neg done] at again
    cases again
    have word := timeout.toNat_lt
    have exact : (UInt32.ofNat (startedAt + timeout.toNat - currentTime)).toNat =
        startedAt + timeout.toNat - currentTime := by
      apply UInt32.toNat_ofNat_of_lt'
      change _ < 2 ^ 32
      omega
    rw [exact]
    omega

namespace DhcpClient

theorem enter_wait_polling {client : DhcpClient} {adjustment : Adjustment} {timeout : UInt32}
    (waits : client.enterWait adjustment = .polling timeout) :
    client.mNextTimeout ≠ kNoTimeout ∧ client.calculateTimeoutMillis adjustment = timeout := by
  unfold enterWait at waits
  by_cases none : client.mNextTimeout = kNoTimeout
  · rw [if_pos none] at waits
    cases waits
  · rw [if_neg none] at waits
    exact ⟨none, Phase.polling.inj waits⟩

/-! ## What a message leaves alone -/

/-- A message that is ignored or turned down goes back to the poll. -/
theorem reacted_waits {client after : DhcpClient} {msg : Message} {answers : KernelAnswers}
    {t1Now t2Now : Nat} {reaction : Reaction}
    (outcome : Reacted client msg answers t1Now t2Now reaction after)
    (waits : reaction.returns = false) :
    after.mState = client.mState ∧ after.mNextTimeout = client.mNextTimeout ∧
      after.mFuzzNextTimeout = client.mFuzzNextTimeout := by
  cases outcome with
  | ignored noOffer noAnswer => exact ⟨rfl, rfl, rfl⟩
  | offer state offers => cases waits
  | accepted state acknowledges accepts read host address => cases waits
  | turnedDown state acknowledges refuses configured =>
      cases configured with
      | small short => exact ⟨rfl, rfl, rfl⟩
      | unread failed => exact ⟨rfl, rfl, rfl⟩
      | unconfigured read failed => exact ⟨rfl, rfl, rfl⟩
      | configured configures result => exact ⟨rfl, rfl, rfl⟩
  | nak state refuses => cases waits

/-- A message that ends the wait moves to another state, to be evaluated at once. -/
theorem reacted_returns {client after : DhcpClient} {msg : Message} {answers : KernelAnswers}
    {t1Now t2Now : Nat} {reaction : Reaction}
    (outcome : Reacted client msg answers t1Now t2Now reaction after)
    (returns : reaction.returns = true) :
    after.mNextTimeout = kNoTimeout ∧ after.mFuzzNextTimeout = true ∧
      client.mState ≠ .bound := by
  cases outcome with
  | ignored noOffer noAnswer => cases returns
  | offer state offers => exact ⟨rfl, rfl, fun bound => nomatch state.symm.trans bound⟩
  | accepted state acknowledges accepts read host address =>
      exact ⟨rfl, rfl, fun bound => nomatch bound ▸ state⟩
  | turnedDown state acknowledges refuses configured => cases returns
  | nak state refuses => exact ⟨rfl, rfl, fun bound => nomatch bound ▸ state⟩

/-- No message that ends a wait leads back to the state it ended. -/
theorem reacted_moves {client after : DhcpClient} {msg : Message} {answers : KernelAnswers}
    {t1Now t2Now : Nat} {reaction : Reaction}
    (outcome : Reacted client msg answers t1Now t2Now reaction after)
    (returns : reaction.returns = true) : after.mState ≠ client.mState := by
  cases outcome with
  | ignored noOffer noAnswer => cases returns
  | offer state offers => exact fun same => nomatch same.trans state
  | accepted state acknowledges accepts read host address => exact fun bound => nomatch bound ▸ state
  | turnedDown state acknowledges refuses configured => cases returns
  | nak state refuses => exact fun init => nomatch init ▸ state

/-- In Bound every message is ignored. -/
theorem reacted_bound {client after : DhcpClient} {msg : Message} {answers : KernelAnswers}
    {t1Now t2Now : Nat} {reaction : Reaction}
    (outcome : Reacted client msg answers t1Now t2Now reaction after)
    (bound : client.mState = .bound) : reaction = .ignored ∧ after = client := by
  cases outcome with
  | ignored noOffer noAnswer => exact ⟨rfl, rfl⟩
  | offer state offers => exact nomatch state.symm.trans bound
  | accepted state acknowledges accepts read host address => exact nomatch bound ▸ state
  | turnedDown state acknowledges refuses configured => exact nomatch bound ▸ state
  | nak state refuses => exact nomatch bound ▸ state

/-- T1 is left alone, or set at most 2^32 - 1 seconds ahead of a clock reading. -/
theorem reacted_t1 {client after : DhcpClient} {msg : Message} {answers : KernelAnswers}
    {t1Now t2Now : Nat} {reaction : Reaction}
    (outcome : Reacted client msg answers t1Now t2Now reaction after) :
    after.mT1 = client.mT1 ∨ ∃ seconds : UInt32, after.mT1 = .expireSeconds t1Now seconds.toNat := by
  cases outcome with
  | ignored noOffer noAnswer => exact .inl rfl
  | offer state offers => exact .inl rfl
  | accepted state acknowledges accepts read host address => exact .inr ⟨_, rfl⟩
  | turnedDown state acknowledges refuses configured =>
      cases configured with
      | small short => exact .inl rfl
      | unread failed => exact .inl rfl
      | unconfigured read failed => exact .inr ⟨_, rfl⟩
      | configured configures result => exact .inr ⟨_, rfl⟩
  | nak state refuses => exact .inl rfl

theorem leaves_moves {client : DhcpClient} {now : Nat} {state : ClientState}
    (moved : Leaves client now state) : state ≠ client.mState := by
  cases moved with
  | start state => exact fun same => nomatch same.trans state
  | giveUp state exceeded =>
      rcases state with requesting | rebinding
      · exact fun same => nomatch same.trans requesting
      · exact fun same => nomatch same.trans rebinding
  | renew state expired => exact fun same => nomatch same.trans state
  | rebind state expired => exact fun same => nomatch same.trans state

theorem timed_timers {client after : DhcpClient} {now later : Nat} {sent : Option Message}
    (outcome : Timed client now later sent after) :
    after.mT1 = client.mT1 ∧ after.mT2 = client.mT2 := by
  cases outcome with
  | leaves moved => exact ⟨rfl, rfl⟩
  | sends sent => exact ⟨rfl, rfl⟩
  | waits state unexpired => exact ⟨rfl, rfl⟩

end DhcpClient

namespace ClientRun

/-! ## The wait in Bound -/

/-- The largest T1, in milliseconds ahead of the clock. -/
def longestT1 : Nat := (2 ^ 32 - 1) * 1000

/-- The polls of Bound take the stored timeout as it is, or what is left of it, and T1 is no
further ahead than 32 bits of seconds, so its 64 bits of milliseconds do not wrap. -/
structure BoundWait (run : ClientRun) : Prop where
  unvaried : run.client.mState = .bound → ∀ timeout, run.phase = .polling timeout →
    run.client.mFuzzNextTimeout = false ∧ timeout ≤ run.client.mNextTimeout
  near : run.client.mT1.mExpires ≤ run.clock + longestT1

theorem bound_wait_started {run : ClientRun} (started : run.Started) : run.BoundWait where
  unvaried := by
    intro bound
    rw [started.mState] at bound
    cases bound
  near := by
    rw [started.timers.1]
    exact Nat.zero_le _

theorem expire_seconds_near (now : Nat) (seconds : UInt32) :
    (Timer.expireSeconds now seconds.toNat).mExpires ≤ now + longestT1 := by
  have word := seconds.toNat_lt
  unfold Timer.expireSeconds longestT1
  dsimp only
  omega

/-- In Bound the stored timeout is waited for as it is. -/
theorem calculate_timeout_unvaried {client : DhcpClient} (plain : client.mFuzzNextTimeout = false)
    (adjustment : DhcpClient.Adjustment) :
    client.calculateTimeoutMillis adjustment = client.mNextTimeout := by
  unfold DhcpClient.calculateTimeoutMillis
  rw [if_pos (by simp [plain])]

theorem timed_bound {client after : DhcpClient} {now later : Nat} {sent : Option Message}
    (outcome : DhcpClient.Timed client now later sent after) (bound : after.mState = .bound) :
    client.mState = .bound ∧ client.mT1.expired now = false ∧
      after.mNextTimeout = UInt32.ofNat (client.mT1.remainingMillis later) ∧
      after.mFuzzNextTimeout = false := by
  cases outcome with
  | leaves moved =>
      cases moved with
      | start state => cases bound
      | giveUp state exceeded => cases bound
      | renew state expired => cases bound
      | rebind state expired => cases bound
  | sends sent =>
      cases sent with
      | discover state => exact nomatch state.symm.trans bound
      | request awaits more unexpired =>
          have state : client.mState = .bound := bound
          rw [state] at awaits
          cases awaits
  | waits state unexpired => exact ⟨state, unexpired, rfl, rfl⟩

theorem bound_wait_step {run after : ClientRun} {input : ClientInput} {sent : Option Message}
    (before : run.BoundWait) (advanced : Advanced run input sent after) : after.BoundWait := by
  have elapsed : run.clock + input.first + input.second ≤ run.clock + input.elapsed := by
    unfold ClientInput.elapsed
    omega
  have near := before.near
  cases advanced with
  | @evaluated sent client ready outcome =>
      constructor
      · intro bound timeout waits
        obtain ⟨-, -, -, plain⟩ := timed_bound outcome bound
        obtain ⟨-, given⟩ := DhcpClient.enter_wait_polling waits
        refine ⟨plain, ?_⟩
        rw [← given, calculate_timeout_unvaried plain]
        exact UInt32.le_refl _
      · dsimp only
        rw [(DhcpClient.timed_timers outcome).1]
        omega
  | timedOut waiting nothing =>
      constructor
      · exact fun _ _ waits => nomatch waits
      · dsimp only
        omega
  | @again timeout waiting nothing woken =>
      constructor
      · intro bound left waits
        obtain ⟨plain, stored⟩ := before.unvaried bound timeout waiting
        obtain ⟨-, same⟩ := go_again_polling (by unfold ClientInput.elapsed; omega) waits
        refine ⟨plain, ?_⟩
        rw [UInt32.le_iff_toNat_le] at stored ⊢
        unfold ClientInput.elapsed at same
        dsimp only
        omega
      · dsimp only
        omega
  | @received timeout waiting msg answers reaction client got outcome =>
      constructor
      · rw [(run.record_same _ _ _ _).1, (run.record_same _ _ _ _).2.1]
        intro bound left waits
        dsimp only at bound waits
        by_cases returns : reaction.returns = true
        · rw [if_pos returns] at waits
          cases waits
        · rw [if_neg returns] at waits
          obtain ⟨state, next, fuzz⟩ :=
            DhcpClient.reacted_waits outcome (Bool.eq_false_iff.mpr returns)
          obtain ⟨plain, stored⟩ := before.unvaried (state.symm.trans bound) timeout waiting
          obtain ⟨-, same⟩ := go_again_polling (by unfold ClientInput.elapsed; omega) waits
          dsimp only
          rw [fuzz, next]
          refine ⟨plain, ?_⟩
          rw [UInt32.le_iff_toNat_le] at stored ⊢
          unfold ClientInput.elapsed at same
          omega
      · rw [(run.record_same _ _ _ _).1, (run.record_same _ _ _ _).2.2]
        dsimp only
        rcases DhcpClient.reacted_t1 outcome with kept | ⟨seconds, set⟩
        · rw [kept]
          omega
        · rw [set]
          have ahead := expire_seconds_near (run.clock + input.first + input.second) seconds
          omega

/-- What a step does to a client that comes into Bound, is there or leaves it. -/
structure BoundStep (run : ClientRun) (input : ClientInput) (after : ClientRun) : Prop where
  /-- The client comes into Bound without a wait. -/
  entered : run.client.mState ≠ .bound → after.client.mState = .bound →
    after.client.mNextTimeout = kNoTimeout ∧ after.phase = .evaluating
  /-- A timeout that is computed is at most the time until T1, and it is waited for as it is;
  when it is zero, the state is evaluated again. -/
  computed : run.client.mState = .bound → run.phase = .evaluating → after.client.mState = .bound →
    after.client.mNextTimeout.toNat ≤
        run.client.mT1.mExpires - (run.clock + input.first + input.second) ∧
      after.phase =
        if after.client.mNextTimeout = kNoTimeout then .evaluating
        else .polling after.client.mNextTimeout
  /-- Nothing else in Bound changes it, or T1. -/
  kept : run.client.mState = .bound → after.client.mT1 = run.client.mT1 ∧
    (run.phase ≠ .evaluating → after.client.mState = .bound ∧
      after.client.mNextTimeout = run.client.mNextTimeout)
  /-- Bound is left when T1 has come. -/
  left : run.client.mState = .bound → after.client.mState ≠ .bound →
    run.client.mT1.mExpires ≤ run.clock + input.first

theorem remaining_millis_stored (timer : Timer) (now : Nat) :
    (UInt32.ofNat (timer.remainingMillis now)).toNat ≤ timer.mExpires - now := by
  have cut : (UInt32.ofNat (timer.remainingMillis now)).toNat ≤ timer.remainingMillis now := by
    rw [UInt32.toNat_ofNat']
    exact Nat.mod_le _ _
  have true : timer.remainingMillis now ≤ timer.mExpires - now := by
    unfold Timer.remainingMillis
    split_ifs
    · exact Nat.zero_le _
    · exact Nat.le_refl _
  exact Nat.le_trans cut true

theorem timed_leaves_bound {client after : DhcpClient} {now later : Nat} {sent : Option Message}
    (outcome : DhcpClient.Timed client now later sent after) (bound : client.mState = .bound)
    (elsewhere : after.mState ≠ .bound) : client.mT1.mExpires ≤ now := by
  cases outcome with
  | leaves moved =>
      cases moved with
      | start state => exact nomatch state.symm.trans bound
      | giveUp state exceeded =>
          rcases state with requesting | rebinding
          · exact nomatch requesting.symm.trans bound
          · exact nomatch rebinding.symm.trans bound
      | renew state expired => exact of_decide_eq_true expired
      | rebind state expired => exact nomatch state.symm.trans bound
  | sends sent => exact absurd bound elsewhere
  | waits state unexpired => exact absurd bound elsewhere

theorem bound_step {run after : ClientRun} {input : ClientInput} {sent : Option Message}
    (advanced : Advanced run input sent after) : BoundStep run input after := by
  cases advanced with
  | @evaluated sent client ready outcome =>
      constructor
      · intro elsewhere bound
        exact absurd (timed_bound outcome bound).1 elsewhere
      · intro _ _ bound
        obtain ⟨-, -, stored, plain⟩ := timed_bound outcome bound
        constructor
        · rw [stored]
          exact remaining_millis_stored _ _
        · dsimp only [DhcpClient.enterWait]
          rw [calculate_timeout_unvaried plain]
      · intro bound
        exact ⟨(DhcpClient.timed_timers outcome).1, fun polling => absurd ready polling⟩
      · exact timed_leaves_bound outcome
  | timedOut waiting nothing =>
      constructor
      · exact fun elsewhere bound => absurd bound elsewhere
      · exact fun _ ready => nomatch waiting.symm.trans ready
      · exact fun bound => ⟨rfl, fun _ => ⟨bound, rfl⟩⟩
      · exact fun bound elsewhere => absurd bound elsewhere
  | again waiting nothing woken =>
      constructor
      · exact fun elsewhere bound => absurd bound elsewhere
      · exact fun _ ready => nomatch waiting.symm.trans ready
      · exact fun bound => ⟨rfl, fun _ => ⟨bound, rfl⟩⟩
      · exact fun bound elsewhere => absurd bound elsewhere
  | @received timeout waiting msg answers reaction client got outcome =>
      constructor
      · rw [(run.record_same _ _ _ _).1, (run.record_same _ _ _ _).2.1]
        intro elsewhere bound
        cases returns : reaction.returns with
        | true =>
            obtain ⟨none, -, -⟩ := DhcpClient.reacted_returns outcome returns
            exact ⟨none, rfl⟩
        | false =>
            obtain ⟨state, -, -⟩ := DhcpClient.reacted_waits outcome returns
            exact absurd (state.symm.trans bound) elsewhere
      · exact fun _ ready => nomatch waiting.symm.trans ready
      · rw [(run.record_same _ _ _ _).1]
        intro bound
        obtain ⟨-, same⟩ := DhcpClient.reacted_bound outcome bound
        dsimp only
        rw [same]
        exact ⟨rfl, fun _ => ⟨bound, rfl⟩⟩
      · rw [(run.record_same _ _ _ _).1]
        intro bound elsewhere
        obtain ⟨-, same⟩ := DhcpClient.reacted_bound outcome bound
        dsimp only at elsewhere
        rw [same] at elsewhere
        exact absurd bound elsewhere

/-- In every run no timeout of Bound goes past T1: each one is at most the time that
is left when it is computed, polls use it without variation, and the client stays until T1. -/
theorem bound_timeouts_within_t1 {run : ClientRun} (reached : clientSystem.Reachable run) :
    run.BoundWait ∧ ∀ input, BoundStep run input (run.next input) := by
  constructor
  · refine TransitionSystem.reachable_invariant BoundWait ?_ ?_ reached
    · exact fun state started => bound_wait_started started
    · intro state input after before taken
      have advanced := step_advanced state input
      rw [taken] at advanced
      exact bound_wait_step before advanced
  · exact fun input => bound_step (step_advanced run input)

/-- The server's own lease has its T1 after 738263040 seconds; the first of the waits is what
32 bits keep of that. -/
theorem bound_wait_home :
    ∃ run : ClientRun, run.client.mState = .bound ∧ run.BoundWait ∧
      (run.next (stepInput 0 .timeout)).phase = .polling 3823632384 := by
  have reached := TransitionSystem.reachable_of_check clientSystem next (fun _ _ => true)
    (boundInputs (swap32 0xC0A80002)) (fun _ _ _ _ => rfl) (.start (started_run_started fun _ => 2))
    rfl
  generalize computed : (boundInputs (swap32 0xC0A80002)).foldl next (startedRun fun _ => 2) =
    run at reached
  refine ⟨run, ?_, (bound_timeouts_within_t1 reached).1, ?_⟩
  · rw [← computed]
    decide +kernel
  · rw [← computed]
    decide +kernel

end ClientRun

end RedroidExt.Dhcp
