import RedroidExt.Dhcp.Client
import RedroidExt.Library.TransitionSystem

/-!
# Runs of the client

`run` and `waitAndReceive` as steps: one evaluation of the state, or one round of
the poll loop. Elapsed times, poll results, frames and the kernel's answers are
inputs. Three inversions say everything that an evaluation, a message and a step
can do.
-/

namespace RedroidExt.Dhcp

open RedroidExt.Library RedroidExt.Library.ByteMemory

set_option autoImplicit false

/-- At the top of `run`'s loop, or before `ppoll` with a timeout. -/
inductive Phase where
  | evaluating
  | polling (timeout : UInt32)
  deriving DecidableEq

inductive PollResult where
  | timeout
  | failed
  | readable (frame : Option (List UInt8)) (behind : Memory) (answers : KernelAnswers)

/-- What one step gets from outside: the time that passes before each reading of the clock,
the random adjustment and the result of `ppoll`. -/
structure ClientInput where
  first : Nat
  second : Nat
  third : Nat
  fourth : Nat
  adjustment : DhcpClient.Adjustment
  poll : PollResult

def ClientInput.elapsed (input : ClientInput) : Nat :=
  input.first + input.second + input.third + input.fourth

/-- An ACK as it was decoded, with the time at which it was done with. -/
structure DecodedAck where
  doneAt : Nat
  info : DhcpInfo

/-- `lastAck` and `configuredBy` are history that no step reads: the ACK accepted last, and the
ACKs that put the present address on the interface, from the one accepted last on. -/
structure ClientRun where
  client : DhcpClient
  phase : Phase
  clock : Nat
  lastAck : Option DecodedAck
  configuredBy : List DecodedAck

namespace DhcpClient

/-- `configureDhcp` gets as far as a configured address. -/
def configuresAddress (client : DhcpClient) (msg : Message) (answers : KernelAnswers) : Bool :=
  ¬ msg.optionsSize < 4 ∧ (readAck msg).1 ∧
    (configureInterface client.host client.mInterface.mInterfaceName (readAck msg).2 answers).1

/-- `configureDhcp` succeeds. -/
def accepts (client : DhcpClient) (msg : Message) (answers : KernelAnswers) : Bool :=
  client.configuresAddress msg answers ∧
    (client.mOptions &&& noGateway = 0 → answers.gatewayWritten)

/-- The head of `waitAndReceive`. -/
def enterWait (client : DhcpClient) (adjustment : Adjustment) : Phase :=
  if client.mNextTimeout = kNoTimeout then .evaluating
  else .polling (client.calculateTimeoutMillis adjustment)

end DhcpClient

/-- The tail of the poll loop: return, or go again with the time that remains. -/
def goAgain (timeout : UInt32) (startedAt currentTime : Nat) : Phase :=
  if currentTime ≥ startedAt + timeout.toNat then .evaluating
  else .polling (UInt32.ofNat (startedAt + timeout.toNat - currentTime))

namespace ClientRun

/-- The history after a message. -/
def record (before : ClientRun) (msg : Message) (answers : KernelAnswers)
    (reaction : DhcpClient.Reaction) (after : ClientRun) : ClientRun :=
  let ack : DecodedAck := { doneAt := after.clock, info := after.client.mDhcpInfo }
  match reaction with
  | .ackAccepted => { after with lastAck := some ack, configuredBy := [ack] }
  | .ackTurnedDown =>
      if before.client.configuresAddress msg answers then
        if after.client.host.address = before.client.host.address then
          { after with configuredBy := ack :: before.configuredBy }
        else { after with configuredBy := [ack] }
      else after
  | .nakTaken => { after with configuredBy := [] }
  | .ignored => after
  | .offerTaken => after

/-- One evaluation of the state or one round of the poll loop. -/
def step (run : ClientRun) (input : ClientInput) : Option Message × ClientRun :=
  let startedAt := run.clock + input.first
  let later := startedAt + input.second
  let currentTime := run.clock + input.elapsed
  match run.phase with
  | .evaluating =>
      let evaluated := run.client.evaluate startedAt later
      (evaluated.1,
        { run with
          client := evaluated.2
          phase := evaluated.2.enterWait input.adjustment
          clock := currentTime })
  | .polling timeout =>
      match input.poll with
      | .timeout => (none, { run with phase := .evaluating, clock := currentTime })
      | .failed =>
          (none, { run with phase := goAgain timeout startedAt currentTime, clock := currentTime })
      | .readable frame behind answers =>
          match run.client.receiveDhcpMessage frame behind with
          | none =>
              (none,
                { run with phase := goAgain timeout startedAt currentTime, clock := currentTime })
          | some msg =>
              let handled :=
                run.client.handleDhcpMessage msg answers later (later + input.third)
              (none, run.record msg answers handled.1
                { run with
                  client := handled.2
                  phase :=
                    if handled.1.returns then .evaluating
                    else goAgain timeout startedAt currentTime
                  clock := currentTime })

end ClientRun

/-- A client after its constructor and `init`, which brings the interface up without an
address. Members that the constructor leaves alone are arbitrary. -/
structure ClientRun.Started (run : ClientRun) : Prop where
  phase : run.phase = .evaluating
  lastAck : run.lastAck = none
  configuredBy : run.configuredBy = []
  mState : run.client.mState = .init
  mNextTimeout : run.client.mNextTimeout = kInitialTimeout
  mFuzzNextTimeout : run.client.mFuzzNextTimeout = true
  mLastMsg : ∃ behind, run.client.mLastMsg = Message.init behind
  timers : run.client.mT1.mExpires = 0 ∧ run.client.mT2.mExpires = 0
  sNextTransactionId : run.client.sNextTransactionId = 1
  isUp : run.client.host.isUp = true
  address : run.client.host.address = 0

def clientSystem : TransitionSystem ClientRun ClientInput where
  initial := ClientRun.Started
  step := fun run input after => (run.step input).2 = after

/-! ## What an evaluation can do -/

namespace DhcpClient

/-- The value that `increaseTimeout` stores. -/
def increasedTimeout (timeout : UInt32) : UInt32 :=
  if timeout = kNoTimeout then kInitialTimeout
  else
    let doubled := if timeout < kMaxTimeout then timeout * 2 else timeout
    if doubled > kMaxTimeout then kMaxTimeout else doubled

theorem increase_timeout_eq (client : DhcpClient) :
    client.increaseTimeout =
      { client with mNextTimeout := increasedTimeout client.mNextTimeout } := by
  unfold increaseTimeout increasedTimeout
  by_cases none : client.mNextTimeout = kNoTimeout
  · rw [if_pos none, if_pos none]
  · rw [if_neg none, if_neg none]

/-- The states in which a REQUEST was sent and an ACK is waited for. -/
inductive AwaitsAck : ClientState → Prop
  | requesting : AwaitsAck .requesting
  | renewing : AwaitsAck .renewing
  | rebinding : AwaitsAck .rebinding

/-- Where the request of a state is directed to. -/
def destination (client : DhcpClient) : InAddr :=
  if client.mState = .rebinding then inAddrBroadcast else client.mServerAddress

/-- The client after a message was sent: only the last message, the counter and the next
timeout differ. -/
def afterSending (client : DhcpClient) (message : Message) (timeout : UInt32) : DhcpClient :=
  { client with
    mLastMsg := message
    sNextTransactionId := client.sNextTransactionId + 1
    mNextTimeout := timeout }

/-- Where an evaluation moves to. -/
inductive Leaves (client : DhcpClient) (now : Nat) : ClientState → Prop
  | start (state : client.mState = .init) : Leaves client now .selecting
  | giveUp (state : client.mState = .requesting ∨ client.mState = .rebinding)
      (exceeded : client.mNextTimeout ≥ kMaxTimeout) : Leaves client now .init
  | renew (state : client.mState = .bound) (expired : client.mT1.expired now = true) :
      Leaves client now .renewing
  | rebind (state : client.mState = .renewing) (expired : client.mT2.expired now = true) :
      Leaves client now .rebinding

/-- What an evaluation sends. -/
inductive Sends (client : DhcpClient) (now : Nat) : Message → Prop
  | discover (state : client.mState = .selecting) :
      Sends client now
        (Message.discover client.mInterface.mMacAddress client.sNextTransactionId)
  | request (state : AwaitsAck client.mState)
      (more : client.mState ≠ .renewing → client.mNextTimeout < kMaxTimeout)
      (unexpired : client.mState = .renewing → client.mT2.expired now = false) :
      Sends client now
        (Message.request client.mInterface.mMacAddress client.mRequestAddress client.destination
          client.sNextTransactionId)

/-- Everything an evaluation can do, with the next timeout. -/
inductive Timed (client : DhcpClient) (now later : Nat) : Option Message → DhcpClient → Prop
  | leaves {state : ClientState} (moved : Leaves client now state) :
      Timed client now later none (client.setNextState state)
  | sends {message : Message} (sent : Sends client now message) :
      Timed client now later (some message)
        (client.afterSending message (increasedTimeout client.mNextTimeout))
  | waits (state : client.mState = .bound) (unexpired : client.mT1.expired now = false) :
      Timed client now later none
        { client with
          mNextTimeout := UInt32.ofNat (client.mT1.remainingMillis later)
          mFuzzNextTimeout := false }

theorem evaluate_timed (client : DhcpClient) (now later : Nat) :
    Timed client now later (client.evaluate now later).1 (client.evaluate now later).2 := by
  have requested : AwaitsAck client.mState →
      (client.mState ≠ .renewing → client.mNextTimeout < kMaxTimeout) →
      (client.mState = .renewing → client.mT2.expired now = false) →
      Timed client now later (some (client.sendDhcpRequest client.destination).1)
        (client.sendDhcpRequest client.destination).2.increaseTimeout := by
    intro awaits more unexpired
    rw [increase_timeout_eq]
    exact .sends (.request awaits more unexpired)
  unfold evaluate
  cases state : client.mState with
  | init => exact .leaves (.start state)
  | selecting =>
      dsimp only
      rw [increase_timeout_eq]
      exact .sends (.discover state)
  | requesting =>
      rw [state] at requested
      have target : client.destination = client.mServerAddress := by simp [destination, state]
      by_cases exceeded : client.mNextTimeout ≥ kMaxTimeout
      · simp only [exceeded, if_true]
        exact .leaves (.giveUp (.inl state) exceeded)
      · simp only [exceeded, if_false]
        rw [target] at requested
        exact requested .requesting (fun _ => UInt32.not_le.mp exceeded) fun same => nomatch same
  | bound =>
      by_cases expired : client.mT1.expired now = true
      · simp only [expired, if_true]
        exact .leaves (.renew state expired)
      · have waited : Timed client now later none _ :=
          .waits state (Bool.eq_false_iff.mpr expired)
        rw [state] at waited
        rw [if_neg expired]
        exact waited
  | renewing =>
      rw [state] at requested
      have target : client.destination = client.mServerAddress := by simp [destination, state]
      by_cases expired : client.mT2.expired now = true
      · simp only [expired, if_true]
        exact .leaves (.rebind state expired)
      · simp only [expired]
        rw [target] at requested
        exact requested .renewing (fun other => absurd rfl other)
          fun _ => Bool.eq_false_iff.mpr expired
  | rebinding =>
      rw [state] at requested
      have target : client.destination = inAddrBroadcast := by simp [destination, state]
      by_cases exceeded : client.mNextTimeout ≥ kMaxTimeout
      · simp only [exceeded, if_true]
        exact .leaves (.giveUp (.inr state) exceeded)
      · simp only [exceeded, if_false]
        rw [target] at requested
        exact requested .rebinding (fun _ => UInt32.not_le.mp exceeded) fun same => nomatch same

/-- The same without the next timeout, for what does not depend on it. -/
inductive Evaluated (client : DhcpClient) (now : Nat) : Option Message → DhcpClient → Prop
  | start (state : client.mState = .init) :
      Evaluated client now none (client.setNextState .selecting)
  | discover (state : client.mState = .selecting) (timeout : UInt32) :
      Evaluated client now
        (some (Message.discover client.mInterface.mMacAddress client.sNextTransactionId))
        (client.afterSending
          (Message.discover client.mInterface.mMacAddress client.sNextTransactionId) timeout)
  | request (state : AwaitsAck client.mState) (timeout : UInt32) :
      Evaluated client now
        (some (Message.request client.mInterface.mMacAddress client.mRequestAddress
          client.destination client.sNextTransactionId))
        (client.afterSending
          (Message.request client.mInterface.mMacAddress client.mRequestAddress
            client.destination client.sNextTransactionId) timeout)
  | giveUp (state : client.mState = .requesting ∨ client.mState = .rebinding)
      (exceeded : client.mNextTimeout ≥ kMaxTimeout) :
      Evaluated client now none (client.setNextState .init)
  | renew (state : client.mState = .bound) (expired : client.mT1.expired now = true) :
      Evaluated client now none (client.setNextState .renewing)
  | wait (state : client.mState = .bound) (timeout : UInt32) :
      Evaluated client now none
        { client with mNextTimeout := timeout, mFuzzNextTimeout := false }
  | rebind (state : client.mState = .renewing) (expired : client.mT2.expired now = true) :
      Evaluated client now none (client.setNextState .rebinding)

theorem evaluated_of_timed {client after : DhcpClient} {now later : Nat} {sent : Option Message}
    (outcome : Timed client now later sent after) : Evaluated client now sent after := by
  cases outcome with
  | leaves moved =>
      cases moved with
      | start state => exact .start state
      | giveUp state exceeded => exact .giveUp state exceeded
      | renew state expired => exact .renew state expired
      | rebind state expired => exact .rebind state expired
  | sends sent =>
      cases sent with
      | discover state => exact .discover state _
      | request state _ _ => exact .request state _
  | waits state _ => exact .wait state _

theorem evaluate_evaluated (client : DhcpClient) (now later : Nat) :
    Evaluated client now (client.evaluate now later).1 (client.evaluate now later).2 :=
  evaluated_of_timed (evaluate_timed client now later)

/-- The members that an evaluation does not write. -/
structure SameLease (before after : DhcpClient) : Prop where
  mInterface : after.mInterface = before.mInterface
  mRequestAddress : after.mRequestAddress = before.mRequestAddress
  mServerAddress : after.mServerAddress = before.mServerAddress
  host : after.host = before.host

theorem evaluated_same_lease {client after : DhcpClient} {now : Nat} {sent : Option Message}
    (outcome : Evaluated client now sent after) : SameLease client after := by
  cases outcome with
  | start _ => exact ⟨rfl, rfl, rfl, rfl⟩
  | discover _ _ => exact ⟨rfl, rfl, rfl, rfl⟩
  | request _ _ => exact ⟨rfl, rfl, rfl, rfl⟩
  | giveUp _ _ => exact ⟨rfl, rfl, rfl, rfl⟩
  | renew _ _ => exact ⟨rfl, rfl, rfl, rfl⟩
  | wait _ _ => exact ⟨rfl, rfl, rfl, rfl⟩
  | rebind _ _ => exact ⟨rfl, rfl, rfl, rfl⟩

/-! ## What a message can do -/

theorem read_ack_offered {msg : Message} (read : (readAck msg).1 = true) :
    (readAck msg).2.offeredAddress = msg.yiaddr ∧ (readAck msg).2.leaseTime ≠ 0 := by
  unfold readAck at read ⊢
  dsimp only at read ⊢
  by_cases scanned : (readOptions msg).1 = true
  · rw [scanned] at read ⊢
    simpa using read
  · simp [scanned] at read

/-- The client after `configureDhcp`, with what the kernel made of it. -/
def withAck (client : DhcpClient) (info : DhcpInfo) (t1Now t2Now : Nat) (host : Host) :
    DhcpClient :=
  { { client with mDhcpInfo := info }.setTimers info t1Now t2Now with host := host }

inductive Configured (client : DhcpClient) (msg : Message) (answers : KernelAnswers)
    (t1Now t2Now : Nat) : Bool → DhcpClient → Prop
  | small (short : msg.optionsSize < 4) :
      Configured client msg answers t1Now t2Now false client
  | unread (failed : (readAck msg).1 = false) :
      Configured client msg answers t1Now t2Now false { client with mDhcpInfo := (readAck msg).2 }
  | unconfigured (read : (readAck msg).1 = true)
      (failed : (configureInterface client.host client.mInterface.mInterfaceName (readAck msg).2
        answers).1 = false) :
      Configured client msg answers t1Now t2Now false
        (client.withAck (readAck msg).2 t1Now t2Now
          (configureInterface client.host client.mInterface.mInterfaceName (readAck msg).2
            answers).2)
  | configured {succeeded : Bool} (configures : client.configuresAddress msg answers = true)
      (result : client.accepts msg answers = succeeded) :
      Configured client msg answers t1Now t2Now succeeded
        (client.withAck (readAck msg).2 t1Now t2Now
          (configureGateway
            (configureInterface client.host client.mInterface.mInterfaceName (readAck msg).2
              answers).2
            client.mOptions (readAck msg).2 answers).2)

theorem set_properties_address (host : Host) (name : String) (info : DhcpInfo)
    (answers : KernelAnswers) : (setProperties host name info answers).address = host.address := by
  have kept : ∀ (indices : List (Fin 4)) (host : Host),
      (indices.foldl (fun host index =>
        host.setProperty ("vendor.net." ++ name ++ ".dns" ++ toString (index.val + 1))
          (if info.dns index ≠ 0 then addrToStr (info.dns index) else "") answers) host).address =
        host.address := by
    intro indices
    induction indices with
    | nil => exact fun _ => rfl
    | cons index rest ih => exact fun _ => (ih _).trans (Host.set_property_address _ _ _ _)
  exact (kept _ _).trans (Host.set_property_address _ _ _ _)

/-- The host in front of `setAddress`. -/
theorem configure_interface_split (host : Host) (name : String) (info : DhcpInfo)
    (answers : KernelAnswers) :
    ((host.bringUp answers).1 = false ∧
        (configureInterface host name info answers) = (false, (host.bringUp answers).2)) ∨
      ∃ before : Host, before.address = host.address ∧
        configureInterface host name info answers =
          before.setAddress info.offeredAddress info.subnetMask answers := by
  unfold configureInterface
  dsimp only
  cases up : (host.bringUp answers).1 with
  | false =>
      left
      refine ⟨rfl, ?_⟩
      rw [if_pos (by simp), ← up]
  | true =>
      right
      rw [if_neg (by simp)]
      refine ⟨_, ?_, rfl⟩
      rw [set_properties_address]
      split_ifs
      · exact (Host.set_mtu_address _ _ _).trans (Host.set_interface_up_address _ _ _)
      · exact Host.set_interface_up_address _ _ _

theorem configure_interface_success {host : Host} {name : String} {info : DhcpInfo}
    {answers : KernelAnswers} (succeeded : (configureInterface host name info answers).1 = true) :
    (configureInterface host name info answers).2.address = info.offeredAddress := by
  rcases configure_interface_split host name info answers with ⟨-, failed⟩ | ⟨before, -, set⟩
  · simp [failed] at succeeded
  · rw [set] at succeeded ⊢
    exact Host.set_address_success succeeded

/-- Unless an applied request stays unconfirmed, a failure leaves the address alone. -/
theorem configure_interface_failure {host : Host} {name : String} {info : DhcpInfo}
    {answers : KernelAnswers} (failed : (configureInterface host name info answers).1 = false)
    (confirmed : answers.address ≠ .unconfirmed) :
    (configureInterface host name info answers).2.address = host.address := by
  rcases configure_interface_split host name info answers with ⟨-, down⟩ | ⟨before, same, set⟩
  · rw [down]
    exact Host.set_interface_up_address _ _ _
  · rw [set] at failed ⊢
    unfold Host.setAddress at failed ⊢
    cases answer : answers.address with
    | done => simp [answer] at failed
    | refused => exact same
    | unconfirmed => exact absurd answer confirmed

theorem configure_gateway_result (host : Host) (options : UInt32) (info : DhcpInfo)
    (answers : KernelAnswers) :
    (configureGateway host options info answers).1 =
      decide (options &&& noGateway = 0 → answers.gatewayWritten) := by
  unfold configureGateway Host.setDefaultGateway
  by_cases wanted : options &&& noGateway = 0
  · cases written : answers.gatewayWritten <;> simp [wanted]
  · simp [wanted]

theorem configure_gateway_address (host : Host) (options : UInt32) (info : DhcpInfo)
    (answers : KernelAnswers) :
    (configureGateway host options info answers).2.address = host.address := by
  unfold configureGateway
  split_ifs
  · exact Host.set_default_gateway_address host info.gateway answers
  · rfl

theorem configure_dhcp_configured (client : DhcpClient) (msg : Message) (answers : KernelAnswers)
    (t1Now t2Now : Nat) :
    Configured client msg answers t1Now t2Now
      (client.configureDhcp msg answers t1Now t2Now).1
      (client.configureDhcp msg answers t1Now t2Now).2 := by
  unfold configureDhcp
  by_cases short : msg.optionsSize < 4
  · rw [if_pos short]
    exact .small short
  · rw [if_neg short]
    dsimp only
    by_cases read : (readAck msg).1 = true
    · rw [if_neg (not_not.mpr read)]
      by_cases done : (configureInterface client.host client.mInterface.mInterfaceName
          (readAck msg).2 answers).1 = true
      · have configures : client.configuresAddress msg answers = true := by
          simpa [configuresAddress, read, done] using short
        have accepted : client.accepts msg answers = (configureGateway
            (configureInterface client.host client.mInterface.mInterfaceName (readAck msg).2
              answers).2 client.mOptions (readAck msg).2 answers).1 := by
          rw [configure_gateway_result]
          simp [accepts, configures]
        have outcome : Configured client msg answers t1Now t2Now _ _ :=
          .configured configures accepted
        have undone : ¬ ¬ (configureInterface
            ({ client with mDhcpInfo := (readAck msg).2 }.setTimers (readAck msg).2 t1Now
              t2Now).host
            ({ client with mDhcpInfo := (readAck msg).2 }.setTimers (readAck msg).2 t1Now
              t2Now).mInterface.mInterfaceName (readAck msg).2 answers).1 = true := not_not.mpr done
        rw [if_neg undone]
        exact outcome
      · have undone : ¬ (configureInterface
            ({ client with mDhcpInfo := (readAck msg).2 }.setTimers (readAck msg).2 t1Now
              t2Now).host
            ({ client with mDhcpInfo := (readAck msg).2 }.setTimers (readAck msg).2 t1Now
              t2Now).mInterface.mInterfaceName (readAck msg).2 answers).1 = true := done
        rw [if_pos undone]
        exact .unconfigured read (Bool.eq_false_iff.mpr done)
    · rw [if_pos read]
      exact .unread (Bool.eq_false_iff.mpr read)

/-- The members that `configureDhcp` does not write. -/
structure SameProtocol (before after : DhcpClient) : Prop where
  mInterface : after.mInterface = before.mInterface
  mLastMsg : after.mLastMsg = before.mLastMsg
  mState : after.mState = before.mState
  mNextTimeout : after.mNextTimeout = before.mNextTimeout
  mRequestAddress : after.mRequestAddress = before.mRequestAddress
  mServerAddress : after.mServerAddress = before.mServerAddress
  sNextTransactionId : after.sNextTransactionId = before.sNextTransactionId

theorem configured_same_protocol {client after : DhcpClient} {msg : Message}
    {answers : KernelAnswers} {t1Now t2Now : Nat} {succeeded : Bool}
    (outcome : Configured client msg answers t1Now t2Now succeeded after) :
    SameProtocol client after := by
  cases outcome with
  | small _ => exact ⟨rfl, rfl, rfl, rfl, rfl, rfl, rfl⟩
  | unread _ => exact ⟨rfl, rfl, rfl, rfl, rfl, rfl, rfl⟩
  | unconfigured _ _ => exact ⟨rfl, rfl, rfl, rfl, rfl, rfl, rfl⟩
  | configured _ _ => exact ⟨rfl, rfl, rfl, rfl, rfl, rfl, rfl⟩

/-- What a message leads to. -/
inductive Reacted (client : DhcpClient) (msg : Message) (answers : KernelAnswers)
    (t1Now t2Now : Nat) : Reaction → DhcpClient → Prop
  | ignored (noOffer : client.mState = .selecting → msg.type ≠ dhcpOffer)
      (noAnswer : AwaitsAck client.mState → msg.type ≠ dhcpAck ∧ msg.type ≠ dhcpNak) :
      Reacted client msg answers t1Now t2Now .ignored client
  | offer (state : client.mState = .selecting) (offers : msg.type = dhcpOffer) :
      Reacted client msg answers t1Now t2Now .offerTaken
        ({ client with mServerAddress := msg.serverId, mRequestAddress := msg.yiaddr }.setNextState
          .requesting)
  | accepted (state : AwaitsAck client.mState) (acknowledges : msg.type = dhcpAck)
      (accepts : client.accepts msg answers = true) (read : (readAck msg).1 = true) (host : Host)
      (address : host.address = msg.yiaddr) :
      Reacted client msg answers t1Now t2Now .ackAccepted
        ((client.withAck (readAck msg).2 t1Now t2Now host).setNextState .bound)
  | turnedDown {after : DhcpClient} (state : AwaitsAck client.mState)
      (acknowledges : msg.type = dhcpAck) (refuses : client.accepts msg answers = false)
      (configured : Configured client msg answers t1Now t2Now false after) :
      Reacted client msg answers t1Now t2Now .ackTurnedDown after
  | nak (state : AwaitsAck client.mState) (refuses : msg.type = dhcpNak) :
      Reacted client msg answers t1Now t2Now .nakTaken
        ((client.haltNetwork answers).setNextState .init)

theorem configures_read {client : DhcpClient} {msg : Message} {answers : KernelAnswers}
    (configures : client.configuresAddress msg answers = true) :
    (readAck msg).1 = true ∧ (configureInterface client.host client.mInterface.mInterfaceName
      (readAck msg).2 answers).1 = true := by
  unfold configuresAddress at configures
  exact (of_decide_eq_true configures).2

/-- A configured address is the one of the message. -/
theorem configured_address {client : DhcpClient} {msg : Message} {answers : KernelAnswers}
    (configures : client.configuresAddress msg answers = true) (options : UInt32) :
    (configureGateway
      (configureInterface client.host client.mInterface.mInterfaceName (readAck msg).2 answers).2
      options (readAck msg).2 answers).2.address = msg.yiaddr := by
  obtain ⟨read, succeeded⟩ := configures_read configures
  rw [configure_gateway_address, configure_interface_success succeeded]
  exact (read_ack_offered read).1

theorem handle_reply_reacted (client : DhcpClient) (msg : Message) (answers : KernelAnswers)
    (t1Now t2Now : Nat) (state : AwaitsAck client.mState) :
    Reacted client msg answers t1Now t2Now (client.handleReply msg answers t1Now t2Now).1
      (client.handleReply msg answers t1Now t2Now).2 := by
  unfold handleReply
  by_cases acknowledges : msg.type = dhcpAck
  · rw [if_pos acknowledges]
    dsimp only
    have outcome := configure_dhcp_configured client msg answers t1Now t2Now
    generalize client.configureDhcp msg answers t1Now t2Now = result at outcome ⊢
    rcases result with ⟨succeeded, after⟩
    dsimp only at outcome ⊢
    cases outcome with
    | small short =>
        exact .turnedDown state acknowledges (by simp [accepts, configuresAddress, short])
          (.small short)
    | unread failed =>
        exact .turnedDown state acknowledges (by simp [accepts, configuresAddress, failed])
          (.unread failed)
    | unconfigured read failed =>
        exact .turnedDown state acknowledges (by simp [accepts, configuresAddress, failed])
          (.unconfigured read failed)
    | configured configures result =>
        cases succeeded with
        | true =>
            exact .accepted state acknowledges result (configures_read configures).1 _
              (configured_address configures client.mOptions)
        | false => exact .turnedDown state acknowledges result (.configured configures result)
  · rw [if_neg acknowledges]
    by_cases refuses : msg.type = dhcpNak
    · rw [if_pos refuses]
      exact .nak state refuses
    · rw [if_neg refuses]
      apply Reacted.ignored
      · intro selecting
        rw [selecting] at state
        cases state
      · exact fun _ => ⟨acknowledges, refuses⟩

theorem handle_dhcp_message_reacted (client : DhcpClient) (msg : Message)
    (answers : KernelAnswers) (t1Now t2Now : Nat) :
    Reacted client msg answers t1Now t2Now (client.handleDhcpMessage msg answers t1Now t2Now).1
      (client.handleDhcpMessage msg answers t1Now t2Now).2 := by
  have replied := handle_reply_reacted client msg answers t1Now t2Now
  unfold handleDhcpMessage
  cases state : client.mState with
  | init =>
      apply Reacted.ignored
      · exact fun selecting => absurd (state.symm.trans selecting) (by decide)
      · exact fun awaits => nomatch state ▸ awaits
  | bound =>
      apply Reacted.ignored
      · exact fun selecting => absurd (state.symm.trans selecting) (by decide)
      · exact fun awaits => nomatch state ▸ awaits
  | selecting =>
      by_cases offers : msg.type = dhcpOffer
      · simp only [offers, if_true]
        exact .offer state offers
      · simp only [offers, if_false]
        apply Reacted.ignored
        · exact fun _ => offers
        · exact fun awaits => nomatch state ▸ awaits
  | requesting => exact replied (state ▸ .requesting)
  | renewing => exact replied (state ▸ .renewing)
  | rebinding => exact replied (state ▸ .rebinding)

end DhcpClient

/-! ## What a step can do -/

namespace ClientRun

/-- The message that the poll loop hands to the state machine, with the kernel's answers. -/
def received (run : ClientRun) (input : ClientInput) : Option (Message × KernelAnswers) :=
  match run.phase with
  | .evaluating => none
  | .polling _ =>
      match input.poll with
      | .timeout => none
      | .failed => none
      | .readable frame behind answers =>
          (run.client.receiveDhcpMessage frame behind).map fun msg => (msg, answers)

theorem received_evaluating {run : ClientRun} (ready : run.phase = .evaluating)
    (input : ClientInput) : run.received input = none := by
  simp [received, ready]

/-- A received message is a valid reply to the message sent last. -/
theorem received_valid {run : ClientRun} {input : ClientInput} {msg : Message}
    {answers : KernelAnswers} (got : run.received input = some (msg, answers)) :
    msg.isValidDhcpMessage opBootReply = true ∧ msg.xid = run.client.mLastMsg.xid := by
  unfold received at got
  cases ready : run.phase with
  | evaluating => simp [ready] at got
  | polling timeout =>
      cases poll : input.poll with
      | timeout => simp [ready, poll] at got
      | failed => simp [ready, poll] at got
      | readable frame behind given =>
          rw [ready, poll] at got
          obtain ⟨message, valid, same⟩ := Option.map_eq_some_iff.mp got
          rw [(Prod.mk.inj same).1] at valid
          unfold DhcpClient.receiveDhcpMessage at valid
          cases frame with
          | none => simp at valid
          | some bytes =>
              dsimp only at valid
              split_ifs at valid with accepted
              rw [← Option.some.inj valid]
              exact (Message.is_valid_xid_iff _ _ _).mp accepted.2

/-- Recording touches the history only. -/
theorem record_same (run : ClientRun) (msg : Message) (answers : KernelAnswers)
    (reaction : DhcpClient.Reaction) (after : ClientRun) :
    (run.record msg answers reaction after).client = after.client ∧
      (run.record msg answers reaction after).phase = after.phase ∧
      (run.record msg answers reaction after).clock = after.clock := by
  unfold record
  cases reaction with
  | ignored => exact ⟨rfl, rfl, rfl⟩
  | offerTaken => exact ⟨rfl, rfl, rfl⟩
  | ackAccepted => exact ⟨rfl, rfl, rfl⟩
  | ackTurnedDown =>
      dsimp only
      split_ifs
      · exact ⟨rfl, rfl, rfl⟩
      · exact ⟨rfl, rfl, rfl⟩
      · exact ⟨rfl, rfl, rfl⟩
  | nakTaken => exact ⟨rfl, rfl, rfl⟩

theorem record_last_ack {run : ClientRun} {msg : Message} {answers : KernelAnswers}
    {reaction : DhcpClient.Reaction} {after : ClientRun}
    (other : reaction ≠ .ackAccepted) :
    (run.record msg answers reaction after).lastAck = after.lastAck := by
  unfold record
  cases reaction with
  | ignored => rfl
  | offerTaken => rfl
  | ackAccepted => exact absurd rfl other
  | ackTurnedDown =>
      dsimp only
      split_ifs
      · rfl
      · rfl
      · rfl
  | nakTaken => rfl

/-- Everything a step can do, with the phase behind it. -/
inductive Advanced (run : ClientRun) (input : ClientInput) : Option Message → ClientRun → Prop
  | evaluated {sent : Option Message} {client : DhcpClient} (ready : run.phase = .evaluating)
      (outcome : DhcpClient.Timed run.client (run.clock + input.first)
        (run.clock + input.first + input.second) sent client) :
      Advanced run input sent
        { run with
          client := client
          phase := client.enterWait input.adjustment
          clock := run.clock + input.elapsed }
  | timedOut {timeout : UInt32} (waiting : run.phase = .polling timeout)
      (nothing : run.received input = none) :
      Advanced run input none
        { run with phase := .evaluating, clock := run.clock + input.elapsed }
  | again {timeout : UInt32} (waiting : run.phase = .polling timeout)
      (nothing : run.received input = none) (woken : input.poll ≠ .timeout) :
      Advanced run input none
        { run with
          phase := goAgain timeout (run.clock + input.first) (run.clock + input.elapsed)
          clock := run.clock + input.elapsed }
  | received {timeout : UInt32} (waiting : run.phase = .polling timeout) {msg : Message}
      {answers : KernelAnswers} {reaction : DhcpClient.Reaction} {client : DhcpClient}
      (got : run.received input = some (msg, answers))
      (outcome : DhcpClient.Reacted run.client msg answers (run.clock + input.first + input.second)
        (run.clock + input.first + input.second + input.third) reaction client) :
      Advanced run input none (run.record msg answers reaction
        { run with
          client := client
          phase :=
            if reaction.returns then .evaluating
            else goAgain timeout (run.clock + input.first) (run.clock + input.elapsed)
          clock := run.clock + input.elapsed })

theorem step_advanced (run : ClientRun) (input : ClientInput) :
    Advanced run input (run.step input).1 (run.step input).2 := by
  unfold step
  cases ready : run.phase with
  | evaluating => exact .evaluated ready (DhcpClient.evaluate_timed _ _ _)
  | polling timeout =>
      cases poll : input.poll with
      | timeout => exact .timedOut ready (by simp [received, ready, poll])
      | failed => exact .again ready (by simp [received, ready, poll]) (by simp [poll])
      | readable frame behind answers =>
          dsimp only
          cases valid : run.client.receiveDhcpMessage frame behind with
          | none => exact .again ready (by simp [received, ready, poll, valid]) (by simp [poll])
          | some msg =>
              have got : run.received input = some (msg, answers) := by
                simp [received, ready, poll, valid]
              exact .received ready got (DhcpClient.handle_dhcp_message_reacted _ _ _ _ _)

/-- The same without the phase, for what does not depend on it. -/
inductive Stepped (run : ClientRun) (input : ClientInput) : Option Message → ClientRun → Prop
  | evaluated {sent : Option Message} {client : DhcpClient} (phase : Phase)
      (ready : run.phase = .evaluating)
      (outcome : DhcpClient.Evaluated run.client (run.clock + input.first) sent client) :
      Stepped run input sent
        { run with client := client, phase := phase, clock := run.clock + input.elapsed }
  | waited (phase : Phase) (nothing : run.received input = none) :
      Stepped run input none { run with phase := phase, clock := run.clock + input.elapsed }
  | received {msg : Message} {answers : KernelAnswers} {reaction : DhcpClient.Reaction}
      {client : DhcpClient} (phase : Phase) (got : run.received input = some (msg, answers))
      (outcome : DhcpClient.Reacted run.client msg answers (run.clock + input.first + input.second)
        (run.clock + input.first + input.second + input.third) reaction client) :
      Stepped run input none (run.record msg answers reaction
        { run with client := client, phase := phase, clock := run.clock + input.elapsed })

theorem stepped_of_advanced {run after : ClientRun} {input : ClientInput} {sent : Option Message}
    (advanced : Advanced run input sent after) : Stepped run input sent after := by
  cases advanced with
  | evaluated ready outcome => exact .evaluated _ ready (DhcpClient.evaluated_of_timed outcome)
  | timedOut waiting nothing => exact .waited _ nothing
  | again waiting nothing woken => exact .waited _ nothing
  | received waiting got outcome => exact .received _ got outcome

theorem step_stepped (run : ClientRun) (input : ClientInput) :
    Stepped run input (run.step input).1 (run.step input).2 :=
  stepped_of_advanced (step_advanced run input)

/-- The state after a step, without the message it sends. -/
def next (run : ClientRun) (input : ClientInput) : ClientRun := (run.step input).2

end ClientRun

/-! ## A concrete client -/

def readyAnswers : KernelAnswers where
  flagsRead := true
  flagsWritten := true
  mtuWritten := true
  address := .done
  gatewayWritten := true
  propertyWritten := fun _ => true

/-- A step that takes the given time and gets the poll result. -/
def stepInput (elapsed : Nat) (poll : PollResult) : ClientInput where
  first := elapsed
  second := 0
  third := 0
  fourth := 0
  adjustment := ⟨0, by decide⟩
  poll := poll

/-- The message arrives at once in a datagram to the client's port. -/
def arrival (message : Message) : ClientInput :=
  stepInput 0 (.readable (some (udpHeader portBootpClient ++ message.bytes)) (fun _ => 0)
    readyAnswers)

/-- A client of `eth0` right after it started. -/
def startedRun (macAddress : MacAddress) : ClientRun where
  client :=
    { mOptions := 0
      mDhcpInfo := .cleared
      mInterface := { mInterfaceName := "eth0", mIndex := 1, mMacAddress := macAddress }
      mLastMsg := Message.init fun _ => 0
      mT1 := { mExpires := 0 }
      mT2 := { mExpires := 0 }
      mState := .init
      mNextTimeout := kInitialTimeout
      mFuzzNextTimeout := true
      mRequestAddress := 0
      mServerAddress := 0
      sNextTransactionId := 1
      host :=
        { address := 0
          prefixLength := 0
          broadcast := 0xFFFFFFFF
          isUp := true
          mtu := 1500
          gateway := 0
          property := fun _ => "" } }
  phase := .evaluating
  clock := 0
  lastAck := none
  configuredBy := []

theorem started_run_started (macAddress : MacAddress) : (startedRun macAddress).Started where
  phase := rfl
  lastAck := rfl
  configuredBy := rfl
  mState := rfl
  mNextTimeout := rfl
  mFuzzNextTimeout := rfl
  mLastMsg := ⟨_, rfl⟩
  timers := ⟨rfl, rfl⟩
  sNextTransactionId := rfl
  isUp := rfl
  address := rfl

end RedroidExt.Dhcp
