import RedroidExt.Dhcp.OptionLoop
import RedroidExt.Dhcp.Renewal

/-!
# The timers of an ACK without T1 and T2

`configureDhcp` derives both timers from the lease time in 32-bit arithmetic. Half of
it is exact; seven times it need not fit, and then T2 is too early.
-/

namespace RedroidExt.Dhcp

open RedroidExt.Library RedroidExt.Library.ByteMemory

set_option autoImplicit false

/-! ## Which options an ACK carries -/

/-- An option in front of END has the code. -/
def Message.CarriesOption (msg : Message) (code : UInt8) : Prop :=
  ∃ i, msg.OptionAt i ∧ i + 1 < msg.optionsSize ∧ msg.options i = code

section Carries

variable {msg : Message}

/-- Lengths lead from record to record. -/
theorem records_of_option_at {records : List Record} (laid : msg.RecordsThenEnd 4 records)
    {i : Nat} (reached : msg.OptionAt i) :
    ∃ rest, msg.RecordsThenEnd i rest ∧ rest ⊆ records := by
  induction reached with
  | first => exact ⟨records, laid, fun _ member => member⟩
  | @next i before notEnd fits ih =>
      obtain ⟨rest, laidHere, among⟩ := ih
      cases rest with
      | nil =>
          have closing : msg.options i = optEnd := laidHere.held.1
          exact absurd closing notEnd
      | cons record rest =>
          obtain ⟨-, lengthByte, -⟩ := Message.records_at_cons (Message.records_at laidHere)
          rw [lengthByte, Record.length_byte]
          exact ⟨rest, Message.records_then_end_tail laidHere,
            fun _ member => among (List.mem_cons_of_mem _ member)⟩

theorem carries_option_of_records {records : List Record} (laid : msg.RecordsThenEnd 4 records)
    {code : UInt8} (carries : msg.CarriesOption code) (notEnd : code ≠ optEnd) :
    ∃ record ∈ records, record.tag = code := by
  obtain ⟨i, reached, inside, sameCode⟩ := carries
  obtain ⟨rest, laidHere, among⟩ := records_of_option_at laid reached
  cases rest with
  | nil =>
      have closing : msg.options i = optEnd := laidHere.held.1
      exact absurd (sameCode.symm.trans closing) notEnd
  | cons record rest =>
      obtain ⟨tagByte, -⟩ := Message.records_at_cons (Message.records_at laidHere)
      exact ⟨record, among List.mem_cons_self, tagByte.symm.trans sameCode⟩

theorem carries_no_option {records : List Record} (laid : msg.RecordsFrom 4 records)
    {code : UInt8} (notEnd : code ≠ optEnd) (none : ∀ record ∈ records, record.tag ≠ code) :
    ¬ msg.CarriesOption code := by
  intro carries
  obtain ⟨record, member, tag⟩ :=
    carries_option_of_records (Message.records_then_end laid) carries notEnd
  exact none record member tag

theorem carries_of_again {scan next : OptionScan} (visited : VisitsScan msg scan)
    (again : readOptionsStep msg scan = .inl next) : msg.CarriesOption (msg.options scan.i) := by
  have inside := (read_options_step_again again).1
  exact ⟨scan.i, option_at_of_inside visited (by omega), inside, rfl⟩

theorem read_option_t1 (info : DhcpInfo) (msg : Message) {optCode : UInt8} (optLength : UInt8)
    (opt : Nat) (other : optCode ≠ optT1) :
    (info.readOption msg optCode optLength opt).t1 = info.t1 := by
  unfold DhcpInfo.readOption
  simp only [apply_ite DhcpInfo.t1, if_neg other, ite_self]

theorem read_option_t2 (info : DhcpInfo) (msg : Message) {optCode : UInt8} (optLength : UInt8)
    (opt : Nat) (other : optCode ≠ optT2) :
    (info.readOption msg optCode optLength opt).t2 = info.t2 := by
  unfold DhcpInfo.readOption
  simp only [apply_ite DhcpInfo.t2, if_neg other, ite_self]

/-- Without the two options their fields stay as `memset` left them. -/
theorem read_options_no_timers (noT1 : ¬ msg.CarriesOption optT1)
    (noT2 : ¬ msg.CarriesOption optT2) :
    (readOptions msg).2.t1 = 0 ∧ (readOptions msg).2.t2 = 0 := by
  have unset : ∀ scan, VisitsScan msg scan → scan.info.t1 = 0 ∧ scan.info.t2 = 0 := by
    intro scan visited
    induction visited with
    | first => exact ⟨rfl, rfl⟩
    | later before again ih =>
        have carries := carries_of_again before again
        obtain ⟨-, -, -, -, info⟩ := read_options_step_again again
        rw [info, read_option_t1 _ _ _ _ fun code => noT1 (code ▸ carries),
          read_option_t2 _ _ _ _ fun code => noT2 (code ▸ carries)]
        exact ih
  obtain ⟨last, visited, leaves⟩ := Loop.visits_of_returns (read_options_returned msg)
  rw [read_options_step_leaves leaves]
  exact unset last visited

theorem read_ack_no_timers (noT1 : ¬ msg.CarriesOption optT1)
    (noT2 : ¬ msg.CarriesOption optT2) :
    (DhcpClient.readAck msg).2.t1 = 0 ∧ (DhcpClient.readAck msg).2.t2 = 0 := by
  have unset := read_options_no_timers noT1 noT2
  unfold DhcpClient.readAck
  dsimp only
  split_ifs
  · exact unset
  · exact unset

end Carries

/-! ## The estimates -/

theorem seven_eighths_toNat (leaseTime : UInt32) :
    (leaseTime * 7 / 8).toNat = 7 * leaseTime.toNat % 2 ^ 32 / 8 := by
  rw [UInt32.toNat_div, UInt32.toNat_mul, Nat.mul_comm]
  rfl

/-- A product that does not fit loses at least 2^29 of the quotient. -/
theorem seven_eighths_exact_iff (leaseTime : UInt32) :
    (leaseTime * 7 / 8).toNat = 7 * leaseTime.toNat / 8 ↔ 7 * leaseTime.toNat < 2 ^ 32 := by
  rw [seven_eighths_toNat]
  omega

namespace DhcpClient

/-- The timers that an ACK without T1 and T2 calls for, set at these readings of the clock. -/
structure DefaultTimers (client : DhcpClient) (t1Now t2Now : Nat) : Prop where
  t1 : client.mT1 = .expireSeconds t1Now (client.mDhcpInfo.leaseTime.toNat / 2)
  t2 : client.mT2 = .expireSeconds t2Now (7 * client.mDhcpInfo.leaseTime.toNat / 8)
  ordered : t1Now ≤ t2Now → client.mT1.mExpires ≤ client.mT2.mExpires
  inLease : client.mT2.mExpires ≤ t2Now + client.mDhcpInfo.leaseTime.toNat * 1000

/-- What an accepted ACK leaves in the timers. -/
theorem accepted_timers {client : DhcpClient} {msg : Message} {answers : KernelAnswers}
    {t1Now t2Now : Nat} (accepted : (client.configureDhcp msg answers t1Now t2Now).1 = true)
    (noT1 : ¬ msg.CarriesOption optT1) (noT2 : ¬ msg.CarriesOption optT2) :
    (client.configureDhcp msg answers t1Now t2Now).2.mDhcpInfo = (readAck msg).2 ∧
      (client.configureDhcp msg answers t1Now t2Now).2.mT1 =
        .expireSeconds t1Now ((readAck msg).2.leaseTime.toNat / 2) ∧
      (client.configureDhcp msg answers t1Now t2Now).2.mT2 =
        .expireSeconds t2Now ((readAck msg).2.leaseTime * 7 / 8).toNat := by
  obtain ⟨t1Zero, t2Zero⟩ := read_ack_no_timers noT1 noT2
  have outcome := configure_dhcp_configured client msg answers t1Now t2Now
  rw [accepted] at outcome
  generalize (client.configureDhcp msg answers t1Now t2Now).2 = after at outcome
  cases outcome with
  | configured _ _ =>
      refine ⟨rfl, ?_, ?_⟩
      · simp [withAck, setTimers, t1Zero]
      · simp [withAck, setTimers, t2Zero]

/-- The default timers are right exactly when seven times the lease time fits 32 bits. -/
theorem default_timers_iff (client : DhcpClient) (msg : Message) (answers : KernelAnswers)
    (t1Now t2Now : Nat) (accepted : (client.configureDhcp msg answers t1Now t2Now).1 = true)
    (noT1 : ¬ msg.CarriesOption optT1) (noT2 : ¬ msg.CarriesOption optT2) :
    (client.configureDhcp msg answers t1Now t2Now).2.DefaultTimers t1Now t2Now ↔
      7 * (readAck msg).2.leaseTime.toNat < 2 ^ 32 := by
  obtain ⟨info, t1, t2⟩ := accepted_timers accepted noT1 noT2
  constructor
  · intro default
    have seconds := congrArg Timer.mExpires (t2.symm.trans default.t2)
    rw [info] at seconds
    simp only [Timer.expireSeconds] at seconds
    exact (seven_eighths_exact_iff _).mp (by omega)
  · intro fits
    have exact := (seven_eighths_exact_iff (readAck msg).2.leaseTime).mpr fits
    rw [exact] at t2
    constructor
    · rw [info]
      exact t1
    · rw [info]
      exact t2
    · intro later
      rw [t1, t2]
      simp only [Timer.expireSeconds]
      omega
    · rw [t2, info]
      simp only [Timer.expireSeconds]
      omega

theorem default_timers_ten_minutes :
    7 * (readAck tenMinuteAck).2.leaseTime.toNat < 2 ^ 32 ∧
      ((startedRun fun _ => 2).client.configureDhcp tenMinuteAck readyAnswers 5 6).2.DefaultTimers
        5 6 := by
  have fits : 7 * (readAck tenMinuteAck).2.leaseTime.toNat < 2 ^ 32 := by
    decide +kernel
  have accepted : ((startedRun fun _ => 2).client.configureDhcp tenMinuteAck readyAnswers 5
      6).1 = true := by
    decide +kernel
  have noT1 := carries_no_option ten_minute_ack_laid (by decide : optT1 ≠ optEnd) (by decide)
  have noT2 := carries_no_option ten_minute_ack_laid (by decide : optT2 ≠ optEnd) (by decide)
  exact ⟨fits, (default_timers_iff _ _ _ 5 6 accepted noT1 noT2).mpr fits⟩

/-- The ACK of this repository's server to a client's REQUEST; its 600 seconds arrive as
1476526080. -/
theorem server_ack_rebinds_first :
    ((startedRun fun _ => 2).client.configureDhcp (ClientRun.homeAck (swap32 0xC0A80002))
        readyAnswers 0 0).1 = true ∧
      ¬ (ClientRun.homeAck (swap32 0xC0A80002)).CarriesOption optT1 ∧
      ¬ (ClientRun.homeAck (swap32 0xC0A80002)).CarriesOption optT2 ∧
      ¬ ((startedRun fun _ => 2).client.configureDhcp (ClientRun.homeAck (swap32 0xC0A80002))
        readyAnswers 0 0).2.DefaultTimers 0 0 := by
  have laid := Message.grant_records dhcpAck (Message.request (fun _ => 2) (swap32 0xC0A80002)
    (swap32 0xC0A80001) 2) (swap32 0xC0A80001) (swap32 0xC0A80002) (swap32 0xFFFFFF00)
    (swap32 0xC0A80001) ⟨[], by decide⟩ 2
  have noT1 := carries_no_option laid (by decide : optT1 ≠ optEnd) (by decide)
  have noT2 := carries_no_option laid (by decide : optT2 ≠ optEnd) (by decide)
  have rebindsFirst : ((startedRun fun _ => 2).client.configureDhcp
      (ClientRun.homeAck (swap32 0xC0A80002)) readyAnswers 0 0).2.mT2.mExpires = 218218496000 ∧
      ((startedRun fun _ => 2).client.configureDhcp
        (ClientRun.homeAck (swap32 0xC0A80002)) readyAnswers 0 0).2.mT1.mExpires =
          738263040000 := by
    decide +kernel
  refine ⟨by decide +kernel, noT1, noT2, ?_⟩
  intro default
  have ordered := default.ordered (Nat.le_refl 0)
  rw [rebindsFirst.1, rebindsFirst.2] at ordered
  omega

end DhcpClient

end RedroidExt.Dhcp
