import RedroidExt.Dhcp.DefaultTimers
import RedroidExt.Library.Assignments

/-!
# What a rejected ACK leaves behind

`configureDhcp` sets the timers as soon as the ACK is decoded, and then the flags, the
MTU, the properties and the address one after the other. Nothing takes back what was
done when a later call fails.
-/

namespace RedroidExt.Dhcp

open RedroidExt.Library RedroidExt.Library.ByteMemory

set_option autoImplicit false

/-! ## The writes of one ACK -/

/-- The properties that are set, with their values, in order. -/
def DhcpInfo.properties (info : DhcpInfo) (name : String) : List (String × String) :=
  ("vendor.net." ++ name ++ ".gw", addrToStr info.gateway) ::
    (List.finRange 4).map fun index =>
      ("vendor.net." ++ name ++ ".dns" ++ toString (index.val + 1),
        if info.dns index ≠ 0 then addrToStr (info.dns index) else "")

theorem property_names_distinct (info : DhcpInfo) (name : String) :
    ((info.properties name).map Prod.fst).Nodup := by
  have names : (info.properties name).map Prod.fst =
      [".gw", ".dns1", ".dns2", ".dns3", ".dns4"].map fun ending =>
        ("vendor.net." ++ name) ++ ending := by
    simp [DhcpInfo.properties, List.finRange, String.append_assoc]
    decide
  rw [names]
  refine List.Nodup.map ?_ (by decide)
  exact fun left right same => (String.append_right_inj _).mp same

namespace Host

/-- The fields of the host that a lease in use relies on. -/
structure Keeps (before after : Host) : Prop where
  address : after.address = before.address
  isUp : after.isUp = before.isUp
  mtu : after.mtu = before.mtu
  property : after.property = before.property

/-- Properties that are written one after the other. -/
def setAll (host : Host) (pairs : List (String × String)) (answers : KernelAnswers) : Host :=
  pairs.foldl (fun host pair => host.setProperty pair.1 pair.2 answers) host

theorem set_all_eq (host : Host) (pairs : List (String × String)) (answers : KernelAnswers) :
    host.setAll pairs answers = { host with
      property := assignAll host.property (pairs.filter fun pair => answers.propertyWritten pair.1) } := by
  induction pairs generalizing host with
  | nil => rfl
  | cons pair rest ih =>
      have first : host.setAll (pair :: rest) answers =
          (host.setProperty pair.1 pair.2 answers).setAll rest answers := rfl
      rw [first, ih]
      cases written : answers.propertyWritten pair.1 with
      | false => simp [setProperty, written]
      | true =>
          simp only [setProperty, written, if_true, List.filter_cons_of_pos, Assignments.assign_cons]
          congr 2
          funext other
          exact (Function.update_apply _ _ _ _).symm

end Host

/-! ## The interface part -/

namespace DhcpClient

theorem set_properties_eq (host : Host) (name : String) (info : DhcpInfo)
    (answers : KernelAnswers) :
    setProperties host name info answers = host.setAll (info.properties name) answers := by
  unfold setProperties Host.setAll DhcpInfo.properties
  rw [List.foldl_cons, List.foldl_map]

/-- `bringUp` succeeds. -/
def BringsUp (host : Host) (answers : KernelAnswers) : Prop :=
  answers.flagsRead = true ∧ (host.isUp = true ∨ answers.flagsWritten = true)

instance (host : Host) (answers : KernelAnswers) : Decidable (BringsUp host answers) :=
  inferInstanceAs (Decidable (_ ∧ _))

section Interface

variable {host : Host} {answers : KernelAnswers}

theorem bring_up_down (down : ¬ BringsUp host answers) : host.bringUp answers = (false, host) := by
  unfold BringsUp at down
  unfold Host.bringUp Host.setInterfaceUp
  cases read : answers.flagsRead <;> cases up : host.isUp <;>
    cases written : answers.flagsWritten <;> simp [read, up, written] at down ⊢

theorem bring_up_up (up : BringsUp host answers) :
    host.bringUp answers = (true, { host with isUp := true }) := by
  obtain ⟨read, up⟩ := up
  unfold Host.bringUp Host.setInterfaceUp
  rw [if_neg (not_not.mpr read)]
  by_cases already : host.isUp = true
  · rw [if_pos already, ← already]
  · rw [if_neg already, if_neg (not_not.mpr (up.resolve_left already))]

theorem configure_interface_down (down : ¬ BringsUp host answers) (name : String)
    (info : DhcpInfo) : configureInterface host name info answers = (false, host) := by
  unfold configureInterface
  rw [bring_up_down down]
  rfl

/-- The host when `setAddress` is called. -/
def addressedHost (host : Host) (name : String) (info : DhcpInfo) (answers : KernelAnswers) :
    Host :=
  { host with
    isUp := true
    mtu := if info.mtu ≠ 0 ∧ answers.mtuWritten = true then info.mtu else host.mtu
    property := assignAll host.property
      ((info.properties name).filter fun pair => answers.propertyWritten pair.1) }

theorem configure_interface_up (up : BringsUp host answers) (name : String) (info : DhcpInfo) :
    configureInterface host name info answers =
      (addressedHost host name info answers).setAddress info.offeredAddress info.subnetMask
        answers := by
  unfold configureInterface addressedHost
  rw [bring_up_up up]
  simp only [set_properties_eq, Host.set_all_eq, not_true_eq_false, if_false]
  congr 1
  by_cases wanted : info.mtu = 0
  · simp [wanted]
  · cases written : answers.mtuWritten <;> simp [wanted, Host.setMtu, written]

/-- What the ACK asks of the interface is there already, as far as the kernel is about to do it. -/
structure RepeatsHost (host : Host) (name : String) (info : DhcpInfo) (answers : KernelAnswers) :
    Prop where
  isUp : host.isUp = true
  mtu : info.mtu ≠ 0 → answers.mtuWritten = true → host.mtu = info.mtu
  property : ∀ pair ∈ info.properties name, answers.propertyWritten pair.1 = true →
    host.property pair.1 = pair.2
  address : answers.address ≠ .refused → host.address = info.offeredAddress

theorem set_address_keeps_iff {before addressed : Host} {address subnetMask : InAddr} :
    before.Keeps (addressed.setAddress address subnetMask answers).2 ↔
      addressed.isUp = before.isUp ∧ addressed.mtu = before.mtu ∧
        addressed.property = before.property ∧
        (if answers.address = .refused then addressed.address else address) = before.address := by
  unfold Host.setAddress
  cases answers.address with
  | done => exact ⟨fun keeps => ⟨keeps.isUp, keeps.mtu, keeps.property, keeps.address⟩,
      fun same => ⟨same.2.2.2, same.1, same.2.1, same.2.2.1⟩⟩
  | refused => exact ⟨fun keeps => ⟨keeps.isUp, keeps.mtu, keeps.property, keeps.address⟩,
      fun same => ⟨same.2.2.2, same.1, same.2.1, same.2.2.1⟩⟩
  | unconfirmed => exact ⟨fun keeps => ⟨keeps.isUp, keeps.mtu, keeps.property, keeps.address⟩,
      fun same => ⟨same.2.2.2, same.1, same.2.1, same.2.2.1⟩⟩

theorem mtu_kept_iff (info : DhcpInfo) :
    (if info.mtu ≠ 0 ∧ answers.mtuWritten = true then info.mtu else host.mtu) = host.mtu ↔
      (info.mtu ≠ 0 → answers.mtuWritten = true → host.mtu = info.mtu) := by
  by_cases set : info.mtu ≠ 0 ∧ answers.mtuWritten = true
  · rw [if_pos set]
    exact ⟨fun same _ _ => same.symm, fun repeats => (repeats set.1 set.2).symm⟩
  · rw [if_neg set]
    exact ⟨fun _ wanted written => absurd ⟨wanted, written⟩ set, fun _ => rfl⟩

theorem properties_kept_iff (name : String) (info : DhcpInfo) :
    assignAll host.property ((info.properties name).filter fun pair =>
        answers.propertyWritten pair.1) = host.property ↔
      ∀ pair ∈ info.properties name, answers.propertyWritten pair.1 = true →
        host.property pair.1 = pair.2 := by
  have distinct := Assignments.distinct_filter (property_names_distinct info name)
    fun pair => answers.propertyWritten pair.1
  rw [Assignments.assign_eq_self_iff _ distinct]
  simp only [List.mem_filter, and_imp]

theorem configure_interface_keeps_iff (name : String) (info : DhcpInfo) :
    host.Keeps (configureInterface host name info answers).2 ↔
      (BringsUp host answers → RepeatsHost host name info answers) := by
  by_cases up : BringsUp host answers
  · rw [configure_interface_up up, set_address_keeps_iff]
    unfold addressedHost
    dsimp only
    rw [mtu_kept_iff, properties_kept_iff]
    constructor
    · intro same
      obtain ⟨isUp, mtu, property, address⟩ := same
      refine fun _ => ⟨isUp.symm, mtu, property, ?_⟩
      intro applied
      rw [if_neg applied] at address
      exact address.symm
    · intro repeats
      obtain ⟨isUp, mtu, property, address⟩ := repeats up
      refine ⟨isUp.symm, mtu, property, ?_⟩
      split_ifs with refused
      · rfl
      · exact (address refused).symm
  · rw [configure_interface_down up]
    exact ⟨fun _ bringsUp => absurd bringsUp up, fun _ => ⟨rfl, rfl, rfl, rfl⟩⟩

theorem configure_interface_result (name : String) (info : DhcpInfo) :
    (configureInterface host name info answers).1 = true ↔
      BringsUp host answers ∧ answers.address = .done := by
  by_cases up : BringsUp host answers
  · rw [configure_interface_up up]
    unfold Host.setAddress
    cases answer : answers.address <;> simp [up]
  · rw [configure_interface_down up]
    simp [up]

end Interface

/-! ## Rejected ACKs -/

/-- The timers already expire when the ACK makes them expire. -/
structure RepeatsTimers (client : DhcpClient) (info : DhcpInfo) (t1Now t2Now : Nat) : Prop where
  t1 : client.mT1 =
    .expireSeconds t1Now (if info.t1 > 0 then info.t1 else info.leaseTime / 2).toNat
  t2 : client.mT2 =
    .expireSeconds t2Now (if info.t2 > 0 then info.t2 else (info.leaseTime * 7) / 8).toNat

/-- No call makes `configureDhcp` return false. -/
structure CallsSucceed (client : DhcpClient) (answers : KernelAnswers) : Prop where
  bringsUp : BringsUp client.host answers
  address : answers.address = .done
  gateway : client.mOptions &&& noGateway = 0 → answers.gatewayWritten = true

/-- The timers, and what the host keeps. -/
structure KeepsLease (before after : DhcpClient) : Prop where
  mT1 : after.mT1 = before.mT1
  mT2 : after.mT2 = before.mT2
  host : before.host.Keeps after.host

/-- The ACK is rejected while it is decoded, or not at all, or repeats what is in use. -/
def RejectedInTime (client : DhcpClient) (msg : Message) (answers : KernelAnswers)
    (t1Now t2Now : Nat) : Prop :=
  msg.optionsSize < 4 ∨ (readAck msg).1 = false ∨ client.CallsSucceed answers ∨
    client.RepeatsTimers (readAck msg).2 t1Now t2Now ∧
      (BringsUp client.host answers → RepeatsHost client.host client.mInterface.mInterfaceName
        (readAck msg).2 answers)

section Rejected

variable {client : DhcpClient} {msg : Message} {answers : KernelAnswers} {t1Now t2Now : Nat}

theorem keeps_lease_with_ack_iff (info : DhcpInfo) (host : Host) :
    client.KeepsLease (client.withAck info t1Now t2Now host) ↔
      client.RepeatsTimers info t1Now t2Now ∧ client.host.Keeps host :=
  ⟨fun keeps => ⟨⟨keeps.mT1.symm, keeps.mT2.symm⟩, keeps.host⟩,
    fun both => ⟨both.1.t1.symm, both.1.t2.symm, both.2⟩⟩

/-- The default route is not among what is kept. -/
theorem configure_gateway_keeps_iff {before : Host} (host : Host) (options : UInt32)
    (info : DhcpInfo) :
    before.Keeps (configureGateway host options info answers).2 ↔ before.Keeps host := by
  unfold configureGateway Host.setDefaultGateway
  split_ifs <;> constructor <;>
    exact fun keeps => ⟨keeps.address, keeps.isUp, keeps.mtu, keeps.property⟩

theorem accepts_iff (client : DhcpClient) (answers : KernelAnswers) (large : ¬ msg.optionsSize < 4) (read : (readAck msg).1 = true) :
    client.accepts msg answers = true ↔ client.CallsSucceed answers := by
  have configured := @configure_interface_result client.host answers
    client.mInterface.mInterfaceName (readAck msg).2
  simp only [accepts, configuresAddress, decide_eq_true_eq, large, not_false_eq_true, read,
    true_and, configured]
  constructor
  · exact fun all => ⟨all.1.1, all.1.2, all.2⟩
  · exact fun calls => ⟨⟨calls.bringsUp, calls.address⟩, calls.gateway⟩

theorem rejected_in_time_iff (large : ¬ msg.optionsSize < 4) (read : (readAck msg).1 = true)
    (refuses : ¬ client.CallsSucceed answers) :
    client.RejectedInTime msg answers t1Now t2Now ↔
      client.RepeatsTimers (readAck msg).2 t1Now t2Now ∧
        client.host.Keeps (configureInterface client.host client.mInterface.mInterfaceName
          (readAck msg).2 answers).2 := by
  rw [configure_interface_keeps_iff]
  unfold RejectedInTime
  simp only [large, read, refuses, false_or, Bool.true_eq_false]

end Rejected

/-- A rejected ACK leaves the lease in use alone exactly when it is rejected while it is decoded,
or nothing that was written before the failing call differs from what was there. -/
theorem rejected_ack_keeps_lease_iff (client : DhcpClient) (msg : Message)
    (answers : KernelAnswers) (t1Now t2Now : Nat) :
    ((client.configureDhcp msg answers t1Now t2Now).1 = false →
        client.KeepsLease (client.configureDhcp msg answers t1Now t2Now).2) ↔
      client.RejectedInTime msg answers t1Now t2Now := by
  have refl : ∀ info, client.KeepsLease { client with mDhcpInfo := info } :=
    fun info => ⟨rfl, rfl, rfl, rfl, rfl, rfl⟩
  by_cases large : msg.optionsSize < 4
  · have unchanged : client.configureDhcp msg answers t1Now t2Now = (false, client) := by
      unfold configureDhcp
      rw [if_pos large]
    rw [unchanged]
    exact ⟨fun _ => .inl large, fun _ _ => refl client.mDhcpInfo⟩
  · have outcome := configure_dhcp_configured client msg answers t1Now t2Now
    generalize client.configureDhcp msg answers t1Now t2Now = result at outcome ⊢
    obtain ⟨succeeded, after⟩ := result
    dsimp only at outcome ⊢
    cases outcome with
    | small short => exact absurd short large
    | unread failed => exact ⟨fun _ => .inr (.inl failed), fun _ _ => refl (readAck msg).2⟩
    | unconfigured read failed =>
        have refuses : ¬ client.CallsSucceed answers := by
          intro calls
          rw [(configure_interface_result _ _).mpr ⟨calls.bringsUp, calls.address⟩] at failed
          cases failed
        rw [rejected_in_time_iff large read refuses, keeps_lease_with_ack_iff]
        exact ⟨fun keeps => keeps rfl, fun keeps _ => keeps⟩
    | configured configures result =>
        have read := (configures_read configures).1
        have calls := accepts_iff client answers large read
        cases succeeded with
        | true => exact ⟨fun _ => .inr (.inr (.inl (calls.mp result))), fun _ other => nomatch other⟩
        | false =>
            have refuses : ¬ client.CallsSucceed answers := by
              rw [← calls, result]
              exact Bool.false_ne_true
            rw [rejected_in_time_iff large read refuses, keeps_lease_with_ack_iff,
              configure_gateway_keeps_iff]
            exact ⟨fun keeps => keeps rfl, fun keeps _ => keeps⟩

/-- A client in Renewing with a lease of 192.168.0.2 whose timers were set to expire at 300 and
525 seconds. -/
def renewingClient : DhcpClient :=
  { (startedRun fun _ => 2).client with
    mT1 := { mExpires := 300000 }
    mT2 := { mExpires := 525000 }
    mState := .renewing
    host :=
      { (startedRun fun _ => 2).client.host with
        address := swap32 0xC0A80002
        gateway := swap32 0xC0A80001 } }

/-- The router refuses the gateway of an ACK that arrives after 400 seconds. Both timers start
anew, and the interface has the other address. -/
theorem refused_gateway_moves_lease :
    (renewingClient.configureDhcp (ClientRun.homeAck (swap32 0xC0A8004D))
        { readyAnswers with gatewayWritten := false } 400000 400000).1 = false ∧
      (renewingClient.configureDhcp (ClientRun.homeAck (swap32 0xC0A8004D))
        { readyAnswers with gatewayWritten := false } 400000 400000).2.host.address =
          swap32 0xC0A8004D ∧
      ¬ renewingClient.KeepsLease (renewingClient.configureDhcp
        (ClientRun.homeAck (swap32 0xC0A8004D)) { readyAnswers with gatewayWritten := false }
        400000 400000).2 := by
  have moved : (renewingClient.configureDhcp (ClientRun.homeAck (swap32 0xC0A8004D))
      { readyAnswers with gatewayWritten := false } 400000 400000).2.mT2.mExpires ≠ 525000 := by
    decide +kernel
  refine ⟨by decide +kernel, by decide +kernel, ?_⟩
  exact fun keeps => moved (congrArg Timer.mExpires keeps.mT2)

end DhcpClient

end RedroidExt.Dhcp
