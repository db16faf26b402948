import RedroidExt.Dhcp.Allocation
import Mathlib.Data.Set.Lattice
import Mathlib.Order.CompletePartialOrder

/-!
# Leases over whole runs of `getOfferAddress`

One inversion says everything a call can do. From it: with a fixed configuration
the leases of an interface are an allocator over its usable hosts, so leases are
unique and a request is refused only when every usable host is leased.
-/

namespace RedroidExt.Dhcp

open RedroidExt.Library RedroidExt.Library.ByteMemory

set_option autoImplicit false

/-- Everything one call can do. -/
inductive OfferOutcome (tables : LeaseTables) (interfaceIndex : UInt32) (macAddress : MacAddress)
    (interfaceAnswer netmaskAnswer : Except String InAddr) :
    Except String OfferAddress → LeaseTables → Prop
  | lookupFailed {text : String}
      (failed : interfaceAnswer = .error text ∨ netmaskAnswer = .error text) :
      OfferOutcome tables interfaceIndex macAddress interfaceAnswer netmaskAnswer
        (.error text) tables
  | held {interfaceAddress mask : InAddr} (addressGiven : interfaceAnswer = .ok interfaceAddress)
      (maskGiven : netmaskAnswer = .ok mask)
      (nonzero : tables.mLeases ⟨interfaceIndex, macAddress⟩ ≠ 0) :
      OfferOutcome tables interfaceIndex macAddress interfaceAnswer netmaskAnswer
        (.ok ⟨tables.mLeases ⟨interfaceIndex, macAddress⟩, mask, interfaceAddress⟩) tables
  | fresh {interfaceAddress mask : InAddr} {found : AddressSearch}
      (addressGiven : interfaceAnswer = .ok interfaceAddress)
      (maskGiven : netmaskAnswer = .ok mask)
      (zero : tables.mLeases ⟨interfaceIndex, macAddress⟩ = 0)
      (searched : found = findAddress (swap32 interfaceAddress) (swap32 mask)
        (tables.mNextAddressOffsets interfaceIndex))
      (inRange : addressInRange found.nextAddress (swap32 interfaceAddress) (swap32 mask) = true) :
      OfferOutcome tables interfaceIndex macAddress interfaceAnswer netmaskAnswer
        (.ok ⟨swap32 found.nextAddress, mask, interfaceAddress⟩)
        { mLeases := Function.update tables.mLeases ⟨interfaceIndex, macAddress⟩
            (swap32 found.nextAddress)
          mNextAddressOffsets :=
            Function.update tables.mNextAddressOffsets interfaceIndex (found.offset + 1) }
  | exhausted {interfaceAddress mask : InAddr} {found : AddressSearch}
      (addressGiven : interfaceAnswer = .ok interfaceAddress)
      (maskGiven : netmaskAnswer = .ok mask)
      (zero : tables.mLeases ⟨interfaceIndex, macAddress⟩ = 0)
      (searched : found = findAddress (swap32 interfaceAddress) (swap32 mask)
        (tables.mNextAddressOffsets interfaceIndex))
      (outside : addressInRange found.nextAddress (swap32 interfaceAddress) (swap32 mask) =
        false) :
      OfferOutcome tables interfaceIndex macAddress interfaceAnswer netmaskAnswer
        (.error outOfAddresses)
        { tables with
          mNextAddressOffsets :=
            Function.update tables.mNextAddressOffsets interfaceIndex found.offset }

theorem get_offer_address_outcome (tables : LeaseTables) (interfaceIndex : UInt32)
    (macAddress : MacAddress) (interfaceAnswer netmaskAnswer : Except String InAddr) :
    OfferOutcome tables interfaceIndex macAddress interfaceAnswer netmaskAnswer
      (getOfferAddress tables interfaceIndex macAddress interfaceAnswer netmaskAnswer).1
      (getOfferAddress tables interfaceIndex macAddress interfaceAnswer netmaskAnswer).2 := by
  unfold getOfferAddress
  cases interfaceAnswer with
  | error text => exact .lookupFailed (.inl rfl)
  | ok interfaceAddress =>
      cases netmaskAnswer with
      | error text => exact .lookupFailed (.inr rfl)
      | ok mask =>
          simp only [assign_eq_update]
          split_ifs with zero inRange
          · exact .fresh rfl rfl zero rfl inRange
          · exact .exhausted rfl rfl zero rfl (Bool.eq_false_iff.mpr inRange)
          · exact .held rfl rfl zero

/-- An address that passes the range check is not zero, for any mask. -/
theorem in_range_ne_zero {address interfaceAddress mask : InAddr}
    (inRange : addressInRange address interfaceAddress mask = true) : swap32 address ≠ 0 := by
  obtain ⟨above, -⟩ := (address_in_range_iff _ _ _).mp inRange
  rw [Ne, swap32_eq_zero]
  rintro rfl
  rw [UInt32.lt_iff_toNat_lt] at above
  exact absurd above (Nat.not_lt_zero _)

/-- The leases of one interface, by client and in host byte order. -/
def leasesOn (tables : LeaseTables) (interfaceIndex : UInt32) :
    Allocator.Assignment MacAddress InAddr := fun macAddress =>
  if tables.mLeases ⟨interfaceIndex, macAddress⟩ = 0 then none
  else some (swap32 (tables.mLeases ⟨interfaceIndex, macAddress⟩))

theorem leases_on_none_iff (tables : LeaseTables) (interfaceIndex : UInt32)
    (macAddress : MacAddress) :
    leasesOn tables interfaceIndex macAddress = none ↔
      tables.mLeases ⟨interfaceIndex, macAddress⟩ = 0 := by
  simp [leasesOn]

theorem leases_on_some_iff (tables : LeaseTables) (interfaceIndex : UInt32)
    (macAddress : MacAddress) (host : InAddr) :
    leasesOn tables interfaceIndex macAddress = some host ↔
      tables.mLeases ⟨interfaceIndex, macAddress⟩ ≠ 0 ∧
        tables.mLeases ⟨interfaceIndex, macAddress⟩ = swap32 host := by
  unfold leasesOn
  split_ifs with zero
  · simp [zero]
  · rw [Option.some.injEq]
    constructor
    · rintro rfl
      exact ⟨zero, (swap32_swap32 _).symm⟩
    · rintro ⟨-, same⟩
      rw [same, swap32_swap32]

/-! ## A fixed configuration -/

/-- What the system reports for an interface, in network byte order. -/
structure InterfaceConfig where
  address : InAddr
  netmask : InAddr
  contiguous : Netmask.Contiguous (swap32 netmask)

abbrev Configuration := UInt32 → InterfaceConfig

namespace InterfaceConfig

def usableHosts (config : InterfaceConfig) : Set InAddr :=
  { host | UsableHost (swap32 config.address) (swap32 config.netmask) host }

/-- All addresses of the interface's subnet, network and broadcast address included. -/
def subnet (config : InterfaceConfig) : Set InAddr :=
  { host | host &&& swap32 config.netmask = swap32 config.address &&& swap32 config.netmask }

def cursor (config : InterfaceConfig) (offset : InAddr) : Nat :=
  Dhcp.cursor (swap32 config.address) (swap32 config.netmask) offset

theorem usable_in_subnet (config : InterfaceConfig) {host : InAddr}
    (usable : host ∈ config.usableHosts) : host ∈ config.subnet := by
  obtain ⟨hostBits, clears⟩ := config.contiguous
  have above := usable.above
  have below := usable.below
  rw [UInt32.lt_iff_toNat_lt] at above below
  rw [Netmask.broadcast_toNat clears] at below
  have hostPart := Netmask.host_part_of_in_block clears (swap32 config.address) host
    (by omega) (by omega)
  have remainder := Netmask.host_part_toNat clears host
  have network := Netmask.network_toNat clears host
  change host &&& swap32 config.netmask = _
  apply UInt32.toNat_inj.mp
  omega

end InterfaceConfig

/-- The cursor splits the usable hosts: those below it are leased, the others are not. -/
structure CursorInvariant (tables : LeaseTables) (interfaceIndex : UInt32)
    (config : InterfaceConfig) : Prop where
  bound : ∃ hostBits, Netmask.Clears (swap32 config.netmask) hostBits ∧
    CursorBound hostBits (tables.mNextAddressOffsets interfaceIndex)
  within : Allocator.Within config.usableHosts (leasesOn tables interfaceIndex)
  exclusive : Allocator.Exclusive (leasesOn tables interfaceIndex)
  covers : ∀ host ∈ config.usableHosts,
    host.toNat < config.cursor (tables.mNextAddressOffsets interfaceIndex) ↔
      ∃ macAddress, leasesOn tables interfaceIndex macAddress = some host

theorem cursor_invariant_empty (interfaceIndex : UInt32) (config : InterfaceConfig) :
    CursorInvariant .empty interfaceIndex config where
  bound := by
    obtain ⟨hostBits, clears⟩ := config.contiguous
    exact ⟨hostBits, clears, .inl (Nat.le_refl 1)⟩
  within := by
    intro macAddress host owned
    exact absurd rfl ((leases_on_some_iff _ _ _ _).mp owned).1
  exclusive := by
    intro first second host owned
    exact absurd rfl ((leases_on_some_iff _ _ _ _).mp owned).1
  covers := by
    intro host usable
    have above := usable.above
    rw [UInt32.lt_iff_toNat_lt] at above
    constructor
    · intro below
      change host.toNat < (swap32 config.address &&& swap32 config.netmask).toNat + 1 at below
      omega
    · rintro ⟨macAddress, owned⟩
      exact absurd rfl ((leases_on_some_iff _ _ _ _).mp owned).1

theorem leases_on_update (tables : LeaseTables) (offsets : UInt32 → InAddr)
    (interfaceIndex : UInt32) (macAddress : MacAddress) {host : InAddr} (nonzero : swap32 host ≠ 0) :
    leasesOn { mLeases := Function.update tables.mLeases ⟨interfaceIndex, macAddress⟩ (swap32 host)
               mNextAddressOffsets := offsets } interfaceIndex =
      Function.update (leasesOn tables interfaceIndex) macAddress (some host) := by
  funext other
  unfold leasesOn
  by_cases same : other = macAddress
  · subst same
    simp only [Function.update_self]
    rw [if_neg nonzero, swap32_swap32]
  · have different : (⟨interfaceIndex, other⟩ : Lease) ≠ ⟨interfaceIndex, macAddress⟩ := by
      simp [same]
    simp only [Function.update_of_ne same, Function.update_of_ne different]

theorem leases_on_other (tables : LeaseTables) (offsets : UInt32 → InAddr)
    {interfaceIndex other : UInt32} (macAddress : MacAddress) (value : InAddr)
    (different : other ≠ interfaceIndex) :
    leasesOn { mLeases := Function.update tables.mLeases ⟨interfaceIndex, macAddress⟩ value
               mNextAddressOffsets := offsets } other = leasesOn tables other := by
  funext client
  have key : (⟨other, client⟩ : Lease) ≠ ⟨interfaceIndex, macAddress⟩ := by
    simp [different]
  simp only [leasesOn, Function.update_of_ne key]

/-- A call for one interface leaves the leases and the offset of every other one alone. -/
theorem offer_other_interface {tables after : LeaseTables} {interfaceIndex : UInt32}
    {macAddress : MacAddress} {interfaceAnswer netmaskAnswer : Except String InAddr}
    {result : Except String OfferAddress}
    (outcome : OfferOutcome tables interfaceIndex macAddress interfaceAnswer netmaskAnswer
      result after)
    {other : UInt32} (different : other ≠ interfaceIndex) :
    leasesOn after other = leasesOn tables other ∧
      after.mNextAddressOffsets other = tables.mNextAddressOffsets other := by
  cases outcome with
  | lookupFailed _ => exact ⟨rfl, rfl⟩
  | held _ _ _ => exact ⟨rfl, rfl⟩
  | fresh _ _ _ _ _ =>
      exact ⟨leases_on_other _ _ _ _ different, Function.update_of_ne different _ _⟩
  | exhausted _ _ _ _ _ => exact ⟨rfl, Function.update_of_ne different _ _⟩

/-! ## The call as an allocator -/

/-- The allocated host of a call's result. -/
def grantedHost : Except String OfferAddress → Option InAddr
  | .ok offer => some (swap32 offer.address)
  | .error _ => none

section FixedConfiguration

variable {tables : LeaseTables} {interfaceIndex : UInt32} {config : InterfaceConfig}
variable {macAddress : MacAddress} {found : AddressSearch} {hostBits : Nat}

/-- A host found by the search is the lowest free one. -/
theorem fresh_grant (holds : CursorInvariant tables interfaceIndex config)
    (zero : tables.mLeases ⟨interfaceIndex, macAddress⟩ = 0)
    (spec : FoundAddress (swap32 config.address) (swap32 config.netmask) hostBits
      (tables.mNextAddressOffsets interfaceIndex) found)
    (inRange : addressInRange found.nextAddress (swap32 config.address) (swap32 config.netmask) =
      true) :
    Allocator.Grant config.usableHosts (leasesOn tables interfaceIndex) macAddress
      (some found.nextAddress)
      (Function.update (leasesOn tables interfaceIndex) macAddress (some found.nextAddress)) := by
  obtain ⟨usable, position, -⟩ := spec.success inRange
  apply Allocator.Grant.fresh ((leases_on_none_iff _ _ _).mpr zero) usable
  · intro other owned
    have below := (holds.covers _ usable).mpr ⟨other, owned⟩
    have advanced := spec.advanced
    unfold InterfaceConfig.cursor at below
    omega
  · intro lower lowerUsable lowerBelow
    rw [UInt32.lt_iff_toNat_lt] at lowerBelow
    exact (holds.covers _ lowerUsable).mp (spec.passed lower lowerUsable (by omega))

/-- After a success the cursor is right behind the new lease. -/
theorem fresh_cursor
    (clears : Netmask.Clears (swap32 config.netmask) hostBits)
    (spec : FoundAddress (swap32 config.address) (swap32 config.netmask) hostBits
      (tables.mNextAddressOffsets interfaceIndex) found)
    (inRange : addressInRange found.nextAddress (swap32 config.address) (swap32 config.netmask) =
      true) :
    CursorBound hostBits (found.offset + 1) ∧
      config.cursor (found.offset + 1) = found.nextAddress.toNat + 1 := by
  obtain ⟨-, position, room⟩ := spec.success inRange
  have one : (1 : UInt32).toNat = 1 := rfl
  have power := Netmask.power_le clears
  have moved : (found.offset + 1).toNat = found.offset.toNat + 1 := by
    rw [UInt32.toNat_add, one]
    omega
  have started := (start_offset_toNat (found.offset + 1)).2.2 (by omega)
  constructor
  · exact .inr (by omega)
  · unfold InterfaceConfig.cursor cursor
    omega

theorem fresh_covers (holds : CursorInvariant tables interfaceIndex config)
    (zero : tables.mLeases ⟨interfaceIndex, macAddress⟩ = 0)
    (spec : FoundAddress (swap32 config.address) (swap32 config.netmask) hostBits
      (tables.mNextAddressOffsets interfaceIndex) found)
    (inRange : addressInRange found.nextAddress (swap32 config.address) (swap32 config.netmask) =
      true)
    (host : InAddr) (usable : host ∈ config.usableHosts) :
    host.toNat < found.nextAddress.toNat + 1 ↔
      ∃ client, Function.update (leasesOn tables interfaceIndex) macAddress
        (some found.nextAddress) client = some host := by
  have grant := fresh_grant holds zero spec inRange
  obtain ⟨-, position, -⟩ := spec.success inRange
  constructor
  · intro below
    by_cases new : host = found.nextAddress
    · exact ⟨macAddress, by rw [Function.update_self, new]⟩
    · have different : host.toNat ≠ found.nextAddress.toNat :=
        fun same => new (UInt32.toNat_inj.mp same)
      obtain ⟨other, owned⟩ := (holds.covers _ usable).mp
        (spec.passed host usable (by omega))
      exact ⟨other, Allocator.grant_keeps grant owned⟩
  · rintro ⟨client, owned⟩
    by_cases new : client = macAddress
    · rw [new, Function.update_self] at owned
      rw [Option.some.inj owned]
      omega
    · rw [Function.update_of_ne new] at owned
      have below := (holds.covers _ usable).mpr ⟨client, owned⟩
      have advanced := spec.advanced
      unfold InterfaceConfig.cursor at below
      omega

/-- A new lease goes to the lowest free host, and the cursor moves right behind it. -/
theorem fresh_refines_allocator (holds : CursorInvariant tables interfaceIndex config)
    (clears : Netmask.Clears (swap32 config.netmask) hostBits)
    (zero : tables.mLeases ⟨interfaceIndex, macAddress⟩ = 0)
    (spec : FoundAddress (swap32 config.address) (swap32 config.netmask) hostBits
      (tables.mNextAddressOffsets interfaceIndex) found)
    (inRange : addressInRange found.nextAddress (swap32 config.address) (swap32 config.netmask) =
      true)
    {after : LeaseTables}
    (leases : after.mLeases =
      Function.update tables.mLeases ⟨interfaceIndex, macAddress⟩ (swap32 found.nextAddress))
    (offset : after.mNextAddressOffsets interfaceIndex = found.offset + 1) :
    Allocator.Grant config.usableHosts (leasesOn tables interfaceIndex) macAddress
        (some found.nextAddress) (leasesOn after interfaceIndex) ∧
      CursorInvariant after interfaceIndex config := by
  have grant := fresh_grant holds zero spec inRange
  have moved := fresh_cursor clears spec inRange
  have leased : leasesOn after interfaceIndex =
      Function.update (leasesOn tables interfaceIndex) macAddress (some found.nextAddress) := by
    rw [← leases_on_update tables after.mNextAddressOffsets interfaceIndex macAddress
      (in_range_ne_zero inRange), ← leases]
  rw [← leased] at grant
  refine ⟨grant, ?_⟩
  constructor
  · refine ⟨hostBits, clears, ?_⟩
    rw [offset]
    exact moved.1
  · exact Allocator.grant_within grant holds.within
  · exact Allocator.grant_exclusive grant holds.exclusive
  · intro host usable
    rw [leased, offset, moved.2]
    exact fresh_covers holds zero spec inRange host usable

/-- A search that leaves the range has every usable host behind it. -/
theorem exhausted_refines_allocator (holds : CursorInvariant tables interfaceIndex config)
    (clears : Netmask.Clears (swap32 config.netmask) hostBits)
    (zero : tables.mLeases ⟨interfaceIndex, macAddress⟩ = 0)
    (spec : FoundAddress (swap32 config.address) (swap32 config.netmask) hostBits
      (tables.mNextAddressOffsets interfaceIndex) found)
    (outside : addressInRange found.nextAddress (swap32 config.address) (swap32 config.netmask) =
      false)
    {after : LeaseTables} (leases : after.mLeases = tables.mLeases)
    (offset : after.mNextAddressOffsets interfaceIndex = found.offset) :
    Allocator.Grant config.usableHosts (leasesOn tables interfaceIndex) macAddress none
        (leasesOn after interfaceIndex) ∧
      CursorInvariant after interfaceIndex config := by
  have behind := spec.failure outside
  have started := (start_offset_toNat found.offset).2.2 spec.positive
  have kept : leasesOn after interfaceIndex = leasesOn tables interfaceIndex := by
    unfold leasesOn
    rw [leases]
  rw [kept]
  constructor
  · exact .exhausted ((leases_on_none_iff _ _ _).mpr zero)
      fun host usable => (holds.covers _ usable).mp (behind host usable)
  · constructor
    · refine ⟨hostBits, clears, ?_⟩
      unfold CursorBound
      rw [offset, started]
      exact spec.bound
    · rw [kept]
      exact holds.within
    · rw [kept]
      exact holds.exclusive
    · intro host usable
      rw [kept, offset]
      have below := behind host usable
      constructor
      · intro _
        exact (holds.covers _ usable).mp below
      · intro _
        have advanced := spec.advanced
        unfold InterfaceConfig.cursor cursor
        omega

/-- With the configured answers a call is one request to the allocator of the interface's
usable hosts, and the cursor keeps splitting them. -/
theorem offer_refines_allocator {after : LeaseTables} {result : Except String OfferAddress}
    (holds : CursorInvariant tables interfaceIndex config)
    (outcome : OfferOutcome tables interfaceIndex macAddress (.ok config.address)
      (.ok config.netmask) result after) :
    Allocator.Grant config.usableHosts (leasesOn tables interfaceIndex) macAddress
        (grantedHost result) (leasesOn after interfaceIndex) ∧
      CursorInvariant after interfaceIndex config := by
  obtain ⟨hostBits, clears, bound⟩ := holds.bound
  have spec := find_address_spec (swap32 config.address) clears bound
  cases outcome with
  | lookupFailed failed => simp at failed
  | held addressGiven maskGiven nonzero =>
      refine ⟨.held ?_, holds⟩
      rw [leases_on_some_iff]
      exact ⟨nonzero, (swap32_swap32 _).symm⟩
  | @fresh interfaceAddress mask found addressGiven maskGiven zero searched inRange =>
      cases addressGiven
      cases maskGiven
      rw [← searched] at spec
      simp only [grantedHost, swap32_swap32]
      exact fresh_refines_allocator holds clears zero spec inRange rfl (Function.update_self _ _ _)
  | @exhausted interfaceAddress mask found addressGiven maskGiven zero searched outside =>
      cases addressGiven
      cases maskGiven
      rw [← searched] at spec
      exact exhausted_refines_allocator holds clears zero spec outside rfl
        (Function.update_self _ _ _)

end FixedConfiguration

/-! ## Runs -/

structure OfferCall where
  interfaceIndex : UInt32
  macAddress : MacAddress
  interfaceAnswer : Except String InAddr
  netmaskAnswer : Except String InAddr

def OfferCall.apply (tables : LeaseTables) (call : OfferCall) : LeaseTables :=
  (getOfferAddress tables call.interfaceIndex call.macAddress call.interfaceAnswer
    call.netmaskAnswer).2

/-- The tables after a list of calls. -/
def offerRun (tables : LeaseTables) (calls : List OfferCall) : LeaseTables :=
  calls.foldl OfferCall.apply tables

/-- A lookup that succeeds gives what the interface is configured with. -/
structure OfferCall.Reports (config : Configuration) (call : OfferCall) : Prop where
  address : ∀ given, call.interfaceAnswer = .ok given → given = (config call.interfaceIndex).address
  netmask : ∀ given, call.netmaskAnswer = .ok given → given = (config call.interfaceIndex).netmask

/-- A call either fails in a lookup and changes nothing or gets the configured answers. -/
theorem reported_answers {config : Configuration} {call : OfferCall}
    (reported : call.Reports config) (tables : LeaseTables) :
    call.apply tables = tables ∨
      (call.interfaceAnswer = .ok (config call.interfaceIndex).address ∧
        call.netmaskAnswer = .ok (config call.interfaceIndex).netmask) := by
  cases addressAnswer : call.interfaceAnswer with
  | error text =>
      left
      unfold OfferCall.apply getOfferAddress
      rw [addressAnswer]
  | ok address =>
      cases maskAnswer : call.netmaskAnswer with
      | error text =>
          left
          unfold OfferCall.apply getOfferAddress
          rw [addressAnswer, maskAnswer]
      | ok mask =>
          right
          rw [reported.address address addressAnswer, reported.netmask mask maskAnswer]
          exact ⟨rfl, rfl⟩

/-- A call keeps the invariant of an interface: only its own calls have to be answered from its
configuration. -/
theorem cursor_invariant_step {config : Configuration} {call : OfferCall} {tables : LeaseTables}
    {interfaceIndex : UInt32} (reported : call.interfaceIndex = interfaceIndex → call.Reports config)
    (holds : CursorInvariant tables interfaceIndex (config interfaceIndex)) :
    CursorInvariant (call.apply tables) interfaceIndex (config interfaceIndex) := by
  have outcome := get_offer_address_outcome tables call.interfaceIndex call.macAddress
    call.interfaceAnswer call.netmaskAnswer
  by_cases same : call.interfaceIndex = interfaceIndex
  · rcases reported_answers (reported same) tables with unchanged | ⟨addressGiven, maskGiven⟩
    · rw [unchanged]
      exact holds
    · subst same
      rw [addressGiven, maskGiven] at outcome
      have after := (offer_refines_allocator holds outcome).2
      rw [← addressGiven, ← maskGiven] at after
      exact after
  · obtain ⟨leases, offsets⟩ := offer_other_interface outcome (Ne.symm same)
    change leasesOn (call.apply tables) interfaceIndex = _ at leases
    change (call.apply tables).mNextAddressOffsets interfaceIndex = _ at offsets
    constructor
    · rw [offsets]
      exact holds.bound
    · rw [leases]
      exact holds.within
    · rw [leases]
      exact holds.exclusive
    · rw [leases, offsets]
      exact holds.covers

theorem cursor_invariant_run {config : Configuration} {calls : List OfferCall}
    {tables : LeaseTables} {interfaceIndex : UInt32}
    (reported : ∀ call ∈ calls, call.interfaceIndex = interfaceIndex → call.Reports config)
    (holds : CursorInvariant tables interfaceIndex (config interfaceIndex)) :
    CursorInvariant (offerRun tables calls) interfaceIndex (config interfaceIndex) := by
  induction calls generalizing tables with
  | nil => exact holds
  | cons call rest ih =>
      apply ih
      · intro other member
        exact reported other (List.mem_cons_of_mem _ member)
      · exact cursor_invariant_step (reported call (by simp)) holds

/-- An interface without calls has no leases. -/
theorem called_of_lease {calls : List OfferCall} {tables : LeaseTables} {interfaceIndex : UInt32}
    {macAddress : MacAddress} (fresh : leasesOn tables interfaceIndex macAddress = none)
    (leased : (offerRun tables calls).mLeases ⟨interfaceIndex, macAddress⟩ ≠ 0) :
    ∃ call ∈ calls, call.interfaceIndex = interfaceIndex := by
  induction calls generalizing tables with
  | nil => exact absurd ((leases_on_none_iff _ _ _).mp fresh) leased
  | cons call rest ih =>
      by_cases same : call.interfaceIndex = interfaceIndex
      · exact ⟨call, by simp, same⟩
      · have outcome := get_offer_address_outcome tables call.interfaceIndex call.macAddress
          call.interfaceAnswer call.netmaskAnswer
        have kept := (offer_other_interface outcome (Ne.symm same)).1
        change leasesOn (call.apply tables) interfaceIndex = _ at kept
        obtain ⟨other, member, serves⟩ := ih (by rw [kept]; exact fresh)
          leased
        exact ⟨other, List.mem_cons_of_mem _ member, serves⟩

/-- On one interface an address belongs to one client. -/
theorem client_of_lease {tables : LeaseTables} {interfaceIndex : UInt32} {config : InterfaceConfig}
    (holds : CursorInvariant tables interfaceIndex config) {first second : MacAddress}
    (held : tables.mLeases ⟨interfaceIndex, first⟩ ≠ 0)
    (same : tables.mLeases ⟨interfaceIndex, first⟩ = tables.mLeases ⟨interfaceIndex, second⟩) :
    first = second := by
  have firstOwns := (leases_on_some_iff tables interfaceIndex first
    (swap32 (tables.mLeases ⟨interfaceIndex, first⟩))).mpr ⟨held, (swap32_swap32 _).symm⟩
  have secondOwns := (leases_on_some_iff tables interfaceIndex second
    (swap32 (tables.mLeases ⟨interfaceIndex, first⟩))).mpr
      ⟨by rw [← same]; exact held, by rw [swap32_swap32, same]⟩
  exact holds.exclusive _ _ _ firstOwns secondOwns

/-- Different keys never hold the same address: on one interface by the cursor, on two by
their disjoint subnets. -/
theorem leases_unique (config : Configuration) (calls : List OfferCall)
    (reported : ∀ call ∈ calls, call.Reports config)
    (disjoint : ∀ first ∈ calls, ∀ second ∈ calls, first.interfaceIndex ≠ second.interfaceIndex →
      Disjoint (config first.interfaceIndex).subnet (config second.interfaceIndex).subnet)
    (first second : Lease) (different : first ≠ second)
    (firstHeld : (offerRun .empty calls).mLeases first ≠ 0)
    (secondHeld : (offerRun .empty calls).mLeases second ≠ 0) :
    (offerRun .empty calls).mLeases first ≠ (offerRun .empty calls).mLeases second := by
  intro same
  obtain ⟨firstIndex, firstMac⟩ := first
  obtain ⟨secondIndex, secondMac⟩ := second
  have invariant := fun interfaceIndex =>
    cursor_invariant_run (fun call member _ => reported call member)
      (cursor_invariant_empty interfaceIndex (config interfaceIndex))
  by_cases sameInterface : firstIndex = secondIndex
  · subst sameInterface
    have sameMac := client_of_lease (invariant firstIndex) firstHeld same
    exact different (by rw [sameMac])
  · have firstOwns := (leases_on_some_iff (offerRun .empty calls) firstIndex firstMac
      (swap32 ((offerRun .empty calls).mLeases ⟨firstIndex, firstMac⟩))).mpr
        ⟨firstHeld, (swap32_swap32 _).symm⟩
    have secondOwns := (leases_on_some_iff (offerRun .empty calls) secondIndex secondMac
      (swap32 ((offerRun .empty calls).mLeases ⟨firstIndex, firstMac⟩))).mpr
        ⟨secondHeld, by rw [swap32_swap32, same]⟩
    obtain ⟨firstCall, firstMember, firstServes⟩ := called_of_lease
      ((leases_on_none_iff _ _ _).mpr rfl) firstHeld
    obtain ⟨secondCall, secondMember, secondServes⟩ := called_of_lease
      ((leases_on_none_iff _ _ _).mpr rfl) secondHeld
    have apart := disjoint firstCall firstMember secondCall secondMember
      (by rw [firstServes, secondServes]; exact sameInterface)
    rw [firstServes, secondServes] at apart
    exact Set.disjoint_left.mp apart
      ((config firstIndex).usable_in_subnet ((invariant firstIndex).within _ _ firstOwns))
      ((config secondIndex).usable_in_subnet ((invariant secondIndex).within _ _ secondOwns))

theorem slash_24_contiguous : Netmask.Contiguous (swap32 (swap32 0xFFFFFF00)) :=
  ⟨8, by decide, by decide⟩

/-- Two `/24` networks, 192.168.0.1 on the odd interfaces and 10.0.0.1 on the others. -/
def exampleConfiguration : Configuration := fun interfaceIndex =>
  { address := if interfaceIndex % 2 = 1 then swap32 0xC0A80001 else swap32 0x0A000001
    netmask := swap32 0xFFFFFF00
    contiguous := slash_24_contiguous }

/-- A call that gets the configured answers. -/
def configuredCall (config : Configuration) (interfaceIndex : UInt32) (macAddress : MacAddress) :
    OfferCall where
  interfaceIndex := interfaceIndex
  macAddress := macAddress
  interfaceAnswer := .ok (config interfaceIndex).address
  netmaskAnswer := .ok (config interfaceIndex).netmask

theorem configured_call_reports (config : Configuration) (interfaceIndex : UInt32)
    (macAddress : MacAddress) : (configuredCall config interfaceIndex macAddress).Reports config where
  address := fun _ given => (Except.ok.inj given).symm
  netmask := fun _ given => (Except.ok.inj given).symm

theorem leases_unique_two_interfaces :
    (offerRun .empty [configuredCall exampleConfiguration 1 (fun _ => 1),
        configuredCall exampleConfiguration 2 (fun _ => 2)]).mLeases ⟨1, fun _ => 1⟩ ≠
      (offerRun .empty [configuredCall exampleConfiguration 1 (fun _ => 1),
        configuredCall exampleConfiguration 2 (fun _ => 2)]).mLeases ⟨2, fun _ => 2⟩ := by
  refine leases_unique exampleConfiguration _ ?_ ?_ _ _ (by decide) (by decide +kernel)
    (by decide +kernel)
  · simp [configured_call_reports]
  · have apart : Disjoint (exampleConfiguration 1).subnet (exampleConfiguration 2).subnet := by
      rw [Set.disjoint_left]
      intro host first second
      have networks : swap32 (exampleConfiguration 1).address &&& swap32 (exampleConfiguration 1).netmask =
          swap32 (exampleConfiguration 2).address &&& swap32 (exampleConfiguration 2).netmask :=
        first.symm.trans second
      exact absurd networks (by decide)
    simp [configuredCall, apart, apart.symm]

/-- When both lookups succeed, running out is the only way to fail. -/
theorem out_of_addresses_iff_none {tables after : LeaseTables} {interfaceIndex : UInt32}
    {macAddress : MacAddress} {interfaceAddress mask : InAddr}
    {result : Except String OfferAddress}
    (outcome : OfferOutcome tables interfaceIndex macAddress (.ok interfaceAddress) (.ok mask)
      result after) : result = .error outOfAddresses ↔ grantedHost result = none := by
  cases outcome with
  | lookupFailed failure => simp at failure
  | held _ _ _ => simp [grantedHost]
  | fresh _ _ _ _ _ => simp [grantedHost]
  | exhausted _ _ _ _ _ => simp [grantedHost]

/-- A call fails for lack of addresses exactly when the client has no lease and every usable
host is leased to another client. -/
theorem out_of_addresses_iff (config : Configuration) (calls : List OfferCall)
    (reported : ∀ call ∈ calls,
      call.interfaceAnswer = .ok (config call.interfaceIndex).address ∧
        call.netmaskAnswer = .ok (config call.interfaceIndex).netmask)
    (interfaceIndex : UInt32) (macAddress : MacAddress) :
    (getOfferAddress (offerRun .empty calls) interfaceIndex macAddress
        (.ok (config interfaceIndex).address) (.ok (config interfaceIndex).netmask)).1 =
        .error outOfAddresses ↔
      (offerRun .empty calls).mLeases ⟨interfaceIndex, macAddress⟩ = 0 ∧
        ∀ host, UsableHost (swap32 (config interfaceIndex).address)
            (swap32 (config interfaceIndex).netmask) host →
          ∃ other, other ≠ macAddress ∧
            (offerRun .empty calls).mLeases ⟨interfaceIndex, other⟩ = swap32 host := by
  have reports : ∀ call ∈ calls, call.Reports config := by
    intro call member
    obtain ⟨address, netmask⟩ := reported call member
    exact ⟨fun given same => Except.ok.inj (same.symm.trans address),
      fun given same => Except.ok.inj (same.symm.trans netmask)⟩
  have invariant := cursor_invariant_run (fun call member _ => reports call member)
    (cursor_invariant_empty interfaceIndex (config interfaceIndex))
  have outcome := get_offer_address_outcome (offerRun .empty calls) interfaceIndex macAddress
    (.ok (config interfaceIndex).address) (.ok (config interfaceIndex).netmask)
  have grant := (offer_refines_allocator invariant outcome).1
  rw [out_of_addresses_iff_none outcome, Allocator.grant_fails_iff grant, leases_on_none_iff]
  constructor
  · rintro ⟨zero, taken⟩
    refine ⟨zero, ?_⟩
    intro host usable
    obtain ⟨other, owned⟩ := taken host usable
    obtain ⟨nonzero, same⟩ := (leases_on_some_iff _ _ _ _).mp owned
    refine ⟨other, ?_, same⟩
    rintro rfl
    exact nonzero zero
  · rintro ⟨zero, taken⟩
    refine ⟨zero, ?_⟩
    intro host usable
    obtain ⟨other, -, same⟩ := taken host usable
    refine ⟨other, (leases_on_some_iff _ _ _ _).mpr ⟨?_, same⟩⟩
    rw [same]
    exact in_range_ne_zero ((address_in_range_iff _ _ _).mpr ⟨usable.above, usable.below⟩)

/-- A `/30` network whose interface has one of its two hosts. -/
def smallConfiguration : Configuration := fun _ =>
  { address := swap32 0xC0A80001
    netmask := swap32 0xFFFFFFFC
    contiguous := ⟨2, by decide, by decide⟩ }

theorem out_of_addresses_second_client :
    (getOfferAddress (offerRun .empty [configuredCall smallConfiguration 1 (fun _ => 1)]) 1
        (fun _ => 2) (.ok (smallConfiguration 1).address) (.ok (smallConfiguration 1).netmask)).1 =
        .error outOfAddresses ↔
      (offerRun .empty [configuredCall smallConfiguration 1 (fun _ => 1)]).mLeases
          ⟨1, fun _ => 2⟩ = 0 ∧
        ∀ host, UsableHost (swap32 (smallConfiguration 1).address)
            (swap32 (smallConfiguration 1).netmask) host →
          ∃ other, other ≠ (fun _ => 2) ∧
            (offerRun .empty [configuredCall smallConfiguration 1 (fun _ => 1)]).mLeases
              ⟨1, other⟩ = swap32 host :=
  out_of_addresses_iff smallConfiguration _ (by simp [configuredCall]) 1 (fun _ => 2)

end RedroidExt.Dhcp
