import RedroidExt.Dhcp.Server
import RedroidExt.Library.Allocator
import RedroidExt.Library.Netmask

/-!
# Address allocation

`getOfferAddress` with a fixed interface configuration is an allocator over the
usable hosts of the subnet: the stored offset is a cursor below which every
usable host is leased and at or above which none is.
-/

namespace RedroidExt.Dhcp

open RedroidExt.Library RedroidExt.Library.ByteMemory

set_option autoImplicit false

/-- An address of the interface's subnet that a client may get, in host byte order: neither
network nor broadcast nor the interface's own address. -/
structure UsableHost (interfaceAddress mask address : InAddr) : Prop where
  above : (interfaceAddress &&& mask) < address
  below : address < (interfaceAddress ||| ~~~mask)
  other : address ≠ interfaceAddress

theorem address_in_range_iff (address interfaceAddress mask : InAddr) :
    addressInRange address interfaceAddress mask = true ↔
      (interfaceAddress &&& mask) < address ∧ address < (interfaceAddress ||| ~~~mask) := by
  unfold addressInRange
  split_ifs with low high
  · simp only [false_iff, not_and]
    intro above
    exact absurd low (UInt32.not_le.mpr above)
  · simp only [false_iff, not_and]
    intro _ below
    exact absurd high (UInt32.not_le.mpr below)
  · simp only [true_iff]
    exact ⟨UInt32.not_le.mp low, UInt32.not_le.mp high⟩

/-- Inside the range only the interface's own address is refused. -/
theorem is_valid_host_in_range {interfaceAddress mask address : InAddr} {hostBits : Nat}
    (clears : Netmask.Clears mask hostBits)
    (inRange : addressInRange address interfaceAddress mask = true) :
    isValidHost address interfaceAddress mask = true ↔ address ≠ interfaceAddress := by
  obtain ⟨above, below⟩ := (address_in_range_iff _ _ _).mp inRange
  rw [UInt32.lt_iff_toNat_lt] at above below
  rw [Netmask.broadcast_toNat clears] at below
  have complement := Netmask.complement_toNat clears
  have hostPart := Netmask.host_part_of_in_block clears interfaceAddress address (by omega) (by omega)
  have notNetwork : (address &&& ~~~mask) ≠ 0 := by
    intro zero
    rw [zero] at hostPart
    change 0 = _ at hostPart
    omega
  have notBroadcast : (address &&& ~~~mask) ≠ ~~~mask := by
    intro full
    rw [full, complement] at hostPart
    omega
  simp [isValidHost, notNetwork, notBroadcast]

/-! ## The search loop -/

theorem search_step_cases (interfaceAddress mask : InAddr) (search : AddressSearch) :
    (isValidHost search.nextAddress interfaceAddress mask = false ∧
      addressInRange search.nextAddress interfaceAddress mask = true ∧
      searchStep interfaceAddress mask search =
        .inl { nextAddress := search.nextAddress + 1, offset := search.offset + 1 }) ∨
    ((isValidHost search.nextAddress interfaceAddress mask = true ∨
        addressInRange search.nextAddress interfaceAddress mask = false) ∧
      searchStep interfaceAddress mask search = .inr search) := by
  unfold searchStep
  cases valid : isValidHost search.nextAddress interfaceAddress mask with
  | true => simp
  | false =>
      cases inRange : addressInRange search.nextAddress interfaceAddress mask with
      | true => simp
      | false => simp

theorem next_address_toNat {interfaceAddress mask address : InAddr}
    (inRange : addressInRange address interfaceAddress mask = true) :
    (address + 1).toNat = address.toNat + 1 := by
  obtain ⟨-, below⟩ := (address_in_range_iff _ _ _).mp inRange
  rw [UInt32.lt_iff_toNat_lt] at below
  have bound := (interfaceAddress ||| ~~~mask).toNat_lt
  have one : (1 : UInt32).toNat = 1 := rfl
  rw [UInt32.toNat_add, one]
  omega

theorem search_rounds_decrease (interfaceAddress mask : InAddr) (search next : AddressSearch)
    (again : searchStep interfaceAddress mask search = .inl next) :
    searchRounds interfaceAddress mask next < searchRounds interfaceAddress mask search := by
  rcases search_step_cases interfaceAddress mask search with
    ⟨-, inRange, moved⟩ | ⟨-, stopped⟩
  · have position := Sum.inl.inj (moved.symm.trans again)
    obtain ⟨-, below⟩ := (address_in_range_iff _ _ _).mp inRange
    rw [UInt32.lt_iff_toNat_lt] at below
    unfold searchRounds
    rw [← position, next_address_toNat inRange]
    omega
  · rw [stopped] at again
    contradiction

/-- The loop rule for the search: what every round keeps holds where it stops, and there
the address is valid or out of range. It stops for every mask. -/
theorem search_address_rule (interfaceAddress mask : InAddr) (invariant : AddressSearch → Prop)
    (keeps : ∀ search, invariant search →
      isValidHost search.nextAddress interfaceAddress mask = false →
      addressInRange search.nextAddress interfaceAddress mask = true →
      invariant { nextAddress := search.nextAddress + 1, offset := search.offset + 1 })
    (search : AddressSearch) (start : invariant search) :
    invariant (searchAddress interfaceAddress mask search) ∧
      (isValidHost (searchAddress interfaceAddress mask search).nextAddress interfaceAddress mask =
          true ∨
        addressInRange (searchAddress interfaceAddress mask search).nextAddress interfaceAddress
          mask = false) := by
  obtain ⟨result, finished⟩ := Loop.run_some_of_measure (searchRounds interfaceAddress mask)
    (search_rounds_decrease interfaceAddress mask) search
    (searchRounds interfaceAddress mask search + 1) (Nat.lt_succ_self _)
  have same : searchAddress interfaceAddress mask search = result := by
    unfold searchAddress
    rw [finished]
    rfl
  rw [same]
  refine Loop.run_invariant invariant (fun result => invariant result ∧
    (isValidHost result.nextAddress interfaceAddress mask = true ∨
      addressInRange result.nextAddress interfaceAddress mask = false)) ?_ ?_ start finished
  · intro state next holds again
    rcases search_step_cases interfaceAddress mask state with
      ⟨invalid, inRange, moved⟩ | ⟨-, stopped⟩
    · rw [← Sum.inl.inj (moved.symm.trans again)]
      exact keeps state holds invalid inRange
    · rw [stopped] at again
      contradiction
  · intro state value holds leave
    rcases search_step_cases interfaceAddress mask state with ⟨-, -, moved⟩ | ⟨exit, stopped⟩
    · rw [moved] at leave
      contradiction
    · rw [← Sum.inr.inj (stopped.symm.trans leave)]
      exact ⟨holds, exit⟩

/-! ## The cursor -/

theorem start_offset_toNat (offset : InAddr) :
    1 ≤ (startOffset offset).toNat ∧ offset.toNat ≤ (startOffset offset).toNat ∧
      (1 ≤ offset.toNat → (startOffset offset).toNat = offset.toNat) := by
  unfold startOffset
  by_cases zero : offset = 0
  · subst zero
    decide
  · have positive : offset.toNat ≠ 0 := fun same => zero (UInt32.toNat_inj.mp same)
    rw [if_neg zero]
    omega

/-- The first address the next search looks at. -/
def cursor (interfaceAddress mask offset : InAddr) : Nat :=
  (interfaceAddress &&& mask).toNat + (startOffset offset).toNat

/-- With a fixed configuration the stored offset never passes the broadcast address. Only a
subnet of a single address has its first offset outside the block. -/
def CursorBound (hostBits : Nat) (offset : InAddr) : Prop :=
  (startOffset offset).toNat ≤ 1 ∨ (startOffset offset).toNat ≤ 2 ^ hostBits - 1

structure SearchInvariant (interfaceAddress mask : InAddr) (hostBits first : Nat)
    (search : AddressSearch) : Prop where
  position : search.nextAddress.toNat = (interfaceAddress &&& mask).toNat + search.offset.toNat
  inBlock : search.offset.toNat ≤ 2 ^ hostBits - 1
  advanced : first ≤ search.nextAddress.toNat
  passed : ∀ host, UsableHost interfaceAddress mask host →
    host.toNat < search.nextAddress.toNat → host.toNat < first

theorem search_invariant_step {interfaceAddress mask : InAddr} {hostBits first : Nat}
    (clears : Netmask.Clears mask hostBits) (search : AddressSearch)
    (holds : SearchInvariant interfaceAddress mask hostBits first search)
    (invalid : isValidHost search.nextAddress interfaceAddress mask = false)
    (inRange : addressInRange search.nextAddress interfaceAddress mask = true) :
    SearchInvariant interfaceAddress mask hostBits first
      { nextAddress := search.nextAddress + 1, offset := search.offset + 1 } := by
  obtain ⟨above, below⟩ := (address_in_range_iff _ _ _).mp inRange
  rw [UInt32.lt_iff_toNat_lt] at above below
  rw [Netmask.broadcast_toNat clears] at below
  have position := holds.position
  have moved := next_address_toNat inRange
  have small := Netmask.broadcast_lt clears interfaceAddress
  have one : (1 : UInt32).toNat = 1 := rfl
  have offsetMoved : (search.offset + 1).toNat = search.offset.toNat + 1 := by
    rw [UInt32.toNat_add, one]
    omega
  have own : search.nextAddress = interfaceAddress := by
    by_contra different
    rw [(is_valid_host_in_range clears inRange).mpr different] at invalid
    contradiction
  refine ⟨?_, ?_, ?_, ?_⟩
  · dsimp only
    omega
  · dsimp only
    omega
  · have advanced := holds.advanced
    dsimp only
    omega
  · intro host usable below
    dsimp only at below
    have different : host.toNat ≠ search.nextAddress.toNat := by
      intro same
      exact usable.other ((UInt32.toNat_inj.mp same).trans own)
    exact holds.passed host usable (by omega)

theorem no_range_of_single (interfaceAddress : InAddr) {mask : InAddr}
    (clears : Netmask.Clears mask 0) (address : InAddr) :
    addressInRange address interfaceAddress mask = false := by
  rw [Bool.eq_false_iff]
  intro inRange
  obtain ⟨above, below⟩ := (address_in_range_iff _ _ _).mp inRange
  rw [UInt32.lt_iff_toNat_lt] at above below
  rw [Netmask.broadcast_toNat clears] at below
  omega

/-- Where the search stops: at the lowest usable host from the cursor on, or behind them all. -/
structure FoundAddress (interfaceAddress mask : InAddr) (hostBits : Nat) (offset : InAddr)
    (found : AddressSearch) : Prop where
  positive : 1 ≤ found.offset.toNat
  bound : found.offset.toNat ≤ 1 ∨ found.offset.toNat ≤ 2 ^ hostBits - 1
  passed : ∀ host, UsableHost interfaceAddress mask host →
    host.toNat < (interfaceAddress &&& mask).toNat + found.offset.toNat →
    host.toNat < cursor interfaceAddress mask offset
  advanced : cursor interfaceAddress mask offset ≤
    (interfaceAddress &&& mask).toNat + found.offset.toNat
  success : addressInRange found.nextAddress interfaceAddress mask = true →
    UsableHost interfaceAddress mask found.nextAddress ∧
      found.nextAddress.toNat = (interfaceAddress &&& mask).toNat + found.offset.toNat ∧
      found.offset.toNat + 1 ≤ 2 ^ hostBits - 1
  failure : addressInRange found.nextAddress interfaceAddress mask = false →
    ∀ host, UsableHost interfaceAddress mask host →
      host.toNat < cursor interfaceAddress mask offset

/-- In a subnet of one address nothing is in range, so the search stays where it starts. -/
theorem find_address_single (interfaceAddress : InAddr) {mask offset : InAddr}
    (clears : Netmask.Clears mask 0) (bounded : CursorBound 0 offset) :
    FoundAddress interfaceAddress mask 0 offset (findAddress interfaceAddress mask offset) := by
  have outside := no_range_of_single interfaceAddress clears
  have noHost : ∀ host, ¬ UsableHost interfaceAddress mask host := by
    intro host usable
    have inRange := (address_in_range_iff host interfaceAddress mask).mpr
      ⟨usable.above, usable.below⟩
    rw [outside] at inRange
    contradiction
  have stays := (search_address_rule interfaceAddress mask
    (fun search => search.offset = startOffset offset)
    (fun search _ _ inRange => by rw [outside] at inRange; contradiction)
    ⟨(interfaceAddress &&& mask) + startOffset offset, startOffset offset⟩ rfl).1
  change (findAddress interfaceAddress mask offset).offset = startOffset offset at stays
  constructor
  · rw [stays]
    exact (start_offset_toNat offset).1
  · rw [stays]
    exact bounded
  · exact fun host usable => absurd usable (noHost host)
  · rw [stays]
    exact Nat.le_refl _
  · intro inRange
    rw [outside] at inRange
    contradiction
  · exact fun _ host usable => absurd usable (noHost host)

/-- In a larger subnet the invariant holds where the search stops. -/
theorem find_address_invariant (interfaceAddress : InAddr) {mask offset : InAddr} {hostBits : Nat}
    (clears : Netmask.Clears mask hostBits)
    (inBlock : (startOffset offset).toNat ≤ 2 ^ hostBits - 1) :
    SearchInvariant interfaceAddress mask hostBits (cursor interfaceAddress mask offset)
        (findAddress interfaceAddress mask offset) ∧
      (isValidHost (findAddress interfaceAddress mask offset).nextAddress interfaceAddress mask =
          true ∨
        addressInRange (findAddress interfaceAddress mask offset).nextAddress interfaceAddress
          mask = false) := by
  have positive := Netmask.power_pos hostBits
  have small := Netmask.broadcast_lt clears interfaceAddress
  have startPosition : ((interfaceAddress &&& mask) + startOffset offset).toNat =
      (interfaceAddress &&& mask).toNat + (startOffset offset).toNat := by
    rw [UInt32.toNat_add]
    omega
  refine search_address_rule interfaceAddress mask _ (search_invariant_step clears)
    ⟨(interfaceAddress &&& mask) + startOffset offset, startOffset offset⟩ ?_
  constructor
  · exact startPosition
  · exact inBlock
  · exact startPosition.ge
  · intro host _ below
    rw [startPosition] at below
    exact below

theorem find_address_spec (interfaceAddress : InAddr) {mask offset : InAddr} {hostBits : Nat}
    (clears : Netmask.Clears mask hostBits) (bounded : CursorBound hostBits offset) :
    FoundAddress interfaceAddress mask hostBits offset
      (findAddress interfaceAddress mask offset) := by
  by_cases single : hostBits = 0
  · subst single
    exact find_address_single interfaceAddress clears bounded
  · have twice : 2 ≤ 2 ^ hostBits := by
      calc 2 = 2 ^ 1 := rfl
        _ ≤ 2 ^ hostBits := Nat.pow_le_pow_right (by decide) (by omega)
    have inBlock : (startOffset offset).toNat ≤ 2 ^ hostBits - 1 := by
      rcases bounded with small | large <;> omega
    obtain ⟨holds, exit⟩ := find_address_invariant interfaceAddress clears inBlock
    have startPositive := (start_offset_toNat offset).1
    have position := holds.position
    have advanced := holds.advanced
    constructor
    · unfold cursor at advanced
      omega
    · exact .inr holds.inBlock
    · intro host usable below
      exact holds.passed host usable (by omega)
    · omega
    · intro inRange
      have valid : isValidHost (findAddress interfaceAddress mask offset).nextAddress
          interfaceAddress mask = true := by
        apply exit.resolve_right
        rw [inRange]
        decide
      obtain ⟨above, below⟩ := (address_in_range_iff _ _ _).mp inRange
      refine ⟨⟨above, below, (is_valid_host_in_range clears inRange).mp valid⟩, position, ?_⟩
      rw [UInt32.lt_iff_toNat_lt, Netmask.broadcast_toNat clears] at below
      omega
    · intro outside host usable
      apply holds.passed host usable
      have hostBelow := usable.below
      rw [UInt32.lt_iff_toNat_lt] at hostBelow
      have above : (interfaceAddress &&& mask) <
          (findAddress interfaceAddress mask offset).nextAddress := by
        rw [UInt32.lt_iff_toNat_lt]
        unfold cursor at advanced
        omega
      have notBelow : ¬ (findAddress interfaceAddress mask offset).nextAddress <
          (interfaceAddress ||| ~~~mask) := by
        intro below
        rw [(address_in_range_iff _ _ _).mpr ⟨above, below⟩] at outside
        contradiction
      rw [UInt32.lt_iff_toNat_lt] at notBelow
      omega

end RedroidExt.Dhcp
