import RedroidExt.Dhcp.Leases

/-!
# Leases that are new

Whatever offset an earlier configuration of the interface left behind, the search
ends, and it hands out an address only after a test of its range.
-/

namespace RedroidExt.Dhcp

open RedroidExt.Library RedroidExt.Library.ByteMemory

set_option autoImplicit false

/-- Where the search of `getOfferAddress` starts, in host byte order. -/
def searchStart (interfaceAddress mask offset : InAddr) : AddressSearch where
  nextAddress := (interfaceAddress &&& mask) + startOffset offset
  offset := startOffset offset

/-- The search ends for every mask and offset. -/
theorem find_address_returns (interfaceAddress mask offset : InAddr) :
    Loop.Returns (searchStep interfaceAddress mask) (searchStart interfaceAddress mask offset)
      (findAddress interfaceAddress mask offset) := by
  obtain ⟨result, finished⟩ := Loop.run_some_of_measure (searchRounds interfaceAddress mask)
    (search_rounds_decrease interfaceAddress mask) (searchStart interfaceAddress mask offset)
    (searchRounds interfaceAddress mask (searchStart interfaceAddress mask offset) + 1)
    (Nat.lt_succ_self _)
  have same : findAddress interfaceAddress mask offset = result := by
    unfold findAddress searchAddress
    rw [searchStart] at finished
    rw [finished]
    rfl
  rw [same]
  exact ⟨_, finished⟩

/-- An address that passes the last test is not the interface's own: the search goes on while
an address of the range is not valid. -/
theorem found_in_range_usable {interfaceAddress mask offset : InAddr}
    (inRange : addressInRange (findAddress interfaceAddress mask offset).nextAddress
      interfaceAddress mask = true) :
    UsableHost interfaceAddress mask (findAddress interfaceAddress mask offset).nextAddress := by
  obtain ⟨-, exit⟩ := search_address_rule interfaceAddress mask (fun _ => True)
    (fun _ _ _ _ => trivial) (searchStart interfaceAddress mask offset) trivial
  have valid : isValidHost (findAddress interfaceAddress mask offset).nextAddress
      interfaceAddress mask = true := by
    rcases exit with valid | outside
    · exact valid
    · exact absurd inRange (by rw [findAddress, ← searchStart, outside]; decide)
  obtain ⟨above, below⟩ := (address_in_range_iff _ _ _).mp inRange
  have other : (findAddress interfaceAddress mask offset).nextAddress ≠ interfaceAddress := by
    unfold isValidHost at valid
    exact (of_decide_eq_true valid).2.2
  exact ⟨above, below, other⟩

/-- The table entries that a call changes are the ones it creates. -/
theorem created_lease {tables after : LeaseTables} {interfaceIndex : UInt32}
    {macAddress : MacAddress} {config : InterfaceConfig} {result : Except String OfferAddress}
    (outcome : OfferOutcome tables interfaceIndex macAddress (.ok config.address)
      (.ok config.netmask) result after) {lease : Lease}
    (changed : after.mLeases lease ≠ tables.mLeases lease) :
    tables.mLeases lease = 0 ∧ lease = ⟨interfaceIndex, macAddress⟩ ∧
      ∃ found : AddressSearch, after.mLeases lease = swap32 found.nextAddress ∧
        swap32 found.nextAddress ≠ 0 ∧ found.nextAddress ∈ config.usableHosts := by
  cases outcome with
  | lookupFailed failed => exact absurd rfl changed
  | held addressGiven maskGiven nonzero => exact absurd rfl changed
  | exhausted addressGiven maskGiven zero searched outside => exact absurd rfl changed
  | @fresh interfaceAddress mask found addressGiven maskGiven zero searched inRange =>
      cases addressGiven
      cases maskGiven
      have own : lease = ⟨interfaceIndex, macAddress⟩ := by
        by_contra other
        exact changed (Function.update_of_ne other _ _)
      subst own
      refine ⟨zero, rfl, found, Function.update_self _ _ _, in_range_ne_zero inRange, ?_⟩
      subst searched
      exact found_in_range_usable inRange

/-- In every state of the server the search for an address ends, and a lease that a call creates
has an address strictly inside the interface's subnet, not its own and not zero. -/
theorem new_lease_usable (tables : LeaseTables) (interfaceIndex : UInt32)
    (macAddress : MacAddress) (config : InterfaceConfig) :
    Loop.Returns (searchStep (swap32 config.address) (swap32 config.netmask))
        (searchStart (swap32 config.address) (swap32 config.netmask)
          (tables.mNextAddressOffsets interfaceIndex))
        (findAddress (swap32 config.address) (swap32 config.netmask)
          (tables.mNextAddressOffsets interfaceIndex)) ∧
      ∀ after, after = (getOfferAddress tables interfaceIndex macAddress (.ok config.address)
          (.ok config.netmask)).2 →
        ∀ lease, after.mLeases lease ≠ tables.mLeases lease →
          after.mLeases lease ≠ 0 ∧ swap32 (after.mLeases lease) ∈ config.subnet ∧
            UsableHost (swap32 config.address) (swap32 config.netmask)
              (swap32 (after.mLeases lease)) := by
  refine ⟨find_address_returns _ _ _, ?_⟩
  intro after called lease changed
  have outcome := get_offer_address_outcome tables interfaceIndex macAddress (.ok config.address)
    (.ok config.netmask)
  rw [← called] at outcome
  obtain ⟨-, -, found, value, nonzero, usable⟩ := created_lease outcome changed
  rw [value, swap32_swap32]
  exact ⟨nonzero, config.usable_in_subnet usable, usable⟩

/-- The first client of 192.168.0.1/24. -/
theorem new_lease_usable_home :
    UsableHost 0xC0A80001 0xFFFFFF00 (swap32
      ((getOfferAddress .empty 1 (fun _ => 1) (.ok (swap32 0xC0A80001))
        (.ok (swap32 0xFFFFFF00))).2.mLeases ⟨1, fun _ => 1⟩)) := by
  have usable := (new_lease_usable .empty 1 (fun _ => 1) (exampleConfiguration 1)).2 _ rfl
    ⟨1, fun _ => 1⟩ (by decide +kernel)
  exact usable.2.2

end RedroidExt.Dhcp
