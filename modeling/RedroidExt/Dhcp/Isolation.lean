import RedroidExt.Dhcp.Leases
import RedroidExt.Library.Noninterference

/-!
# Interfaces do not see each other

Both maps of the server are keyed by the interface index. A call for one interface
reads and writes the entries of that interface only, so calls for the others can be
put in or left out without a change of its results.
-/

namespace RedroidExt.Dhcp

open RedroidExt.Library RedroidExt.Library.ByteMemory

set_option autoImplicit false

/-- One call with its result. -/
def OfferCall.step (tables : LeaseTables) (call : OfferCall) :
    Except String OfferAddress × LeaseTables :=
  getOfferAddress tables call.interfaceIndex call.macAddress call.interfaceAnswer
    call.netmaskAnswer

def OfferCall.isFor (interfaceIndex : UInt32) (call : OfferCall) : Bool :=
  call.interfaceIndex = interfaceIndex

/-- The results of the calls for one interface, in order. -/
def resultsFor (interfaceIndex : UInt32) (tables : LeaseTables) (calls : List OfferCall) :
    List (Except String OfferAddress) :=
  Noninterference.outputs OfferCall.step (OfferCall.isFor interfaceIndex) tables calls

/-- The entries of one interface are the same in both maps. -/
structure SameOn (interfaceIndex : UInt32) (left right : LeaseTables) : Prop where
  leases : ∀ macAddress,
    left.mLeases ⟨interfaceIndex, macAddress⟩ = right.mLeases ⟨interfaceIndex, macAddress⟩
  offset : left.mNextAddressOffsets interfaceIndex = right.mNextAddressOffsets interfaceIndex

theorem same_on_refl (interfaceIndex : UInt32) (tables : LeaseTables) :
    SameOn interfaceIndex tables tables where
  leases := fun _ => rfl
  offset := rfl

/-- The leases of an interface say which value each of its keys has. -/
theorem lease_of_leases_on (tables : LeaseTables) (interfaceIndex : UInt32)
    (macAddress : MacAddress) :
    tables.mLeases ⟨interfaceIndex, macAddress⟩ =
      (leasesOn tables interfaceIndex macAddress).elim 0 swap32 := by
  unfold leasesOn
  by_cases zero : tables.mLeases ⟨interfaceIndex, macAddress⟩ = 0
  · rw [if_pos zero]
    exact zero
  · rw [if_neg zero]
    exact (swap32_swap32 _).symm

theorem same_on_hidden {interfaceIndex : UInt32} {left right : LeaseTables} {call : OfferCall}
    (same : SameOn interfaceIndex left right) (other : call.interfaceIndex ≠ interfaceIndex) :
    SameOn interfaceIndex (call.step left).2 right := by
  have outcome := get_offer_address_outcome left call.interfaceIndex call.macAddress
    call.interfaceAnswer call.netmaskAnswer
  obtain ⟨leases, offset⟩ := offer_other_interface outcome other.symm
  change leasesOn (call.step left).2 interfaceIndex = _ at leases
  constructor
  · intro macAddress
    rw [lease_of_leases_on, leases, ← lease_of_leases_on]
    exact same.leases macAddress
  · exact offset.trans same.offset

/-- A call reads its own key and its interface's offset, and writes nothing else of the
interface. -/
theorem same_on_visible {interfaceIndex : UInt32} {left right : LeaseTables}
    (macAddress : MacAddress) (interfaceAnswer netmaskAnswer : Except String InAddr)
    (same : SameOn interfaceIndex left right) :
    (getOfferAddress left interfaceIndex macAddress interfaceAnswer netmaskAnswer).1 =
        (getOfferAddress right interfaceIndex macAddress interfaceAnswer netmaskAnswer).1 ∧
      SameOn interfaceIndex
        (getOfferAddress left interfaceIndex macAddress interfaceAnswer netmaskAnswer).2
        (getOfferAddress right interfaceIndex macAddress interfaceAnswer netmaskAnswer).2 := by
  unfold getOfferAddress
  cases interfaceAnswer with
  | error text => exact ⟨rfl, same⟩
  | ok interfaceAddress =>
      cases netmaskAnswer with
      | error text => exact ⟨rfl, same⟩
      | ok mask =>
          dsimp only
          rw [same.leases macAddress, same.offset]
          simp only [assign_eq_update]
          split_ifs with zero inRange
          · refine ⟨rfl, ?_, ?_⟩
            · intro other
              dsimp only
              by_cases key : other = macAddress
              · subst key
                rw [Function.update_self, Function.update_self]
              · have different :
                    (⟨interfaceIndex, other⟩ : Lease) ≠ ⟨interfaceIndex, macAddress⟩ := by
                  simp [key]
                rw [Function.update_of_ne different, Function.update_of_ne different]
                exact same.leases other
            · dsimp only
              rw [Function.update_self, Function.update_self]
          · refine ⟨rfl, same.leases, ?_⟩
            dsimp only
            rw [Function.update_self, Function.update_self]
          · exact ⟨rfl, same⟩

theorem offer_unwinding (interfaceIndex : UInt32) :
    Noninterference.Unwinding OfferCall.step (OfferCall.isFor interfaceIndex)
      (SameOn interfaceIndex) where
  hidden := by
    intro left right call same hidden
    exact same_on_hidden same (of_decide_eq_false hidden)
  output := by
    intro left right call same visible
    have serves : call.interfaceIndex = interfaceIndex := of_decide_eq_true visible
    subst serves
    exact (same_on_visible call.macAddress call.interfaceAnswer call.netmaskAnswer same).1
  next := by
    intro left right call same visible
    have serves : call.interfaceIndex = interfaceIndex := of_decide_eq_true visible
    subst serves
    exact (same_on_visible call.macAddress call.interfaceAnswer call.netmaskAnswer same).2

/-- The results of all calls for an interface depend on these calls alone: whatever is called for
other interfaces in between, from tables that agree on the interface they are the same. -/
theorem interfaces_isolated (interfaceIndex : UInt32) (left right : LeaseTables)
    (same : SameOn interfaceIndex left right) (first second : List OfferCall)
    (agree : first.filter (OfferCall.isFor interfaceIndex) =
      second.filter (OfferCall.isFor interfaceIndex)) :
    resultsFor interfaceIndex left first = resultsFor interfaceIndex right second :=
  Noninterference.outputs_eq (offer_unwinding interfaceIndex) same (same_on_refl _ right) agree

/-- A call for interface 2 uses that network's first address and leaves interface 1 alone. -/
theorem interfaces_isolated_second_interface :
    resultsFor 1 .empty [configuredCall exampleConfiguration 2 (fun _ => 1),
        configuredCall exampleConfiguration 1 (fun _ => 1)] =
      resultsFor 1 .empty [configuredCall exampleConfiguration 1 (fun _ => 1)] :=
  interfaces_isolated 1 .empty .empty (same_on_refl 1 .empty) _ _ rfl

end RedroidExt.Dhcp
