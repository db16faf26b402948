import Mathlib.Data.Nat.Bitwise
import Mathlib.Tactic.Ring
import Mathlib.Algebra.Order.Ring.Nat

/-!
# Contiguous netmasks over 32-bit words

A contiguous mask clears the low `hostBits` bits. Masking with it and with its
complement are a rounding down and a remainder modulo `2 ^ hostBits`.
-/

namespace RedroidExt.Library.Netmask

set_option autoImplicit false

/-- `mask` has ones exactly above its low `hostBits` bits. -/
def Clears (mask : UInt32) (hostBits : Nat) : Prop :=
  hostBits ≤ 32 ∧ mask.toNat = 2 ^ 32 - 2 ^ hostBits

def Contiguous (mask : UInt32) : Prop := ∃ hostBits, Clears mask hostBits

variable {mask : UInt32} {hostBits : Nat}

theorem power_le (clears : Clears mask hostBits) : 2 ^ hostBits ≤ 4294967296 := by
  have grown : 2 ^ hostBits ≤ 2 ^ 32 := Nat.pow_le_pow_right (by decide) clears.1
  simpa using grown

theorem power_pos (hostBits : Nat) : 0 < 2 ^ hostBits := Nat.pow_pos (by decide)

theorem complement_toNat (clears : Clears mask hostBits) :
    (~~~mask).toNat = 2 ^ hostBits - 1 := by
  have bound := power_le clears
  have positive := power_pos hostBits
  rw [UInt32.toNat_not, clears.2]
  change 4294967296 - 1 - (4294967296 - 2 ^ hostBits) = _
  omega

theorem host_part_toNat (clears : Clears mask hostBits) (address : UInt32) :
    (address &&& ~~~mask).toNat = address.toNat % 2 ^ hostBits := by
  rw [UInt32.toNat_and, complement_toNat clears, Nat.and_two_pow_sub_one_eq_mod]

/-- Masking keeps the block number and drops the position in the block. -/
theorem network_eq_block (clears : Clears mask hostBits) (address : UInt32) :
    (address &&& mask).toNat = 2 ^ hostBits * (address.toNat / 2 ^ hostBits) := by
  have factored : 2 ^ 32 - 2 ^ hostBits = 2 ^ hostBits * (2 ^ (32 - hostBits) - 1) := by
    rw [Nat.mul_sub, Nat.mul_one, ← Nat.pow_add, Nat.add_sub_cancel' clears.1]
  have bounded := address.toNat_lt
  rw [UInt32.toNat_and, clears.2, factored]
  apply Nat.eq_of_testBit_eq
  intro bit
  rw [Nat.testBit_and, Nat.testBit_two_pow_mul, Nat.testBit_two_pow_mul,
    Nat.testBit_two_pow_sub_one, Nat.testBit_div_two_pow]
  by_cases high : hostBits ≤ bit
  · rw [Nat.sub_add_cancel high]
    by_cases inside : bit < 32
    · have small : bit - hostBits < 32 - hostBits := by omega
      simp [high, small]
    · have clear : address.toNat.testBit bit = false :=
        Nat.testBit_lt_two_pow (bounded.trans_le (Nat.pow_le_pow_right (by decide) (by omega)))
      simp [clear]
  · simp [high]

theorem network_toNat (clears : Clears mask hostBits) (address : UInt32) :
    (address &&& mask).toNat = address.toNat - address.toNat % 2 ^ hostBits := by
  have split := Nat.div_add_mod address.toNat (2 ^ hostBits)
  rw [network_eq_block clears]
  omega

/-- Setting the low bits reaches the last address of the block. -/
theorem broadcast_toNat (clears : Clears mask hostBits) (address : UInt32) :
    (address ||| ~~~mask).toNat = (address &&& mask).toNat + (2 ^ hostBits - 1) := by
  have small : 2 ^ hostBits - 1 < 2 ^ hostBits := Nat.sub_lt (power_pos hostBits) (by decide)
  rw [network_eq_block clears, Nat.two_pow_add_eq_or_of_lt small, UInt32.toNat_or,
    complement_toNat clears]
  apply Nat.eq_of_testBit_eq
  intro bit
  rw [Nat.testBit_or, Nat.testBit_or, Nat.testBit_two_pow_mul, Nat.testBit_two_pow_sub_one,
    Nat.testBit_div_two_pow]
  by_cases high : hostBits ≤ bit
  · simp [high, Nat.sub_add_cancel high]
  · have low : bit < hostBits := by omega
    simp [low]

theorem network_mod (clears : Clears mask hostBits) (address : UInt32) :
    (address &&& mask).toNat % 2 ^ hostBits = 0 := by
  rw [network_eq_block clears, Nat.mul_mod_right]

/-- An address inside the block has its offset from the network address as host part. -/
theorem host_part_of_in_block (clears : Clears mask hostBits) (interface address : UInt32)
    (above : (interface &&& mask).toNat ≤ address.toNat)
    (below : address.toNat < (interface &&& mask).toNat + 2 ^ hostBits) :
    (address &&& ~~~mask).toNat = address.toNat - (interface &&& mask).toNat := by
  rw [host_part_toNat clears]
  have multiple := network_mod clears interface
  obtain ⟨count, network⟩ := Nat.dvd_of_mod_eq_zero multiple
  have offset : address.toNat = (address.toNat - (interface &&& mask).toNat) + 2 ^ hostBits * count := by
    omega
  rw [offset, Nat.add_mul_mod_self_left, Nat.mod_eq_of_lt (by omega)]
  omega

theorem broadcast_lt (clears : Clears mask hostBits) (address : UInt32) :
    (address &&& mask).toNat + (2 ^ hostBits - 1) < 4294967296 := by
  rw [← broadcast_toNat clears]
  exact (address ||| ~~~mask).toNat_lt

end RedroidExt.Library.Netmask
