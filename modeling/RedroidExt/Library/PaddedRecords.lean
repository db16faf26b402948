import RedroidExt.Library.ByteMemory
import Mathlib.Algebra.Order.Ring.Nat
import Mathlib.Algebra.Order.Group.Int

/-!
# Records with a length in front and zero bytes behind

A record is its length, a tag, a value and as many zero bytes as the next multiple of
four takes. The length counts four bytes for itself and the tag, but no padding.
-/

namespace RedroidExt.Library

set_option autoImplicit false

/-- The next multiple of the unit. -/
def alignUp (unit size : Nat) : Nat := (size + unit - 1) / unit * unit

section Align

variable {unit : Nat}

theorem le_align_up (positive : 0 < unit) (size : Nat) : size ≤ alignUp unit size := by
  have split := Nat.div_add_mod (size + unit - 1) unit
  have rest := Nat.mod_lt (size + unit - 1) positive
  unfold alignUp
  rw [Nat.mul_comm]
  omega

theorem align_up_mod (unit size : Nat) : alignUp unit size % unit = 0 := Nat.mul_mod_left _ _

theorem align_up_self (positive : 0 < unit) {size : Nat} (aligned : size % unit = 0) :
    alignUp unit size = size := by
  obtain ⟨count, rfl⟩ := Nat.dvd_of_mod_eq_zero aligned
  unfold alignUp
  rw [Nat.add_sub_assoc positive, Nat.mul_add_div positive,
    Nat.div_eq_of_lt (Nat.sub_lt positive Nat.one_pos), Nat.add_zero, Nat.mul_comm]

end Align

structure PaddedRecord where
  tag : UInt16
  value : List UInt8
  deriving DecidableEq

namespace PaddedRecord

open ByteMemory

/-- The bytes of the length and the tag. -/
def headerSize : Nat := 4

def size (record : PaddedRecord) : Nat := headerSize + record.value.length

def paddedSize (record : PaddedRecord) : Nat := alignUp 4 record.size

/-- The record without its padding. -/
def front (record : PaddedRecord) : List UInt8 :=
  bytes16 (.ofNat record.size) ++ bytes16 record.tag ++ record.value

def encode (record : PaddedRecord) : List UInt8 :=
  record.front ++ List.replicate (record.paddedSize - record.size) 0

def encodeAll (records : List PaddedRecord) : List UInt8 := (records.map encode).flatten

theorem size_le_padded (record : PaddedRecord) : record.size ≤ record.paddedSize :=
  le_align_up (by decide) _

@[simp] theorem front_length (record : PaddedRecord) : record.front.length = record.size := by
  unfold front size headerSize
  rw [List.length_append, List.length_append, bytes16_length, bytes16_length]

theorem encode_length (record : PaddedRecord) : record.encode.length = record.paddedSize := by
  unfold encode
  rw [List.length_append, front_length, List.length_replicate]
  exact Nat.add_sub_cancel' record.size_le_padded

theorem encode_all_cons (record : PaddedRecord) (rest : List PaddedRecord) :
    encodeAll (record :: rest) = record.encode ++ encodeAll rest := rfl

theorem encode_all_append (first second : List PaddedRecord) :
    encodeAll (first ++ second) = encodeAll first ++ encodeAll second := by
  simp only [encodeAll, List.map_append, List.flatten_append]

theorem encode_all_length (records : List PaddedRecord) :
    (encodeAll records).length = (records.map paddedSize).sum := by
  induction records with
  | nil => rfl
  | cons record rest ih =>
      rw [encode_all_cons, List.length_append, encode_length, ih, List.map_cons, List.sum_cons]

theorem encode_all_aligned (records : List PaddedRecord) :
    (encodeAll records).length % 4 = 0 := by
  induction records with
  | nil => rfl
  | cons record rest ih =>
      have first : record.paddedSize % 4 = 0 := align_up_mod 4 _
      rw [encode_all_cons, List.length_append, encode_length]
      omega

/-! ## Reading -/

/-- The length of the record at the offset. -/
def lengthAt (memory : Memory) (offset : Nat) : Nat := (load16 memory offset).toNat

def recordAt (memory : Memory) (offset : Nat) : PaddedRecord where
  tag := load16 memory (offset + 2)
  value := load memory (offset + headerSize) (lengthAt memory offset - headerSize)

/-- The records from the offset on in the remaining bytes, and how many bytes they leave; `none`
when there are more than `rounds` tests of a record. -/
def walk (memory : Memory) : Nat → Nat → Int → Option (List PaddedRecord × Int)
  | 0, _, _ => none
  | rounds + 1, offset, remaining =>
      if headerSize ≤ remaining ∧ headerSize ≤ lengthAt memory offset ∧
          lengthAt memory offset ≤ remaining then
        let step := alignUp 4 (lengthAt memory offset)
        (walk memory rounds (offset + step) (remaining - step)).map fun later =>
          (recordAt memory offset :: later.1, later.2)
      else some ([], remaining)

section Walk

variable {memory : Memory} {offset : Nat} {record : PaddedRecord} {records : List PaddedRecord}

theorem record_at_encode (small : record.size < 65536)
    (held : HoldsAt memory offset record.encode) :
    lengthAt memory offset = record.size ∧ recordAt memory offset = record := by
  unfold encode front at held
  rw [holds_at_append, holds_at_append, holds_at_append, List.length_append, bytes16_length,
    bytes16_length] at held
  obtain ⟨⟨⟨length, tag⟩, value⟩, -⟩ := held
  have found : lengthAt memory offset = record.size := by
    unfold lengthAt
    rw [load16_of_holds_at length, UInt16.toNat_ofNat_of_lt' small]
  have counted : record.size - headerSize = record.value.length := Nat.add_sub_cancel_left _ _
  refine ⟨found, ?_⟩
  unfold recordAt
  rw [load16_of_holds_at tag, found, counted]
  have bytes := load_eq_of_holds_at value
  cases record
  exact congrArg _ bytes

/-- What is laid out back to back is read back, in order, and nothing is left. -/
theorem walk_encode_all (small : ∀ record ∈ records, record.size < 65536)
    (held : HoldsAt memory offset (encodeAll records)) {rounds : Nat}
    (enough : records.length < rounds) :
    walk memory rounds offset (encodeAll records).length = some (records, 0) := by
  induction records generalizing offset rounds with
  | nil =>
      obtain ⟨rounds, rfl⟩ : ∃ fewer, rounds = fewer + 1 := ⟨rounds - 1, by simp at enough; omega⟩
      rfl
  | cons record rest ih =>
      obtain ⟨rounds, rfl⟩ : ∃ fewer, rounds = fewer + 1 := ⟨rounds - 1, by simp at enough; omega⟩
      rw [encode_all_cons, holds_at_append, encode_length] at held
      obtain ⟨length, found⟩ := record_at_encode (small record List.mem_cons_self) held.1
      have later := ih (fun other member => small other (List.mem_cons_of_mem _ member)) held.2
        (Nat.lt_of_succ_lt_succ enough)
      have padded := record.size_le_padded
      have whole : ((encodeAll (record :: rest)).length : Int) =
          record.paddedSize + (encodeAll rest).length := by
        rw [encode_all_cons, List.length_append, encode_length]
        exact Int.natCast_add _ _
      have header : headerSize ≤ record.size := Nat.le_add_right _ _
      rw [walk, length, found, whole, if_pos ⟨by omega, header, by omega⟩]
      dsimp only
      rw [show alignUp 4 record.size = record.paddedSize from rfl, add_sub_cancel_left, later]
      rfl

end Walk

end PaddedRecord

end RedroidExt.Library
