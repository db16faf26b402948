import RedroidExt.Library.ByteMemory
import Mathlib.Algebra.Group.Nat.Even
import Mathlib.Algebra.GroupWithZero.Nat

/-!
# Tag-length-value records

A record is a tag byte, a length byte and as many value bytes. The length fits
its byte by construction.
-/

namespace RedroidExt.Library

set_option autoImplicit false

structure Record where
  tag : UInt8
  value : List UInt8
  bounded : value.length ≤ 255

namespace Record

open ByteMemory

def encode (record : Record) : List UInt8 :=
  record.tag :: UInt8.ofNat record.value.length :: record.value

def encodeAll (records : List Record) : List UInt8 := (records.map encode).flatten

/-- The value of the first record with the tag. -/
def firstValue (records : List Record) (tag : UInt8) : Option (List UInt8) :=
  (records.find? fun record => record.tag = tag).map value

@[simp] theorem encode_length (record : Record) :
    record.encode.length = 2 + record.value.length := by
  simp only [encode, List.length_cons]
  omega

@[simp] theorem length_byte (record : Record) :
    (UInt8.ofNat record.value.length).toNat = record.value.length := by
  have bounded := record.bounded
  rw [UInt8.toNat_ofNat']
  omega

theorem encode_all_cons (record : Record) (rest : List Record) :
    encodeAll (record :: rest) = record.encode ++ encodeAll rest := rfl

theorem encode_all_append (left right : List Record) :
    encodeAll (left ++ right) = encodeAll left ++ encodeAll right := by
  simp only [encodeAll, List.map_append, List.flatten_append]

theorem encode_all_singleton (record : Record) : encodeAll [record] = record.encode := by
  simp [encodeAll]

theorem encode_all_length (records : List Record) :
    (encodeAll records).length = (records.map fun record => 2 + record.value.length).sum := by
  induction records with
  | nil => rfl
  | cons record rest ih =>
      rw [encode_all_cons, List.length_append, encode_length, List.map_cons, List.sum_cons, ih]

theorem first_value_cons_same (record : Record) (rest : List Record) :
    firstValue (record :: rest) record.tag = some record.value := by
  simp [firstValue]

theorem first_value_cons_other {record : Record} {rest : List Record} {tag : UInt8}
    (other : record.tag ≠ tag) : firstValue (record :: rest) tag = firstValue rest tag := by
  simp [firstValue, other]

/-- Where the records of a list and then a tail lie, the first record's tag, length and
value are at their places and the other records follow it. -/
theorem holds_at_cons {memory : Memory} {offset : Nat} {record : Record} {rest : List Record}
    {tail : List UInt8} (held : HoldsAt memory offset (encodeAll (record :: rest) ++ tail)) :
    memory offset = record.tag ∧
      memory (offset + 1) = UInt8.ofNat record.value.length ∧
      HoldsAt memory (offset + 2) record.value ∧
      HoldsAt memory (offset + (2 + record.value.length)) (encodeAll rest ++ tail) := by
  rw [encode_all_cons, List.append_assoc, holds_at_append, encode_length] at held
  obtain ⟨first, others⟩ := held
  exact ⟨first.1, first.2.1, first.2.2, others⟩

/-! ## Zero bytes between records -/

/-- Two zero bytes, when they are read as a tag and a length. -/
def zeroPair : Record := ⟨0, [], Nat.zero_le _⟩

/-- As many zero bytes in front of each record as the runs say. -/
def encodePadded : List Nat → List Record → List UInt8
  | run :: runs, record :: rest => List.replicate run 0 ++ (record.encode ++ encodePadded runs rest)
  | [], _ => []
  | _ :: _, [] => []

/-- The same with the zero bytes taken by twos. -/
def withZeroPairs : List Nat → List Record → List Record
  | run :: runs, record :: rest =>
      List.replicate (run / 2) zeroPair ++ record :: withZeroPairs runs rest
  | [], _ => []
  | _ :: _, [] => []

theorem encode_zero_pairs {run : Nat} (even : Even run) :
    encodeAll (List.replicate (run / 2) zeroPair) = List.replicate run 0 := by
  obtain ⟨half, same⟩ := even
  subst same
  rw [show (half + half) / 2 = half by omega]
  induction half with
  | zero => rfl
  | succ half ih =>
      rw [List.replicate_succ, encode_all_cons, ih,
        show half + 1 + (half + 1) = half + half + 1 + 1 by omega]
      rfl

theorem encode_padded_even {runs : List Nat} (records : List Record)
    (even : ∀ run ∈ runs, Even run) :
    encodePadded runs records = encodeAll (withZeroPairs runs records) := by
  induction runs generalizing records with
  | nil => rfl
  | cons run runs ih =>
      cases records with
      | nil => rfl
      | cons record rest =>
          have later := ih rest fun other member => even other (List.mem_cons_of_mem _ member)
          rw [encodePadded, withZeroPairs, encode_all_append, encode_all_cons,
            encode_zero_pairs (even run List.mem_cons_self), later]

theorem encode_padded_append {before : List Nat} {front : List Record}
    (same : before.length = front.length) (after : List Nat) (back : List Record) :
    encodePadded (before ++ after) (front ++ back) =
      encodePadded before front ++ encodePadded after back := by
  induction before generalizing front with
  | nil =>
      rw [List.eq_nil_of_length_eq_zero same.symm]
      rfl
  | cons run runs ih =>
      cases front with
      | nil => cases same
      | cons record rest =>
          have later := ih (Nat.succ.inj same)
          simp only [List.cons_append, encodePadded, later, List.append_assoc]

theorem encode_padded_length {runs : List Nat} {records : List Record}
    (same : runs.length = records.length) :
    (encodePadded runs records).length = runs.sum + (encodeAll records).length := by
  induction runs generalizing records with
  | nil =>
      rw [List.eq_nil_of_length_eq_zero same.symm]
      rfl
  | cons run runs ih =>
      cases records with
      | nil => cases same
      | cons record rest =>
          have later := ih (Nat.succ.inj same)
          rw [encodePadded, encode_all_cons, List.length_append, List.length_append, later,
            List.length_append, List.length_replicate, List.sum_cons]
          omega

theorem encode_all_length_ge (records : List Record) :
    2 * records.length ≤ (encodeAll records).length := by
  induction records with
  | nil => exact Nat.le_refl _
  | cons record rest ih =>
      rw [encode_all_cons, List.length_append, encode_length, List.length_cons]
      omega

theorem mem_with_zero_pairs {runs : List Nat} {records : List Record} {record : Record}
    (member : record ∈ withZeroPairs runs records) : record = zeroPair ∨ record ∈ records := by
  induction runs generalizing records with
  | nil => cases member
  | cons run runs ih =>
      cases records with
      | nil => cases member
      | cons first rest =>
          rw [withZeroPairs, List.mem_append, List.mem_cons] at member
          rcases member with pair | same | later
          · exact .inl (List.eq_of_mem_replicate pair)
          · exact .inr (same ▸ List.mem_cons_self)
          · exact (ih later).imp_right (List.mem_cons_of_mem _)

theorem first_value_zero_pairs (count : Nat) (rest : List Record) {tag : UInt8}
    (other : tag ≠ 0) :
    firstValue (List.replicate count zeroPair ++ rest) tag = firstValue rest tag := by
  induction count with
  | zero => rfl
  | succ count ih =>
      have skipped : zeroPair.tag ≠ tag := fun same => other same.symm
      rw [List.replicate_succ, List.cons_append, first_value_cons_other skipped, ih]

theorem first_value_append_zero_pairs (records : List Record) (count : Nat) {tag : UInt8}
    (other : tag ≠ 0) :
    firstValue (records ++ List.replicate count zeroPair) tag = firstValue records tag := by
  induction records with
  | nil => simpa using first_value_zero_pairs count [] other
  | cons record rest ih =>
      rw [List.cons_append]
      by_cases matching : record.tag = tag
      · rw [← matching, first_value_cons_same, first_value_cons_same]
      · rw [first_value_cons_other matching, first_value_cons_other matching, ih]

/-- Pairs of zero bytes hide no record with another tag. -/
theorem first_value_with_zero_pairs {runs : List Nat} {records : List Record}
    (same : runs.length = records.length) {tag : UInt8} (other : tag ≠ 0) :
    firstValue (withZeroPairs runs records) tag = firstValue records tag := by
  induction runs generalizing records with
  | nil =>
      rw [List.eq_nil_of_length_eq_zero same.symm]
      rfl
  | cons run runs ih =>
      cases records with
      | nil => cases same
      | cons record rest =>
          have later := ih (Nat.succ.inj same)
          rw [withZeroPairs, first_value_zero_pairs _ _ other]
          by_cases matching : record.tag = tag
          · rw [← matching, first_value_cons_same, first_value_cons_same]
          · rw [first_value_cons_other matching, first_value_cons_other matching, later]

section Fold

variable {State : Type*} {read : State → Record → State}

theorem foldl_zero_pairs (ignored : ∀ state, read state zeroPair = state) (count : Nat)
    (state : State) : (List.replicate count zeroPair).foldl read state = state := by
  induction count with
  | zero => rfl
  | succ count ih => rw [List.replicate_succ, List.foldl_cons, ignored, ih]

theorem foldl_with_zero_pairs (ignored : ∀ state, read state zeroPair = state) {runs : List Nat}
    {records : List Record} (same : runs.length = records.length) (state : State) :
    (withZeroPairs runs records).foldl read state = records.foldl read state := by
  induction runs generalizing records state with
  | nil =>
      rw [List.eq_nil_of_length_eq_zero same.symm]
      rfl
  | cons run runs ih =>
      cases records with
      | nil => cases same
      | cons record rest =>
          rw [withZeroPairs, List.foldl_append, foldl_zero_pairs ignored, List.foldl_cons,
            List.foldl_cons]
          exact ih (Nat.succ.inj same) _

end Fold

end Record

end RedroidExt.Library
