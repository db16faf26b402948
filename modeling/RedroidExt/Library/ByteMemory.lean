import Mathlib.Data.List.Basic
import Mathlib.Data.List.GetD

/-!
# Byte memory and little-endian words

A buffer is a total function from offsets to bytes. `HoldsAt` says that given
bytes lie at an offset, `load` reads bytes back, and `word16`, `word32` are what
a little-endian processor reads as one integer.
-/

namespace RedroidExt.Library

set_option autoImplicit false

abbrev Memory := Nat → UInt8

namespace ByteMemory

/-- Copy the bytes into the memory from the offset on. -/
def store (memory : Memory) (offset : Nat) (bytes : List UInt8) : Memory := fun index =>
  if offset ≤ index ∧ index < offset + bytes.length then bytes.getD (index - offset) 0
  else memory index

def load (memory : Memory) (offset count : Nat) : List UInt8 :=
  (List.range count).map fun index => memory (offset + index)

def HoldsAt (memory : Memory) : Nat → List UInt8 → Prop
  | _, [] => True
  | offset, byte :: rest => memory offset = byte ∧ HoldsAt memory (offset + 1) rest

@[simp] theorem load_length (memory : Memory) (offset count : Nat) :
    (load memory offset count).length = count := by
  simp [load]

theorem load_getElem? (memory : Memory) (offset count index : Nat) (bounded : index < count) :
    (load memory offset count)[index]? = some (memory (offset + index)) := by
  simp [load, bounded]

theorem store_outside (memory : Memory) (offset : Nat) (bytes : List UInt8) (index : Nat)
    (outside : index < offset ∨ offset + bytes.length ≤ index) :
    store memory offset bytes index = memory index := by
  rw [store, if_neg]
  omega

theorem store_inside (memory : Memory) (offset : Nat) (bytes : List UInt8) (index : Nat)
    (bounded : index < bytes.length) :
    store memory offset bytes (offset + index) = bytes.getD index 0 := by
  rw [store, if_pos (by omega), Nat.add_sub_cancel_left]

theorem store_append (memory : Memory) (offset : Nat) (left right : List UInt8) :
    store memory offset (left ++ right) =
      store (store memory offset left) (offset + left.length) right := by
  funext index
  by_cases inRight : offset + left.length ≤ index
  · by_cases inside : index < offset + (left ++ right).length
    · obtain ⟨place, rfl⟩ := Nat.exists_eq_add_of_le inRight
      rw [Nat.add_assoc] at inside ⊢
      rw [store_inside _ _ _ _ (by omega), ← Nat.add_assoc, store_inside _ _ _ _
        (by rw [List.length_append] at inside; omega), List.getD_append_right _ _ _ _ (by omega),
        Nat.add_sub_cancel_left]
    · rw [List.length_append] at inside
      rw [store_outside _ _ _ _ (.inr (by rw [List.length_append]; omega)),
        store_outside _ _ _ _ (.inr (by omega)), store_outside _ _ _ _ (.inr (by omega))]
  · rw [store_outside (store memory offset left) _ _ _ (.inl (by omega))]
    by_cases inLeft : offset ≤ index
    · obtain ⟨place, rfl⟩ := Nat.exists_eq_add_of_le inLeft
      have bounded : place < left.length := by omega
      rw [store_inside _ _ _ _ (by rw [List.length_append]; omega),
        store_inside _ _ _ _ bounded, List.getD_append _ _ _ _ bounded]
    · rw [store_outside _ _ _ _ (.inl (by omega)), store_outside _ _ _ _ (.inl (by omega))]

theorem store_comm (memory : Memory) {first second : Nat} {left right : List UInt8}
    (disjoint : first + left.length ≤ second ∨ second + right.length ≤ first) :
    store (store memory first left) second right = store (store memory second right) first left := by
  funext index
  unfold store
  by_cases inLeft : first ≤ index ∧ index < first + left.length
  · rw [if_neg (by omega), if_pos inLeft, if_pos inLeft]
  · rw [if_neg inLeft, if_neg inLeft]

theorem store_congr {left right : Memory} {index : Nat} (same : left index = right index)
    (offset : Nat) (bytes : List UInt8) :
    store left offset bytes index = store right offset bytes index := by
  rw [store, store, same]

theorem holds_at_iff (memory : Memory) (offset : Nat) (bytes : List UInt8) :
    HoldsAt memory offset bytes ↔
      ∀ index, index < bytes.length → memory (offset + index) = bytes.getD index 0 := by
  induction bytes generalizing offset with
  | nil => simp [HoldsAt]
  | cons byte rest ih =>
      rw [HoldsAt, ih]
      constructor
      · rintro ⟨head, tail⟩ index bounded
        cases index with
        | zero => simpa using head
        | succ index =>
            have later := tail index (by simpa using bounded)
            rw [Nat.add_right_comm, Nat.add_assoc] at later
            simpa using later
      · intro every
        refine ⟨by simpa using every 0 (by simp), ?_⟩
        intro index bounded
        have later := every (index + 1) (by simpa using bounded)
        rw [Nat.add_right_comm, Nat.add_assoc]
        simpa using later

theorem holds_at_append (memory : Memory) (offset : Nat) (left right : List UInt8) :
    HoldsAt memory offset (left ++ right) ↔
      HoldsAt memory offset left ∧ HoldsAt memory (offset + left.length) right := by
  induction left generalizing offset with
  | nil => simp [HoldsAt]
  | cons byte rest ih =>
      simp only [List.cons_append, HoldsAt, ih, List.length_cons, and_assoc]
      rw [Nat.add_right_comm, Nat.add_assoc]

theorem holds_at_store (memory : Memory) (offset : Nat) (bytes : List UInt8) :
    HoldsAt (store memory offset bytes) offset bytes := by
  rw [holds_at_iff]
  intro index bounded
  exact store_inside memory offset bytes index bounded

theorem holds_at_store_disjoint {memory : Memory} {offset start : Nat} {bytes kept : List UInt8}
    (disjoint : start + kept.length ≤ offset ∨ offset + bytes.length ≤ start)
    (held : HoldsAt memory start kept) : HoldsAt (store memory offset bytes) start kept := by
  rw [holds_at_iff] at held ⊢
  intro index bounded
  rw [store_outside _ _ _ _ (by omega)]
  exact held index bounded

theorem holds_at_replicate (memory : Memory) (offset count : Nat) (byte : UInt8) :
    HoldsAt memory offset (List.replicate count byte) ↔
      ∀ index, offset ≤ index → index < offset + count → memory index = byte := by
  rw [holds_at_iff, List.length_replicate]
  constructor
  · intro every index above below
    have here := every (index - offset) (by omega)
    rw [Nat.add_sub_cancel' above, List.getD_replicate _ (by omega)] at here
    exact here
  · intro every index bounded
    rw [every (offset + index) (by omega) (by omega), List.getD_replicate _ bounded]

theorem holds_at_load (memory : Memory) (offset count : Nat) :
    HoldsAt memory offset (load memory offset count) := by
  rw [holds_at_iff]
  intro index bounded
  rw [load_length] at bounded
  rw [List.getD_eq_getElem?_getD, load_getElem? _ _ _ _ bounded, Option.getD_some]

theorem store_load_inside (memory other : Memory) (offset count index : Nat)
    (above : offset ≤ index) (below : index < offset + count) :
    store other offset (load memory offset count) index = memory index := by
  have held := holds_at_load memory offset count
  rw [holds_at_iff, load_length] at held
  have read := held (index - offset) (by omega)
  rw [store, load_length, if_pos ⟨above, below⟩, ← read, Nat.add_sub_cancel' above]

theorem load_eq_of_holds_at {memory : Memory} {offset : Nat} {bytes : List UInt8}
    (held : HoldsAt memory offset bytes) : load memory offset bytes.length = bytes := by
  rw [holds_at_iff] at held
  apply List.ext_getElem?
  intro index
  by_cases bounded : index < bytes.length
  · rw [load_getElem? _ _ _ _ bounded, held index bounded, List.getElem?_eq_getElem bounded,
      List.getD_eq_getElem _ _ bounded]
  · rw [List.getElem?_eq_none (by simpa using bounded), List.getElem?_eq_none (by simpa using bounded)]

/-- Bytes below `count` of two memories that both hold the same bytes agree. -/
theorem holds_at_congr {left right : Memory} {offset : Nat} {bytes : List UInt8}
    (same : ∀ index, offset ≤ index → index < offset + bytes.length → left index = right index)
    (held : HoldsAt left offset bytes) : HoldsAt right offset bytes := by
  rw [holds_at_iff] at held ⊢
  intro index bounded
  rw [← same (offset + index) (by omega) (by omega)]
  exact held index bounded

theorem load_congr {left right : Memory} {offset count : Nat}
    (same : ∀ index, offset ≤ index → index < offset + count → left index = right index) :
    load left offset count = load right offset count := by
  unfold load
  apply List.map_congr_left
  intro index member
  have below := List.mem_range.mp member
  exact same (offset + index) (by omega) (by omega)

/-! ## Words -/

def word16 (low high : UInt8) : UInt16 := UInt16.ofNat (low.toNat + 256 * high.toNat)

def word32 (byte0 byte1 byte2 byte3 : UInt8) : UInt32 :=
  UInt32.ofNat (byte0.toNat + 256 * byte1.toNat + 65536 * byte2.toNat + 16777216 * byte3.toNat)

def bytes16 (word : UInt16) : List UInt8 :=
  [UInt8.ofNat word.toNat, UInt8.ofNat (word.toNat / 256)]

def bytes32 (word : UInt32) : List UInt8 :=
  [UInt8.ofNat word.toNat, UInt8.ofNat (word.toNat / 256), UInt8.ofNat (word.toNat / 65536),
    UInt8.ofNat (word.toNat / 16777216)]

def load16 (memory : Memory) (offset : Nat) : UInt16 :=
  word16 (memory offset) (memory (offset + 1))

def load32 (memory : Memory) (offset : Nat) : UInt32 :=
  word32 (memory offset) (memory (offset + 1)) (memory (offset + 2)) (memory (offset + 3))

/-- Reverse the order of the bytes of a word. -/
def swap16 (word : UInt16) : UInt16 :=
  word16 (UInt8.ofNat (word.toNat / 256)) (UInt8.ofNat word.toNat)

def swap32 (word : UInt32) : UInt32 :=
  word32 (UInt8.ofNat (word.toNat / 16777216)) (UInt8.ofNat (word.toNat / 65536))
    (UInt8.ofNat (word.toNat / 256)) (UInt8.ofNat word.toNat)

@[simp] theorem bytes16_length (word : UInt16) : (bytes16 word).length = 2 := rfl

@[simp] theorem bytes32_length (word : UInt32) : (bytes32 word).length = 4 := rfl

theorem word16_toNat (low high : UInt8) :
    (word16 low high).toNat = low.toNat + 256 * high.toNat := by
  have lowBound := low.toNat_lt
  have highBound := high.toNat_lt
  rw [word16, UInt16.toNat_ofNat_of_lt']
  change _ < 2 ^ 16
  omega

theorem bytes16_word16 (low high : UInt8) : bytes16 (word16 low high) = [low, high] := by
  have lowBound := low.toNat_lt
  have highBound := high.toNat_lt
  simp only [bytes16, word16_toNat, List.cons.injEq, and_true, ← UInt8.toNat_inj,
    UInt8.toNat_ofNat']
  constructor
  · omega
  · omega

theorem word16_bytes (word : UInt16) :
    word16 (UInt8.ofNat word.toNat) (UInt8.ofNat (word.toNat / 256)) = word := by
  have bound := word.toNat_lt
  apply UInt16.toNat_inj.mp
  rw [word16_toNat, UInt8.toNat_ofNat', UInt8.toNat_ofNat']
  omega

theorem swap16_word16 (low high : UInt8) : swap16 (word16 low high) = word16 high low := by
  have parts := bytes16_word16 low high
  simp only [bytes16, List.cons.injEq, and_true] at parts
  obtain ⟨first, second⟩ := parts
  rw [swap16, first, second]

@[simp] theorem swap16_swap16 (word : UInt16) : swap16 (swap16 word) = word := by
  have bytes := word16_bytes word
  rw [← bytes, swap16_word16, swap16_word16]

theorem word32_toNat (byte0 byte1 byte2 byte3 : UInt8) :
    (word32 byte0 byte1 byte2 byte3).toNat =
      byte0.toNat + 256 * byte1.toNat + 65536 * byte2.toNat + 16777216 * byte3.toNat := by
  have bound0 := byte0.toNat_lt
  have bound1 := byte1.toNat_lt
  have bound2 := byte2.toNat_lt
  have bound3 := byte3.toNat_lt
  rw [word32, UInt32.toNat_ofNat_of_lt']
  change _ < 2 ^ 32
  omega

theorem bytes32_word32 (byte0 byte1 byte2 byte3 : UInt8) :
    bytes32 (word32 byte0 byte1 byte2 byte3) = [byte0, byte1, byte2, byte3] := by
  have bound0 := byte0.toNat_lt
  have bound1 := byte1.toNat_lt
  have bound2 := byte2.toNat_lt
  have bound3 := byte3.toNat_lt
  simp only [bytes32, word32_toNat, List.cons.injEq, and_true, ← UInt8.toNat_inj,
    UInt8.toNat_ofNat']
  refine ⟨by omega, by omega, by omega, by omega⟩

theorem word32_bytes (word : UInt32) :
    word32 (UInt8.ofNat word.toNat) (UInt8.ofNat (word.toNat / 256))
      (UInt8.ofNat (word.toNat / 65536)) (UInt8.ofNat (word.toNat / 16777216)) = word := by
  have bound := word.toNat_lt
  apply UInt32.toNat_inj.mp
  rw [word32_toNat]
  simp only [UInt8.toNat_ofNat']
  omega

theorem swap32_word32 (byte0 byte1 byte2 byte3 : UInt8) :
    swap32 (word32 byte0 byte1 byte2 byte3) = word32 byte3 byte2 byte1 byte0 := by
  have parts := bytes32_word32 byte0 byte1 byte2 byte3
  simp only [bytes32, List.cons.injEq, and_true] at parts
  obtain ⟨first, second, third, fourth⟩ := parts
  rw [swap32, first, second, third, fourth]

@[simp] theorem swap32_swap32 (word : UInt32) : swap32 (swap32 word) = word := by
  have bytes := word32_bytes word
  rw [← bytes, swap32_word32, swap32_word32]

theorem swap32_eq_zero (word : UInt32) : swap32 word = 0 ↔ word = 0 := by
  constructor
  · intro zero
    rw [← swap32_swap32 word, zero]
    decide
  · rintro rfl
    decide

theorem load32_of_holds_at {memory : Memory} {offset : Nat} {word : UInt32}
    (held : HoldsAt memory offset (bytes32 word)) : load32 memory offset = word := by
  simp only [bytes32, HoldsAt, and_true] at held
  obtain ⟨first, second, third, fourth⟩ := held
  rw [load32, first, second, third, fourth, word32_bytes]

theorem holds_at_load32 (memory : Memory) (offset : Nat) :
    HoldsAt memory offset (bytes32 (load32 memory offset)) := by
  rw [load32, bytes32_word32]
  exact ⟨rfl, rfl, rfl, rfl, trivial⟩

theorem load16_of_holds_at {memory : Memory} {offset : Nat} {word : UInt16}
    (held : HoldsAt memory offset (bytes16 word)) : load16 memory offset = word := by
  simp only [bytes16, HoldsAt, and_true] at held
  obtain ⟨first, second⟩ := held
  rw [load16, first, second, word16_bytes]

theorem load32_congr {left right : Memory} {offset : Nat}
    (same : ∀ index, offset ≤ index → index < offset + 4 → left index = right index) :
    load32 left offset = load32 right offset := by
  simp only [load32]
  rw [same offset (by omega) (by omega), same (offset + 1) (by omega) (by omega),
    same (offset + 2) (by omega) (by omega), same (offset + 3) (by omega) (by omega)]

end ByteMemory

end RedroidExt.Library
