import Mathlib.Algebra.Order.Ring.Nat
import RedroidExt.Library.ByteMemory

/-!
# One's-complement sums of bytes

The checksum arithmetic of the internet protocols: bytes are taken as 16-bit words in
network order and added with an end-around carry. Sums of the same bytes in host order
differ by a factor of 256 modulo 65535.
-/

namespace RedroidExt.Library.OnesComplement

open RedroidExt.Library.ByteMemory

set_option autoImplicit false

/-- The 16-bit words of the bytes in network order; a last single byte is a high half. -/
def networkWords : List UInt8 → List Nat
  | high :: low :: rest => (256 * high.toNat + low.toNat) :: networkWords rest
  | [high] => [256 * high.toNat]
  | [] => []

/-- The words that a little-endian processor loads; a last single byte is a low half. -/
def hostWords : List UInt8 → List Nat
  | low :: high :: rest => (low.toNat + 256 * high.toNat) :: hostWords rest
  | [low] => [low.toNat]
  | [] => []

/-- Addition with an end-around carry. -/
def add (left right : Nat) : Nat :=
  if left + right < 65536 then left + right else left + right - 65535

def onesSum (words : List Nat) : Nat := words.foldr add 0

/-! ## Words -/

theorem network_words_append (left right : List UInt8) (even : left.length % 2 = 0) :
    networkWords (left ++ right) = networkWords left ++ networkWords right := by
  induction left using networkWords.induct with
  | case1 high low rest ih =>
      simp only [List.length_cons] at even
      simp only [List.cons_append, networkWords]
      rw [ih (by omega)]
  | case2 high => simp at even
  | case3 => rfl

theorem host_words_append (left right : List UInt8) (even : left.length % 2 = 0) :
    hostWords (left ++ right) = hostWords left ++ hostWords right := by
  induction left using hostWords.induct with
  | case1 low high rest ih =>
      simp only [List.length_cons] at even
      simp only [List.cons_append, hostWords]
      rw [ih (by omega)]
  | case2 low => simp at even
  | case3 => rfl

theorem network_words_lt (bytes : List UInt8) : ∀ word ∈ networkWords bytes, word < 65536 := by
  induction bytes using networkWords.induct with
  | case1 high low rest ih =>
      have highBound := high.toNat_lt
      have lowBound := low.toNat_lt
      intro word member
      rcases List.mem_cons.mp member with same | later
      · omega
      · exact ih word later
  | case2 high =>
      have highBound := high.toNat_lt
      intro word member
      have same := List.mem_singleton.mp member
      omega
  | case3 => exact fun word member => nomatch member

theorem host_words_sum_le (bytes : List UInt8) :
    (hostWords bytes).sum ≤ 65535 * ((bytes.length + 1) / 2) := by
  induction bytes using hostWords.induct with
  | case1 low high rest ih =>
      have lowBound := low.toNat_lt
      have highBound := high.toNat_lt
      simp only [hostWords, List.sum_cons, List.length_cons]
      omega
  | case2 low =>
      have lowBound := low.toNat_lt
      simp only [hostWords, List.sum_cons, List.sum_nil, List.length_cons, List.length_nil]
      omega
  | case3 => exact Nat.zero_le _

/-- Swapping the bytes of every word multiplies the sum by 256. -/
theorem network_sum_mod (bytes : List UInt8) :
    (networkWords bytes).sum % 65535 = 256 * (hostWords bytes).sum % 65535 := by
  induction bytes using hostWords.induct with
  | case1 low high rest ih =>
      simp only [networkWords, hostWords, List.sum_cons]
      omega
  | case2 low =>
      simp only [networkWords, hostWords, List.sum_cons, List.sum_nil]
      omega
  | case3 => rfl

/-- So both orders agree on the multiples of 65535. -/
theorem network_sum_dvd_iff (bytes : List UInt8) :
    65535 ∣ (networkWords bytes).sum ↔ 65535 ∣ (hostWords bytes).sum := by
  have factor := network_sum_mod bytes
  omega

theorem network_sum_eq_zero_iff (bytes : List UInt8) :
    (networkWords bytes).sum = 0 ↔ (hostWords bytes).sum = 0 := by
  induction bytes using hostWords.induct with
  | case1 low high rest ih =>
      simp only [networkWords, hostWords, List.sum_cons]
      omega
  | case2 low =>
      simp only [networkWords, hostWords, List.sum_cons, List.sum_nil]
      omega
  | case3 => exact Iff.rfl

/-! ## Sums with end-around carry -/

theorem add_le {left right : Nat} (leftBound : left ≤ 65535) (rightBound : right ≤ 65535) :
    add left right ≤ 65535 := by
  unfold add
  split_ifs
  · omega
  · omega

theorem add_mod (left right : Nat) : add left right % 65535 = (left + right) % 65535 := by
  unfold add
  split_ifs
  · rfl
  · omega

theorem add_eq_zero_iff (left right : Nat) : add left right = 0 ↔ left + right = 0 := by
  unfold add
  split_ifs
  · rfl
  · omega

theorem ones_sum_le {words : List Nat} (bounded : ∀ word ∈ words, word < 65536) :
    onesSum words ≤ 65535 := by
  induction words with
  | nil => exact Nat.zero_le _
  | cons word rest ih =>
      have head := bounded word List.mem_cons_self
      have tail := ih fun other member => bounded other (List.mem_cons_of_mem _ member)
      exact add_le (by omega) tail

theorem ones_sum_mod (words : List Nat) : onesSum words % 65535 = words.sum % 65535 := by
  induction words with
  | nil => rfl
  | cons word rest ih =>
      have stepped := add_mod word (onesSum rest)
      change add word (onesSum rest) % 65535 = _
      rw [List.sum_cons]
      omega

theorem ones_sum_eq_zero_iff (words : List Nat) : onesSum words = 0 ↔ words.sum = 0 := by
  induction words with
  | nil => exact Iff.rfl
  | cons word rest ih =>
      change add word (onesSum rest) = 0 ↔ _
      rw [add_eq_zero_iff, List.sum_cons]
      omega

/-- Of the two zeros only the one with all bits set is reached from words that are not all
zero. -/
theorem ones_sum_all_ones_iff {words : List Nat} (bounded : ∀ word ∈ words, word < 65536) :
    onesSum words = 65535 ↔ words.sum ≠ 0 ∧ 65535 ∣ words.sum := by
  have bound := ones_sum_le bounded
  have rest := ones_sum_mod words
  have zero := ones_sum_eq_zero_iff words
  omega

/-- The same for bytes whose host-order sum is known. -/
theorem ones_sum_bytes_iff (bytes : List UInt8) :
    onesSum (networkWords bytes) = 65535 ↔
      (hostWords bytes).sum ≠ 0 ∧ 65535 ∣ (hostWords bytes).sum := by
  rw [ones_sum_all_ones_iff (network_words_lt bytes), network_sum_dvd_iff, ne_eq,
    network_sum_eq_zero_iff]

end RedroidExt.Library.OnesComplement
