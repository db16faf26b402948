import RedroidExt.Netns.Createns
import Mathlib.Data.List.TakeWhile

/-!
# The pid of a network namespace

`readNamespacePid` of `execns.cpp`. A file is what `fread` finds in it before its end
or an error.
-/

namespace RedroidExt.Netns

set_option autoImplicit false

def kNetNsDir : CString := ascii "/data/vendor/var/run/netns"

/-- `PATH_MAX`. -/
def pathMax : Nat := 4096

/-- `sizeof(buffer)` in `readNamespacePid`. -/
def pidBufferSize : Nat := 32

structure FileRead where
  bytes : CString
  failed : Bool

def isdigit (character : UInt8) : Bool := 48 ≤ character && character ≤ 57

/-- Behind its digits the string ends. -/
def isNumericString (text : CString) : Bool := (text.dropWhile isdigit).isEmpty

/-- What `readNamespacePid` returns for an open file. -/
def pidOfFile (read : FileRead) : CString :=
  let buffer := read.bytes.take pidBufferSize
  -- a full buffer does not reach the end of the file
  if buffer.length < pidBufferSize ∧ read.failed = false then
    let text := buffer.takeWhile (· ≠ 0)
    if isNumericString text then text else []
  else []

/-- The path of the pid file, as far as `nsPath` has room for it. -/
def namespacePidPath (ns : CString) : CString :=
  snprintf pathMax (kNetNsDir ++ ascii "/" ++ ns ++ ascii ".pid")

def readNamespacePid (fopen : CString → Option FileRead) (ns : CString) : CString :=
  match fopen (namespacePidPath ns) with
  | none => []
  | some read => pidOfFile read

/-! ## Digits -/

theorem digits_numeric {text : CString} (digits : ∀ character ∈ text, isdigit character = true) :
    isNumericString text = true := by
  unfold isNumericString
  rw [List.isEmpty_iff, List.dropWhile_eq_nil_iff]
  exact digits

theorem numeric_digits {text : CString} (numeric : isNumericString text = true) :
    ∀ character ∈ text, isdigit character = true := by
  unfold isNumericString at numeric
  rw [List.isEmpty_iff, List.dropWhile_eq_nil_iff] at numeric
  exact numeric

/-- What is returned is a short string of digits. -/
theorem pid_of_file_digits (read : FileRead) :
    (pidOfFile read).length < pidBufferSize ∧
      ∀ character ∈ pidOfFile read, isdigit character = true := by
  unfold pidOfFile
  dsimp only
  by_cases ended : (read.bytes.take pidBufferSize).length < pidBufferSize ∧ read.failed = false
  · rw [if_pos ended]
    by_cases numeric : isNumericString ((read.bytes.take pidBufferSize).takeWhile (· ≠ 0)) = true
    · rw [if_pos numeric]
      exact ⟨Nat.lt_of_le_of_lt (List.takeWhile_sublist _).length_le ended.1, numeric_digits numeric⟩
    · rw [if_neg numeric]
      exact ⟨by decide, nofun⟩
  · rw [if_neg ended]
    exact ⟨by decide, nofun⟩

/-- A short file of digits is returned as it is. -/
theorem pid_of_digits {text : CString} (digits : ∀ character ∈ text, isdigit character = true)
    (short : text.length < pidBufferSize) : pidOfFile { bytes := text, failed := false } = text := by
  have whole : text.take pidBufferSize = text := List.take_of_length_le (Nat.le_of_lt short)
  have noNull : text.takeWhile (· ≠ 0) = text := by
    rw [List.takeWhile_eq_self_iff]
    intro character member
    have digit := digits character member
    rw [decide_eq_true_iff]
    intro null
    rw [null] at digit
    cases digit
  unfold pidOfFile
  dsimp only
  rw [whole, if_pos ⟨short, rfl⟩, noNull, if_pos (digits_numeric digits)]

/-- A file that cannot be read to its end has no pid. -/
theorem pid_of_failed (bytes : CString) : pidOfFile { bytes := bytes, failed := true } = [] := by
  unfold pidOfFile
  dsimp only
  rw [if_neg (fun ended => Bool.noConfusion ended.2)]

theorem digit_character {character : Char} (digit : character.isDigit = true) :
    isdigit character.toUInt8 = true := by
  unfold Char.isDigit at digit
  obtain ⟨above, below⟩ := Bool.and_eq_true_iff.mp digit
  have low : 48 ≤ character.val.toNat := of_decide_eq_true above
  have high : character.val.toNat ≤ 57 := of_decide_eq_true below
  have same : character.toUInt8.toNat = character.val.toNat := by
    unfold Char.toUInt8
    rw [UInt32.toNat_toUInt8]
    exact Nat.mod_eq_of_lt (by omega)
  unfold isdigit
  rw [Bool.and_eq_true_iff, decide_eq_true_iff, decide_eq_true_iff, UInt8.le_iff_toNat_le,
    UInt8.le_iff_toNat_le, same]
  exact ⟨low, high⟩

/-- A pid that is not negative is printed in digits. -/
theorem decimal_digits {value : Int} (natural : 0 ≤ value) :
    ∀ character ∈ decimal value, isdigit character = true := by
  intro character member
  cases value with
  | ofNat value =>
      obtain ⟨digit, present, same⟩ := List.mem_map.mp member
      rw [← same]
      exact digit_character (Nat.isDigit_of_mem_toDigits (by decide) (by decide) present)
  | negSucc value => exact absurd natural (Int.not_le.mpr (Int.negSucc_lt_zero value))

/-! ## The two paths -/

/-- Both programs find the pid file under the same path, if it fits. -/
theorem namespace_pid_path_eq {name : CString} (path : getNamespacePath name ≠ [])
    (fits : (pidPath name).length < pathMax) : namespacePidPath name = pidPath name := by
  have directory : kNetNsDir ++ ascii "/" = kNamespacePath := by decide +kernel
  have same : getNamespacePath name = kNamespacePath ++ name := by
    rw [get_namespace_path_eq] at path ⊢
    split_ifs at path ⊢
    · exact absurd rfl path
    · rfl
  unfold namespacePidPath
  unfold pidPath at fits ⊢
  rw [if_neg path] at fits ⊢
  rw [same] at fits ⊢
  rw [directory]
  exact List.take_of_length_le (by omega)

end RedroidExt.Netns
