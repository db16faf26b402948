import RedroidExt.Library.Loop
import Mathlib.Data.List.Basic

/-!
# The process that creates a network namespace

`writeNamespacePid` of `createns.cpp` with what it calls. Strings are the bytes in
front of their terminating null. What the kernel answers to the calls of `write` is a
sequence of its own, one answer for each call in order.
-/

namespace RedroidExt.Netns

open RedroidExt.Library

set_option autoImplicit false

abbrev CString := List UInt8

def ascii (text : String) : CString := text.toList.map Char.toUInt8

/-- `snprintf` into a buffer of the given size: the buffer's string, without what does not fit. -/
def snprintf (size : Nat) (text : CString) : CString := text.take (size - 1)

/-- The decimal representation, as `PRId64` prints it. -/
def decimal : Int → CString
  | .ofNat value => (Nat.toDigits 10 value).map Char.toUInt8
  | .negSucc value => 45 :: (Nat.toDigits 10 (value + 1)).map Char.toUInt8

/-! ## The path -/

/-- Without the terminating null, which `sizeof` counts. -/
def kNamespacePath : CString := ascii "/data/vendor/var/run/netns/"

/-- The length of the source and what fits. -/
def strlcpy (source : CString) (size : Nat) : Nat × CString := (source.length, source.take (size - 1))

def strlcat (destination source : CString) (size : Nat) : Nat × CString :=
  (destination.length + source.length, (destination ++ source).take (size - 1))

/-- `std::numeric_limits<size_t>::max()`. -/
def sizeMax : Nat := 0xFFFFFFFFFFFFFFFF

def getNamespacePath (name : CString) : CString :=
  if name.length = 0 then []
  else if sizeMax - (kNamespacePath.length + 1) < name.length then []
  else
    let size := kNamespacePath.length + 1 + name.length
    let copied := strlcpy kNamespacePath size
    if copied.1 ≥ size then []
    else
      let appended := strlcat copied.2 name size
      if appended.1 ≥ size then [] else appended.2

theorem get_namespace_path_eq (name : CString) :
    getNamespacePath name =
      if name = [] ∨ sizeMax - (kNamespacePath.length + 1) < name.length then []
      else kNamespacePath ++ name := by
  unfold getNamespacePath strlcpy strlcat
  by_cases empty : name = []
  · simp [empty]
  have positive := List.length_pos_of_ne_nil empty
  rw [if_neg (by omega)]
  by_cases long : sizeMax - (kNamespacePath.length + 1) < name.length
  · rw [if_pos long, if_pos (.inr long)]
  have whole : kNamespacePath.take (kNamespacePath.length + 1 + name.length - 1) =
      kNamespacePath := List.take_of_length_le (by omega)
  rw [if_neg long, if_neg (not_or.mpr ⟨empty, long⟩)]
  dsimp only
  rw [if_neg (by omega), whole, if_neg (by omega)]
  apply List.take_of_length_le
  rw [List.length_append]
  omega

/-! ## Writing the pid -/

/-- What a call of `write` comes to: an error, with what becomes of the `unlink` behind it, or the
number of bytes that the kernel would take. -/
inductive WriteAnswer where
  | interrupted
  | failed (removed : Bool)
  | accepted (count : Nat)

/-- The result of a successful `write`: at least one byte of a request that is not empty. -/
def taken (requested count : Nat) : Nat := min requested (max 1 count)

/-- The loop's variables; `toPrint` is an offset, `calls` counts the calls of `write`, `file` is
what the file holds. -/
structure WriteLoop where
  calls : Nat
  remaining : Nat
  toPrint : Nat
  file : CString

/-- How the loop is left: by the `break`, or with an error. -/
inductive WriteEnd where
  | finished (file : CString)
  | failed (file : CString) (removed : Bool)

/-- One round, with the `printed` characters of `pidString`. -/
def writeRound (pidString : CString) (printed : Nat) (answers : Nat → WriteAnswer)
    (loop : WriteLoop) : WriteLoop ⊕ WriteEnd :=
  match answers loop.calls with
  | .interrupted => .inl { loop with calls := loop.calls + 1 }
  | .failed removed => .inr (.failed loop.file removed)
  | .accepted count =>
      let result := taken loop.remaining count
      let file := loop.file ++ (pidString.drop loop.toPrint).take result
      if result < printed then
        .inl { calls := loop.calls + 1
               remaining := loop.remaining - result
               toPrint := loop.toPrint + result
               file := file }
      else .inr (.finished file)

/-- `sizeof(pidString)`. -/
def pidStringSize : Nat := 32

def pidString (pid : Int32) : CString := snprintf pidStringSize (decimal pid.toInt)

/-- What `snprintf` returns. -/
def printed (pid : Int32) : Nat := (decimal pid.toInt).length

def startWriting (pid : Int32) : WriteLoop where
  calls := 0
  remaining := printed pid
  toPrint := 0
  file := []

def writePid (pid : Int32) (answers : Nat → WriteAnswer) : WriteLoop → WriteLoop ⊕ WriteEnd :=
  writeRound (pidString pid) (printed pid) answers

/-- The path of the pid file, empty when there is none. -/
def pidPath (name : CString) : CString :=
  if getNamespacePath name = [] then [] else getNamespacePath name ++ ascii ".pid"

/-- The returned value and the file that is left, `none` when the loop takes more than `rounds`
rounds. -/
def writeNamespacePid (rounds : Nat) (name : CString) (pid : Int32) (opened : Bool)
    (answers : Nat → WriteAnswer) : Option (Bool × Option CString) :=
  if getNamespacePath name = [] then some (false, none)
  else if ¬ opened then some (false, none)
  else if printed pid ≤ 0 then some (false, none)
  else
    (Loop.run (writePid pid answers) rounds (startWriting pid)).map fun left =>
      match left with
      | .finished file => (true, some file)
      | .failed file removed => (false, if removed then none else some file)

/-! ## The decimal representation -/

theorem decimal_length_pos (value : Int) : 0 < (decimal value).length := by
  cases value with
  | ofNat value =>
      rw [decimal, List.length_map]
      exact Nat.length_toDigits_pos
  | negSucc value => exact Nat.succ_pos _

theorem decimal_length_le (pid : Int32) : (decimal pid.toInt).length ≤ 11 := by
  have below := Int32.toInt_lt pid
  have above := Int32.le_toInt pid
  cases number : pid.toInt with
  | ofNat value =>
      rw [number, Int.ofNat_eq_natCast] at below
      have digits : (Nat.toDigits 10 value).length ≤ 10 :=
        (Nat.length_toDigits_le_iff (by decide) (by decide)).mpr (by omega)
      rw [decimal, List.length_map]
      omega
  | negSucc value =>
      rw [number, Int.negSucc_eq] at above
      have digits : (Nat.toDigits 10 (value + 1)).length ≤ 10 :=
        (Nat.length_toDigits_le_iff (by decide) (by decide)).mpr (by omega)
      rw [decimal, List.length_cons, List.length_map]
      omega

theorem pid_string_eq (pid : Int32) : pidString pid = decimal pid.toInt := by
  have short := decimal_length_le pid
  unfold pidString snprintf pidStringSize
  exact List.take_of_length_le (by omega)

theorem printed_pos (pid : Int32) : 0 < printed pid := decimal_length_pos pid.toInt

end RedroidExt.Netns
