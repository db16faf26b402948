import RedroidExt.Library.Opened
import RedroidExt.Library.World
import RedroidExt.Netns.Createns

/-!
# Creating a namespace

`main` of `createns.cpp`: a new network namespace, the file that it is bound to, the pid
file and, last, the property that says so. A round of the loop that writes the pid is one
call of `write`; the loop gets a number of rounds.
-/

namespace RedroidExt.Netns

open RedroidExt.Library RedroidExt.Library.World

set_option autoImplicit false

/-! ## System calls -/

/-- Without `O_TRUNC` the file is opened to read and keeps what it holds. -/
inductive OpenMode where
  | create
  | truncate
deriving DecidableEq, Repr

inductive CreateCall where
  /-- With `CLONE_NEWNET`. -/
  | unshare
  | openFile (path : CString) (mode : OpenMode)
  | close (fd : Int)
  /-- With `MS_BIND`. -/
  | mount (source target : CString)
  | write (fd : Int) (bytes : CString)
  | unlink (path : CString)
  | propertySet (name value : CString)
  | aloge (line : CString)

/-- What `write` answers: an interrupt, another error, or how many bytes it would take. -/
inductive Written where
  | interrupted
  | failed (error : CString)
  | accepted (count : Nat)

/-- A call that fails answers what `strerror(errno)` is then. -/
abbrev CreateCall.Answer : CreateCall → Type
  | unshare => Except CString Unit
  | openFile _ _ => Except CString Nat
  | close _ => Unit
  | mount _ _ => Except CString Unit
  | write _ _ => Written
  | unlink _ => Except CString Unit
  | propertySet _ _ => Unit
  | aloge _ => Unit

abbrev Creating := Program CreateCall CreateCall.Answer

namespace Creating

abbrev sys (call : CreateCall) : Creating call.Answer := Program.call call

/-- A line for the log, and what is returned. -/
def fails {Result : Type} (line : CString) (result : Result) : Creating Result := do
  sys (.aloge line)
  return result

def removeFile (file : CString) : Creating Bool := do
  match ← sys (.unlink file) with
  | .error error => fails (ascii "Failed to unlink file '" ++ file ++ ascii "': " ++ error) false
  | .ok _ => return true

/-! ## The pid file -/

/-- The loop of `writeNamespacePid`; `none` if it is not left in so many rounds. -/
def writeLoop (fd : Int) (path pidString : CString) (printed : Nat) :
    Nat → Nat → Nat → Creating (Option Bool)
  | 0, _, _ => return none
  | rounds + 1, toPrint, remaining => do
      let bytes := (pidString.drop toPrint).take remaining
      match ← sys (.write fd bytes) with
      | .interrupted => writeLoop fd path pidString printed rounds toPrint remaining
      | .failed error => do
          sys (.aloge (ascii "Unable to write pid to file " ++ path ++ ascii ": " ++ error))
          let _ ← removeFile path
          return some false
      | .accepted count =>
          let result := taken bytes.length count
          if result < printed then
            writeLoop fd path pidString printed rounds (toPrint + result) (remaining - result)
          else return some true

/-- `writeNamespacePid` behind the test of the path; the pid always has a digit to print. -/
def writePidFile (rounds : Nat) (path : CString) (pid : Int32) : Creating (Option Bool) := do
  match ← sys (.openFile path .truncate) with
  | .error error =>
      fails (ascii "Unable to create file '" ++ path ++ ascii "': " ++ error) (some false)
  | .ok fd =>
      let written ← writeLoop fd path (pidString pid) (printed pid) rounds 0 (printed pid)
      -- the destructor of `fd`, when the loop is left
      if written.isSome then
        sys (.close fd)
        return written
      else return none

def writePidOf (rounds : Nat) (name : CString) (pid : Int32) : Creating (Option Bool) :=
  if pidPath name = [] then return some false else writePidFile rounds (pidPath name) pid

/-! ## main -/

/-- How a run ends: it returns, it waits for ever, or it is still in the loop that writes the pid. -/
inductive CreateEnd where
  | returned (status : Nat)
  | paused
  | writing
deriving DecidableEq, Repr

def kProcNsNet : CString := ascii "/proc/self/ns/net"

/-- Create the file, and bind the namespace to it. -/
def bindNamespace (path : CString) : Creating Bool := do
  match ← sys (.openFile path .create) with
  | .error error => fails (ascii "Failed to open file " ++ path ++ ascii ": " ++ error) false
  | .ok fd =>
      sys (.close fd)
      match ← sys (.mount kProcNsNet path) with
      | .error error => do
          sys (.aloge (ascii "Failed to bind " ++ kProcNsNet ++ ascii " to " ++ path ++ ascii ": " ++
            error))
          let _ ← removeFile path
          return false
      | .ok _ => return true

/-- `main` behind `unshare`. -/
def createNamespace (rounds : Nat) (name : CString) (pid : Int32) : Creating CreateEnd := do
  if getNamespacePath name = [] then return .returned 1
  else if ← bindNamespace (getNamespacePath name) then
    match ← writePidOf rounds name pid with
    | none => return .writing
    | some false => return .returned 1
    | some true =>
        sys (.propertySet (ascii "vendor.qemu.networknamespace") (ascii "ready"))
        return .paused
  else return .returned 1

def main (rounds : Nat) (pid : Int32) (argv : List CString) : Creating CreateEnd := do
  match argv with
  | [_, name] =>
      match ← sys .unshare with
      | .error error =>
          fails (ascii "Failed to create network namespace '" ++ name ++ ascii "': " ++ error)
            (.returned 1)
      | .ok _ => createNamespace rounds name pid
  | _ => fails (argv.headD [] ++ ascii " <namespace>") (.returned 1)

end Creating

/-! ## The kernel -/

/-- What paths lead to: the contents of files, and the namespaces that are bound to them. A namespace
is numbered, and the process is in the one that was made last. -/
structure NsKernel where
  table : Int → Option CString
  files : CString → Option CString
  bound : CString → Option Nat
  home : Nat
  /-- The values that `property_set` was called with. -/
  properties : List (CString × CString)

namespace NsKernel

variable (kernel : NsKernel)

def openFile (path : CString) (mode : OpenMode) (fd : Int) : NsKernel :=
  { kernel with
    table := Function.update kernel.table fd (some path)
    files := Function.update kernel.files path
      (some (if mode = .truncate then [] else (kernel.files path).getD [])) }

/-- A file that is no longer there is written without a trace. -/
def write (fd : Int) (bytes : CString) : NsKernel :=
  match kernel.table fd with
  | none => kernel
  | some path =>
      match kernel.files path with
      | none => kernel
      | some content =>
          { kernel with files := Function.update kernel.files path (some (content ++ bytes)) }

def allowed : (call : CreateCall) → call.Answer → Prop
  | .openFile _ _, .ok fd => kernel.table fd = none
  | _, _ => True

def advance : (call : CreateCall) → call.Answer → NsKernel
  | .unshare, .ok _ => { kernel with home := kernel.home + 1 }
  | .openFile path mode, .ok fd => kernel.openFile path mode fd
  | .close fd, _ => { kernel with table := Function.update kernel.table fd none }
  | .mount _ target, .ok _ =>
      { kernel with bound := Function.update kernel.bound target (some kernel.home) }
  | .write fd bytes, .accepted count => kernel.write fd (bytes.take (taken bytes.length count))
  | .unlink path, .ok _ => { kernel with files := Function.update kernel.files path none }
  | .propertySet name value, _ =>
      { kernel with properties := kernel.properties ++ [(name, value)] }
  | _, _ => kernel

end NsKernel

def nsWorld : World CreateCall CreateCall.Answer NsKernel where
  allowed := NsKernel.allowed
  advance := NsKernel.advance

/-! ## What a run leaves -/

namespace NsKernel

variable (kernel : NsKernel)

/-- The content of one file is replaced. -/
def holding (path : CString) (content : Option CString) : NsKernel :=
  { kernel with files := Function.update kernel.files path content }

def opening (fd : Int) (path : CString) : NsKernel :=
  { kernel with table := Function.update kernel.table fd (some path) }

/-- A new namespace, without a path. -/
def unshared : NsKernel := { kernel with home := kernel.home + 1 }

/-- The file is there, and the new namespace is bound to it. -/
def binding (path : CString) : NsKernel :=
  { kernel.unshared.holding path (some ((kernel.files path).getD [])) with
    bound := Function.update kernel.bound path (some (kernel.home + 1)) }

def announcing : NsKernel :=
  { kernel with
    properties := kernel.properties ++
      [(ascii "vendor.qemu.networknamespace", ascii "ready")] }

theorem holding_again (path : CString) (first second : Option CString) :
    (kernel.holding path first).holding path second = kernel.holding path second := by
  unfold holding
  rw [Function.update_idem]

theorem holding_unchanged {path : CString} {content : Option CString}
    (held : kernel.files path = content) : kernel.holding path content = kernel := by
  unfold holding
  rw [← held, Function.update_eq_self]

theorem write_holding {fd : Int} {path : CString} (opened : kernel.table fd = some path)
    (content bytes : CString) :
    (kernel.holding path (some content)).write fd bytes =
      kernel.holding path (some (content ++ bytes)) := by
  have table : (kernel.holding path (some content)).table fd = some path := opened
  have found : (kernel.holding path (some content)).files path = some content :=
    Function.update_self _ _ _
  unfold write
  rw [table]
  dsimp only
  rw [found]
  exact kernel.holding_again path (some content) (some (content ++ bytes))

/-- A descriptor that was free is closed again. -/
theorem close_holding {fd : Int} (free : kernel.table fd = none) (path : CString)
    (content : Option CString) :
    nsWorld.advance ((kernel.opening fd path).holding path content) (.close fd) () =
      kernel.holding path content := by
  have restored := ((Opened.start kernel.table).add free path).close.unchanged
  change { (kernel.opening fd path).holding path content with
    table := Function.update (Function.update kernel.table fd (some path)) fd none } = _
  rw [restored]
  rfl

end NsKernel

section Specifications

variable {kernel : NsKernel} {path : CString}

theorem quiet_log (line : CString) : nsWorld.Quiet (Creating.sys (.aloge line)) :=
  quiet_call fun _ _ => rfl

theorem ensures_fails {Result : Type} (line : CString) {result : Result}
    {post : Result → NsKernel → Prop} (holds : post result kernel) :
    nsWorld.Ensures post (Creating.fails line result) kernel := by
  apply ensures_seq (quiet_log line kernel)
  rintro _ after rfl
  exact ensures_pure holds

/-- The file is gone, or it could not be removed. -/
theorem ensures_remove (content : CString) :
    nsWorld.Ensures
      (fun _ after => ∃ remains, (remains = none ∨ remains = some content) ∧
        after = kernel.holding path remains)
      (Creating.removeFile path) (kernel.holding path (some content)) := by
  apply ensures_call_bind
  intro answer _
  cases answer with
  | error error => exact ensures_fails _ ⟨some content, .inr rfl, rfl⟩
  | ok _ => exact ensures_pure ⟨none, .inl rfl, kernel.holding_again path (some content) none⟩

/-! ## The pid file -/

/-- The front of the pid, or no file. -/
def Part (pid : Int32) (content : Option CString) : Prop :=
  content = none ∨ ∃ count, content = some ((decimal pid.toInt).take count)

/-- The loop behind some rounds, with the file open. -/
inductive LoopLeft (pid : Int32) (path : CString) (kernel : NsKernel) :
    Option Bool → NsKernel → Prop
  | writing (count : Nat) :
      LoopLeft pid path kernel none
        (kernel.holding path (some ((decimal pid.toInt).take count)))
  | failed {content : Option CString} (part : Part pid content) :
      LoopLeft pid path kernel (some false) (kernel.holding path content)
  | written :
      LoopLeft pid path kernel (some true) (kernel.holding path (some (decimal pid.toInt)))

theorem write_part {fd : Int} (opened : kernel.table fd = some path) (pid : Int32)
    (toPrint remaining count : Nat) :
    nsWorld.advance (kernel.holding path (some ((decimal pid.toInt).take toPrint)))
        (.write fd (((pidString pid).drop toPrint).take remaining)) (.accepted count) =
      kernel.holding path (some ((decimal pid.toInt).take (toPrint +
        min (taken (((pidString pid).drop toPrint).take remaining).length count) remaining))) := by
  refine (kernel.write_holding opened _ _).trans ?_
  rw [pid_string_eq, List.take_take, ← List.take_add]

/-- Only a call that takes the whole pid ends the loop, and only the first that takes any can. -/
theorem ensures_write_loop {fd : Int} (opened : kernel.table fd = some path) (pid : Int32)
    (rounds : Nat) {toPrint remaining : Nat} (all : toPrint + remaining = printed pid) :
    nsWorld.Ensures (LoopLeft pid path kernel)
      (Creating.writeLoop fd path (pidString pid) (printed pid) rounds toPrint remaining)
      (kernel.holding path (some ((decimal pid.toInt).take toPrint))) := by
  induction rounds generalizing toPrint remaining with
  | zero => exact ensures_pure (.writing toPrint)
  | succ rounds ih =>
      apply ensures_call_bind
      intro answer _
      cases answer with
      | interrupted => exact ih all
      | failed error =>
          apply ensures_seq (quiet_log _ _)
          rintro _ after rfl
          apply ensures_seq (ensures_remove _)
          rintro _ after ⟨remains, gone | kept, rfl⟩
          · exact ensures_pure (.failed (.inl gone))
          · exact ensures_pure (.failed (.inr ⟨toPrint, kept⟩))
      | accepted count =>
          have request : (((pidString pid).drop toPrint).take remaining).length = remaining := by
            have length : (decimal pid.toInt).length = printed pid := rfl
            rw [pid_string_eq, List.length_take, List.length_drop, length]
            omega
          have bounded : taken remaining count ≤ remaining := Nat.min_le_left _ _
          rw [write_part opened pid toPrint remaining count]
          dsimp only
          rw [request, Nat.min_eq_left bounded]
          by_cases short : taken remaining count < printed pid
          · rw [if_pos short]
            exact ih (by omega)
          · rw [if_neg short]
            have whole : toPrint + taken remaining count = (decimal pid.toInt).length := by
              change _ = printed pid
              omega
            rw [whole, List.take_length]
            exact ensures_pure .written

/-- `writeNamespacePid`, for the path of the pid file. -/
inductive PidLeft (pid : Int32) (path : CString) (kernel : NsKernel) :
    Option Bool → NsKernel → Prop
  | unopened : PidLeft pid path kernel (some false) kernel
  | failed {content : Option CString} (part : Part pid content) :
      PidLeft pid path kernel (some false) (kernel.holding path content)
  | written :
      PidLeft pid path kernel (some true) (kernel.holding path (some (decimal pid.toInt)))
  | writing (fd : Int) (free : kernel.table fd = none) (count : Nat) :
      PidLeft pid path kernel none
        ((kernel.opening fd path).holding path (some ((decimal pid.toInt).take count)))

theorem ensures_write_pid (rounds : Nat) (path : CString) (pid : Int32) :
    nsWorld.Ensures (PidLeft pid path kernel) (Creating.writePidFile rounds path pid) kernel := by
  apply ensures_call_bind
  intro answer free
  cases answer with
  | error error => exact ensures_fails _ .unopened
  | ok fd =>
      have opened : (kernel.opening fd path).table fd = some path := Function.update_self _ _ _
      apply ensures_seq (ensures_write_loop opened pid rounds (Nat.zero_add _))
      intro left after loop
      cases loop with
      | writing count => exact ensures_pure (.writing fd free count)
      | failed part =>
          apply ensures_call_bind
          rintro ⟨⟩ _
          rw [kernel.close_holding free]
          exact ensures_pure (.failed part)
      | written =>
          apply ensures_call_bind
          rintro ⟨⟩ _
          rw [kernel.close_holding free]
          exact ensures_pure .written

/-! ## Binding the namespace -/

/-- The state is the one behind `unshare`. -/
inductive Bound (path : CString) (before : NsKernel) : Bool → NsKernel → Prop
  | unopened : Bound path before false before.unshared
  | failed {content : Option CString}
      (remains : content = none ∨ content = some ((before.files path).getD [])) :
      Bound path before false (before.unshared.holding path content)
  | bound : Bound path before true (before.binding path)

theorem ensures_bind_namespace (path : CString) (before : NsKernel) :
    nsWorld.Ensures (Bound path before) (Creating.bindNamespace path) before.unshared := by
  apply ensures_call_bind
  intro answer free
  cases answer with
  | error error => exact ensures_fails _ .unopened
  | ok fd =>
      apply ensures_call_bind
      rintro ⟨⟩ _
      have closed : nsWorld.advance (nsWorld.advance before.unshared (.openFile path .create)
          (.ok fd)) (.close fd) () =
            before.unshared.holding path (some ((before.files path).getD [])) :=
        before.unshared.close_holding free path _
      rw [closed]
      apply ensures_call_bind
      intro answer _
      cases answer with
      | ok _ => exact ensures_pure .bound
      | error error =>
          apply ensures_seq (quiet_log _ _)
          rintro _ after rfl
          apply ensures_seq (ensures_remove _)
          rintro _ after ⟨remains, left, rfl⟩
          exact ensures_pure (.failed left)

end Specifications

/-! ## The program -/

/-- What each way through the program leaves. The property says that the namespace is ready only
when the namespace is bound to its path and the whole pid is in its file. -/
inductive CreateRan (pid : Int32) (argv : List CString) (before : NsKernel) :
    Creating.CreateEnd → NsKernel → Prop
  /-- Wrong arguments, or no new namespace. -/
  | untouched : CreateRan pid argv before (.returned 1) before
  | unshared : CreateRan pid argv before (.returned 1) before.unshared
  | unbound {program name : CString} {content : Option CString} (given : argv = [program, name])
      (remains : content = none ∨
        content = some ((before.files (getNamespacePath name)).getD [])) :
      CreateRan pid argv before (.returned 1)
        (before.unshared.holding (getNamespacePath name) content)
  /-- The namespace stays bound. -/
  | withoutPid {program name : CString} (given : argv = [program, name]) :
      CreateRan pid argv before (.returned 1) (before.binding (getNamespacePath name))
  | unwritten {program name : CString} {content : Option CString}
      (given : argv = [program, name]) (part : Part pid content) :
      CreateRan pid argv before (.returned 1)
        ((before.binding (getNamespacePath name)).holding (pidPath name) content)
  | writing {program name : CString} (given : argv = [program, name]) (fd : Int)
      (free : before.table fd = none) (count : Nat) :
      CreateRan pid argv before .writing
        (((before.binding (getNamespacePath name)).opening fd (pidPath name)).holding
          (pidPath name) (some ((decimal pid.toInt).take count)))
  | paused {program name : CString} (given : argv = [program, name]) :
      CreateRan pid argv before .paused
        ((before.binding (getNamespacePath name)).holding (pidPath name)
          (some (decimal pid.toInt))).announcing

theorem ensures_create_namespace (rounds : Nat) (program name : CString) (pid : Int32)
    (before : NsKernel) :
    nsWorld.Ensures (CreateRan pid [program, name] before)
      (Creating.createNamespace rounds name pid) before.unshared := by
  unfold Creating.createNamespace
  by_cases empty : getNamespacePath name = []
  · rw [if_pos empty]
    exact ensures_pure .unshared
  rw [if_neg empty]
  have path : pidPath name ≠ [] := by
    unfold pidPath
    rw [if_neg empty]
    exact List.append_ne_nil_of_left_ne_nil empty _
  apply ensures_seq (ensures_bind_namespace (getNamespacePath name) before)
  intro done after tried
  cases tried with
  | unopened => exact ensures_pure .unshared
  | failed remains => exact ensures_pure (.unbound rfl remains)
  | bound =>
      have pidWritten : nsWorld.Ensures
          (PidLeft pid (pidPath name) (before.binding (getNamespacePath name)))
          (Creating.writePidOf rounds name pid) (before.binding (getNamespacePath name)) := by
        unfold Creating.writePidOf
        rw [if_neg path]
        exact ensures_write_pid rounds (pidPath name) pid
      apply ensures_seq pidWritten
      intro written after left
      cases left with
      | unopened => exact ensures_pure (.withoutPid rfl)
      | failed part => exact ensures_pure (.unwritten rfl part)
      | written => exact ensures_call_bind fun _ _ => ensures_pure (.paused rfl)
      | writing fd free count =>
          have unused : before.table fd = none := free
          exact ensures_pure (.writing rfl fd unused count)

theorem ensures_create_main (rounds : Nat) (pid : Int32) (argv : List CString)
    (before : NsKernel) :
    nsWorld.Ensures (CreateRan pid argv before) (Creating.main rounds pid argv) before := by
  match argv with
  | [] => exact ensures_fails _ .untouched
  | [program] => exact ensures_fails _ .untouched
  | program :: name :: other :: rest => exact ensures_fails _ .untouched
  | [program, name] =>
      apply ensures_call_bind
      intro answer _
      cases answer with
      | error error => exact ensures_fails _ .untouched
      | ok _ => exact ensures_create_namespace rounds program name pid before

/-- In every run, whatever the kernel answers. -/
theorem createns_main (rounds : Nat) (pid : Int32) (argv : List CString) (before : NsKernel)
    (events : List (Program.Event CreateCall CreateCall.Answer)) (ended : Creating.CreateEnd)
    (ran : Program.Runs (Creating.main rounds pid argv) events ended)
    (allowed : nsWorld.Allowed before events) :
    CreateRan pid argv before ended (nsWorld.after before events) :=
  ensures_runs (ensures_create_main rounds pid argv before) ran allowed

def lowestFree (kernel : NsKernel) : Option Nat :=
  (List.range 8).find? fun fd : Nat => (kernel.table fd).isNone

/-- The first call of `write` takes all that it is given. -/
def willingAnswers (kernel : NsKernel) : (call : CreateCall) → call.Answer
  | .unshare => .ok ()
  | .openFile _ _ =>
      match lowestFree kernel with
      | some fd => .ok fd
      | none => .error (ascii "Too many open files")
  | .close _ => ()
  | .mount _ _ => .ok ()
  | .write _ bytes => .accepted bytes.length
  | .unlink _ => .ok ()
  | .propertySet _ _ => ()
  | .aloge _ => ()

theorem willing_answers_allowed (kernel : NsKernel) (call : CreateCall) :
    nsWorld.allowed kernel call (willingAnswers kernel call) := by
  cases call with
  | openFile path mode =>
      change kernel.allowed (.openFile path mode) (willingAnswers kernel (.openFile path mode))
      unfold willingAnswers
      dsimp only
      cases found : lowestFree kernel with
      | none => trivial
      | some fd => exact Option.isNone_iff_eq_none.mp (List.find?_eq_some_iff_append.mp found).1
  | _ => trivial

/-- Nothing is there, and the standard streams are open. -/
def bootKernel : NsKernel where
  table := fun fd => if fd < 3 then some (ascii "/dev/null") else none
  files := fun _ => none
  bound := fun _ => none
  home := 0
  properties := []

def createRouter : List CString := [ascii "createns", ascii "router"]

/-- Process 1234 creates a namespace, and waits. -/
theorem createns_main_router :
    ∃ events, Program.Runs (Creating.main 2 1234 createRouter) events .paused ∧
      CreateRan 1234 createRouter bootKernel .paused (nsWorld.after bootKernel events) ∧
      (nsWorld.after bootKernel events).files (ascii "/data/vendor/var/run/netns/router.pid") =
        some (ascii "1234") := by
  rcases follow_runs willing_answers_allowed (Creating.main 2 1234 createRouter) bootKernel with
    ⟨ran, allowed⟩
  have ended : (nsWorld.follow willingAnswers (Creating.main 2 1234 createRouter)
      bootKernel).2 = .paused := by
    decide +kernel
  have written : (nsWorld.after bootKernel (nsWorld.follow willingAnswers
      (Creating.main 2 1234 createRouter) bootKernel).1).files
        (ascii "/data/vendor/var/run/netns/router.pid") = some (ascii "1234") := by
    decide +kernel
  rw [ended] at ran
  exact ⟨_, ran, createns_main 2 1234 createRouter bootKernel _ _ ran allowed, written⟩

end RedroidExt.Netns
