import RedroidExt.Netns.Handoff
import RedroidExt.Netns.Privileges
import RedroidExt.Netns.RouterNamespace

/-!
# Commands in a namespace that is being created

The services of the router run under `execns`, which finds the process of `createns` by
its pid file. Nothing keeps the two apart, so a service may read the file at any moment of
a run of `createns`.
-/

namespace RedroidExt.Netns

open RedroidExt.Library RedroidExt.Library.World

set_option autoImplicit false

/-- What the calls find in files is what the paths lead to at that moment. A file that cannot be
opened or read is not restricted. -/
def ReadsAt (kernel : NsKernel) (calls : List ExecnsEvent) : Prop :=
  ∀ path read, (⟨.fopen path, some read⟩ : ExecnsEvent) ∈ calls → read.failed = false →
    kernel.files path = some read.bytes

/-- The calls that enter the namespace of the process with the pid. -/
def entersProcess (pid : CString) (fd : Nat) : List ExecnsEvent :=
  [⟨.openReadOnly (ascii "/proc/" ++ pid ++ ascii "/ns/net"), some fd⟩,
    ⟨.setns fd cloneNewnet, true⟩]

/-- What a command has when it is executed: the namespace is made and bound to its path, and the one
that was entered is that of the process whose pid the file held, a front of the right one. -/
structure EntersCreated (pid : Int32) (name : CString) (before kernel : NsKernel)
    (calls : List ExecnsEvent) : Prop where
  entered : ∃ count fd, (decimal pid.toInt).take count ≠ [] ∧
    kernel.files (pidPath name) = some ((decimal pid.toInt).take count) ∧
    List.IsInfix (entersProcess ((decimal pid.toInt).take count) fd) calls
  home : kernel.home = before.home + 1
  bound : kernel.bound (getNamespacePath name) = some (before.home + 1)
  announced : kernel.properties ≠ before.properties →
    ∃ fd, List.IsInfix (entersProcess (decimal pid.toInt) fd) calls

section Runs

variable {pid : Int32} {name : CString} {before kernel : NsKernel} {calls : List ExecnsEvent}

/-- The pid file is written last. -/
theorem made_of_phase (absent : before.files (pidPath name) = none)
    (phase : CreatePhase pid name before kernel)
    (present : kernel.files (pidPath name) ≠ none) :
    kernel.home = before.home + 1 ∧
      kernel.bound (getNamespacePath name) = some (before.home + 1) := by
  have apart : getNamespacePath name ≠ [] → ∀ content,
      Function.update before.files (getNamespacePath name) content (pidPath name) = none :=
    fun named content => (Function.update_of_ne (pid_path_ne named) _ _).trans absent
  cases phase with
  | started => exact absurd absent present
  | unshared => exact absurd absent present
  | opening named fd content => exact absurd (apart named content) present
  | holding named content => exact absurd (apart named content) present
  | bound named => exact absurd (apart named _) present
  | writing fd part => exact ⟨rfl, Function.update_self _ _ _⟩
  | written part => exact ⟨rfl, Function.update_self _ _ _⟩
  | announced => exact ⟨rfl, Function.update_self _ _ _⟩

/-- The namespace does not depend on how the command line is read. -/
theorem same_namespace {first second : CommandLine} (same : first.argv = second.argv) :
    first.ns = second.ns := by
  rcases Execns.parse_of_line first with ⟨nsArg, parsed, found, -⟩
  rcases Execns.parse_of_line second with ⟨otherArg, otherParsed, otherFound, -⟩
  rw [same] at parsed found
  rw [parsed] at otherParsed
  rcases Execns.Parameters.mk.inj (Execns.ParseEnd.parsed.inj otherParsed) with ⟨-, place, -⟩
  rw [← found, ← otherFound, Option.some.inj place]

/-- A command is only executed behind the calls that enter the namespace. -/
theorem executed_enters {strerror : Errno → CString} {line : CommandLine} {status : Nat}
    (ran : Program.Runs (Execns.main strerror line.argv) calls status)
    (executed : executions calls ≠ []) :
    ∃ entering, EntersNamespace line.ns entering ∧ List.IsInfix entering calls := by
  cases Execns.main_runs ran with
  | refused quiet cause => exact absurd quiet executed
  | @executed own same front report prepared succeeded status quiet failed =>
      cases prepared with
      | @intro isTerminal entering groupCalls userCalls enters group user =>
          rw [same_namespace same] at enters
          refine ⟨entering, enters, [⟨.isatty, isTerminal⟩],
            groupCalls ++ userCalls ++ ⟨.execvp own.command (own.command :: own.arguments),
              succeeded⟩ :: report, ?_⟩
          simp only [List.append_assoc, List.cons_append, List.nil_append]

/-- The pid that is found in the file is the whole content of the file. -/
theorem pid_found (positive : 0 < pid.toInt) {read : FileRead} {found : CString}
    (number : pidOfFile read = found) (some : found ≠ [])
    (content : read.failed = false → Part pid (.some read.bytes)) :
    read.failed = false ∧ read.bytes = found ∧ ∃ count, found = (decimal pid.toInt).take count := by
  rcases read with ⟨bytes, failed⟩
  cases failed with
  | true => exact absurd (number.symm.trans (pid_of_failed bytes)) some
  | false =>
      rcases content rfl with none | ⟨count, front⟩
      · exact nomatch none
      · have part : bytes = (decimal pid.toInt).take count := Option.some.inj front
        have digits : ∀ character ∈ bytes, isdigit character = true := by
          intro character member
          rw [part] at member
          exact decimal_digits (Int.le_of_lt positive) character (List.mem_of_mem_take member)
        have short : bytes.length < pidBufferSize := by
          have whole := decimal_short pid
          rw [part, List.length_take]
          omega
        have same : bytes = found := (pid_of_digits digits short).symm.trans number
        exact ⟨rfl, same, count, same.symm.trans part⟩

/-- A command that `execns` executes, whatever the moment of a run of `createns` at which it reads
the pid file, has entered the namespace of the process whose pid is a front of the right one, and
the right one if the namespace was announced. -/
theorem enters_created (rounds : Nat) (pid : Int32) (positive : 0 < pid.toInt)
    (program name : CString) (named : getNamespacePath name ≠ [])
    (fits : (pidPath name).length < pathMax) (before : NsKernel)
    (absent : before.files (pidPath name) = none)
    (events : List (Program.Event CreateCall CreateCall.Answer)) (ended : Creating.CreateEnd)
    (ran : Program.Runs (Creating.main rounds pid [program, name]) events ended)
    (allowed : nsWorld.Allowed before events) (moment : Nat) (strerror : Errno → CString)
    (line : CommandLine) (same : line.ns = name) (calls : List ExecnsEvent) (status : Nat)
    (executes : Program.Runs (Execns.main strerror line.argv) calls status)
    (reads : ReadsAt (nsWorld.after before (events.take moment)) calls)
    (executed : executions calls ≠ []) :
    EntersCreated pid name before (nsWorld.after before (events.take moment)) calls := by
  have phase := always_moments (always_create_main rounds pid program name before) ran allowed
    moment
  generalize nsWorld.after before (events.take moment) = kernel at reads phase
  have there := moment_of_phase absent phase
  rcases executed_enters executes executed with ⟨entering, enters, inside⟩
  rw [same] at enters
  cases enters with
  | @intro read found fd file number digits =>
      have opened : read.failed = false → kernel.files (pidPath name) = some read.bytes := by
        intro complete
        rw [← namespace_pid_path_eq named fits]
        exact reads _ read (inside.subset List.mem_cons_self) complete
      rcases pid_found positive file number (fun complete => opened complete ▸ there.file) with
        ⟨complete, bytes, count, front⟩
      have content := opened complete
      rw [bytes] at content
      have calledInside : List.IsInfix (entersProcess found fd) calls := by
        refine List.IsInfix.trans ?_ inside
        exact ⟨[⟨.fopen (namespacePidPath name), some read⟩], [⟨.close fd, ()⟩], rfl⟩
      have present : kernel.files (pidPath name) ≠ none := by
        rw [content]
        exact Option.some_ne_none _
      rcases made_of_phase absent phase present with ⟨home, bound⟩
      refine ⟨⟨count, fd, front ▸ number, front ▸ content, front ▸ calledInside⟩, home, bound, ?_⟩
      intro announced
      have whole := (there.announced announced).file
      rw [content] at whole
      exact ⟨fd, Option.some.inj whole ▸ calledInside⟩

/-! ## A service that comes too early -/

/-- As `willingAnswers`, but a call of `write` takes two bytes. -/
def haltingAnswers (kernel : NsKernel) : (call : CreateCall) → call.Answer
  | .write _ _ => .accepted 2
  | call => willingAnswers kernel call

theorem halting_answers_allowed (kernel : NsKernel) (call : CreateCall) :
    nsWorld.allowed kernel call (haltingAnswers kernel call) := by
  cases call with
  | write fd bytes => trivial
  | _ => exact willing_answers_allowed kernel _

/-- Every call succeeds; the pid file holds the first two digits. -/
def earlySystem : (call : SystemCall) → call.Answer
  | .fopen _ => some { bytes := ascii "12", failed := false }
  | call => Execns.willingSystem call

theorem router_no_option (identity : Identity) : ascii "router" ≠ identity.option := by
  cases identity with
  | user => decide +kernel
  | group => decide +kernel

def proxyLine : CommandLine where
  program := ascii "execns"
  options := []
  ns := ascii "router"
  command := ascii "ipv6proxy"
  arguments := []
  once := List.nodup_nil
  noOption := router_no_option

def haltedEvents : List (Program.Event CreateCall CreateCall.Answer) :=
  (nsWorld.follow haltingAnswers (Creating.main 2 1234 createRouter) bootKernel).1

def earlyCalls : List ExecnsEvent :=
  ((Execns.main (fun _ => []) proxyLine.argv).runWith earlySystem).1

theorem early_calls_eq :
    earlyCalls =
      [⟨.isatty, true⟩, ⟨.fopen (namespacePidPath (ascii "router")), some ⟨ascii "12", false⟩⟩] ++
        entersProcess (ascii "12") 3 ++
          [⟨.close 3, ()⟩, ⟨.execvp (ascii "ipv6proxy") [ascii "ipv6proxy"], true⟩] := by
  rfl

/-- Behind the first call of `write`. -/
theorem early_calls_read : ReadsAt (nsWorld.after bootKernel (haltedEvents.take 6)) earlyCalls := by
  have content : (nsWorld.after bootKernel (haltedEvents.take 6)).files
      (namespacePidPath (ascii "router")) = some (ascii "12") := by
    decide +kernel
  intro path read member complete
  rw [early_calls_eq] at member
  have only : path = namespacePidPath (ascii "router") ∧ read = ⟨ascii "12", false⟩ := by
    simpa [entersProcess] using member
  rw [only.1, only.2]
  exact content

/-- The command is executed in the namespace of process 12 instead of 1234. -/
theorem enters_created_early :
    EntersCreated 1234 (ascii "router") bootKernel
        (nsWorld.after bootKernel (haltedEvents.take 6)) earlyCalls ∧
      List.IsInfix (entersProcess (ascii "12") 3) earlyCalls := by
  rcases follow_runs halting_answers_allowed (Creating.main 2 1234 createRouter) bootKernel with
    ⟨ran, allowed⟩
  have fits : (pidPath (ascii "router")).length < pathMax := by decide +kernel
  have executes := Program.runs_with earlySystem (Execns.main (fun _ => []) proxyLine.argv)
  have executed : executions earlyCalls ≠ [] := by
    rw [early_calls_eq]
    exact List.cons_ne_nil _ _
  constructor
  · exact enters_created 2 1234 (by decide) _ (ascii "router") (by decide +kernel) fits
      bootKernel rfl _ _ ran allowed 6 _ proxyLine rfl _ _ executes early_calls_read executed
  · rw [early_calls_eq]
    exact List.infix_append _ _ _

end Runs

end RedroidExt.Netns
