import RedroidExt.Netns.ExecnsMain
import Mathlib.Data.List.GetD
import Mathlib.Data.List.Nodup

/-!
# What has happened before the command runs

In front of `execvp` a run has entered the namespace and then changed the group and
the user that are given, in this order. Every other run ends with a nonzero status.
-/

namespace RedroidExt.Netns

open RedroidExt.Library RedroidExt.Library.Program

set_option autoImplicit false

/-! ## Command lines -/

/-- A command line as the usage text has it. -/
structure CommandLine where
  program : CString
  options : List (Identity × CString)
  ns : CString
  command : CString
  arguments : List CString
  once : (options.map Prod.fst).Nodup
  noOption : ∀ identity : Identity, ns ≠ identity.option

namespace CommandLine

def optionWords (options : List (Identity × CString)) : List CString :=
  options.flatMap fun option => [option.1.option, option.2]

def argv (line : CommandLine) : List CString :=
  line.program :: (optionWords line.options ++ line.ns :: line.command :: line.arguments)

/-- The user or the group that is given. -/
def given (line : CommandLine) (identity : Identity) : Option CString :=
  line.options.lookup identity

end CommandLine

namespace Execns

theorem option_of_option (identity : Identity) : optionOf identity.option = some identity := by
  cases identity with
  | user => decide +kernel
  | group => decide +kernel

theorem option_of_some {argument : CString} {identity : Identity}
    (option : optionOf argument = some identity) : argument = identity.option := by
  unfold optionOf at option
  split_ifs at option with user group
  · cases option
    exact user
  · cases option
    exact group

theorem option_of_none {argument : CString} :
    optionOf argument = none ↔ ∀ identity : Identity, argument ≠ identity.option := by
  constructor
  · intro none identity same
    rw [same, option_of_option] at none
    cases none
  · intro other
    cases option : optionOf argument with
    | none => rfl
    | some identity => exact absurd (option_of_some option) (other identity)

/-! ## The loop over the options -/

section Parse

variable {argv rest : List CString} {loop next : OptionLoop}
variable {options : List (Identity × CString)} {identity : Identity} {argument value : CString}

theorem drop_of_lt {index : Nat} (bounded : index < argv.length) :
    argv.drop index = argv.getD index [] :: argv.drop (index + 1) := by
  rw [List.drop_eq_getElem_cons bounded, List.getD_eq_getElem _ _ bounded]

theorem lt_of_drop {index : Nat} (here : argv.drop index = argument :: rest) :
    index < argv.length ∧ argv.getD index [] = argument ∧ argv.drop (index + 1) = rest := by
  have bounded : index < argv.length := by
    by_contra beyond
    rw [List.drop_eq_nil_of_le (Nat.le_of_not_lt beyond)] at here
    cases here
  rw [drop_of_lt bounded] at here
  exact ⟨bounded, List.cons.inj here⟩

/-- What a round comes to. -/
inductive ParseStep (argv : List CString) (loop : OptionLoop) : OptionLoop ⊕ ParseEnd → Prop
  | option {identity : Identity} {value : CString} {rest : List CString}
      (here : argv.drop loop.i = identity.option :: value :: rest)
      (first : loop.given identity = none) :
      ParseStep argv loop (.inl
        { i := loop.i + 2, given := Function.update loop.given identity (some value) })
  | missing (identity : Identity) : ParseStep argv loop (.inr (.missing identity))
  | command {ns command : CString} {arguments : List CString}
      (here : argv.drop loop.i = ns :: command :: arguments)
      (noOption : ∀ identity : Identity, ns ≠ identity.option) :
      ParseStep argv loop (.inr (.parsed
        { given := loop.given, nsArg := some loop.i, execArg := some (loop.i + 1) }))
  | incomplete (nsArg : Option Nat) : ParseStep argv loop (.inr (.parsed
      { given := loop.given, nsArg := nsArg, execArg := none }))

theorem parse_step (argv : List CString) (loop : OptionLoop) :
    ParseStep argv loop (parseRound argv loop) := by
  unfold parseRound
  by_cases inside : loop.i < argv.length
  · rw [if_pos inside]
    have here := drop_of_lt inside
    cases option : optionOf (argv.getD loop.i []) with
    | some identity =>
        dsimp only
        by_cases wrong : (loop.given identity).isSome ∨ loop.i + 1 ≥ argv.length
        · rw [if_pos wrong]
          exact .missing identity
        · rw [if_neg wrong]
          obtain ⟨first, room⟩ := not_or.mp wrong
          rw [option_of_some option, drop_of_lt (Nat.lt_of_not_le room)] at here
          exact .option here (Option.not_isSome_iff_eq_none.mp first)
    | none =>
        dsimp only
        by_cases room : loop.i + 1 < argv.length
        · rw [if_pos room]
          rw [drop_of_lt room] at here
          exact .command here (option_of_none.mp option)
        · rw [if_neg room]
          exact .incomplete (some loop.i)
  · rw [if_neg inside]
    exact .incomplete none

theorem parse_round_option (here : argv.drop loop.i = identity.option :: value :: rest)
    (first : loop.given identity = none) :
    parseRound argv loop =
      .inl { i := loop.i + 2, given := Function.update loop.given identity (some value) } := by
  obtain ⟨inside, argument, later⟩ := lt_of_drop here
  obtain ⟨room, found, -⟩ := lt_of_drop later
  have right : ¬ ((loop.given identity).isSome ∨ loop.i + 1 ≥ argv.length) := by
    rw [first]
    simp [room]
  unfold parseRound
  rw [if_pos inside, argument, option_of_option, found]
  dsimp only
  rw [if_neg right]

theorem parse_round_command {ns command : CString} {arguments : List CString}
    (here : argv.drop loop.i = ns :: command :: arguments)
    (noOption : ∀ identity : Identity, ns ≠ identity.option) :
    parseRound argv loop = .inr (.parsed
      { given := loop.given, nsArg := some loop.i, execArg := some (loop.i + 1) }) := by
  obtain ⟨inside, argument, later⟩ := lt_of_drop here
  obtain ⟨room, -, -⟩ := lt_of_drop later
  unfold parseRound
  rw [if_pos inside, argument, option_of_none.mpr noOption]
  dsimp only
  rw [if_pos room]

/-- The options in front of `loop.i` are all read. -/
structure OptionsRead (argv : List CString) (options : List (Identity × CString))
    (loop : OptionLoop) : Prop where
  read : argv.drop 1 = CommandLine.optionWords options ++ argv.drop loop.i
  once : (options.map Prod.fst).Nodup
  given : loop.given = fun identity => options.lookup identity

theorem options_read_start (argv : List CString) : OptionsRead argv [] startParsing where
  read := rfl
  once := List.nodup_nil
  given := rfl

theorem options_read_step (before : OptionsRead argv options loop)
    (here : argv.drop loop.i = identity.option :: value :: rest)
    (first : loop.given identity = none) :
    OptionsRead argv (options ++ [(identity, value)])
      { i := loop.i + 2, given := Function.update loop.given identity (some value) } := by
  obtain ⟨-, -, later⟩ := lt_of_drop here
  obtain ⟨-, -, behind⟩ := lt_of_drop later
  rw [before.given] at first ⊢
  constructor
  · rw [before.read, here, behind]
    simp [CommandLine.optionWords]
  · rw [List.map_append]
    refine List.Nodup.append before.once (List.nodup_singleton identity) ?_
    rw [List.map_singleton, List.disjoint_singleton]
    intro earlier
    obtain ⟨option, member, same⟩ := List.mem_map.mp earlier
    have other := List.lookup_eq_none_iff.mp first option member
    rw [same, bne_self_eq_false] at other
    cases other
  · funext other
    dsimp only at first ⊢
    rw [List.lookup_append]
    by_cases same : other = identity
    · rw [same, Function.update_self, first, Option.none_or, List.lookup_cons_self]
    · rw [Function.update_of_ne same, List.lookup_cons, beq_eq_false_iff_ne.mpr same]
      exact (Option.or_none).symm

theorem options_read_visited (visited : Loop.Visits (parseRound argv) startParsing loop) :
    ∃ options, OptionsRead argv options loop := by
  refine Loop.visits_invariant (fun loop => ∃ options, OptionsRead argv options loop)
    ⟨[], options_read_start argv⟩ ?_ visited
  intro loop next before again
  obtain ⟨options, before⟩ := before
  have step := parse_step argv loop
  rw [again] at step
  cases step with
  | @option identity value rest here first =>
      exact ⟨options ++ [(identity, value)], options_read_step before here first⟩

theorem parse_returns (argv : List CString) :
    Loop.Returns (parseRound argv) startParsing (parse argv) := by
  have decreases : ∀ loop next : OptionLoop, parseRound argv loop = .inl next →
      argv.length - next.i < argv.length - loop.i := by
    intro loop next again
    have step := parse_step argv loop
    rw [again] at step
    cases step with
    | option here first =>
        obtain ⟨inside, -, -⟩ := lt_of_drop here
        dsimp only
        omega
  have enough : argv.length - startParsing.i < argv.length + 1 := by omega
  obtain ⟨result, finished⟩ := Loop.run_some_of_measure (fun loop => argv.length - loop.i)
    decreases startParsing (argv.length + 1) enough
  unfold parse
  rw [finished]
  exact ⟨argv.length + 1, finished⟩

/-- The parameters with which `main` goes on are those of a command line. -/
theorem line_of_parsed {given : Identity → Option CString} {nsArg execArg : Nat}
    (parsed : parse argv = .parsed
      { given := given, nsArg := some nsArg, execArg := some execArg }) :
    ∃ line : CommandLine, line.argv = argv ∧ given = line.given ∧ argv.getD nsArg [] = line.ns ∧
      argv.drop execArg = line.command :: line.arguments := by
  have returned := parse_returns argv
  rw [parsed] at returned
  obtain ⟨last, visited, left⟩ := Loop.visits_of_returns returned
  obtain ⟨options, before⟩ := options_read_visited visited
  have step := parse_step argv last
  rw [left] at step
  cases step with
  | @command ns command arguments here noOption =>
      obtain ⟨inside, found, later⟩ := lt_of_drop here
      have whole := before.read
      rw [here] at whole
      cases argv with
      | nil => cases inside
      | cons program words =>
          rw [List.drop_one, List.tail_cons] at whole
          exact ⟨⟨program, options, ns, command, arguments, before.once, noOption⟩,
            congrArg (List.cons program) whole.symm, before.given, found, later⟩

/-- From any place among its options on, a command line is parsed. -/
theorem returns_of_options {ns command : CString} {arguments : List CString}
    (noOption : ∀ identity : Identity, ns ≠ identity.option)
    (remaining : List (Identity × CString)) (before : OptionsRead argv options loop)
    (once : ((options ++ remaining).map Prod.fst).Nodup)
    (here : argv.drop loop.i =
      CommandLine.optionWords remaining ++ ns :: command :: arguments) :
    ∃ nsArg, argv.drop nsArg = ns :: command :: arguments ∧
      Loop.Returns (parseRound argv) loop (.parsed
        { given := fun identity => (options ++ remaining).lookup identity
          nsArg := some nsArg
          execArg := some (nsArg + 1) }) := by
  induction remaining generalizing options loop with
  | nil =>
      refine ⟨loop.i, here, Loop.returns_exit ?_⟩
      rw [parse_round_command here noOption, before.given, List.append_nil]
  | cons option remaining ih =>
      have first : loop.given option.1 = none := by
        rw [before.given, List.lookup_eq_none_iff]
        intro earlier member
        rw [List.map_append, List.map_cons] at once
        have apart := List.disjoint_of_nodup_append once (List.mem_map_of_mem member)
        rw [bne_iff_ne]
        intro same
        exact apart (same ▸ List.mem_cons_self)
      have read := options_read_step before here first
      obtain ⟨-, -, later⟩ := lt_of_drop here
      obtain ⟨-, -, behind⟩ := lt_of_drop later
      rw [List.append_cons] at once ⊢
      obtain ⟨nsArg, place, returned⟩ := ih read once behind
      exact ⟨nsArg, place, Loop.returns_next (parse_round_option here first) returned⟩

/-- Every command line is parsed. -/
theorem parse_of_line (line : CommandLine) :
    ∃ nsArg, parse line.argv = .parsed
        { given := line.given, nsArg := some nsArg, execArg := some (nsArg + 1) } ∧
      line.argv.getD nsArg [] = line.ns ∧
      line.argv.drop (nsArg + 1) = line.command :: line.arguments := by
  obtain ⟨nsArg, place, returned⟩ := returns_of_options line.noOption line.options
    (options_read_start line.argv) line.once rfl
  obtain ⟨-, found, later⟩ := lt_of_drop place
  exact ⟨nsArg, Loop.returns_unique (parse_returns line.argv) returned, found, later⟩

end Parse

end Execns

/-! ## Calls of a run -/

def SystemCall.isExecvp : SystemCall → Bool
  | execvp _ _ => true
  | _ => false

/-- The call, or what the program makes of its answer, is a failure. -/
def SystemCall.failed : (call : SystemCall) → call.Answer → Bool
  | fopen _, found => ((found : Option FileRead).elim [] pidOfFile).isEmpty
  | openReadOnly _, fd => (fd : Option Nat).isNone
  | setns _ _, succeeded => !succeeded
  | getnam _ _, id => (id : Option UInt32).isNone
  | setid _ _, succeeded => !succeeded
  | execvp _ _, succeeded => !succeeded
  | _, _ => false

/-- The calls of `execvp`. -/
def executions (events : List ExecnsEvent) : List ExecnsEvent :=
  events.filter fun event => event.1.isExecvp

theorem executions_append (first second : List ExecnsEvent) :
    executions (first ++ second) = executions first ++ executions second :=
  List.filter_append _ _

/-- Nothing is executed, because something fails. -/
structure Refused (events : List ExecnsEvent) : Prop where
  quiet : executions events = []
  failure : ∃ event ∈ events, event.1.failed event.2 = true

/-- The namespace of the process in the pid file is entered. -/
inductive EntersNamespace (ns : CString) : List ExecnsEvent → Prop
  | intro {read : FileRead} {pid : CString} (fd : Nat) (found : pidOfFile read = pid)
      (number : pid ≠ []) (digits : ∀ character ∈ pid, isdigit character = true) :
      EntersNamespace ns
        [⟨.fopen (namespacePidPath ns), some read⟩,
          ⟨.openReadOnly (ascii "/proc/" ++ pid ++ ascii "/ns/net"), some fd⟩,
          ⟨.setns fd cloneNewnet, true⟩,
          ⟨.close fd, ()⟩]

/-- The user or the group is changed to the one that is given. -/
inductive Changes (identity : Identity) : Option CString → List ExecnsEvent → Prop
  | notGiven : Changes identity none []
  | given (name : CString) (id : UInt32) :
      Changes identity (some name) [⟨.getnam identity name, some id⟩, ⟨.setid identity id, true⟩]

/-- What a run has done when it reaches `execvp`: it has entered the namespace, then changed the
group and then the user. -/
inductive Prepared (line : CommandLine) : List ExecnsEvent → Prop
  | intro (isTerminal : Bool) {entering groupCalls userCalls : List ExecnsEvent}
      (enters : EntersNamespace line.ns entering)
      (group : Changes .group (line.given .group) groupCalls)
      (user : Changes .user (line.given .user) userCalls) :
      Prepared line (⟨.isatty, isTerminal⟩ :: (entering ++ groupCalls ++ userCalls))

/-- What a step that may fail comes to. -/
inductive Attempt (done : List ExecnsEvent → Prop) : Bool → List ExecnsEvent → Prop
  | succeeded {events : List ExecnsEvent} (does : done events) : Attempt done true events
  | refused {events : List ExecnsEvent} (refused : Refused events) : Attempt done false events

theorem refused_append_left (first : List ExecnsEvent) {second : List ExecnsEvent}
    (quiet : executions first = []) (refused : Refused second) : Refused (first ++ second) where
  quiet := by
    rw [executions_append, quiet, refused.quiet]
    rfl
  failure := by
    obtain ⟨event, member, fails⟩ := refused.failure
    exact ⟨event, List.mem_append_right _ member, fails⟩

namespace Execns

section Runs

variable {strerror : Errno → CString} {isTerminal : Bool} {events : List ExecnsEvent}

/-! ## What the functions do -/

theorem runs_loge {Result : Type} {line : CString} {value result : Result}
    (ran : Runs (do loge isTerminal line; return value : Execns Result) events result) :
    executions events = [] ∧ result = value := by
  obtain ⟨answer, later, split, returned⟩ := runs_call_bind ran
  obtain ⟨ended, same⟩ := runs_pure returned
  rw [split, ended]
  exact ⟨rfl, same⟩

theorem runs_report {Result : Type} {line : Errno → CString} {value result : Result}
    (ran : Runs (do let error ← sys .errno; loge isTerminal (line error); return value :
      Execns Result) events result) : executions events = [] ∧ result = value := by
  obtain ⟨error, later, split, logged⟩ := runs_call_bind ran
  obtain ⟨quiet, same⟩ := runs_loge logged
  rw [split]
  exact ⟨quiet, same⟩

/-- Behind a failed call nothing is executed. -/
theorem refused_of_failed {call : SystemCall} {answer : call.Answer}
    (failed : call.failed answer = true) (harmless : call.isExecvp = false)
    {later : List ExecnsEvent} (quiet : executions later = []) :
    Refused (⟨call, answer⟩ :: later) where
  quiet := by
    unfold executions at quiet ⊢
    rw [List.filter_cons, harmless, quiet]
    rfl
  failure := ⟨_, List.mem_cons_self, failed⟩

theorem read_namespace_pid_runs {ns pid : CString}
    (ran : Runs (readNamespacePid strerror isTerminal ns) events pid) :
    (pid = [] ∧ Refused events) ∨
      (pid ≠ [] ∧ ∃ read, pidOfFile read = pid ∧
        events = [⟨.fopen (namespacePidPath ns), some read⟩]) := by
  unfold readNamespacePid at ran
  obtain ⟨found, later, split, rest⟩ := runs_call_bind ran
  rw [split]
  cases found with
  | none =>
      obtain ⟨quiet, returned⟩ := runs_report rest
      exact .inl ⟨returned, refused_of_failed rfl rfl quiet⟩
  | some read =>
      have outcome : executions later = [] ∧ (pid = pidOfFile read ∧ (pid = [] ∨ later = [])) := by
        unfold pidOfFile
        dsimp only at rest ⊢
        split_ifs at rest ⊢ with ended numeric failed
        · obtain ⟨none, returned⟩ := runs_pure rest
          rw [none]
          exact ⟨rfl, returned, .inr rfl⟩
        · obtain ⟨quiet, returned⟩ := runs_loge rest
          exact ⟨quiet, returned, .inl returned⟩
        · obtain ⟨quiet, returned⟩ := runs_report rest
          exact ⟨quiet, returned, .inl returned⟩
        · obtain ⟨quiet, returned⟩ := runs_loge rest
          exact ⟨quiet, returned, .inl returned⟩
      obtain ⟨quiet, same, returned⟩ := outcome
      by_cases number : pid = []
      · refine .inl ⟨number, refused_of_failed ?_ rfl quiet⟩
        change (pidOfFile read).isEmpty = true
        rw [← same, number]
        rfl
      · have none : later = [] := returned.resolve_left number
        rw [none]
        exact .inr ⟨number, read, same.symm, rfl⟩

theorem net_path_eq {pid : CString} (short : pid.length < pidBufferSize) :
    netPath pid = ascii "/proc/" ++ pid ++ ascii "/ns/net" := by
  have front : (ascii "/proc/").length = 6 := by decide +kernel
  have back : (ascii "/ns/net").length = 7 := by decide +kernel
  unfold netPath snprintf pathMax
  unfold pidBufferSize at short
  apply List.take_of_length_le
  rw [List.length_append, List.length_append, front, back]
  omega

theorem set_network_namespace_runs {ns : CString} {entered : Bool}
    (ran : Runs (setNetworkNamespace strerror isTerminal ns) events entered) :
    Attempt (EntersNamespace ns) entered events := by
  unfold setNetworkNamespace at ran
  obtain ⟨reading, entering, pid, split, read, rest⟩ := runs_bind ran
  rw [split]
  rcases read_namespace_pid_runs read with ⟨none, refused⟩ | ⟨number, file, found, fopen⟩
  · rw [if_pos none] at rest
    obtain ⟨ended, returned⟩ := runs_pure rest
    rw [ended, returned, List.append_nil]
    exact .refused refused
  · rw [if_neg number] at rest
    obtain ⟨fd, later, behind, rest⟩ := runs_call_bind rest
    have quiet : executions reading = [] := by
      rw [fopen]
      rfl
    rw [behind]
    cases fd with
    | none =>
        obtain ⟨silent, returned⟩ := runs_report rest
        rw [returned]
        exact .refused (refused_append_left _ quiet (refused_of_failed rfl rfl silent))
    | some fd =>
        obtain ⟨succeeded, last, after, rest⟩ := runs_call_bind rest
        obtain ⟨short, digits⟩ := pid_of_file_digits file
        rw [found] at short digits
        rw [after, fopen, net_path_eq short]
        cases succeeded with
        | true =>
            obtain ⟨closed, ended, closes, returned⟩ := runs_call_bind rest
            obtain ⟨none, same⟩ := runs_pure returned
            rw [closes, none, same]
            exact .succeeded (.intro fd found number digits)
        | false =>
            obtain ⟨error, logging, asked, rest⟩ := runs_call_bind rest
            obtain ⟨logged, closing, logs, rest⟩ := runs_call_bind rest
            obtain ⟨closed, ended, closes, returned⟩ := runs_call_bind rest
            obtain ⟨none, same⟩ := runs_pure returned
            rw [asked, logs, closes, none, same]
            refine .refused ⟨rfl, ⟨.setns fd cloneNewnet, false⟩, ?_, rfl⟩
            simp

theorem change_identity_runs {identity : Identity} {name : CString} {changed : Bool}
    (ran : Runs (changeIdentity strerror isTerminal identity name) events changed) :
    Attempt (Changes identity (some name)) changed events := by
  unfold changeIdentity at ran
  obtain ⟨found, later, split, rest⟩ := runs_call_bind ran
  rw [split]
  cases found with
  | none =>
      obtain ⟨quiet, returned⟩ := runs_loge rest
      rw [returned]
      exact .refused (refused_of_failed rfl rfl quiet)
  | some id =>
      obtain ⟨succeeded, last, after, rest⟩ := runs_call_bind rest
      rw [after]
      cases succeeded with
      | true =>
          obtain ⟨none, returned⟩ := runs_pure rest
          rw [none, returned]
          exact .succeeded (.given name id)
      | false =>
          obtain ⟨quiet, returned⟩ := runs_report rest
          have refused : Refused (⟨.setid identity id, false⟩ :: last) :=
            refused_of_failed rfl rfl quiet
          rw [returned]
          exact .refused (refused_append_left [_] rfl refused)

theorem if_given_runs {identity : Identity} {name : Option CString} {changed : Bool}
    (ran : Runs (ifGiven name (changeIdentity strerror isTerminal identity)) events changed) :
    Attempt (Changes identity name) changed events := by
  cases name with
  | none =>
      obtain ⟨ended, returned⟩ := runs_pure ran
      rw [ended, returned]
      exact .succeeded .notGiven
  | some name => exact change_identity_runs ran

/-- The only call of `execvp` is the first of the calls; the others tell of its failure. -/
theorem exec_command_runs {command : CString} {arguments : List CString} {status : Nat}
    (ran : Runs (execCommand strerror isTerminal (command :: arguments)) events status) :
    ∃ (succeeded : Bool) (report : List ExecnsEvent),
      events = ⟨.execvp command (command :: arguments), succeeded⟩ :: report ∧
        executions report = [] ∧ (succeeded = false → status % 256 ≠ 0) := by
  unfold execCommand at ran
  obtain ⟨succeeded, report, split, rest⟩ := runs_call_bind ran
  refine ⟨succeeded, report, split, ?_⟩
  cases succeeded with
  | true =>
      obtain ⟨ended, -⟩ := runs_pure rest
      rw [ended]
      exact ⟨rfl, nofun⟩
  | false =>
      obtain ⟨error, later, asked, rest⟩ := runs_call_bind rest
      obtain ⟨quiet, same⟩ := runs_loge rest
      rw [asked, same]
      refine ⟨quiet, fun _ => ?_⟩
      have positive := error.positive
      have known := error.known
      omega

end Runs

/-! ## What `main` does -/

theorem entered_quiet {ns : CString} {events : List ExecnsEvent}
    (enters : EntersNamespace ns events) : executions events = [] := by
  cases enters with
  | intro fd found number digits => rfl

theorem changed_quiet {identity : Identity} {name : Option CString} {events : List ExecnsEvent}
    (changes : Changes identity name events) : executions events = [] := by
  cases changes with
  | notGiven => rfl
  | given name id => rfl

/-- How a run of `main` ends: refused with status 1, or with the one call of `execvp`. -/
inductive MainEnd (argv : List CString) : List ExecnsEvent → Nat → Prop
  | refused {events : List ExecnsEvent} (quiet : executions events = [])
      (cause : (∀ line : CommandLine, line.argv ≠ argv) ∨
        ∃ event ∈ events, event.1.failed event.2 = true) : MainEnd argv events 1
  | executed (line : CommandLine) (same : line.argv = argv) {before report : List ExecnsEvent}
      (prepared : Prepared line before) (succeeded : Bool) {status : Nat}
      (quiet : executions report = []) (failed : succeeded = false → status % 256 ≠ 0) :
      MainEnd argv (before ++ ⟨.execvp line.command (line.command :: line.arguments), succeeded⟩ ::
        report) status

theorem no_line {argv : List CString}
    (other : ∀ given nsArg execArg, parse argv ≠ .parsed
      { given := given, nsArg := some nsArg, execArg := some execArg }) (line : CommandLine) :
    line.argv ≠ argv := by
  intro same
  obtain ⟨nsArg, parsed, -⟩ := parse_of_line line
  rw [same] at parsed
  exact other _ _ _ parsed

theorem main_refused {argv : List CString} {events : List ExecnsEvent} (front : List ExecnsEvent)
    (quiet : executions front = []) (refused : Refused events) :
    MainEnd argv (front ++ events) 1 := by
  have whole := refused_append_left front quiet refused
  exact .refused whole.quiet (.inr whole.failure)

/-- What follows the parsing of a command line. -/
theorem parsed_runs {strerror : Errno → CString} {isTerminal : Bool} {argv : List CString}
    {events : List ExecnsEvent} {status : Nat} {line : CommandLine} (same : line.argv = argv)
    (ran : Runs (do
      if ← setNetworkNamespace strerror isTerminal line.ns then
        if ← ifGiven (line.given .group) (changeGroup strerror isTerminal) then
          if ← ifGiven (line.given .user) (changeUser strerror isTerminal) then
            execCommand strerror isTerminal (line.command :: line.arguments)
          else return 1
        else return 1
      else return 1 : Execns Nat) events status) :
    MainEnd argv (⟨.isatty, isTerminal⟩ :: events) status := by
  rcases runs_guard ran with ⟨entering, later, split, setns, rest⟩ | ⟨setns, returned⟩
  case inr =>
    cases set_network_namespace_runs setns with
    | refused refused =>
        rw [returned]
        exact main_refused [_] rfl refused
  cases set_network_namespace_runs setns with
  | succeeded enters =>
      have quiet := entered_quiet enters
      rw [split]
      rcases runs_guard rest with ⟨groupCalls, behind, split, setgid, rest⟩ | ⟨setgid, returned⟩
      case inr =>
        cases if_given_runs setgid with
        | refused refused =>
            rw [returned]
            exact main_refused (_ :: entering) quiet refused
      cases if_given_runs setgid with
      | succeeded group =>
          have quietGroup := changed_quiet group
          rw [split, ← List.append_assoc]
          rcases runs_guard rest with ⟨userCalls, last, split, setuid, rest⟩ | ⟨setuid, returned⟩
          case inr =>
            cases if_given_runs setuid with
            | refused refused =>
                rw [returned]
                refine main_refused (_ :: (entering ++ groupCalls)) ?_ refused
                change executions (entering ++ groupCalls) = []
                rw [executions_append, quiet, quietGroup]
                rfl
          cases if_given_runs setuid with
          | succeeded user =>
              obtain ⟨executed, report, execvp, silent, status⟩ := exec_command_runs rest
              rw [split, execvp, ← List.append_assoc]
              exact .executed line same (.intro isTerminal enters group user) executed silent status

/-- Where nothing is parsed that can be executed, the program says so and ends. -/
theorem unparsed_runs {isTerminal : Bool} {line : CString} {argv : List CString}
    {events : List ExecnsEvent} {status : Nat}
    (other : ∀ given nsArg execArg, parse argv ≠ .parsed
      { given := given, nsArg := some nsArg, execArg := some execArg })
    (ran : Runs (do loge isTerminal line; return 1 : Execns Nat) events status) :
    MainEnd argv (⟨.isatty, isTerminal⟩ :: events) status := by
  obtain ⟨quiet, same⟩ := runs_loge ran
  rw [same]
  exact .refused quiet (.inl (no_line other))

theorem main_runs {strerror : Errno → CString} {argv : List CString} {events : List ExecnsEvent}
    {status : Nat} (ran : Runs (main strerror argv) events status) :
    MainEnd argv events status := by
  unfold main at ran
  obtain ⟨isTerminal, later, split, rest⟩ := runs_call_bind ran
  rw [split]
  cases parsed : parse argv with
  | missing identity =>
      rw [parsed] at rest
      refine unparsed_runs ?_ rest
      rw [parsed]
      nofun
  | parsed parameters =>
      obtain ⟨given, nsArg, execArg⟩ := parameters
      rw [parsed] at rest
      cases nsArg with
      | none =>
          refine unparsed_runs ?_ rest
          rw [parsed]
          nofun
      | some nsArg =>
          cases execArg with
          | none =>
              refine unparsed_runs ?_ rest
              rw [parsed]
              nofun
          | some execArg =>
              obtain ⟨line, same, givenLine, ns, words⟩ := line_of_parsed parsed
              dsimp only at rest
              rw [ns, words, givenLine] at rest
              exact parsed_runs same rest

/-! ## Every run -/

/-- What holds of a run of `main`, whatever the system calls answer. -/
structure DropsPrivileges (argv : List CString) (events : List ExecnsEvent) (status : Nat) :
    Prop where
  once : (executions events).length ≤ 1
  prepared : ∀ before file arguments succeeded after,
    events = before ++ ⟨.execvp file arguments, succeeded⟩ :: after →
      ∃ line : CommandLine, line.argv = argv ∧ Prepared line before ∧ file = line.command ∧
        arguments = line.command :: line.arguments
  /-- The exit status is the low byte of what `main` returns. -/
  otherwise : (∀ file arguments, ⟨.execvp file arguments, true⟩ ∉ events) → status % 256 ≠ 0
  obeyed : ∀ line : CommandLine, line.argv = argv →
    (∀ event ∈ events, event.1.failed event.2 = false) →
      ⟨.execvp line.command (line.command :: line.arguments), true⟩ ∈ events

theorem prepared_quiet {line : CommandLine} {events : List ExecnsEvent}
    (prepared : Prepared line events) : executions events = [] := by
  cases prepared with
  | @intro isTerminal entering groupCalls userCalls enters group user =>
      change executions (entering ++ groupCalls ++ userCalls) = []
      rw [executions_append, executions_append, entered_quiet enters, changed_quiet group,
        changed_quiet user]
      rfl

theorem not_mem_of_quiet {events : List ExecnsEvent} (quiet : executions events = [])
    {file : CString} {arguments : List CString} {succeeded : Bool} :
    ⟨.execvp file arguments, succeeded⟩ ∉ events := by
  intro member
  exact List.filter_eq_nil_iff.mp quiet _ member rfl

/-- What follows the namespace does not depend on how the command line is read. -/
theorem same_words {first second : CommandLine} (same : first.argv = second.argv) :
    first.command :: first.arguments = second.command :: second.arguments := by
  obtain ⟨nsArg, parsed, -, words⟩ := parse_of_line first
  obtain ⟨otherArg, otherParsed, -, otherWords⟩ := parse_of_line second
  rw [same] at parsed words
  rw [parsed] at otherParsed
  obtain ⟨-, place, -⟩ := Parameters.mk.inj (ParseEnd.parsed.inj otherParsed)
  rw [← words, ← otherWords, Option.some.inj place]

/-- The command is executed at most once, as the arguments behind the namespace say, and only when
the namespace is entered and the given group and then the given user are set. A run that executes
nothing ends with a nonzero status. -/
theorem privileged_steps_first {strerror : Errno → CString} {argv : List CString}
    {events : List ExecnsEvent} {status : Nat} (ran : Runs (main strerror argv) events status) :
    DropsPrivileges argv events status := by
  cases main_runs ran with
  | refused quiet cause =>
      refine ⟨?_, ?_, fun _ => by decide, ?_⟩
      · rw [quiet]
        exact Nat.zero_le 1
      · intro before file arguments succeeded after split
        have member : ⟨.execvp file arguments, succeeded⟩ ∈ events := by
          rw [split]
          exact List.mem_append_right _ List.mem_cons_self
        exact absurd member (not_mem_of_quiet quiet)
      · intro line same fine
        rcases cause with noLine | ⟨event, member, failed⟩
        · exact absurd same (noLine line)
        · rw [fine event member] at failed
          cases failed
  | @executed line same ready report prepared executed status quiet failed =>
      have quietFront := prepared_quiet prepared
      have own : ⟨.execvp line.command (line.command :: line.arguments), executed⟩ ∈
          ready ++ ⟨.execvp line.command (line.command :: line.arguments), executed⟩ :: report :=
        List.mem_append_right _ List.mem_cons_self
      refine ⟨?_, ?_, ?_, ?_⟩
      · unfold executions at quiet
        rw [executions_append, quietFront, executions, List.filter_cons_of_pos rfl, quiet]
        exact Nat.le_refl 1
      · intro before file arguments succeeded after split
        obtain ⟨front, call, -⟩ := (List.append_cons_inj_of_notMem
          (not_mem_of_quiet quietFront) (not_mem_of_quiet quiet)).mp split
        obtain ⟨command, words⟩ := SystemCall.execvp.inj (Sigma.mk.inj call).1
        exact ⟨line, same, front ▸ prepared, command.symm, words.symm⟩
      · intro nothing
        cases executed with
        | true => exact absurd own (nothing _ _)
        | false => exact failed rfl
      · intro other otherSame fine
        have words := same_words (otherSame.trans same.symm)
        have command := (List.cons.inj words).1
        have succeeded := fine _ own
        cases executed with
        | true =>
            rw [words, command]
            exact own
        | false => cases succeeded

/-- Every call succeeds; the process in the namespace has the pid 1234. -/
def willingSystem : (call : SystemCall) → call.Answer
  | .isatty => true
  | .fopen _ => some { bytes := ascii "1234", failed := false }
  | .openReadOnly _ => some 3
  | .setns _ _ => true
  | .close _ => ()
  | .getnam _ _ => some 1010
  | .setid _ _ => true
  | .execvp _ _ => true
  | .errno => ⟨1, by decide, by decide⟩
  | .loge _ _ => ()

/-- The user `wifi` runs a command that has an option of its own. -/
def dhcpLine : CommandLine where
  program := ascii "execns"
  options := [(.user, ascii "wifi"), (.group, ascii "-u")]
  ns := ascii "router"
  command := ascii "dhcpserver"
  arguments := [ascii "-u"]
  once := by decide
  noOption := by
    intro identity
    cases identity with
    | user => decide +kernel
    | group => decide +kernel

theorem privileged_steps_first_dhcp :
    ∃ events, DropsPrivileges dhcpLine.argv events 0 ∧
      ⟨.execvp (ascii "dhcpserver") [ascii "dhcpserver", ascii "-u"], true⟩ ∈ events := by
  have ran := runs_with willingSystem (main (fun _ => []) dhcpLine.argv)
  have drops := privileged_steps_first ran
  have status : ((main (fun _ => []) dhcpLine.argv).runWith willingSystem).2 = 0 := by
    decide +kernel
  have fine : ∀ event ∈ ((main (fun _ => []) dhcpLine.argv).runWith willingSystem).1,
      event.1.failed event.2 = false := by
    decide +kernel
  rw [status] at drops
  exact ⟨_, drops, drops.obeyed dhcpLine rfl fine⟩

end Execns

end RedroidExt.Netns
