import RedroidExt.Netns.CreatensMain

/-!
# Waiting for the router's namespace

`create_router_ns` of `init.redroid.net.sh` starts `createns`, waits until there is a pid
file and prints what is in it. It does not wait for the property that says that the
namespace is ready. So what it gets depends on the moment: the front of the pid, which
may be empty.
-/

namespace RedroidExt.Netns

open RedroidExt.Library RedroidExt.Library.World

set_option autoImplicit false

/-! ## Every moment of createns -/

/-- What is so once the namespace is announced. -/
structure Announced (pid : Int32) (name : CString) (before kernel : NsKernel) : Prop where
  file : kernel.files (pidPath name) = some (decimal pid.toInt)
  bound : kernel.bound (getNamespacePath name) = some (before.home + 1)
  home : kernel.home = before.home + 1

/-- A moment of a run that found no pid file. -/
structure Moment (pid : Int32) (name : CString) (before kernel : NsKernel) : Prop where
  file : Part pid (kernel.files (pidPath name))
  announced : kernel.properties ≠ before.properties → Announced pid name before kernel

/-- The states that a run of `createns` goes through. -/
inductive CreatePhase (pid : Int32) (name : CString) (before : NsKernel) : NsKernel → Prop
  | started : CreatePhase pid name before before
  | unshared : CreatePhase pid name before before.unshared
  | opening (named : getNamespacePath name ≠ []) (fd : Int) (content : Option CString) :
      CreatePhase pid name before
        ((before.unshared.opening fd (getNamespacePath name)).holding (getNamespacePath name)
          content)
  | holding (named : getNamespacePath name ≠ []) (content : Option CString) :
      CreatePhase pid name before (before.unshared.holding (getNamespacePath name) content)
  | bound (named : getNamespacePath name ≠ []) :
      CreatePhase pid name before (before.binding (getNamespacePath name))
  | writing (fd : Int) {content : Option CString} (part : Part pid content) :
      CreatePhase pid name before
        (((before.binding (getNamespacePath name)).opening fd (pidPath name)).holding
          (pidPath name) content)
  | written {content : Option CString} (part : Part pid content) :
      CreatePhase pid name before
        ((before.binding (getNamespacePath name)).holding (pidPath name) content)
  | announced :
      CreatePhase pid name before
        ((before.binding (getNamespacePath name)).holding (pidPath name)
          (some (decimal pid.toInt))).announcing

section Moments

variable {pid : Int32} {name : CString} {before kernel : NsKernel}

theorem part_pid (pid : Int32) : Part pid (some (decimal pid.toInt)) :=
  .inr ⟨(decimal pid.toInt).length, congrArg some List.take_length.symm⟩

variable {invariant : NsKernel → Prop} {path : CString}

theorem always_fails {Result : Type} (line : CString) {result : Result} (holds : invariant kernel) :
    nsWorld.Always invariant (Creating.fails line result) kernel :=
  always_call_bind holds fun _ _ => always_pure holds

theorem always_remove {content : CString} (holds : invariant (kernel.holding path (some content)))
    (gone : invariant (kernel.holding path none)) :
    nsWorld.Always invariant (Creating.removeFile path) (kernel.holding path (some content)) := by
  apply always_call_bind holds
  intro answer _
  cases answer with
  | error error => exact always_fails _ holds
  | ok _ =>
      have removed : nsWorld.advance (kernel.holding path (some content)) (.unlink path) (.ok ()) =
          kernel.holding path none := kernel.holding_again path (some content) none
      rw [removed]
      exact always_pure gone

theorem always_write_loop {fd : Int} (opened : kernel.table fd = some path) (pid : Int32)
    (parts : ∀ content, Part pid content → invariant (kernel.holding path content))
    (rounds : Nat) {toPrint remaining : Nat} (all : toPrint + remaining = printed pid) :
    nsWorld.Always invariant
      (Creating.writeLoop fd path (pidString pid) (printed pid) rounds toPrint remaining)
      (kernel.holding path (some ((decimal pid.toInt).take toPrint))) := by
  have here : ∀ count, invariant (kernel.holding path (some ((decimal pid.toInt).take count))) :=
    fun count => parts _ (.inr ⟨count, rfl⟩)
  induction rounds generalizing toPrint remaining with
  | zero => exact always_pure (here toPrint)
  | succ rounds ih =>
      apply always_call_bind (here toPrint)
      intro answer _
      cases answer with
      | interrupted => exact ih all
      | failed error =>
          apply always_call_bind (here toPrint)
          intro _ _
          apply always_seq (always_remove (here toPrint) (parts none (.inl rfl))) (ensures_remove _)
          rintro _ after ⟨remains, gone | kept, rfl⟩
          · exact always_pure (parts remains (.inl gone))
          · exact always_pure (parts remains (.inr ⟨toPrint, kept⟩))
      | accepted count =>
          rw [write_part opened pid toPrint remaining count]
          dsimp only
          by_cases short :
              taken (((pidString pid).drop toPrint).take remaining).length count < printed pid
          · rw [if_pos short]
            have request : (((pidString pid).drop toPrint).take remaining).length = remaining := by
              have length : (decimal pid.toInt).length = printed pid := rfl
              rw [pid_string_eq, List.length_take, List.length_drop, length]
              omega
            have bounded : taken remaining count ≤ remaining := Nat.min_le_left _ _
            rw [request, Nat.min_eq_left bounded]
            exact ih (by omega)
          · rw [if_neg short]
            exact always_pure (here _)

theorem always_write_pid (rounds : Nat) (path : CString) (pid : Int32)
    (unopened : invariant kernel)
    (parts : ∀ content, Part pid content → invariant (kernel.holding path content))
    (opened : ∀ fd content, Part pid content →
      invariant ((kernel.opening fd path).holding path content)) :
    nsWorld.Always invariant (Creating.writePidFile rounds path pid) kernel := by
  apply always_call_bind unopened
  intro answer free
  cases answer with
  | error error => exact always_fails _ unopened
  | ok fd =>
      have found : (kernel.opening fd path).table fd = some path := Function.update_self _ _ _
      have writes : nsWorld.Always invariant
          (Creating.writeLoop fd path (pidString pid) (printed pid) rounds 0 (printed pid))
          ((kernel.opening fd path).holding path (some ((decimal pid.toInt).take 0))) :=
        always_write_loop found pid (opened fd) rounds (Nat.zero_add _)
      apply always_seq writes (ensures_write_loop found pid rounds (Nat.zero_add _))
      intro left after loop
      cases loop with
      | writing count => exact always_pure (opened fd _ (.inr ⟨count, rfl⟩))
      | failed part =>
          apply always_call_bind (opened fd _ part)
          rintro ⟨⟩ _
          rw [kernel.close_holding free]
          exact always_pure (parts _ part)
      | written =>
          apply always_call_bind (opened fd _ (part_pid pid))
          rintro ⟨⟩ _
          rw [kernel.close_holding free]
          exact always_pure (parts _ (part_pid pid))

/-- Nothing that happens to the namespace's own file matters. -/
theorem always_bind_namespace (path : CString) (before : NsKernel)
    (unshared : invariant before.unshared)
    (opening : ∀ fd content, invariant ((before.unshared.opening fd path).holding path content))
    (holding : ∀ content, invariant (before.unshared.holding path content))
    (bound : invariant (before.binding path)) :
    nsWorld.Always invariant (Creating.bindNamespace path) before.unshared := by
  apply always_call_bind unshared
  intro answer free
  cases answer with
  | error error => exact always_fails _ unshared
  | ok fd =>
      apply always_call_bind (opening fd _)
      intro done _
      have closed : ∀ content, nsWorld.advance
          ((before.unshared.opening fd path).holding path content) (.close fd) done =
            before.unshared.holding path content :=
        before.unshared.close_holding free path
      rw [closed]
      apply always_call_bind (holding _)
      intro answer _
      cases answer with
      | ok _ => exact always_pure bound
      | error error =>
          apply always_call_bind (holding _)
          intro _ _
          apply always_seq (always_remove (holding _) (holding _)) (ensures_remove _)
          rintro _ after ⟨remains, _, rfl⟩
          exact always_pure (holding _)

end Moments

section Runs

variable {pid : Int32} {name : CString} {before kernel : NsKernel}

theorem always_create_namespace (rounds : Nat) (pid : Int32) (name : CString)
    (before : NsKernel) :
    nsWorld.Always (CreatePhase pid name before) (Creating.createNamespace rounds name pid)
      before.unshared := by
  unfold Creating.createNamespace
  by_cases empty : getNamespacePath name = []
  · rw [if_pos empty]
    exact always_pure .unshared
  rw [if_neg empty]
  apply always_seq (always_bind_namespace _ before .unshared (.opening empty) (.holding empty)
    (.bound empty)) (ensures_bind_namespace (getNamespacePath name) before)
  intro done after tried
  cases tried with
  | unopened => exact always_pure .unshared
  | failed remains => exact always_pure (.holding empty _)
  | bound =>
      have path : pidPath name ≠ [] := by
        unfold pidPath
        rw [if_neg empty]
        exact List.append_ne_nil_of_left_ne_nil empty _
      unfold Creating.writePidOf
      rw [if_neg path]
      have writes : nsWorld.Always (CreatePhase pid name before)
          (Creating.writePidFile rounds (pidPath name) pid)
          (before.binding (getNamespacePath name)) :=
        always_write_pid rounds (pidPath name) pid (.bound empty) (fun _ part => .written part)
          (fun fd _ part => .writing fd part)
      apply always_seq writes (ensures_write_pid rounds (pidPath name) pid)
      intro result after left
      cases left with
      | unopened => exact always_pure (.bound empty)
      | failed part => exact always_pure (.written part)
      | writing fd free count => exact always_pure (.writing fd (.inr ⟨count, rfl⟩))
      | written => exact always_call_bind (.written (part_pid pid)) fun _ _ => always_pure .announced

theorem always_create_main (rounds : Nat) (pid : Int32) (program name : CString)
    (before : NsKernel) :
    nsWorld.Always (CreatePhase pid name before) (Creating.main rounds pid [program, name])
      before := by
  apply always_call_bind .started
  intro answer _
  cases answer with
  | error error => exact always_fails _ .started
  | ok _ => exact always_create_namespace rounds pid name before

theorem pid_path_ne (named : getNamespacePath name ≠ []) :
    pidPath name ≠ getNamespacePath name := by
  intro same
  have length := congrArg List.length same
  unfold pidPath at length
  rw [if_neg named, List.length_append] at length
  exact absurd length (by simp [ascii])

theorem moment_unannounced (file : Part pid (kernel.files (pidPath name)))
    (properties : kernel.properties = before.properties) : Moment pid name before kernel :=
  ⟨file, fun different => absurd properties different⟩

/-- If there was no pid file, a pid file is one that `createns` has written. -/
theorem moment_of_phase (absent : before.files (pidPath name) = none)
    (phase : CreatePhase pid name before kernel) : Moment pid name before kernel := by
  have apart : getNamespacePath name ≠ [] → ∀ content,
      Function.update before.files (getNamespacePath name) content (pidPath name) = none :=
    fun named content => (Function.update_of_ne (pid_path_ne named) _ _).trans absent
  have own : ∀ (files : CString → Option CString) content,
      Function.update files (pidPath name) content (pidPath name) = content :=
    fun files content => Function.update_self _ _ _
  cases phase with
  | started => exact moment_unannounced (.inl absent) rfl
  | unshared => exact moment_unannounced (.inl absent) rfl
  | opening named fd content => exact moment_unannounced (.inl (apart named content)) rfl
  | holding named content => exact moment_unannounced (.inl (apart named content)) rfl
  | bound named => exact moment_unannounced (.inl (apart named _)) rfl
  | writing fd part =>
      refine moment_unannounced ?_ rfl
      rw [show NsKernel.files _ (pidPath name) = _ from own _ _]
      exact part
  | written part =>
      refine moment_unannounced ?_ rfl
      rw [show NsKernel.files _ (pidPath name) = _ from own _ _]
      exact part
  | announced =>
      have file := own (before.binding (getNamespacePath name)).files (some (decimal pid.toInt))
      refine ⟨?_, fun _ => ⟨file, Function.update_self _ _ _, rfl⟩⟩
      rw [show NsKernel.files _ (pidPath name) = _ from file]
      exact part_pid pid

/-! ## The script -/

/-- `create_router_ns` behind the start of `createns`: the file is looked at until it is there, and
is read at the next access. `none` if it is not there in so many rounds. -/
def createRouterNs (look : Nat → Option CString) : Nat → Nat → Option CString
  | 0, _ => none
  | rounds + 1, access =>
      if (look access).isSome then some ((look (access + 1)).getD [])
      else createRouterNs look rounds (access + 1)

theorem create_router_ns_reads {look : Nat → Option CString} {rounds access : Nat}
    {text : CString} (printed : createRouterNs look rounds access = some text) :
    ∃ found, (look found).isSome ∧ text = (look (found + 1)).getD [] := by
  induction rounds generalizing access with
  | zero => cases printed
  | succ rounds ih =>
      unfold createRouterNs at printed
      by_cases found : (look access).isSome = true
      · rw [if_pos found] at printed
        exact ⟨access, found, (Option.some.inj printed).symm⟩
      · rw [if_neg found] at printed
        exact ih printed

/-- What the pid file holds at the moments of a run at which the script looks. -/
def lookAt (name : CString) (before : NsKernel)
    (events : List (Program.Event CreateCall CreateCall.Answer)) (moments : Nat → Nat)
    (access : Nat) : Option CString :=
  (nsWorld.after before (events.take (moments access))).files (pidPath name)

/-- Whatever the moments of a run of `createns` at which the script looks: what it prints is the
front of the pid, and the whole pid if the namespace is announced when it reads. -/
theorem router_pid_printed (rounds : Nat) (pid : Int32) (program name : CString)
    (before : NsKernel) (absent : before.files (pidPath name) = none)
    (events : List (Program.Event CreateCall CreateCall.Answer)) (ended : Creating.CreateEnd)
    (ran : Program.Runs (Creating.main rounds pid [program, name]) events ended)
    (allowed : nsWorld.Allowed before events) (moments : Nat → Nat) (looks : Nat)
    (text : CString)
    (printed : createRouterNs (lookAt name before events moments) looks 0 = some text) :
    ∃ found, (lookAt name before events moments found).isSome ∧
      text = (lookAt name before events moments (found + 1)).getD [] ∧
      (∃ count, text = (decimal pid.toInt).take count) ∧
      ((nsWorld.after before (events.take (moments (found + 1)))).properties ≠
          before.properties → text = decimal pid.toInt) := by
  rcases create_router_ns_reads printed with ⟨found, there, same⟩
  refine ⟨found, there, same, ?_⟩
  have moment := moment_of_phase absent
    (always_moments (always_create_main rounds pid program name before) ran allowed
      (moments (found + 1)))
  unfold lookAt at same
  constructor
  · rcases moment.file with none | ⟨count, front⟩
    · rw [none] at same
      exact ⟨0, same⟩
    · rw [front] at same
      exact ⟨count, same⟩
  · intro announced
    rw [(moment.announced announced).file] at same
    exact same

/-- The script looks before the file is there, when it was just created, and again before it is
written. -/
def earlyMoments (access : Nat) : Nat := 4 + min access 1

/-- What is printed then is empty. -/
theorem router_pid_printed_early :
    ∃ events, Program.Runs (Creating.main 2 1234 createRouter) events .paused ∧
      createRouterNs (lookAt (ascii "router") bootKernel events earlyMoments) 3 0 = some [] ∧
      ∃ count, ([] : CString) = (decimal (1234 : Int32).toInt).take count := by
  rcases follow_runs willing_answers_allowed (Creating.main 2 1234 createRouter) bootKernel with
    ⟨ran, allowed⟩
  have ended : (nsWorld.follow willingAnswers (Creating.main 2 1234 createRouter)
      bootKernel).2 = .paused := by
    decide +kernel
  rw [ended] at ran
  generalize taken : (nsWorld.follow willingAnswers (Creating.main 2 1234 createRouter)
    bootKernel).1 = events at ran allowed
  have printed : createRouterNs (lookAt (ascii "router") bootKernel events earlyMoments) 3 0 =
      some [] := by
    rw [← taken]
    decide +kernel
  rcases router_pid_printed 2 1234 _ (ascii "router") bootKernel rfl events .paused ran allowed
    earlyMoments 3 [] printed with ⟨_, _, _, front, _⟩
  exact ⟨events, ran, printed, front⟩

end Runs

end RedroidExt.Netns
