import RedroidExt.Netns.Createns

/-!
# When the pid file is finished

The loop compares the bytes of the last call with those of the whole pid, not with
the ones that remain. So it ends when its first successful `write` takes everything;
behind a shorter one it writes the rest and then nothing, forever.
-/

namespace RedroidExt.Netns

open RedroidExt.Library

set_option autoImplicit false

/-! ## The rounds of the loop -/

/-- What a round comes to. -/
inductive RoundStep (pid : Int32) (answers : Nat → WriteAnswer) (loop : WriteLoop) :
    WriteLoop ⊕ WriteEnd → Prop
  | interrupted (answered : answers loop.calls = .interrupted) :
      RoundStep pid answers loop (.inl { loop with calls := loop.calls + 1 })
  | failed {removed : Bool} (answered : answers loop.calls = .failed removed) :
      RoundStep pid answers loop (.inr (.failed loop.file removed))
  | short {count : Nat} (answered : answers loop.calls = .accepted count)
      (part : taken loop.remaining count < printed pid) :
      RoundStep pid answers loop (.inl
        { calls := loop.calls + 1
          remaining := loop.remaining - taken loop.remaining count
          toPrint := loop.toPrint + taken loop.remaining count
          file := loop.file ++
            ((pidString pid).drop loop.toPrint).take (taken loop.remaining count) })
  | whole {count : Nat} (answered : answers loop.calls = .accepted count)
      (all : ¬ taken loop.remaining count < printed pid) :
      RoundStep pid answers loop (.inr (.finished (loop.file ++
        ((pidString pid).drop loop.toPrint).take (taken loop.remaining count))))

theorem round_step (pid : Int32) (answers : Nat → WriteAnswer) (loop : WriteLoop) :
    RoundStep pid answers loop (writePid pid answers loop) := by
  unfold writePid writeRound
  cases answered : answers loop.calls with
  | interrupted => exact .interrupted answered
  | failed removed => exact .failed answered
  | accepted count =>
      dsimp only
      by_cases part : taken loop.remaining count < printed pid
      · rw [if_pos part]
        exact .short answered part
      · rw [if_neg part]
        exact .whole answered part

/-! ## What a round preserves -/

/-- The first call of `write` that is not interrupted is the given one. -/
def FirstAnswer (answers : Nat → WriteAnswer) (call : Nat) (answer : WriteAnswer) : Prop :=
  (∀ earlier < call, answers earlier = .interrupted) ∧ answers call = answer ∧
    answer ≠ .interrupted

theorem first_answer_unique {answers : Nat → WriteAnswer} {left right : Nat}
    {leftAnswer rightAnswer : WriteAnswer} (leftFirst : FirstAnswer answers left leftAnswer)
    (rightFirst : FirstAnswer answers right rightAnswer) : leftAnswer = rightAnswer := by
  obtain ⟨leftEarlier, leftHere, leftDone⟩ := leftFirst
  obtain ⟨rightEarlier, rightHere, rightDone⟩ := rightFirst
  have same : left = right := by
    rcases Nat.lt_trichotomy left right with below | equal | above
    · exact absurd (leftHere.symm.trans (rightEarlier left below)) leftDone
    · exact equal
    · exact absurd (rightHere.symm.trans (leftEarlier right above)) rightDone
  rw [← leftHere, ← rightHere, same]

/-- The first successful `write` takes a part of the pid, or all of it. -/
def ShortFirst (pid : Int32) (answers : Nat → WriteAnswer) : Prop :=
  ∃ call count, FirstAnswer answers call (.accepted count) ∧ taken (printed pid) count < printed pid

def WholeFirst (pid : Int32) (answers : Nat → WriteAnswer) : Prop :=
  ∃ call count, FirstAnswer answers call (.accepted count) ∧
    printed pid ≤ taken (printed pid) count

theorem whole_first_not_short {pid : Int32} {answers : Nat → WriteAnswer}
    (whole : WholeFirst pid answers) : ¬ ShortFirst pid answers := by
  obtain ⟨call, count, first, all⟩ := whole
  intro short
  obtain ⟨otherCall, otherCount, otherFirst, part⟩ := short
  have same := WriteAnswer.accepted.inj (first_answer_unique first otherFirst)
  rw [same] at all
  omega

/-- Before the first successful `write` nothing is written, behind a short one some of the pid. -/
structure Progress (pid : Int32) (answers : Nat → WriteAnswer) (loop : WriteLoop) : Prop where
  file : loop.file = (decimal pid.toInt).take loop.toPrint
  remaining : loop.remaining + loop.toPrint = printed pid
  phase : (loop.toPrint = 0 ∧ ∀ earlier < loop.calls, answers earlier = .interrupted) ∨
    (0 < loop.toPrint ∧ ShortFirst pid answers)

section Rounds

variable {pid : Int32} {answers : Nat → WriteAnswer} {loop next : WriteLoop}

theorem progress_start : Progress pid answers (startWriting pid) where
  file := rfl
  remaining := Nat.add_zero _
  phase := .inl ⟨rfl, fun earlier below => absurd below (Nat.not_lt_zero earlier)⟩

theorem taken_le (requested count : Nat) : taken requested count ≤ requested := Nat.min_le_left _ _

theorem taken_pos {requested : Nat} (some : 0 < requested) (count : Nat) :
    0 < taken requested count := by
  unfold taken
  omega

/-- The bytes in front and the next ones are the bytes in front of the later offset. -/
theorem file_extends (progress : Progress pid answers loop) (result : Nat) :
    loop.file ++ ((pidString pid).drop loop.toPrint).take result =
      (decimal pid.toInt).take (loop.toPrint + result) := by
  rw [progress.file, pid_string_eq, List.take_add]

theorem progress_round (progress : Progress pid answers loop)
    (again : writePid pid answers loop = .inl next) : Progress pid answers next := by
  have step := round_step pid answers loop
  rw [again] at step
  cases step with
  | interrupted answered =>
      refine ⟨progress.file, progress.remaining, ?_⟩
      rcases progress.phase with ⟨nothing, interrupted⟩ | written
      · left
        refine ⟨nothing, ?_⟩
        intro earlier below
        rcases Nat.lt_succ_iff_lt_or_eq.mp below with before | last
        · exact interrupted earlier before
        · rw [last, answered]
      · exact .inr written
  | @short count answered part =>
      have bounded := taken_le loop.remaining count
      have before := progress.remaining
      constructor
      · exact file_extends progress _
      · dsimp only
        omega
      · right
        dsimp only
        rcases progress.phase with ⟨nothing, interrupted⟩ | ⟨written, short⟩
        · have all : loop.remaining = printed pid := by omega
          rw [all] at part ⊢
          have some := taken_pos (printed_pos pid) count
          exact ⟨by omega, loop.calls, count, ⟨interrupted, answered, nofun⟩, part⟩
        · exact ⟨by omega, short⟩

/-- The `break` is taken when the first successful `write` takes everything. -/
theorem finished_round (progress : Progress pid answers loop) {file : CString}
    (left : writePid pid answers loop = .inr (.finished file)) :
    file = decimal pid.toInt ∧ WholeFirst pid answers := by
  have step := round_step pid answers loop
  rw [left] at step
  cases step with
  | @whole count answered all =>
      have bounded := taken_le loop.remaining count
      have before := progress.remaining
      have whole : loop.toPrint + taken loop.remaining count = printed pid := by omega
      rw [file_extends progress, whole]
      refine ⟨List.take_length, ?_⟩
      rcases progress.phase with ⟨nothing, interrupted⟩ | ⟨some, -⟩
      · have first : loop.remaining = printed pid := by omega
        rw [first] at all
        exact ⟨loop.calls, count, ⟨interrupted, answered, nofun⟩, by omega⟩
      · omega

end Rounds

theorem progress_visited {pid : Int32} {answers : Nat → WriteAnswer} {loop : WriteLoop}
    (visited : Loop.Visits (writePid pid answers) (startWriting pid) loop) :
    Progress pid answers loop :=
  Loop.visits_invariant (Progress pid answers) progress_start
    (fun _ _ progress again => progress_round progress again) visited

/-! ## Ends of the loop -/

section Ends

variable {pid : Int32} {answers : Nat → WriteAnswer}

/-- While the calls are interrupted, the loop goes round with its variables as they are. -/
theorem interrupted_visited {call : Nat}
    (interrupted : ∀ earlier < call, answers earlier = .interrupted) :
    Loop.Visits (writePid pid answers) (startWriting pid)
      { startWriting pid with calls := call } := by
  induction call with
  | zero => exact .first
  | succ call ih =>
      have before := ih fun earlier below => interrupted earlier (Nat.lt_succ_of_lt below)
      refine .later before ?_
      unfold writePid writeRound
      dsimp only
      rw [interrupted call (Nat.lt_succ_self call)]

theorem finished_returns_iff (file : CString) :
    Loop.Returns (writePid pid answers) (startWriting pid) (.finished file) ↔
      file = decimal pid.toInt ∧ WholeFirst pid answers := by
  constructor
  · intro returned
    obtain ⟨last, visited, left⟩ := Loop.visits_of_returns returned
    exact finished_round (progress_visited visited) left
  · intro written
    obtain ⟨same, call, count, ⟨interrupted, answered, -⟩, whole⟩ := written
    refine Loop.returns_of_visits (interrupted_visited interrupted) (Loop.returns_exit ?_)
    have all : taken (printed pid) count = printed pid := by
      have bounded := taken_le (printed pid) count
      omega
    unfold writePid writeRound startWriting
    dsimp only
    rw [answered]
    dsimp only
    rw [all, if_neg (Nat.lt_irrefl _), List.nil_append, List.drop_zero, pid_string_eq, same]
    exact congrArg _ (congrArg _ List.take_length)

/-- Without another error than an interruption a short `write` is the first of infinitely many. -/
theorem short_never_returns (short : ShortFirst pid answers)
    (works : ∀ call removed, answers call ≠ .failed removed) (rounds : Nat) :
    Loop.run (writePid pid answers) rounds (startWriting pid) = none := by
  cases left : Loop.run (writePid pid answers) rounds (startWriting pid) with
  | none => rfl
  | some result =>
      exfalso
      obtain ⟨last, visited, exits⟩ := Loop.visits_of_returns ⟨rounds, left⟩
      cases result with
      | finished file =>
          exact whole_first_not_short (finished_round (progress_visited visited) exits).2 short
      | failed file removed =>
          have step := round_step pid answers last
          rw [exits] at step
          cases step with
          | failed answered => exact works last.calls removed answered

end Ends

/-! ## The whole function -/

/-- For every name with a path, once the file is open the function returns `true`, with the
decimal pid in the file. -/
def WritesPid (pid : Int32) (answers : Nat → WriteAnswer) : Prop :=
  ∀ name, getNamespacePath name ≠ [] →
    ∃ rounds, writeNamespacePid rounds name pid true answers = some (true, some (decimal pid.toInt))

theorem write_namespace_pid_true_iff {name : CString} (path : getNamespacePath name ≠ [])
    (pid : Int32) (answers : Nat → WriteAnswer) (file : CString) :
    (∃ rounds, writeNamespacePid rounds name pid true answers = some (true, some file)) ↔
      Loop.Returns (writePid pid answers) (startWriting pid) (.finished file) := by
  have digits := printed_pos pid
  unfold writeNamespacePid Loop.Returns
  apply exists_congr
  intro rounds
  rw [if_neg path, if_neg (not_not.mpr rfl), if_neg (by omega), Option.map_eq_some_iff]
  constructor
  · intro returned
    obtain ⟨left, finished, result⟩ := returned
    cases left with
    | finished written =>
        obtain ⟨-, same⟩ := Prod.mk.inj result
        rw [finished, Option.some.inj same]
    | failed written removed => cases (Prod.mk.inj result).1
  · intro finished
    exact ⟨.finished file, finished, rfl⟩

theorem writes_pid_iff (pid : Int32) (answers : Nat → WriteAnswer) :
    WritesPid pid answers ↔ WholeFirst pid answers := by
  constructor
  · intro writes
    have path : getNamespacePath [97] ≠ [] := by decide +kernel
    have returned := (write_namespace_pid_true_iff path pid answers _).mp (writes [97] path)
    exact ((finished_returns_iff _).mp returned).2
  · intro whole name path
    exact (write_namespace_pid_true_iff path pid answers _).mpr
      ((finished_returns_iff _).mpr ⟨rfl, whole⟩)

/-- Two of the four digits of 1234 are written, then the other two, then nothing forever. -/
theorem two_digits_at_a_time :
    ¬ WritesPid 1234 (fun _ => .accepted 2) ∧
      ∀ rounds, writeNamespacePid rounds (ascii "router") 1234 true (fun _ => .accepted 2) =
        none := by
  have short : ShortFirst 1234 fun _ => .accepted 2 :=
    ⟨0, 2, ⟨fun earlier below => absurd below (Nat.not_lt_zero earlier), rfl, nofun⟩,
      by decide +kernel⟩
  have never := short_never_returns short nofun
  constructor
  · intro writes
    have path : getNamespacePath (ascii "router") ≠ [] := by decide +kernel
    obtain ⟨rounds, finished⟩ := (write_namespace_pid_true_iff path _ _ _).mp (writes _ path)
    rw [never rounds] at finished
    cases finished
  · intro rounds
    unfold writeNamespacePid
    rw [never rounds, if_neg (by decide +kernel), if_neg (by decide), if_neg (by decide +kernel)]
    rfl

end RedroidExt.Netns
