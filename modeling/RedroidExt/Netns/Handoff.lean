import RedroidExt.Netns.PidFile
import RedroidExt.Netns.Execns
import RedroidExt.Library.TransitionSystem

/-!
# Handing over the pid

The two programs share the pid file and nothing else: nobody waits for the property
that `createns` sets when the file is finished. One step is one system call of the
writer or of the reader, which may read the file in pieces. A part of the digits is a
number too, so a file that is not finished passes for a valid one.
-/

namespace RedroidExt.Netns

open RedroidExt.Library

set_option autoImplicit false

/-! ## The two programs -/

/-- Where `writeNamespacePid` is; `file` is what it has written, also when no path leads to it. -/
inductive Writer where
  | opening
  | writing (loop : WriteLoop)
  | removing (file : CString) (removed : Bool)
  | returned (linked : Bool) (file : CString)

/-- Where `readNamespacePid` is, with what it has read or returned. -/
inductive Reader where
  | idle
  | reading (buffer : CString)
  | returned (result : CString)

structure HandoffState where
  writer : Writer
  reader : Reader

/-- A system call, with what the kernel answers besides what the state determines. -/
inductive HandoffLabel where
  | createFile (opened : Bool)
  | write
  | remove
  | openFile (allowed : Bool)
  | read (count : Nat)
  | readFails

namespace Writer

/-- Whether the path leads to the file. -/
def linked : Writer → Bool
  | .opening => false
  | .writing _ => true
  | .removing _ _ => true
  | .returned linked _ => linked

def file : Writer → CString
  | .opening => []
  | .writing loop => loop.file
  | .removing file _ => file
  | .returned _ file => file

end Writer

section Handoff

variable (name : CString) (pid : Int32) (answers : Nat → WriteAnswer)

/-- What the path leads to in a state. -/
def HandoffState.files (state : HandoffState) (path : CString) : Option FileRead :=
  if state.writer.linked = true ∧ path = pidPath name then
    some { bytes := state.writer.file, failed := false }
  else none

/-- Behind the opening the writer does the rounds of its loop. The pid always has a character to
print. -/
def nextWriter : Writer → HandoffLabel → Option Writer
  | .opening, .createFile opened =>
      if getNamespacePath name = [] ∨ ¬ opened then some (.returned false [])
      else some (.writing (startWriting pid))
  | .writing loop, .write =>
      match writePid pid answers loop with
      | .inl next => some (.writing next)
      | .inr (.finished file) => some (.returned true file)
      | .inr (.failed file removed) => some (.removing file removed)
  | .removing file removed, .remove => some (.returned (!removed) file)
  | _, _ => none

/-- `fread` takes what `read` gives until the buffer is full or the file ends. -/
def nextReader (state : HandoffState) : HandoffLabel → Option Reader
  | .openFile allowed =>
      match state.reader with
      | .idle =>
          if allowed = true ∧ (state.files name (namespacePidPath name)).isSome = true then
            some (.reading [])
          else some (.returned [])
      | _ => none
  | .read count =>
      match state.reader with
      | .reading buffer =>
          let available := (state.writer.file.drop buffer.length).take
            (pidBufferSize - buffer.length)
          if available = [] then some (.returned (pidOfFile { bytes := buffer, failed := false }))
          else some (.reading (buffer ++ available.take (taken available.length count)))
      | _ => none
  | .readFails =>
      match state.reader with
      | .reading buffer => some (.returned (pidOfFile { bytes := buffer, failed := true }))
      | _ => none
  | _ => none

/-- One of the two takes a step. -/
def nextHandoff (state : HandoffState) (label : HandoffLabel) : Option HandoffState :=
  match nextWriter name pid answers state.writer label with
  | some writer => some { state with writer := writer }
  | none => (nextReader name state label).map fun reader => { state with reader := reader }

/-- At the start there is no pid file. -/
def handoff : TransitionSystem HandoffState HandoffLabel :=
  .ofNext (· = { writer := .opening, reader := .idle }) (nextHandoff name pid answers)

/-- The reader returns the pid or nothing, and the pid once the file is complete. -/
structure HandoffSafe : Prop where
  neverWrong : ∀ state, (handoff name pid answers).Reachable state →
    ∀ result, state.reader = .returned result → result = [] ∨ result = decimal pid.toInt
  complete : ∀ state, (handoff name pid answers).Reachable state →
    state.writer.linked = true → state.writer.file = decimal pid.toInt →
      readNamespacePid (state.files name) name = decimal pid.toInt

end Handoff

section Steps

variable {name : CString} {pid : Int32} {answers : Nat → WriteAnswer}
variable {state after : HandoffState}

/-- The steps of the writer. -/
inductive WriterStep (name : CString) (pid : Int32) (answers : Nat → WriteAnswer) :
    Writer → Writer → Prop
  | refused : WriterStep name pid answers .opening (.returned false [])
  | created (path : getNamespacePath name ≠ []) :
      WriterStep name pid answers .opening (.writing (startWriting pid))
  | round {loop next : WriteLoop} (again : writePid pid answers loop = .inl next) :
      WriterStep name pid answers (.writing loop) (.writing next)
  | finished {loop : WriteLoop} {file : CString}
      (left : writePid pid answers loop = .inr (.finished file)) :
      WriterStep name pid answers (.writing loop) (.returned true file)
  | failed {loop : WriteLoop} {file : CString} {removed : Bool}
      (left : writePid pid answers loop = .inr (.failed file removed)) :
      WriterStep name pid answers (.writing loop) (.removing file removed)
  | removed {file : CString} {removed : Bool} :
      WriterStep name pid answers (.removing file removed) (.returned (!removed) file)

/-- The steps of the reader. -/
inductive ReaderStep (name : CString) (file : CString) : Reader → Reader → Prop
  | notOpened : ReaderStep name file .idle (.returned [])
  | opened : ReaderStep name file .idle (.reading [])
  | more {buffer : CString} (count : Nat) :
      ReaderStep name file (.reading buffer) (.reading (buffer ++
        ((file.drop buffer.length).take (pidBufferSize - buffer.length)).take count))
  | ended {buffer : CString}
      (atEnd : (file.drop buffer.length).take (pidBufferSize - buffer.length) = []) :
      ReaderStep name file (.reading buffer)
        (.returned (pidOfFile { bytes := buffer, failed := false }))
  | failed {buffer : CString} : ReaderStep name file (.reading buffer) (.returned [])

theorem writer_step {writer next : Writer} {label : HandoffLabel}
    (stepped : nextWriter name pid answers writer label = some next) :
    WriterStep name pid answers writer next := by
  unfold nextWriter at stepped
  split at stepped
  · split_ifs at stepped with refused
    · cases stepped
      exact .refused
    · cases stepped
      exact .created (not_or.mp refused).1
  · split at stepped
    · cases stepped
      exact .round ‹_›
    · cases stepped
      exact .finished ‹_›
    · cases stepped
      exact .failed ‹_›
  · cases stepped
    exact .removed
  · cases stepped

theorem reader_step {next : Reader} {label : HandoffLabel}
    (stepped : nextReader name state label = some next) :
    ReaderStep name state.writer.file state.reader next := by
  unfold nextReader at stepped
  cases place : state.reader with
  | idle =>
      rw [place] at stepped
      cases label with
      | openFile allowed =>
          dsimp only at stepped
          split_ifs at stepped
          · cases stepped
            exact .opened
          · cases stepped
            exact .notOpened
      | _ => cases stepped
  | reading buffer =>
      rw [place] at stepped
      cases label with
      | read count =>
          dsimp only at stepped
          split_ifs at stepped with atEnd
          · cases stepped
            exact .ended atEnd
          · cases stepped
            exact .more _
      | readFails =>
          cases stepped
          rw [pid_of_failed]
          exact .failed
      | _ => cases stepped
  | returned result =>
      rw [place] at stepped
      cases label <;> cases stepped

theorem handoff_step {label : HandoffLabel}
    (stepped : nextHandoff name pid answers state label = some after) :
    (WriterStep name pid answers state.writer after.writer ∧ after.reader = state.reader) ∨
      (ReaderStep name state.writer.file state.reader after.reader ∧
        after.writer = state.writer) := by
  unfold nextHandoff at stepped
  cases moved : nextWriter name pid answers state.writer label with
  | some writer =>
      rw [moved] at stepped
      cases stepped
      exact .inl ⟨writer_step moved, rfl⟩
  | none =>
      rw [moved] at stepped
      obtain ⟨reader, read, same⟩ := Option.map_eq_some_iff.mp stepped
      rw [← same]
      exact .inr ⟨reader_step read, rfl⟩

end Steps

/-! ## What every state has -/

section Growth

variable {pid : Int32} {answers : Nat → WriteAnswer} {loop : WriteLoop}

theorem round_extends {next : WriteLoop} (again : writePid pid answers loop = .inl next) :
    loop.file <+: next.file := by
  have step := round_step pid answers loop
  rw [again] at step
  cases step with
  | interrupted answered => exact List.prefix_rfl
  | short answered part => exact List.prefix_append _ _

theorem finished_extends {file : CString}
    (left : writePid pid answers loop = .inr (.finished file)) : loop.file <+: file := by
  have step := round_step pid answers loop
  rw [left] at step
  cases step with
  | whole answered all => exact List.prefix_append _ _

theorem failed_file {file : CString} {removed : Bool}
    (left : writePid pid answers loop = .inr (.failed file removed)) : file = loop.file := by
  have step := round_step pid answers loop
  rw [left] at step
  cases step with
  | failed answered => rfl

theorem progress_file (progress : Progress pid answers loop) (whole : ¬ ShortFirst pid answers) :
    loop.file = [] := by
  rcases progress.phase with ⟨nothing, -⟩ | ⟨-, short⟩
  · rw [progress.file, nothing, List.take_zero]
  · exact absurd short whole

end Growth

/-- If the file is created, the first successful `write` is not short. -/
def WrittenAtOnce (name : CString) (pid : Int32) (answers : Nat → WriteAnswer) : Prop :=
  getNamespacePath name ≠ [] → ¬ ShortFirst pid answers

/-- What is written of the pid, and how much of it has been read. -/
structure HandoffInvariant (name : CString) (pid : Int32) (answers : Nat → WriteAnswer)
    (state : HandoffState) : Prop where
  named : state.writer.linked = true → getNamespacePath name ≠ []
  progress : ∀ loop, state.writer = .writing loop → Progress pid answers loop
  file : WrittenAtOnce name pid answers →
    state.writer.file = [] ∨ state.writer.file = decimal pid.toInt
  buffer : ∀ buffer, state.reader = .reading buffer → buffer <+: state.writer.file
  result : WrittenAtOnce name pid answers → ∀ result, state.reader = .returned result →
    result = [] ∨ result = decimal pid.toInt

section Invariant

variable {name : CString} {pid : Int32} {answers : Nat → WriteAnswer}

theorem decimal_short (pid : Int32) : (decimal pid.toInt).length < pidBufferSize := by
  have length := decimal_length_le pid
  unfold pidBufferSize
  omega

theorem pid_of_decimal (positive : 0 < pid.toInt) :
    pidOfFile { bytes := decimal pid.toInt, failed := false } = decimal pid.toInt :=
  pid_of_digits (decimal_digits (Int.le_of_lt positive)) (decimal_short pid)

/-- At the end of a file that fits into the buffer everything was read. -/
theorem read_to_end {buffer file : CString} (read : buffer <+: file)
    (fits : file.length < pidBufferSize)
    (atEnd : (file.drop buffer.length).take (pidBufferSize - buffer.length) = []) :
    buffer = file := by
  obtain ⟨rest, split⟩ := read
  rw [← split, List.length_append] at fits
  rw [← split, List.drop_left, List.take_eq_nil_iff] at atEnd
  rcases atEnd with full | nothing
  · omega
  · rw [← split, nothing, List.append_nil]

theorem invariant_writer {writer next : Writer} {reader : Reader}
    (before : HandoffInvariant name pid answers { writer := writer, reader := reader })
    (stepped : WriterStep name pid answers writer next) :
    HandoffInvariant name pid answers { writer := next, reader := reader } := by
  have grows : writer.file <+: next.file := by
    cases stepped with
    | refused => exact List.prefix_rfl
    | created path => exact List.prefix_rfl
    | round again => exact round_extends again
    | finished left => exact finished_extends left
    | failed left =>
        rw [show Writer.file (.removing _ _) = _ from failed_file left]
        exact List.prefix_rfl
    | removed => exact List.prefix_rfl
  constructor
  · cases stepped with
    | refused => exact fun linked => nomatch linked
    | created path => exact fun _ => path
    | round again => exact before.named
    | finished left => exact before.named
    | failed left => exact before.named
    | removed => exact fun _ => before.named rfl
  · intro loop place
    cases stepped with
    | created path =>
        rw [← Writer.writing.inj place]
        exact progress_start
    | round again =>
        rw [← Writer.writing.inj place]
        exact progress_round (before.progress _ rfl) again
    | refused => cases place
    | finished left => cases place
    | failed left => cases place
    | removed => cases place
  · intro whole
    cases stepped with
    | refused => exact .inl rfl
    | created path => exact .inl rfl
    | round again =>
        have next := progress_round (before.progress _ rfl) again
        exact .inl (progress_file next (whole (before.named rfl)))
    | finished left => exact .inr (finished_round (before.progress _ rfl) left).1
    | failed left =>
        have nothing := progress_file (before.progress _ rfl) (whole (before.named rfl))
        exact .inl ((failed_file left).trans nothing)
    | removed => exact before.file whole
  · intro buffer place
    exact (before.buffer buffer place).trans grows
  · exact before.result

theorem invariant_reader (positive : 0 < pid.toInt) {writer : Writer} {reader next : Reader}
    (before : HandoffInvariant name pid answers { writer := writer, reader := reader })
    (stepped : ReaderStep name writer.file reader next) :
    HandoffInvariant name pid answers { writer := writer, reader := next } := by
  refine ⟨before.named, before.progress, before.file, ?_, ?_⟩
  · intro buffer place
    cases stepped with
    | opened =>
        rw [← Reader.reading.inj place]
        exact List.nil_prefix
    | more count =>
        rw [← Reader.reading.inj place]
        obtain ⟨rest, split⟩ := before.buffer _ rfl
        rw [← split, List.drop_left, List.take_take]
        exact (List.prefix_append_right_inj _).mpr (List.take_prefix _ _)
    | notOpened => cases place
    | ended atEnd => cases place
    | failed => cases place
  · intro whole result place
    cases stepped with
    | notOpened => exact .inl (Reader.returned.inj place).symm
    | failed => exact .inl (Reader.returned.inj place).symm
    | ended atEnd =>
        rw [← Reader.returned.inj place]
        rcases before.file whole with empty | complete
        · rw [read_to_end (before.buffer _ rfl) (by rw [show writer.file = _ from empty]; decide) atEnd]
          exact .inl (congrArg (fun file => pidOfFile { bytes := file, failed := false }) empty)
        · rw [read_to_end (before.buffer _ rfl)
            (by rw [show writer.file = _ from complete]; exact decimal_short pid) atEnd,
            show writer.file = _ from complete, pid_of_decimal positive]
          exact .inr rfl
    | opened => cases place
    | more count => cases place

theorem invariant_reached (positive : 0 < pid.toInt) {state : HandoffState}
    (reached : (handoff name pid answers).Reachable state) :
    HandoffInvariant name pid answers state := by
  refine TransitionSystem.reachable_invariant (HandoffInvariant name pid answers) ?_ ?_ reached
  · intro state first
    rw [show state = _ from first]
    constructor
    · exact fun linked => nomatch linked
    · exact fun loop place => nomatch place
    · exact fun _ => .inl rfl
    · exact fun buffer place => nomatch place
    · exact fun _ result place => nomatch place
  · intro state label after before stepped
    rcases handoff_step stepped with ⟨writer, reader⟩ | ⟨reader, writer⟩
    · have moved := invariant_writer before writer
      rw [← reader] at moved
      exact moved
    · have moved := invariant_reader positive before reader
      rw [← writer] at moved
      exact moved

end Invariant

/-! ## A short write -/

section Short

variable {name : CString} {pid : Int32} {answers : Nat → WriteAnswer}

theorem handoff_next {state after : HandoffState} (label : HandoffLabel)
    (before : (handoff name pid answers).Reachable state)
    (taken : nextHandoff name pid answers state label = some after) :
    (handoff name pid answers).Reachable after := .next before taken

theorem writing_reached (path : getNamespacePath name ≠ []) {loop : WriteLoop}
    (visited : Loop.Visits (writePid pid answers) (startWriting pid) loop) :
    (handoff name pid answers).Reachable { writer := .writing loop, reader := .idle } := by
  induction visited with
  | first =>
      refine handoff_next (.createFile true) (.start rfl) ?_
      simp [nextHandoff, nextWriter, path]
  | later _ again ih =>
      refine handoff_next .write ih ?_
      simp only [nextHandoff, nextWriter, again]

/-- What `writeNamespacePid` leaves is what the writer's steps lead to. -/
theorem write_namespace_pid_reached {rounds : Nat} {opened result : Bool} {file : Option CString}
    (returned : writeNamespacePid rounds name pid opened answers = some (result, file)) :
    ∃ linked contents, (handoff name pid answers).Reachable
        { writer := .returned linked contents, reader := .idle } ∧
      file = if linked then some contents else none := by
  unfold writeNamespacePid at returned
  by_cases refused : getNamespacePath name = [] ∨ ¬ opened = true
  · have none : file = none := by
      by_cases path : getNamespacePath name = []
      · rw [if_pos path] at returned
        exact (Prod.mk.inj (Option.some.inj returned)).2.symm
      · rw [if_neg path, if_pos (refused.resolve_left path)] at returned
        exact (Prod.mk.inj (Option.some.inj returned)).2.symm
    refine ⟨false, [], ?_, none⟩
    refine handoff_next (.createFile opened) (.start rfl) ?_
    simp only [nextHandoff, nextWriter, if_pos refused]
  · obtain ⟨path, created⟩ := not_or.mp refused
    have digits := printed_pos pid
    rw [if_neg path, if_neg created, if_neg (by omega)] at returned
    obtain ⟨left, finished, same⟩ := Option.map_eq_some_iff.mp returned
    obtain ⟨last, visited, exits⟩ := Loop.visits_of_returns ⟨rounds, finished⟩
    have before := writing_reached path visited
    cases left with
    | finished written =>
        refine ⟨true, written, ?_, (Prod.mk.inj same).2.symm⟩
        refine handoff_next .write before ?_
        simp only [nextHandoff, nextWriter, exits]
    | failed written removed =>
        have removing : (handoff name pid answers).Reachable
            { writer := .removing written removed, reader := .idle } := by
          refine handoff_next .write before ?_
          simp only [nextHandoff, nextWriter, exits]
        refine ⟨!removed, written, ?_, ?_⟩
        · exact handoff_next .remove removing rfl
        · rw [← (Prod.mk.inj same).2]
          cases removed <;> rfl

/-- A reader that comes while the file is written reads what is there. -/
theorem partial_reached (path : getNamespacePath name ≠ [])
    (fits : (pidPath name).length < pathMax) {loop : WriteLoop}
    (visited : Loop.Visits (writePid pid answers) (startWriting pid) loop)
    (some : loop.file ≠ []) (short : loop.file.length < pidBufferSize) :
    (handoff name pid answers).Reachable
      { writer := .writing loop
        reader := .returned (pidOfFile { bytes := loop.file, failed := false }) } := by
  have opened : (handoff name pid answers).Reachable
      { writer := .writing loop, reader := .reading [] } := by
    refine handoff_next (.openFile true) (writing_reached path visited) ?_
    simp [nextHandoff, nextWriter, nextReader, HandoffState.files,
      namespace_pid_path_eq path fits, Writer.linked]
  have read : (handoff name pid answers).Reachable
      { writer := .writing loop, reader := .reading loop.file } := by
    refine handoff_next (.read loop.file.length) opened ?_
    have available : (loop.file.drop 0).take (pidBufferSize - 0) = loop.file :=
      List.take_of_length_le (Nat.le_of_lt short)
    have all : taken loop.file.length loop.file.length = loop.file.length := by
      unfold taken
      omega
    simp only [nextHandoff, nextWriter, nextReader, Writer.file, List.length_nil, available,
      if_neg some, all, List.take_length, List.nil_append, Option.map_some]
  refine handoff_next (.read 1) read ?_
  simp only [nextHandoff, nextWriter, nextReader, Writer.file, List.drop_length, List.take_nil,
    if_true, Option.map_some]

/-- A short first `write` leaves a part of the pid in the file. -/
theorem short_visited (short : ShortFirst pid answers) :
    ∃ loop count, Loop.Visits (writePid pid answers) (startWriting pid) loop ∧
      loop.file = (decimal pid.toInt).take count ∧ 0 < count ∧ count < (decimal pid.toInt).length := by
  obtain ⟨call, count, ⟨interrupted, answered, -⟩, part⟩ := short
  have before := @interrupted_visited pid answers call interrupted
  have again : writePid pid answers { startWriting pid with calls := call } = .inl
      { calls := call + 1
        remaining := printed pid - taken (printed pid) count
        toPrint := 0 + taken (printed pid) count
        file := [] ++ ((pidString pid).drop 0).take (taken (printed pid) count) } := by
    unfold writePid writeRound
    dsimp only
    rw [answered]
    dsimp only
    rw [startWriting, if_pos part]
  refine ⟨_, taken (printed pid) count, .later before again, ?_, taken_pos (printed_pos pid) count,
    part⟩
  dsimp only
  rw [List.nil_append, List.drop_zero, pid_string_eq]

end Short

/-- For a pid file whose path fits, the reader is never wrong exactly when the pid is written at
once. -/
theorem handoff_safe_iff (name : CString) (pid : Int32) (answers : Nat → WriteAnswer)
    (positive : 0 < pid.toInt) (fits : (pidPath name).length < pathMax) :
    HandoffSafe name pid answers ↔ WrittenAtOnce name pid answers := by
  constructor
  · intro safe path short
    obtain ⟨loop, count, visited, written, some, part⟩ := short_visited short
    have length : loop.file.length = count := by
      rw [written, List.length_take]
      omega
    have digits : ∀ character ∈ loop.file, isdigit character = true := by
      intro character member
      rw [written] at member
      exact decimal_digits (Int.le_of_lt positive) character (List.mem_of_mem_take member)
    have fitsBuffer : loop.file.length < pidBufferSize := by
      have whole := decimal_short pid
      omega
    have notEmpty : loop.file ≠ [] := List.ne_nil_of_length_pos (by omega)
    have reached := partial_reached path fits visited notEmpty fitsBuffer
    rw [pid_of_digits digits fitsBuffer] at reached
    rcases safe.neverWrong _ reached _ rfl with empty | complete
    · exact notEmpty empty
    · rw [complete] at length
      omega
  · intro whole
    constructor
    · intro state reached result place
      exact (invariant_reached positive reached).result whole result place
    · intro state reached linked complete
      have path := (invariant_reached positive reached).named linked
      unfold readNamespacePid HandoffState.files
      rw [if_pos ⟨linked, namespace_pid_path_eq path fits⟩, complete]
      exact pid_of_decimal positive

theorem handoff_safe_router :
    0 < (1234 : Int32).toInt ∧ (pidPath (ascii "router")).length < pathMax ∧
      HandoffSafe (ascii "router") 1234 (fun _ => .accepted 4) := by
  have fits : (pidPath (ascii "router")).length < pathMax := by decide +kernel
  refine ⟨by decide, fits, ?_⟩
  rw [handoff_safe_iff (ascii "router") 1234 (fun _ => .accepted 4) (by decide) fits]
  intro _
  apply whole_first_not_short
  exact ⟨0, 4, ⟨fun earlier below => absurd below (Nat.not_lt_zero earlier), rfl, nofun⟩,
    by decide +kernel⟩

/-- The labels of a run in which the reader comes between the first two bytes and the others. -/
def readHalf : List HandoffLabel :=
  [.createFile true, .write, .openFile true, .read 32, .read 32]

theorem half_pid_returned :
    ¬ HandoffSafe (ascii "router") 1234 (fun _ => .accepted 2) ∧
      ∃ state, (handoff (ascii "router") 1234 fun _ => .accepted 2).Reachable state ∧
        state.reader = .returned (ascii "12") := by
  have run : ∃ state, readHalf.foldlM
      (nextHandoff (ascii "router") 1234 fun _ => .accepted 2)
        { writer := .opening, reader := .idle } = some state ∧
      state.reader = .returned (ascii "12") := ⟨_, rfl, by rfl⟩
  obtain ⟨state, taken, wrong⟩ := run
  have start : (handoff (ascii "router") 1234 fun _ => .accepted 2).Reachable
      { writer := .opening, reader := .idle } := .start rfl
  have reached : (handoff (ascii "router") 1234 fun _ => .accepted 2).Reachable state :=
    TransitionSystem.reachable_of_run readHalf start taken
  refine ⟨?_, state, reached, wrong⟩
  intro safe
  rcases safe.neverWrong state reached _ wrong with empty | complete
  · exact absurd empty (by decide +kernel)
  · exact absurd complete (by decide +kernel)

end RedroidExt.Netns
