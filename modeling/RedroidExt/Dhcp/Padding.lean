import RedroidExt.Dhcp.OptionLoop

/-!
# PAD between options

`dhcp.h` defines OPT_PAD, and neither scanner knows it: a PAD byte is read as a code
whose length follows. Two PAD bytes are then an empty option with code 0. A run of odd
length takes the code of the next option for a length.
-/

namespace RedroidExt.Dhcp

open RedroidExt.Library RedroidExt.Library.ByteMemory

set_option autoImplicit false

/-! ## Options with PAD between them -/

/-- Runs of PAD in front of the options, and one more in front of END. The message may go on. -/
structure Message.PaddedOptions (message : Message) (runs : List Nat) (records : List Record)
    (last : Nat) : Prop where
  held : HoldsAt message.dhcpData 240
    (Record.encodePadded runs records ++ (List.replicate last optPad ++ [optEnd]))
  inside : 4 + (Record.encodePadded runs records).length + last + 1 ≤ message.optionsSize

/-- However these runs are filled with options, both scanners find what they find without PAD. -/
def PaddingIgnored (runs : List Nat) (last : Nat) : Prop :=
  ∀ (records : List Record) (plain padded : Message), runs.length = records.length →
    (∀ record ∈ records, record.tag ≠ optPad) → plain.RecordsThenEnd 4 records →
    padded.PaddedOptions runs records last → padded.mSize ≤ Message.capacity →
    (∀ code, code ≠ optPad → code ≠ optEnd →
      padded.optionValue code = plain.optionValue code) ∧
    (readOptions padded).1 = true ∧ (readOptions padded).2 = (readOptions plain).2

/-- There is room for the runs and for options without payload in the options field. -/
def FitsField (runs : List Nat) (last : Nat) : Prop :=
  4 + (runs.sum + 2 * runs.length) + last + 1 ≤ 1024

def EvenRuns (runs : List Nat) (last : Nat) : Prop := (∀ run ∈ runs, Even run) ∧ Even last

/-! ## Even runs -/

section Even

variable {runs : List Nat} {last : Nat} {records : List Record} {plain padded : Message}

theorem padded_fits (same : runs.length = records.length)
    (laid : padded.PaddedOptions runs records last) (small : padded.mSize ≤ Message.capacity) :
    FitsField runs last := by
  have inside := laid.inside
  have size := Message.options_size_eq padded
  have least := Record.encode_all_length_ge records
  rw [Record.encode_padded_length same] at inside
  unfold FitsField
  unfold Message.capacity at small
  omega

theorem padded_records (even : EvenRuns runs last)
    (noEnd : ∀ record ∈ records, record.tag ≠ optEnd)
    (laid : padded.PaddedOptions runs records last) :
    padded.RecordsThenEnd 4
      (Record.withZeroPairs runs records ++ List.replicate (last / 2) Record.zeroPair) := by
  have bytes : Record.encodeAll
      (Record.withZeroPairs runs records ++ List.replicate (last / 2) Record.zeroPair) =
        Record.encodePadded runs records ++ List.replicate last optPad := by
    rw [Record.encode_all_append, Record.encode_zero_pairs even.2,
      Record.encode_padded_even records even.1]
  constructor
  · rw [bytes, List.append_assoc]
    exact laid.held
  · have inside := laid.inside
    rw [bytes, List.length_append, List.length_replicate]
    omega
  · intro record member
    rcases List.mem_append.mp member with among | pair
    · rcases Record.mem_with_zero_pairs among with zero | listed
      · rw [zero]
        decide
      · exact noEnd record listed
    · rw [List.eq_of_mem_replicate pair]
      decide

theorem with_zero_pair (info : DhcpInfo) : info.withRecord Record.zeroPair = info := rfl

theorem padding_ignored_of_even (even : FitsField runs last → EvenRuns runs last) :
    PaddingIgnored runs last := by
  intro records plain padded same _ laidPlain laid small
  have evenRuns := even (padded_fits same laid small)
  have laidPairs := padded_records evenRuns laidPlain.noEnd laid
  have read := read_options_then_end laidPairs
  refine ⟨?_, ?_, ?_⟩
  · intro code notPad _
    rw [Message.option_value_then_end laidPairs, Message.option_value_then_end laidPlain]
    have found : Record.firstValue (Record.withZeroPairs runs records ++
        List.replicate (last / 2) Record.zeroPair) code =
          Record.firstValue (Record.withZeroPairs runs records) code :=
      Record.first_value_append_zero_pairs _ _ notPad
    rw [found]
    exact Record.first_value_with_zero_pairs same notPad
  · rw [read]
  · rw [read, read_options_then_end laidPlain, List.foldl_append,
      Record.foldl_zero_pairs with_zero_pair, Record.foldl_with_zero_pairs with_zero_pair same]

end Even

/-! ## Odd runs -/

section Odd

variable {message : Message} {front : List Record}

theorem scan_finds_nothing (message : Message) (code : UInt8) (i : Nat)
    (absent : ∀ index, i ≤ index → index < message.optionsSize → message.options index ≠ code) :
    Loop.Returns (message.getOptionStep code) i none := by
  induction left : message.optionsSize - i using Nat.strong_induction_on generalizing i with
  | h left ih =>
      rcases message.get_option_step_cases code i with
        ⟨-, leaves⟩ | ⟨-, -, leaves⟩ | ⟨inside, -, found, -⟩ | ⟨inside, -, -, again⟩
      · exact Loop.returns_exit leaves
      · exact Loop.returns_exit leaves
      · exact absurd found (absent i (Nat.le_refl i) (by omega))
      · refine Loop.returns_next again (ih _ ?_ _ ?_ rfl)
        · omega
        · exact fun index above below => absent index (by omega) below

/-- A PAD byte that is left over takes the code behind it for its length. -/
theorem misread_code_missed (laid : message.RecordsAt 4 front) {code : UInt8}
    (notPad : code ≠ optPad) (others : ∀ record ∈ front, record.tag ≠ code)
    (pad : message.options (4 + (Record.encodeAll front).length) = optPad)
    (room : 4 + (Record.encodeAll front).length + 2 < message.optionsSize)
    (behind : ∀ index, 4 + (Record.encodeAll front).length + 2 ≤ index →
      index < message.optionsSize → message.options index ≠ code) :
    message.optionValue code = none := by
  have passed := Message.get_option_passes laid others (by omega)
  have again : message.getOptionStep code (4 + (Record.encodeAll front).length) =
      .inl (4 + (Record.encodeAll front).length +
        (2 + (message.options (4 + (Record.encodeAll front).length + 1)).toNat)) := by
    unfold Message.getOptionStep
    rw [if_pos room, pad, if_neg (by decide), if_neg notPad.symm]
  have nothing := scan_finds_nothing message code
    (4 + (Record.encodeAll front).length +
      (2 + (message.options (4 + (Record.encodeAll front).length + 1)).toNat))
    fun index above below => behind index (by omega) below
  unfold Message.optionValue
  rw [Message.get_option_eq_of_returns
    (Loop.returns_of_visits passed (Loop.returns_next again nothing))]
  rfl

/-- In front of END it takes 255 for its length. -/
theorem misread_end_rejected (laid : message.RecordsAt 4 front)
    (pad : message.options (4 + (Record.encodeAll front).length) = optPad)
    (closing : message.options (4 + (Record.encodeAll front).length + 1) = optEnd)
    (size : message.optionsSize = 4 + (Record.encodeAll front).length + 2) :
    (readOptions message).1 = false := by
  have length : (message.options (4 + (Record.encodeAll front).length + 1)).toNat = 255 := by
    rw [closing]
    rfl
  have notEnd : message.options (4 + (Record.encodeAll front).length) ≠ optEnd := by
    rw [pad]
    decide
  have rejects : readOptionsStep message ⟨4 + (Record.encodeAll front).length,
      front.foldl DhcpInfo.withRecord .cleared⟩ = .inr (false, _) :=
    read_options_step_rejects _ (by dsimp only; omega) notEnd (by dsimp only; omega)
  rw [read_options_eq_of_leaves (read_options_passes laid .cleared) rejects]

end Odd

/-! ## Messages for every pattern -/

/-- The options field holds these bytes behind the cookie. -/
def Message.ofOptions (bytes : List UInt8) : Message where
  dhcpData := store (fun _ => 0) 240 bytes
  mSize := 240 + bytes.length

theorem of_options_size (bytes : List UInt8) :
    (Message.ofOptions bytes).optionsSize = 4 + bytes.length := by
  rw [Message.options_size_eq]
  have size : (Message.ofOptions bytes).mSize = 240 + bytes.length := rfl
  omega

theorem of_options_byte (bytes : List UInt8) {index : Nat} (inside : index < bytes.length) :
    (Message.ofOptions bytes).options (4 + index) = bytes.getD index 0 := by
  unfold Message.options
  rw [← Nat.add_assoc]
  exact store_inside (fun _ => 0) 240 bytes index inside

/-- The bytes behind a list of records. -/
theorem of_options_behind (front : List Record) (rest : List UInt8) {index : Nat}
    (inside : index < rest.length) :
    (Message.ofOptions (Record.encodeAll front ++ rest)).options
      (4 + (Record.encodeAll front).length + index) = rest.getD index 0 := by
  rw [Nat.add_assoc, of_options_byte _ (by rw [List.length_append]; omega),
    List.getD_append_right _ _ _ _ (by omega), Nat.add_sub_cancel_left]

theorem of_options_records {front : List Record} (noEnd : ∀ record ∈ front, record.tag ≠ optEnd)
    (rest : List UInt8) : (Message.ofOptions (Record.encodeAll front ++ rest)).RecordsAt 4 front where
  held := ((holds_at_append _ _ _ _).mp (holds_at_store _ _ _)).1
  inside := by
    rw [of_options_size, List.length_append]
    omega
  noEnd := noEnd

theorem of_options_then_end {records : List Record}
    (noEnd : ∀ record ∈ records, record.tag ≠ optEnd) :
    (Message.ofOptions (Record.encodeAll records ++ [optEnd])).RecordsThenEnd 4 records where
  held := holds_at_store _ _ _
  inside := by
    rw [of_options_size, List.length_append]
    exact Nat.le_of_eq (Nat.add_assoc _ _ _)
  noEnd := noEnd

theorem of_options_padded (runs : List Nat) (records : List Record) (last : Nat) :
    (Message.ofOptions (Record.encodePadded runs records ++
      (List.replicate last optPad ++ [optEnd]))).PaddedOptions runs records last where
  held := holds_at_store _ _ _
  inside := by
    rw [of_options_size, List.length_append, List.length_append, List.length_replicate]
    exact Nat.le_of_eq (by simp only [List.length_singleton]; omega)

/-! ## The exact condition -/

theorem no_payload_fits : ([] : List UInt8).length ≤ 255 := Nat.zero_le _

/-- An option without payload. -/
def bareOption (code : UInt8) : Record := ⟨code, [], no_payload_fits⟩

/-- One of them behind each run. -/
def bareOptions (runs : List Nat) : List Record := runs.map fun _ => bareOption optSubnetMask

/-- A code that is not among the others here. -/
abbrev markedCode : UInt8 := 200

def markedOptions (before after : List Nat) : List Record :=
  bareOptions before ++ bareOption markedCode :: bareOptions after

/-- What both scanners make of the bytes in front of the PAD that is left over. -/
def pairedFront (before : List Nat) (run : Nat) : List Record :=
  Record.withZeroPairs before (bareOptions before) ++ List.replicate (run / 2) Record.zeroPair

theorem bare_options_length (runs : List Nat) : runs.length = (bareOptions runs).length :=
  (List.length_map _).symm

theorem mem_bare_options {runs : List Nat} {record : Record} (member : record ∈ bareOptions runs) :
    record = bareOption optSubnetMask := by
  obtain ⟨-, -, same⟩ := List.mem_map.mp member
  exact same.symm

theorem mem_marked_options {before after : List Nat} {record : Record}
    (member : record ∈ markedOptions before after) :
    record = bareOption optSubnetMask ∨ record = bareOption markedCode := by
  rcases List.mem_append.mp member with front | back
  · exact .inl (mem_bare_options front)
  · rcases List.mem_cons.mp back with marked | later
    · exact .inr marked
    · exact .inl (mem_bare_options later)

theorem mem_paired_front {before : List Nat} {run : Nat} {record : Record}
    (member : record ∈ pairedFront before run) :
    record = bareOption optSubnetMask ∨ record = Record.zeroPair := by
  rcases List.mem_append.mp member with front | pair
  · rcases Record.mem_with_zero_pairs front with zero | bare
    · exact .inr zero
    · exact .inl (mem_bare_options bare)
  · exact .inr (List.eq_of_mem_replicate pair)

theorem paired_front_tags {before : List Nat} {run : Nat} {code : UInt8}
    (notMask : code ≠ optSubnetMask) (notPad : code ≠ optPad) :
    ∀ record ∈ pairedFront before run, record.tag ≠ code := by
  intro record member
  rcases mem_paired_front member with mask | pad
  · rw [mask]
    exact notMask.symm
  · rw [pad]
    exact notPad.symm

theorem bare_options_tags {runs : List Nat} {code : UInt8} (notMask : code ≠ optSubnetMask) :
    ∀ record ∈ bareOptions runs, record.tag ≠ code := by
  intro record member
  rw [mem_bare_options member]
  exact notMask.symm

theorem marked_options_tags {before after : List Nat} {code : UInt8}
    (notMask : code ≠ optSubnetMask) (notMarked : code ≠ markedCode) :
    ∀ record ∈ markedOptions before after, record.tag ≠ code := by
  intro record member
  rcases mem_marked_options member with mask | marked
  · rw [mask]
    exact notMask.symm
  · rw [marked]
    exact notMarked.symm

theorem encode_bare_length {records : List Record} (bare : ∀ record ∈ records, record.value = []) :
    (Record.encodeAll records).length = 2 * records.length := by
  induction records with
  | nil => rfl
  | cons record rest ih =>
      rw [Record.encode_all_cons, List.length_append, Record.encode_length,
        bare record List.mem_cons_self,
        ih fun other member => bare other (List.mem_cons_of_mem _ member), List.length_cons]
      simp only [List.length_nil]
      omega

theorem padded_message_small {runs : List Nat} {last : Nat} {records : List Record}
    (fits : FitsField runs last) (same : runs.length = records.length)
    (bare : ∀ record ∈ records, record.value = []) :
    (Message.ofOptions (Record.encodePadded runs records ++
      (List.replicate last optPad ++ [optEnd]))).mSize ≤ Message.capacity := by
  unfold FitsField at fits
  unfold Message.ofOptions Message.capacity
  simp only [List.length_append, List.length_replicate, List.length_singleton,
    Record.encode_padded_length same, encode_bare_length bare]
  omega

theorem marked_not_behind (runs : List Nat) (last : Nat) :
    markedCode ∉ 0 :: (Record.encodePadded runs (bareOptions runs) ++
      (List.replicate last optPad ++ [optEnd])) := by
  have absent : markedCode ∉ Record.encodePadded runs (bareOptions runs) := by
    induction runs with
    | nil => exact List.not_mem_nil
    | cons run rest ih =>
        change markedCode ∉ List.replicate run 0 ++ ((bareOption optSubnetMask).encode ++
          Record.encodePadded rest (bareOptions rest))
        simp only [List.mem_append, List.mem_replicate, not_or]
        exact ⟨fun pad => absurd pad.2 (by decide), by decide, ih⟩
  simp only [List.mem_cons, List.mem_append, List.mem_replicate, List.not_mem_nil, or_false, not_or]
  exact ⟨by decide, absent, fun pad => absurd pad.2 (by decide), by decide⟩

/-- The first run of odd length. -/
theorem first_odd_run {runs : List Nat} (odd : ¬ ∀ run ∈ runs, Even run) :
    ∃ before run after, runs = before ++ run :: after ∧ (∀ other ∈ before, Even other) ∧
      ¬ Even run := by
  induction runs with
  | nil => exact absurd (fun _ member => nomatch member) odd
  | cons run rest ih =>
      by_cases even : Even run
      · have later : ¬ ∀ other ∈ rest, Even other := by
          intro all
          exact odd (List.forall_mem_cons.mpr ⟨even, all⟩)
        obtain ⟨before, oddRun, after, same, evens, notEven⟩ := ih later
        exact ⟨run :: before, oddRun, after, congrArg (run :: ·) same,
          List.forall_mem_cons.mpr ⟨even, evens⟩, notEven⟩
      · exact ⟨[], run, rest, rfl, by simp, even⟩

/-- An odd run is whole pairs and one byte. -/
theorem replicate_odd {run : Nat} (odd : ¬ Even run) :
    List.replicate run optPad =
      Record.encodeAll (List.replicate (run / 2) Record.zeroPair) ++ [optPad] := by
  have half : Even (2 * (run / 2)) := ⟨run / 2, by omega⟩
  have parity := Nat.not_even_iff.mp odd
  have pairs := Record.encode_zero_pairs half
  rw [Nat.mul_div_cancel_left _ (by decide)] at pairs
  rw [pairs, ← List.replicate_succ']
  congr 1
  omega

theorem padded_marked_bytes {before : List Nat} {run : Nat} (after : List Nat) (last : Nat)
    (even : ∀ other ∈ before, Even other) (odd : ¬ Even run) :
    Record.encodePadded (before ++ run :: after) (markedOptions before after) ++
        (List.replicate last optPad ++ [optEnd]) =
      Record.encodeAll (pairedFront before run) ++ optPad :: markedCode :: 0 ::
        (Record.encodePadded after (bareOptions after) ++
          (List.replicate last optPad ++ [optEnd])) := by
  unfold markedOptions pairedFront
  rw [Record.encode_padded_append (bare_options_length before),
    Record.encode_padded_even _ even, Record.encodePadded, replicate_odd odd,
    Record.encode_all_append]
  simp only [List.append_assoc]
  rfl

/-- A message whose pattern starts with an odd run behind even ones hides the option behind
that run. -/
theorem odd_run_hides {before : List Nat} {run : Nat} (after : List Nat) (last : Nat)
    (even : ∀ other ∈ before, Even other) (odd : ¬ Even run) :
    (Message.ofOptions (Record.encodePadded (before ++ run :: after) (markedOptions before after) ++
      (List.replicate last optPad ++ [optEnd]))).optionValue markedCode = none := by
  rw [padded_marked_bytes after last even odd]
  have size := of_options_size (Record.encodeAll (pairedFront before run) ++
    optPad :: markedCode :: 0 :: (Record.encodePadded after (bareOptions after) ++
      (List.replicate last optPad ++ [optEnd])))
  simp only [List.length_append, List.length_cons, List.length_replicate] at size
  refine misread_code_missed
    (of_options_records (paired_front_tags (by decide) (by decide)) _) (by decide)
    (paired_front_tags (by decide) (by decide)) ?_ (by omega) ?_
  · exact of_options_behind _ (optPad :: markedCode :: 0 :: _) (Nat.zero_lt_succ _)
  · intro index above below
    obtain ⟨behind, same⟩ := Nat.exists_eq_add_of_le above
    rw [same, Nat.add_assoc _ 2 behind,
      of_options_behind _ _ (by simp only [List.length_cons, List.length_append,
        List.length_replicate]; omega)]
    intro marked
    rw [Nat.add_comm 2 behind, List.getD_cons_succ, List.getD_cons_succ] at marked
    have inside : behind < (0 :: (Record.encodePadded after (bareOptions after) ++
        (List.replicate last optPad ++ [optEnd]))).length := by
      simp only [List.length_cons, List.length_append, List.length_replicate]
      omega
    rw [List.getD_eq_getElem _ _ inside] at marked
    exact marked_not_behind after last (marked ▸ List.getElem_mem inside)

theorem marked_value (before after : List Nat) :
    Record.firstValue (markedOptions before after) markedCode = some [] := by
  unfold markedOptions
  induction before with
  | nil => exact Record.first_value_cons_same (bareOption markedCode) (bareOptions after)
  | cons run rest ih =>
      have other : (bareOption optSubnetMask).tag ≠ markedCode := by
        decide
      exact (Record.first_value_cons_other other).trans ih

theorem odd_run_breaks {before : List Nat} {run : Nat} {after : List Nat} {last : Nat}
    (fits : FitsField (before ++ run :: after) last) (even : ∀ other ∈ before, Even other)
    (odd : ¬ Even run) : ¬ PaddingIgnored (before ++ run :: after) last := by
  intro ignored
  have lengths : (before ++ run :: after).length = (markedOptions before after).length := by
    simp [markedOptions, bareOptions]
  have noEnd : ∀ record ∈ markedOptions before after, record.tag ≠ optEnd :=
    marked_options_tags (by decide) (by decide)
  have laid := of_options_then_end noEnd
  have bare : ∀ record ∈ markedOptions before after, record.value = [] := by
    intro record member
    rcases mem_marked_options member with mask | marked
    · rw [mask]
      rfl
    · rw [marked]
      rfl
  have found := (ignored _ _ _ lengths (marked_options_tags (by decide) (by decide)) laid
    (of_options_padded _ _ _) (padded_message_small fits lengths bare)).1 markedCode
    (by decide) (by decide)
  rw [odd_run_hides after last even odd, Message.option_value_then_end laid, marked_value] at found
  cases found

theorem odd_last_rejected {runs : List Nat} {last : Nat} (even : ∀ run ∈ runs, Even run)
    (odd : ¬ Even last) :
    (readOptions (Message.ofOptions (Record.encodePadded runs (bareOptions runs) ++
      (List.replicate last optPad ++ [optEnd])))).1 = false := by
  have bytes : Record.encodePadded runs (bareOptions runs) ++
      (List.replicate last optPad ++ [optEnd]) =
        Record.encodeAll (pairedFront runs last) ++ [optPad, optEnd] := by
    unfold pairedFront
    rw [Record.encode_padded_even _ even, replicate_odd odd, Record.encode_all_append]
    simp only [List.append_assoc]
    rfl
  rw [bytes]
  refine misread_end_rejected (of_options_records (paired_front_tags (by decide) (by decide)) _)
    ?_ ?_ ?_
  · exact of_options_behind _ [optPad, optEnd] (Nat.zero_lt_succ 1)
  · exact of_options_behind _ [optPad, optEnd] (Nat.lt_succ_self 1)
  · rw [of_options_size, List.length_append, ← Nat.add_assoc]
    rfl

theorem odd_last_breaks {runs : List Nat} {last : Nat} (fits : FitsField runs last)
    (even : ∀ run ∈ runs, Even run) (odd : ¬ Even last) : ¬ PaddingIgnored runs last := by
  intro ignored
  have bare : ∀ record ∈ bareOptions runs, record.value = [] := by
    intro record member
    rw [mem_bare_options member]
    rfl
  have accepted := (ignored _ _ _ (bare_options_length runs) (bare_options_tags (by decide))
    (of_options_then_end (bare_options_tags (by decide))) (of_options_padded _ _ _)
    (padded_message_small fits (bare_options_length runs) bare)).2.1
  rw [odd_last_rejected even odd] at accepted
  cases accepted

/-- PAD changes nothing, whatever the options between it, exactly when all its runs are even. -/
theorem padding_ignored_iff (runs : List Nat) (last : Nat) :
    PaddingIgnored runs last ↔ (FitsField runs last → EvenRuns runs last) := by
  constructor
  · intro ignored fits
    have evens : ∀ run ∈ runs, Even run := by
      by_contra odd
      obtain ⟨before, run, after, same, even, notEven⟩ := first_odd_run odd
      subst same
      exact odd_run_breaks fits even notEven ignored
    refine ⟨evens, ?_⟩
    by_contra odd
    exact odd_last_breaks fits evens odd ignored
  · exact padding_ignored_of_even

/-- The ACK with a lease of 600 seconds, and one PAD byte behind its message type. -/
def paddedAck : Message where
  dhcpData := store (Message.construct opBootReply (fun _ => 2) dhcpAck 2).dhcpData 243
    (optPad :: (tenMinuteRecord.encode ++ [optEnd]))
  mSize := 251

/-- Both messages are ACKs with the same two options; with the PAD byte the lease time is not
found and the ACK is rejected. -/
theorem pad_hides_lease_time :
    paddedAck.isValidDhcpMessageXid opBootReply (swap32 2) = true ∧ paddedAck.type = dhcpAck ∧
      tenMinuteAck.RecordsThenEnd 4 tenMinuteRecords ∧
      paddedAck.PaddedOptions [0, 1] tenMinuteRecords 0 ∧
      tenMinuteAck.optionValue optLeaseTime = some [0, 0, 2, 0x58] ∧
      paddedAck.optionValue optLeaseTime = none ∧ (readOptions tenMinuteAck).1 = true ∧
      (readOptions paddedAck).1 = false ∧ ¬ PaddingIgnored [0, 1] 0 := by
  have laid := Message.records_then_end ten_minute_ack_laid
  have held : HoldsAt paddedAck.dhcpData 240 (Record.encodePadded [0, 1] tenMinuteRecords ++
      (List.replicate 0 optPad ++ [optEnd])) := by
    rw [holds_at_iff]
    decide +kernel
  have padded : paddedAck.PaddedOptions [0, 1] tenMinuteRecords 0 := ⟨held, by decide +kernel⟩
  have rejected : (readOptions paddedAck).1 = false := by
    decide +kernel
  refine ⟨by decide +kernel, by decide +kernel, laid, padded, by decide +kernel,
    by decide +kernel, by decide +kernel, rejected, ?_⟩
  intro ignored
  have noPad : ∀ record ∈ tenMinuteRecords, record.tag ≠ optPad := by
    decide
  have accepted := (ignored _ _ _ rfl noPad laid padded (by decide +kernel)).2.1
  rw [rejected] at accepted
  cases accepted

end RedroidExt.Dhcp
