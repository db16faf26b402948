import RedroidExt.Dhcp.AckDecoding

/-!
# The bounds of the option loop

`configureDhcp` checks that an option ends in the message with a test that leaves out
the two bytes of its header but also the one byte by which its comparison is off.
What is left is an option that ends one byte behind the message.
-/

namespace RedroidExt.Dhcp

open RedroidExt.Library RedroidExt.Library.ByteMemory

set_option autoImplicit false

namespace Message

/-- The option and its header lie inside the received bytes. -/
def OptionFits (msg : Message) (i : Nat) : Prop :=
  i + 2 + (msg.options (i + 1)).toNat ≤ msg.optionsSize

instance (msg : Message) (i : Nat) : Decidable (msg.OptionFits i) :=
  inferInstanceAs (Decidable (_ ≤ _))

/-- The places that lengths lead to from the end of the cookie, over whole options in front
of END. -/
inductive OptionAt (msg : Message) : Nat → Prop
  | first : OptionAt msg 4
  | next {i : Nat} (before : OptionAt msg i) (notEnd : msg.options i ≠ optEnd)
      (fits : msg.OptionFits i) : OptionAt msg (i + (2 + (msg.options (i + 1)).toNat))

/-- An option's header lies in the message, and its payload ends one byte behind. -/
def EndsOneBehind (msg : Message) : Prop :=
  ∃ i, msg.OptionAt i ∧ i + 1 < msg.optionsSize ∧ msg.options i ≠ optEnd ∧
    i + 2 + (msg.options (i + 1)).toNat = msg.optionsSize + 1

/-- The last byte of the message is the code of an option other than END. -/
def EndsInCode (msg : Message) : Prop :=
  ∃ i, msg.OptionAt i ∧ i + 1 = msg.optionsSize ∧ msg.options i ≠ optEnd

end Message

/-! ## Rounds of the loop -/

/-- The loop before its first round. -/
def OptionScan.start : OptionScan := { i := 4, info := .cleared }

abbrev VisitsScan (msg : Message) (scan : OptionScan) : Prop :=
  Loop.Visits (readOptionsStep msg) .start scan

section Rounds

variable {msg : Message} {scan next : OptionScan}

theorem read_options_step_again (again : readOptionsStep msg scan = .inl next) :
    scan.i + 1 < msg.optionsSize ∧ msg.options scan.i ≠ optEnd ∧
      scan.i + 2 + (msg.options (scan.i + 1)).toNat ≤ msg.optionsSize + 1 ∧
      next.i = scan.i + (2 + (msg.options (scan.i + 1)).toNat) ∧
      next.info = scan.info.readOption msg (msg.options scan.i) (msg.options (scan.i + 1))
        (scan.i + 2) := by
  have size := Message.options_size_eq msg
  unfold readOptionsStep at again
  dsimp only at again
  split_ifs at again with inside isEnd short
  have same := Sum.inl.inj again
  rw [← same]
  exact ⟨inside, isEnd, by omega, rfl, rfl⟩

/-- The test of the code, which an option passes that ends at most one byte behind. -/
theorem read_options_step_passes (scan : OptionScan) (inside : scan.i + 1 < msg.optionsSize)
    (notEnd : msg.options scan.i ≠ optEnd)
    (passes : scan.i + 2 + (msg.options (scan.i + 1)).toNat ≤ msg.optionsSize + 1) :
    readOptionsStep msg scan = .inl
      { i := scan.i + (2 + (msg.options (scan.i + 1)).toNat)
        info := scan.info.readOption msg (msg.options scan.i) (msg.options (scan.i + 1))
          (scan.i + 2) } := by
  have size := Message.options_size_eq msg
  unfold readOptionsStep
  dsimp only
  rw [if_pos inside, if_neg notEnd, if_neg (by omega)]

theorem read_options_step_rejects (scan : OptionScan) (inside : scan.i + 1 < msg.optionsSize)
    (notEnd : msg.options scan.i ≠ optEnd)
    (tooLong : msg.optionsSize + 1 < scan.i + 2 + (msg.options (scan.i + 1)).toNat) :
    readOptionsStep msg scan = .inr (false, scan.info) := by
  have size := Message.options_size_eq msg
  unfold readOptionsStep
  dsimp only
  rw [if_pos inside, if_neg notEnd, if_pos (by omega)]

theorem read_options_step_stops (isEnd : msg.options scan.i = optEnd) :
    readOptionsStep msg scan = .inr (true, scan.info) := by
  unfold readOptionsStep
  dsimp only
  rw [if_pos isEnd]
  exact ite_self _

theorem read_options_step_outside (scan : OptionScan) (outside : msg.optionsSize ≤ scan.i + 1) :
    readOptionsStep msg scan = .inr (true, scan.info) := by
  unfold readOptionsStep
  dsimp only
  rw [if_neg (by omega)]

/-- Where the loop is left, `mDhcpInfo` is what the rounds made of it. -/
theorem read_options_step_leaves {result : Bool × DhcpInfo}
    (leaves : readOptionsStep msg scan = .inr result) : result.2 = scan.info := by
  unfold readOptionsStep at leaves
  dsimp only at leaves
  split_ifs at leaves <;> exact (congrArg Prod.snd (Sum.inr.inj leaves)).symm

theorem read_options_returned (msg : Message) :
    Loop.Returns (readOptionsStep msg) .start (readOptions msg) := by
  obtain ⟨result, finished⟩ := Loop.run_some_of_measure
    (fun scan : OptionScan => msg.optionsSize - scan.i) (read_options_step_decreases msg)
    OptionScan.start (msg.optionsSize + 1) (by omega)
  have same : readOptions msg = result := by
    unfold readOptions
    change (Loop.run (readOptionsStep msg) (msg.optionsSize + 1) OptionScan.start).getD _ = _
    rw [finished, Option.getD_some]
  exact same ▸ ⟨_, finished⟩

theorem read_options_eq_of_leaves (visited : VisitsScan msg scan) {result : Bool × DhcpInfo}
    (leaves : readOptionsStep msg scan = .inr result) : readOptions msg = result :=
  Loop.returns_unique (read_options_returned msg)
    (Loop.returns_of_visits visited (Loop.returns_exit leaves))

/-- The loop visits the places that whole options lead to. -/
theorem visits_of_option_at {i : Nat} (reached : msg.OptionAt i) :
    ∃ info, VisitsScan msg { i := i, info := info } := by
  induction reached with
  | first => exact ⟨.cleared, .first⟩
  | @next i before notEnd fits ih =>
      obtain ⟨info, visited⟩ := ih
      unfold Message.OptionFits at fits
      exact ⟨_, .later visited (read_options_step_passes ⟨i, info⟩
        (by dsimp only; omega) notEnd (by dsimp only; omega))⟩

/-- It visits no others, unless it passes an option that does not fit. -/
theorem option_at_of_visits (visited : VisitsScan msg scan) :
    msg.OptionAt scan.i ∨ scan.i = msg.optionsSize + 1 ∧ msg.EndsOneBehind := by
  induction visited with
  | first => exact .inl .first
  | @later scan next before again ih =>
      obtain ⟨inside, notEnd, passes, place, -⟩ := read_options_step_again again
      rw [place]
      rcases ih with reached | ⟨behind, -⟩
      · by_cases fits : msg.OptionFits scan.i
        · exact .inl (.next reached notEnd fits)
        · unfold Message.OptionFits at fits
          exact .inr ⟨by omega, _, reached, inside, notEnd, by omega⟩
      · omega

theorem option_at_of_inside (visited : VisitsScan msg scan) (inside : scan.i < msg.optionsSize) :
    msg.OptionAt scan.i := by
  rcases option_at_of_visits visited with reached | ⟨behind, -⟩
  · exact reached
  · omega

end Rounds

/-! ## Options that are passed -/

/-- An option is read as the record that its payload makes. -/
theorem read_option_loaded (info : DhcpInfo) (msg : Message) (optCode optLength : UInt8)
    (opt : Nat) (bounded : (load msg.dhcpData (236 + opt) optLength.toNat).length ≤ 255) :
    info.readOption msg optCode optLength opt =
      info.withRecord ⟨optCode, load msg.dhcpData (236 + opt) optLength.toNat, bounded⟩ := by
  have read := @read_option_record info msg ⟨optCode, _, bounded⟩ opt
    (holds_at_load msg.dhcpData (236 + opt) optLength.toNat)
  simp only [load_length, UInt8.ofNat_toNat] at read
  exact read

theorem read_option_agrees {left right : Message} (same : Message.Agrees left right)
    (info : DhcpInfo) (optCode optLength : UInt8) {opt : Nat}
    (inside : opt + optLength.toNat ≤ left.optionsSize) :
    info.readOption left optCode optLength opt = info.readOption right optCode optLength opt := by
  have bound := optLength.toNat_lt
  have size := Message.options_size_eq left
  have payload : load left.dhcpData (236 + opt) optLength.toNat =
      load right.dhcpData (236 + opt) optLength.toNat := by
    apply load_congr
    intro index _ below
    exact same.2 index (by omega)
  rw [read_option_loaded info left optCode optLength opt (by rw [load_length]; omega),
    read_option_loaded info right optCode optLength opt (by rw [load_length]; omega)]
  congr 2

/-- Passing an option means that it fits, and what is stored comes from the received bytes. -/
structure PassesWholeOptions (msg : Message) : Prop where
  passed : ∀ scan next, VisitsScan msg scan → readOptionsStep msg scan = .inl next →
    msg.OptionFits scan.i
  stored : ∀ other, Message.Agrees msg other → readOptions other = readOptions msg

/-- An option in front of END that does not fit makes the loop return false. -/
def RejectsCutOptions (msg : Message) : Prop :=
  ∀ scan, VisitsScan msg scan → scan.i < msg.optionsSize → msg.options scan.i ≠ optEnd →
    ¬ msg.OptionFits scan.i → (readOptions msg).1 = false

section Bounds

variable {msg : Message}

theorem visited_fits (noneBehind : ¬ msg.EndsOneBehind) {scan next : OptionScan}
    (visited : VisitsScan msg scan) (again : readOptionsStep msg scan = .inl next) :
    msg.OptionFits scan.i := by
  obtain ⟨inside, notEnd, passes, -, -⟩ := read_options_step_again again
  have reached := option_at_of_inside visited (by omega)
  by_contra cut
  unfold Message.OptionFits at cut
  exact noneBehind ⟨scan.i, reached, inside, notEnd, by omega⟩

theorem read_options_step_agrees {other : Message} (same : Message.Agrees msg other)
    {scan : OptionScan}
    (fits : ∀ next, readOptionsStep msg scan = .inl next → msg.OptionFits scan.i) :
    readOptionsStep msg scan = readOptionsStep other scan := by
  have sizes := Message.options_size_agrees same
  by_cases inside : scan.i + 1 < msg.optionsSize
  · have code := Message.options_agrees same scan.i (by omega)
    have length := Message.options_agrees same (scan.i + 1) inside
    by_cases isEnd : msg.options scan.i = optEnd
    · rw [read_options_step_stops isEnd, read_options_step_stops (code ▸ isEnd)]
    · by_cases passes :
          scan.i + 2 + (msg.options (scan.i + 1)).toNat ≤ msg.optionsSize + 1
      · have again := read_options_step_passes scan inside isEnd passes
        have whole := fits _ again
        have read := read_option_agrees same scan.info (msg.options scan.i)
          (msg.options (scan.i + 1)) whole
        rw [again, read_options_step_passes scan (sizes ▸ inside) (code ▸ isEnd)
          (sizes ▸ length ▸ passes), read, code, length]
      · rw [read_options_step_rejects scan inside isEnd (by omega),
          read_options_step_rejects scan (sizes ▸ inside) (code ▸ isEnd)
            (by rw [← sizes, ← length]; omega)]
  · rw [read_options_step_outside scan (by omega), read_options_step_outside scan (by omega)]

theorem passes_whole_options (noneBehind : ¬ msg.EndsOneBehind) : PassesWholeOptions msg where
  passed := fun _ _ visited again => visited_fits noneBehind visited again
  stored := by
    intro other same
    have returned := Loop.returns_congr (fun scan visited => read_options_step_agrees same
      fun _ again => visited_fits noneBehind visited again) (read_options_returned msg)
    exact Loop.returns_unique (read_options_returned other) returned

/-- An option that ends one byte behind is passed, and it is the last one. -/
theorem one_behind_passed (behind : msg.EndsOneBehind) :
    ∃ scan next, VisitsScan msg scan ∧ readOptionsStep msg scan = .inl next ∧
      scan.i < msg.optionsSize ∧ msg.options scan.i ≠ optEnd ∧ ¬ msg.OptionFits scan.i ∧
      (readOptions msg).1 = true := by
  obtain ⟨i, reached, inside, notEnd, length⟩ := behind
  obtain ⟨info, visited⟩ := visits_of_option_at reached
  have again := read_options_step_passes ⟨i, info⟩ inside notEnd length.le
  have leaves : ∀ info, readOptionsStep msg ⟨i + (2 + (msg.options (i + 1)).toNat), info⟩ =
      .inr (true, info) := fun info => read_options_step_outside _ (by dsimp only; omega)
  refine ⟨⟨i, info⟩, _, visited, again, by dsimp only; omega, notEnd, ?_, ?_⟩
  · unfold Message.OptionFits
    dsimp only
    omega
  · rw [read_options_eq_of_leaves (.later visited again) (leaves _)]

theorem code_at_end_accepted (cut : msg.EndsInCode) :
    ∃ scan, VisitsScan msg scan ∧ scan.i < msg.optionsSize ∧ msg.options scan.i ≠ optEnd ∧
      ¬ msg.OptionFits scan.i ∧ (readOptions msg).1 = true := by
  obtain ⟨i, reached, last, notEnd⟩ := cut
  obtain ⟨info, visited⟩ := visits_of_option_at reached
  have leaves := read_options_step_outside ⟨i, info⟩ last.ge
  refine ⟨⟨i, info⟩, visited, by dsimp only; omega, notEnd, ?_, ?_⟩
  · unfold Message.OptionFits
    dsimp only
    omega
  · rw [read_options_eq_of_leaves visited leaves]

theorem rejects_cut_options (noneBehind : ¬ msg.EndsOneBehind) (noCode : ¬ msg.EndsInCode) :
    RejectsCutOptions msg := by
  intro scan visited inside notEnd cut
  have reached := option_at_of_inside visited inside
  unfold Message.OptionFits at cut
  by_cases last : scan.i + 1 = msg.optionsSize
  · exact absurd ⟨scan.i, reached, last, notEnd⟩ noCode
  · have inside : scan.i + 1 < msg.optionsSize := by omega
    have oneBehind : scan.i + 2 + (msg.options (scan.i + 1)).toNat ≠ msg.optionsSize + 1 :=
      fun length => noneBehind ⟨scan.i, reached, inside, notEnd, length⟩
    have rejects := read_options_step_rejects scan inside notEnd (by omega)
    rw [read_options_eq_of_leaves visited rejects]

end Bounds

/-- The loop keeps to the message exactly when no option ends one byte behind it, and rejects
every cut option exactly when, besides, the message does not end with a bare code. -/
theorem cut_options_rejected_iff (msg : Message) :
    (PassesWholeOptions msg ↔ ¬ msg.EndsOneBehind) ∧
      (RejectsCutOptions msg ↔ ¬ msg.EndsOneBehind ∧ ¬ msg.EndsInCode) := by
  constructor
  · constructor
    · intro whole behind
      obtain ⟨scan, next, visited, again, -, -, cut, -⟩ := one_behind_passed behind
      exact cut (whole.passed scan next visited again)
    · exact passes_whole_options
  · constructor
    · intro rejects
      constructor
      · intro behind
        obtain ⟨scan, -, visited, -, inside, notEnd, cut, accepted⟩ := one_behind_passed behind
        exact Bool.noConfusion ((rejects scan visited inside notEnd cut).symm.trans accepted)
      · intro code
        obtain ⟨scan, visited, inside, notEnd, cut, accepted⟩ := code_at_end_accepted code
        exact Bool.noConfusion ((rejects scan visited inside notEnd cut).symm.trans accepted)
    · exact fun clean => rejects_cut_options clean.1 clean.2

/-- An ACK whose last option, a lease time of 600 seconds, misses its last byte. -/
def cutAck : Message :=
  let whole := (Message.construct opBootReply (fun _ => 2) dhcpAck 2).addOption optLeaseTime
    [0, 0, 2, 0x58]
  { whole with mSize := 248 }

/-- The message is an ACK, and the lease time is read although it is cut. -/
theorem cut_ack_accepted :
    cutAck.isValidDhcpMessageXid opBootReply (swap32 2) = true ∧ cutAck.type = dhcpAck ∧
      (DhcpClient.readAck cutAck).1 = true ∧ (DhcpClient.readAck cutAck).2.leaseTime = 600 ∧
      ¬ PassesWholeOptions cutAck ∧ ¬ RejectsCutOptions cutAck := by
  have second : cutAck.OptionAt 7 := .next .first (by decide +kernel) (by decide +kernel)
  have behind : cutAck.EndsOneBehind :=
    ⟨7, second, by decide +kernel, by decide +kernel, by decide +kernel⟩
  obtain ⟨scan, next, visited, again, inside, notEnd, cut, accepted⟩ := one_behind_passed behind
  refine ⟨by decide +kernel, by decide +kernel, by decide +kernel, by decide +kernel, ?_, ?_⟩
  · exact fun whole => cut (whole.passed scan next visited again)
  · intro rejects
    exact Bool.noConfusion ((rejects scan visited inside notEnd cut).symm.trans accepted)

end RedroidExt.Dhcp
