import RedroidExt.Dhcp.Message

/-!
# What is read of a message

Two buffers that hold the same message may differ past its end. Every accessor
stays inside the message except the four-byte reads of `serverId` and
`requestedIp`, which do so only when their option is complete.
-/

namespace RedroidExt.Dhcp.Message

open RedroidExt.Library RedroidExt.Library.ByteMemory

set_option autoImplicit false

/-- The same bytes up to the end of the message. -/
def Agrees (left right : Message) : Prop :=
  left.mSize = right.mSize ∧ ∀ index, index < left.mSize → left.dhcpData index = right.dhcpData index

theorem agrees_symm {left right : Message} (same : Agrees left right) : Agrees right left := by
  refine ⟨same.1.symm, ?_⟩
  intro index inside
  exact (same.2 index (by rw [same.1]; exact inside)).symm

theorem bytes_length (message : Message) : message.bytes.length = message.mSize :=
  load_length _ _ _

theorem agrees_of_bytes {left right : Message} (same : left.bytes = right.bytes) :
    Agrees left right := by
  have size : left.mSize = right.mSize := by
    rw [← bytes_length left, same, bytes_length]
  refine ⟨size, ?_⟩
  intro index inside
  have leftByte := load_getElem? left.dhcpData 0 left.mSize index inside
  have rightByte := load_getElem? right.dhcpData 0 right.mSize index (size ▸ inside)
  unfold bytes at same
  rw [same, rightByte, Nat.zero_add] at leftByte
  exact (Option.some.inj leftByte).symm

theorem options_size_eq (message : Message) :
    message.optionsSize = message.mSize - 236 := by
  unfold optionsSize
  split_ifs <;> omega

theorem options_size_agrees {left right : Message} (same : Agrees left right) :
    left.optionsSize = right.optionsSize := by
  rw [options_size_eq, options_size_eq, same.1]

theorem options_agrees {left right : Message} (same : Agrees left right) (index : Nat)
    (inside : index < left.optionsSize) : left.options index = right.options index := by
  rw [options_size_eq] at inside
  exact same.2 _ (by omega)

/-! ## The option scan -/

/-- Everything one round of the scan can do. -/
theorem get_option_step_cases (message : Message) (code : UInt8) (i : Nat) :
    (message.optionsSize ≤ i + 2 ∧ getOptionStep message code i = .inr none) ∨
    (i + 2 < message.optionsSize ∧ message.options i = optEnd ∧
      getOptionStep message code i = .inr none) ∨
    (i + 2 < message.optionsSize ∧ message.options i ≠ optEnd ∧ message.options i = code ∧
      getOptionStep message code i = .inr (some (i + 2, message.options (i + 1)))) ∨
    (i + 2 < message.optionsSize ∧ message.options i ≠ optEnd ∧ message.options i ≠ code ∧
      getOptionStep message code i = .inl (i + (2 + (message.options (i + 1)).toNat))) := by
  unfold getOptionStep
  by_cases inside : i + 2 < message.optionsSize
  · by_cases atEnd : message.options i = optEnd
    · exact .inr (.inl ⟨inside, atEnd, by simp [inside, atEnd]⟩)
    · by_cases matching : message.options i = code
      · exact .inr (.inr (.inl ⟨inside, atEnd, matching, by
          rw [if_pos inside, if_neg atEnd, if_pos matching]⟩))
      · exact .inr (.inr (.inr ⟨inside, atEnd, matching, by
          rw [if_pos inside, if_neg atEnd, if_neg matching]⟩))
  · exact .inl ⟨by omega, if_neg inside⟩

theorem get_option_step_decreases (message : Message) (code : UInt8) (i next : Nat)
    (again : getOptionStep message code i = .inl next) :
    message.optionsSize - next < message.optionsSize - i := by
  rcases get_option_step_cases message code i with
    ⟨-, leave⟩ | ⟨-, -, leave⟩ | ⟨-, -, -, leave⟩ | ⟨inside, -, -, moved⟩
  · simp [leave] at again
  · simp [leave] at again
  · simp [leave] at again
  · have position := Sum.inl.inj (moved.symm.trans again)
    omega

/-- The scan ends within the rounds that `getOption` gives it. -/
theorem get_option_eq_of_returns {message : Message} {code : UInt8}
    {result : Option (Nat × UInt8)}
    (returned : Loop.Returns (getOptionStep message code) 4 result) :
    message.getOption code = result := by
  have finished := Loop.run_eq_of_returns (fun i => message.optionsSize - i)
    (get_option_step_decreases message code) returned
    (message.optionsSize + 1) (by omega)
  unfold getOption
  rw [finished]
  rfl

theorem get_option_returns (message : Message) (code : UInt8) :
    Loop.Returns (getOptionStep message code) 4 (message.getOption code) := by
  obtain ⟨result, finished⟩ := Loop.run_some_of_measure (fun i => message.optionsSize - i)
    (get_option_step_decreases message code) 4 (message.optionsSize + 1) (by omega)
  rw [get_option_eq_of_returns ⟨_, finished⟩]
  exact ⟨_, finished⟩

/-- A payload that is found starts inside the received options. -/
theorem get_option_inside {message : Message} {code length : UInt8} {opt : Nat}
    (found : message.getOption code = some (opt, length)) : opt < message.optionsSize := by
  obtain ⟨rounds, finished⟩ := get_option_returns message code
  rw [found] at finished
  refine Loop.run_invariant (fun _ => True)
    (fun result => ∀ start size, result = some (start, size) → start < message.optionsSize)
    (fun _ _ _ _ => trivial) ?_ trivial finished opt length rfl
  intro i result _ leave start size same
  rcases get_option_step_cases message code i with
    ⟨-, taken⟩ | ⟨-, -, taken⟩ | ⟨inside, -, -, taken⟩ | ⟨-, -, -, taken⟩
  · simp [same, taken] at leave
  · simp [same, taken] at leave
  · rw [taken, same] at leave
    have position : i + 2 = start := congrArg Prod.fst (Option.some.inj (Sum.inr.inj leave))
    omega
  · simp [taken] at leave

theorem get_option_agrees {left right : Message} (same : Agrees left right) (code : UInt8) :
    left.getOption code = right.getOption code := by
  have steps : getOptionStep left code = getOptionStep right code := by
    funext i
    unfold getOptionStep
    rw [← options_size_agrees same]
    by_cases inside : i + 2 < left.optionsSize
    · rw [if_pos inside, if_pos inside, options_agrees same i (by omega),
        options_agrees same (i + 1) (by omega)]
    · rw [if_neg inside, if_neg inside]
  unfold getOption
  rw [steps, options_size_agrees same]

theorem type_agrees {left right : Message} (same : Agrees left right) :
    left.type = right.type := by
  unfold type
  rw [← get_option_agrees same]
  cases found : left.getOption optMessageType with
  | none => rfl
  | some payload =>
      simp only
      rw [options_agrees same _ (get_option_inside found)]

/-- An address option, if there is one, lies wholly inside the message. -/
def Complete (message : Message) (code : UInt8) : Prop :=
  ∀ opt, message.getOption code = some (opt, 4) → opt + 4 ≤ message.optionsSize

theorem address_option_agrees {left right : Message} (same : Agrees left right) {code : UInt8}
    (complete : left.Complete code) : left.addressOption code = right.addressOption code := by
  unfold addressOption
  rw [← get_option_agrees same]
  cases found : left.getOption code with
  | none => rfl
  | some payload =>
      obtain ⟨opt, length⟩ := payload
      simp only
      by_cases four : length = 4
      · subst four
        have inside := complete opt found
        rw [options_size_eq] at inside
        rw [if_pos rfl, if_pos rfl]
        apply load32_congr
        intro index _ below
        exact same.2 index (by omega)
      · rw [if_neg four, if_neg four]

/-! ## Header fields -/

theorem is_valid_size {message : Message} {expectedOp : UInt8}
    (valid : message.isValidDhcpMessage expectedOp = true) : 240 ≤ message.mSize := by
  unfold isValidDhcpMessage at valid
  split_ifs at valid with small
  all_goals omega

/-- Validity looks at the size and at seven bytes of the first 240. -/
theorem is_valid_congr {left right : Message}
    (size : left.mSize < 240 ↔ right.mSize < 240)
    (same : 240 ≤ left.mSize → ∀ index, index < 240 → left.dhcpData index = right.dhcpData index)
    (expectedOp : UInt8) :
    left.isValidDhcpMessage expectedOp = right.isValidDhcpMessage expectedOp := by
  unfold isValidDhcpMessage
  by_cases small : left.mSize < 240
  · rw [if_pos small, if_pos (size.mp small)]
  · have header := same (by omega)
    have sameOp : left.op = right.op := header 0 (by omega)
    have sameType : left.htype = right.htype := header 1 (by omega)
    have sameLength : left.hlen = right.hlen := header 2 (by omega)
    have cookie : ∀ index, index < 4 → left.options index = right.options index :=
      fun index bound => header (236 + index) (by omega)
    rw [if_neg small, if_neg (fun tooSmall => small (size.mpr tooSmall)), sameOp, sameType,
      sameLength, cookie 0 (by omega), cookie 1 (by omega), cookie 2 (by omega),
      cookie 3 (by omega)]

theorem is_valid_agrees {left right : Message} (same : Agrees left right) (expectedOp : UInt8) :
    left.isValidDhcpMessage expectedOp = right.isValidDhcpMessage expectedOp := by
  apply is_valid_congr (by rw [same.1])
  intro large index small
  exact same.2 index (by omega)

/-- The header words and the client's hardware address lie in the first 34 bytes. -/
structure SameHeader (left right : Message) : Prop where
  xid : left.xid = right.xid
  flags : left.flags = right.flags
  yiaddr : left.yiaddr = right.yiaddr
  giaddr : left.giaddr = right.giaddr
  chaddr : left.chaddr = right.chaddr

theorem same_header_of_bytes {left right : Message}
    (same : ∀ index, index < 34 → left.dhcpData index = right.dhcpData index) :
    SameHeader left right where
  xid := load32_congr fun index _ below => same index (by omega)
  flags := by
    unfold flags load16
    rw [same 10 (by omega), same 11 (by omega)]
  yiaddr := load32_congr fun index _ below => same index (by omega)
  giaddr := load32_congr fun index _ below => same index (by omega)
  chaddr := by
    funext index
    exact same _ (by omega)

theorem same_header_agrees {left right : Message} (same : Agrees left right)
    (large : 240 ≤ left.mSize) : SameHeader left right :=
  same_header_of_bytes fun index below => same.2 index (by omega)

theorem is_valid_xid_iff (message : Message) (expectedOp : UInt8) (expectedXid : UInt32) :
    message.isValidDhcpMessageXid expectedOp expectedXid = true ↔
      message.isValidDhcpMessage expectedOp = true ∧ message.xid = expectedXid := by
  unfold isValidDhcpMessageXid
  split_ifs <;> simp_all

end RedroidExt.Dhcp.Message
