import RedroidExt.Library.Opened
import RedroidExt.Library.World
import RedroidExt.Netns.Createns
import Mathlib.Data.List.Nodup
import Mathlib.Data.List.Range

/-!
# Creating simulated radios

`mac80211_create_radios`: one netlink message for each radio, whose hardware address has
the prefix and the number of the radio. The calls of the netlink library are answered in
any way; a pointer it hands out is not in use.
-/

namespace RedroidExt.Wifi

open RedroidExt.Library RedroidExt.Library.World RedroidExt.Netns

set_option autoImplicit false

abbrev ethAlen : Nat := 6
def kHwSimFamilyName : CString := ascii "MAC80211_HWSIM"
def kHwSimVersion : Nat := 1
def kChannels : UInt32 := 2
def hwsimCmdNewRadio : Nat := 4

/-- The attributes that are put into a message. -/
inductive HwsimAttribute where
  | permAddr (mac : List UInt8)
  | supportP2pDevice
  | channels (count : UInt32)
deriving DecidableEq, Repr

/-- A generic netlink message: the header, once it is put, and the attributes. -/
structure NlMessage where
  /-- Family, command and version. -/
  header : Option (Int × Nat × Nat)
  attributes : List HwsimAttribute
deriving DecidableEq, Repr

inductive RadioCall where
  | nlSocketAlloc
  | genlConnect (socket : Nat)
  | genlCtrlResolve (socket : Nat) (family : CString)
  | nlmsgAlloc
  /-- With `NLM_F_REQUEST`, and the port and the sequence number left to the library. -/
  | genlmsgPut (msg : Nat) (family : Int) (cmd version : Nat)
  /-- `nla_put`, `nla_put_flag` or `nla_put_u32`. -/
  | nlaPut (msg : Nat) (attr : HwsimAttribute)
  | nlSendAuto (socket msg : Nat)
  | nlmsgFree (msg : Nat)
  | nlSocketFree (socket : Nat)
  | printUsage (toStderr : Bool)
  /-- The function, the call that failed in it, and the number whose text is logged. -/
  | aloge (function call : CString) (error : Option Int)

/-- Pointers are null or not, and `genlmsg_put` answers whether there was room. -/
abbrev RadioCall.Answer : RadioCall → Type
  | nlSocketAlloc => Option Nat
  | genlConnect _ => Int
  | genlCtrlResolve _ _ => Int
  | nlmsgAlloc => Option Nat
  | genlmsgPut _ _ _ _ => Bool
  | nlaPut _ _ => Int
  | nlSendAuto _ _ => Int
  | nlmsgFree _ => Unit
  | nlSocketFree _ => Unit
  | printUsage _ => Unit
  | aloge _ _ _ => Unit

abbrev Radios := Program RadioCall RadioCall.Answer

namespace Radios

abbrev sys (call : RadioCall) : Radios call.Answer := Program.call call

/-- What `sscanf` returns for `%d`, with the number if there is one. -/
inductive Scanned where
  /-- `EOF`: the text ends in front of a number. -/
  | ended
  | mismatch
  | number (value : Int)

/-! ## Messages -/

/-- Free the message and return a null pointer. -/
def dropMessage (msg : Nat) : Radios (Option Nat) := do
  sys (.nlmsgFree msg)
  return none

def createNlMessage (family : Int) (cmd : Nat) : Radios (Option Nat) := do
  match ← sys .nlmsgAlloc with
  | none =>
      sys (.aloge (ascii "createNlMessage") (ascii "nlmsg_alloc") none)
      return none
  | some msg =>
      if ← sys (.genlmsgPut msg family cmd kHwSimVersion) then return some msg
      else
        sys (.aloge (ascii "createNlMessage") (ascii "genlmsg_put") none)
        dropMessage msg

/-- Put the attributes into the message, each with the name of its call. -/
def putAttributes (msg : Nat) : List (CString × HwsimAttribute) → Radios (Option Nat)
  | [] => return some msg
  | (call, attr) :: rest => do
      let ret ← sys (.nlaPut msg attr)
      if ret ≠ 0 then
        sys (.aloge (ascii "buildCreateRadioMessage") call (some ret))
        dropMessage msg
      else putAttributes msg rest

def radioAttributes (mac : List UInt8) : List (CString × HwsimAttribute) :=
  [(ascii "nla_put(HWSIM_ATTR_PERM_ADDR)", .permAddr mac),
    (ascii "nla_put(HWSIM_ATTR_SUPPORT_P2P_DEVICE)", .supportP2pDevice),
    (ascii "nla_put(HWSIM_ATTR_CHANNELS)", .channels kChannels)]

def buildCreateRadioMessage (family : Int) (mac : List UInt8) : Radios (Option Nat) := do
  match ← createNlMessage family hwsimCmdNewRadio with
  | none => return none
  | some msg => putAttributes msg (radioAttributes mac)

/-! ## Radios -/

/-- `value & 0xFF`. -/
def lowByte (value : Int) : UInt8 := (value % 256).toNat.toUInt8

/-- The array `mac` behind the assignment to its fifth byte. -/
def radioMac (macPrefix : Int) (idx : Nat) : List UInt8 :=
  [0x02, lowByte (macPrefix >>> (8 : Nat)), lowByte macPrefix, 0, idx.toUInt8, 0]

/-- The loop from `idx` on, with the number of radios that are left. -/
def createFrom (socket : Nat) (family : Int) (macPrefix : Int) : Nat → Nat → Radios Nat
  | _, 0 => return 0
  | idx, left + 1 => do
      match ← buildCreateRadioMessage family (radioMac macPrefix idx) with
      | none => return 1
      | some msg =>
          let ret ← sys (.nlSendAuto socket msg)
          if ret < 0 then
            sys (.aloge (ascii "createRadios") (ascii "nl_send_auto") (some ret))
            sys (.nlmsgFree msg)
            return 1
          else
            sys (.nlmsgFree msg)
            createFrom socket family macPrefix (idx + 1) left

def createRadios (socket : Nat) (family : Int) (nRadios macPrefix : Int) : Radios Nat :=
  createFrom socket family macPrefix 0 nRadios.toNat

/-- Behind the allocation of the socket; `ret` is what the last call returned, also where the name is
not resolved. -/
def connectAndCreate (socket : Nat) (nRadios macPrefix : Int) : Radios Nat := do
  let ret ← sys (.genlConnect socket)
  if ret ≠ 0 then
    sys (.aloge (ascii "manageRadios") (ascii "genl_connect") (some ret))
    return 1
  else
    let netlinkFamily ← sys (.genlCtrlResolve socket kHwSimFamilyName)
    if netlinkFamily < 0 then
      sys (.aloge (ascii "manageRadios") (ascii "genl_ctrl_resolve") (some ret))
      return 1
    else createRadios socket netlinkFamily nRadios macPrefix

def manageRadios (nRadios macPrefix : Int) : Radios Nat := do
  match ← sys .nlSocketAlloc with
  | none =>
      sys (.aloge (ascii "manageRadios") (ascii "nl_socket_alloc") none)
      return 1
  | some socket =>
      let ret ← connectAndCreate socket nRadios macPrefix
      sys (.nlSocketFree socket)
      return ret

/-- `parseInt`, as its callers test it: only a mismatch is an error, and behind the end of the text
the variable holds what it held. -/
def parseInt (scanned : Scanned) (held : Int) : Option Int :=
  match scanned with
  | .ended => some held
  | .mismatch => none
  | .number value => some value

def printUsage (toStderr : Bool) (ret : Nat) : Radios Nat := do
  sys (.printUsage toStderr)
  return ret

/-- `held` is what the two variables hold at first. -/
def main (sscanf : CString → Scanned) (held : Int × Int) (argv : List CString) : Radios Nat := do
  match argv with
  | [_, count, start] =>
      match parseInt (sscanf count) held.1 with
      | none => printUsage true 1
      | some nRadios =>
          if nRadios < 1 ∨ nRadios > 100 then printUsage true 1
          else
            match parseInt (sscanf start) held.2 with
            | none => printUsage true 1
            | some macPrefix =>
                if macPrefix < 0 ∨ macPrefix > 65535 then printUsage true 1
                else manageRadios nRadios macPrefix
  | _ => printUsage false 0

end Radios

/-! ## The netlink library -/

inductive NlObject where
  | socket
  | message (content : NlMessage)

/-- What is allocated, and the messages that were sent. -/
structure NlState where
  table : Nat → Option NlObject
  sent : List NlMessage

namespace NlState

variable (state : NlState)

def insert (pointer : Nat) (object : NlObject) : NlState :=
  { state with table := Function.update state.table pointer (some object) }

def remove (pointer : Nat) : NlState :=
  { state with table := Function.update state.table pointer none }

def edit (msg : Nat) (change : NlMessage → NlMessage) : NlState :=
  match state.table msg with
  | some (.message content) => state.insert msg (.message (change content))
  | _ => state

def send (msg : Nat) : NlState :=
  match state.table msg with
  | some (.message content) => { state with sent := state.sent ++ [content] }
  | _ => state

def allowed : (call : RadioCall) → call.Answer → Prop
  | .nlSocketAlloc, some socket => state.table socket = none
  | .nlmsgAlloc, some msg => state.table msg = none
  | _, _ => True

/-- A call that fails changes nothing. -/
def advance : (call : RadioCall) → call.Answer → NlState
  | .nlSocketAlloc, some socket => state.insert socket .socket
  | .nlmsgAlloc, some msg => state.insert msg (.message { header := none, attributes := [] })
  | .genlmsgPut msg family cmd version, true =>
      state.edit msg fun content => { content with header := some (family, cmd, version) }
  | .nlaPut msg attr, ret =>
      if ret = 0 then
        state.edit msg fun content => { content with attributes := content.attributes ++ [attr] }
      else state
  | .nlSendAuto _ msg, ret => if ret < 0 then state else state.send msg
  | .nlmsgFree msg, _ => state.remove msg
  | .nlSocketFree socket, _ => state.remove socket
  | _, _ => state

end NlState

def nlWorld : World RadioCall RadioCall.Answer NlState where
  allowed := NlState.allowed
  advance := NlState.advance

/-- These objects were allocated since the table was `before`, and these messages were sent. -/
structure Allocated (before : Nat → Option NlObject) (entries : List (Nat × NlObject))
    (sent : List NlMessage) (state : NlState) : Prop where
  opened : Opened before state.table entries
  messages : state.sent = sent

section Specifications

variable {before : Nat → Option NlObject} {entries : List (Nat × NlObject)}
variable {sent : List NlMessage} {state : NlState}

theorem allocated_insert (allocated : Allocated before entries sent state) {pointer : Nat}
    (free : state.table pointer = none) (object : NlObject) :
    Allocated before ((pointer, object) :: entries) sent (state.insert pointer object) :=
  ⟨allocated.opened.add free object, allocated.messages⟩

theorem allocated_remove {pointer : Nat} {object : NlObject}
    (allocated : Allocated before ((pointer, object) :: entries) sent state) :
    Allocated before entries sent (state.remove pointer) :=
  ⟨allocated.opened.close, allocated.messages⟩

theorem allocated_edit {msg : Nat} {content : NlMessage}
    (allocated : Allocated before ((msg, .message content) :: entries) sent state)
    (change : NlMessage → NlMessage) :
    Allocated before ((msg, .message (change content)) :: entries) sent (state.edit msg change) := by
  have found : state.table msg = some (.message content) :=
    allocated.opened.found (msg, .message content) List.mem_cons_self
  unfold NlState.edit
  rw [found]
  exact ⟨allocated.opened.set _, allocated.messages⟩

theorem allocated_send {msg : Nat} {content : NlMessage}
    (allocated : Allocated before ((msg, .message content) :: entries) sent state) :
    Allocated before ((msg, .message content) :: entries) (sent ++ [content]) (state.send msg) := by
  have found : state.table msg = some (.message content) :=
    allocated.opened.found (msg, .message content) List.mem_cons_self
  unfold NlState.send
  rw [found, ← allocated.messages]
  exact ⟨allocated.opened, rfl⟩

theorem quiet_aloge (function call : CString) (error : Option Int) :
    nlWorld.Quiet (Radios.sys (.aloge function call error)) :=
  quiet_call fun _ _ => rfl

/-! ## Messages -/

/-- A message of this content was built, or nothing is left of it. -/
inductive Built (before : Nat → Option NlObject) (entries : List (Nat × NlObject))
    (sent : List NlMessage) (content : NlMessage) : Option Nat → NlState → Prop
  | failed {after : NlState} (allocated : Allocated before entries sent after) :
      Built before entries sent content none after
  | built (msg : Nat) {after : NlState}
      (allocated : Allocated before ((msg, .message content) :: entries) sent after) :
      Built before entries sent content (some msg) after

theorem ensures_drop {msg : Nat} {object : NlObject} (content : NlMessage)
    (allocated : Allocated before ((msg, object) :: entries) sent state) :
    nlWorld.Ensures (Built before entries sent content) (Radios.dropMessage msg) state :=
  ensures_call_bind fun _ _ => ensures_pure (.failed (allocated_remove allocated))

theorem ensures_create (allocated : Allocated before entries sent state) (family : Int)
    (cmd : Nat) :
    nlWorld.Ensures (Built before entries sent ⟨some (family, cmd, kHwSimVersion), []⟩)
      (Radios.createNlMessage family cmd) state := by
  apply ensures_call_bind
  intro pointer free
  cases pointer with
  | none =>
      apply ensures_seq (ensures_quiet (quiet_aloge _ _ _) allocated)
      exact fun _ _ allocated => ensures_pure (.failed allocated)
  | some msg =>
      have inserted := allocated_insert allocated free (.message { header := none, attributes := [] })
      apply ensures_call_bind
      intro put _
      cases put with
      | true =>
          have put := allocated_edit inserted fun content =>
            { content with header := some (family, cmd, kHwSimVersion) }
          exact ensures_pure (.built msg put)
      | false =>
          apply ensures_seq (ensures_quiet (quiet_aloge _ _ _) inserted)
          exact fun _ _ allocated => ensures_drop _ allocated

theorem ensures_put_attributes (attributes : List (CString × HwsimAttribute)) {msg : Nat}
    {content : NlMessage}
    (allocated : Allocated before ((msg, .message content) :: entries) sent state) :
    nlWorld.Ensures
      (Built before entries sent
        { content with attributes := content.attributes ++ attributes.map Prod.snd })
      (Radios.putAttributes msg attributes) state := by
  induction attributes generalizing state content with
  | nil =>
      rw [List.map_nil, List.append_nil]
      exact ensures_pure (.built msg allocated)
  | cons first rest ih =>
      rcases first with ⟨call, attr⟩
      apply ensures_call_bind
      intro ret _
      by_cases failed : ret ≠ 0
      · have unchanged : nlWorld.advance state (.nlaPut msg attr) ret = state := if_neg failed
        rw [if_pos failed, unchanged]
        apply ensures_seq (ensures_quiet (quiet_aloge _ _ _) allocated)
        exact fun _ _ allocated => ensures_drop _ allocated
      · have put : nlWorld.advance state (.nlaPut msg attr) ret = _ := if_pos (not_not.mp failed)
        rw [if_neg failed, put]
        have later := ih (allocated_edit allocated fun content =>
          { content with attributes := content.attributes ++ [attr] })
        rw [List.append_assoc] at later
        exact later

def radioMessage (family macPrefix : Int) (idx : Nat) : NlMessage where
  header := some (family, hwsimCmdNewRadio, kHwSimVersion)
  attributes := [.permAddr (Radios.radioMac macPrefix idx), .supportP2pDevice, .channels kChannels]

theorem ensures_build (allocated : Allocated before entries sent state) (family macPrefix : Int)
    (idx : Nat) :
    nlWorld.Ensures (Built before entries sent (radioMessage family macPrefix idx))
      (Radios.buildCreateRadioMessage family (Radios.radioMac macPrefix idx)) state := by
  apply ensures_seq (ensures_create allocated family hwsimCmdNewRadio)
  intro pointer after built
  cases built with
  | failed allocated => exact ensures_pure (.failed allocated)
  | built msg allocated =>
      exact ensures_put_attributes (Radios.radioAttributes (Radios.radioMac macPrefix idx)) allocated

/-! ## Radios -/

/-- So many messages of the loop were sent. -/
inductive Created (before : Nat → Option NlObject) (entries : List (Nat × NlObject))
    (sent : List NlMessage) (family macPrefix : Int) (idx left : Nat) : Nat → NlState → Prop
  | created (count : Nat) (within : count ≤ left) {ret : Nat}
      (told : ret = if count = left then 0 else 1) {after : NlState}
      (allocated : Allocated before entries
        (sent ++ (List.range' idx count).map (radioMessage family macPrefix)) after) :
      Created before entries sent family macPrefix idx left ret after

theorem created_none (allocated : Allocated before entries sent state) (family macPrefix : Int)
    (idx left : Nat) {ret : Nat} (told : ret = if 0 = left then 0 else 1) :
    Created before entries sent family macPrefix idx left ret state := by
  apply Created.created 0 (Nat.zero_le _) told
  rw [List.range'_zero, List.map_nil, List.append_nil]
  exact allocated

theorem ensures_create_from (allocated : Allocated before entries sent state) (socket : Nat)
    (family macPrefix : Int) (idx left : Nat) :
    nlWorld.Ensures (Created before entries sent family macPrefix idx left)
      (Radios.createFrom socket family macPrefix idx left) state := by
  induction left generalizing idx sent state with
  | zero => exact ensures_pure (created_none allocated family macPrefix idx 0 rfl)
  | succ left ih =>
      apply ensures_seq (ensures_build allocated family macPrefix idx)
      intro pointer after built
      cases built with
      | failed allocated => exact ensures_pure (created_none allocated _ _ _ _ rfl)
      | built msg allocated =>
          apply ensures_call_bind
          intro ret _
          by_cases failed : ret < 0
          · have unsent : nlWorld.advance after (.nlSendAuto socket msg) ret = after := if_pos failed
            rw [if_pos failed, unsent]
            apply ensures_seq (ensures_quiet (quiet_aloge _ _ _) allocated)
            intro _ state allocated
            exact ensures_call_bind fun _ _ =>
              ensures_pure (created_none (allocated_remove allocated) _ _ _ _ rfl)
          · have sent : nlWorld.advance after (.nlSendAuto socket msg) ret = after.send msg :=
              if_neg failed
            rw [if_neg failed, sent]
            apply ensures_call_bind
            intro _ _
            apply ensures_mono (ih (allocated_remove (allocated_send allocated)) (idx + 1))
            intro result last created
            cases created with
            | created count within told allocated =>
                rw [List.append_assoc] at allocated
                have one_more : result = if count + 1 = left + 1 then 0 else 1 :=
                  told.trans (if_congr Nat.add_right_cancel_iff.symm rfl rfl)
                exact .created (count + 1) (Nat.succ_le_succ within) one_more allocated

/-- So many messages were sent, each for the next radio. -/
inductive Managed (before : Nat → Option NlObject) (entries : List (Nat × NlObject))
    (sent : List NlMessage) (nRadios macPrefix : Int) : Nat → NlState → Prop
  | managed (family : Int) (count : Nat) (within : count ≤ nRadios.toNat) {ret : Nat}
      (told : ret = if count = nRadios.toNat then 0 else 1) {after : NlState}
      (allocated : Allocated before entries
        (sent ++ (List.range count).map (radioMessage family macPrefix)) after) :
      Managed before entries sent nRadios macPrefix ret after

theorem managed_none {nRadios : Int} (positive : 1 ≤ nRadios) (macPrefix : Int)
    (allocated : Allocated before entries sent state) :
    Managed before entries sent nRadios macPrefix 1 state := by
  apply Managed.managed 0 0 (Nat.zero_le _) (if_neg (by omega)).symm
  rw [List.range_zero, List.map_nil, List.append_nil]
  exact allocated

theorem ensures_connect {nRadios : Int} (positive : 1 ≤ nRadios) (macPrefix : Int) (socket : Nat)
    (allocated : Allocated before entries sent state) :
    nlWorld.Ensures (Managed before entries sent nRadios macPrefix)
      (Radios.connectAndCreate socket nRadios macPrefix) state := by
  apply ensures_call_bind
  intro ret _
  by_cases failed : ret ≠ 0
  · rw [if_pos failed]
    apply ensures_seq (ensures_quiet (quiet_aloge _ _ _) allocated)
    exact fun _ _ allocated => ensures_pure (managed_none positive macPrefix allocated)
  · rw [if_neg failed]
    apply ensures_call_bind
    intro family _
    by_cases unknown : family < 0
    · rw [if_pos unknown]
      apply ensures_seq (ensures_quiet (quiet_aloge _ _ _) allocated)
      exact fun _ _ allocated => ensures_pure (managed_none positive macPrefix allocated)
    · rw [if_neg unknown]
      apply ensures_mono (ensures_create_from allocated socket family macPrefix 0 nRadios.toNat)
      intro result after created
      cases created with
      | created count within told allocated =>
          rw [← List.range_eq_range'] at allocated
          exact .managed family count within told allocated

theorem ensures_manage {nRadios : Int} (positive : 1 ≤ nRadios) (macPrefix : Int)
    (allocated : Allocated before entries sent state) :
    nlWorld.Ensures (Managed before entries sent nRadios macPrefix)
      (Radios.manageRadios nRadios macPrefix) state := by
  apply ensures_call_bind
  intro pointer free
  cases pointer with
  | none =>
      apply ensures_seq (ensures_quiet (quiet_aloge _ _ _) allocated)
      exact fun _ _ allocated => ensures_pure (managed_none positive macPrefix allocated)
  | some socket =>
      have inserted := allocated_insert allocated free .socket
      apply ensures_seq (ensures_connect positive macPrefix socket inserted)
      intro ret after managed
      cases managed with
      | managed family count within told allocated =>
          apply ensures_call_bind
          exact fun _ _ =>
            ensures_pure (.managed family count within told (allocated_remove allocated))

end Specifications

/-! ## Hardware addresses -/

theorem low_byte_eq {first second : Int} (same : Radios.lowByte first = Radios.lowByte second) :
    first % 256 = second % 256 := by
  have bytes := congrArg UInt8.toNat same
  unfold Radios.lowByte at bytes
  rw [Nat.toUInt8_eq, Nat.toUInt8_eq, UInt8.toNat_ofNat', UInt8.toNat_ofNat'] at bytes
  omega

/-- Two radios have one address only if both the prefix and the number are the same. -/
theorem radio_mac_injective {first second : Int} {one two : Nat} (firstLow : 0 ≤ first)
    (firstHigh : first ≤ 65535) (secondLow : 0 ≤ second) (secondHigh : second ≤ 65535)
    (oneByte : one < 256) (twoByte : two < 256)
    (same : Radios.radioMac first one = Radios.radioMac second two) :
    first = second ∧ one = two := by
  simp only [Radios.radioMac, List.cons.injEq] at same
  rcases same with ⟨-, high, low, -, number, -⟩
  have high := low_byte_eq high
  have low := low_byte_eq low
  rw [Int.shiftRight_eq_div_pow, Int.shiftRight_eq_div_pow] at high
  have number := congrArg UInt8.toNat number
  rw [Nat.toUInt8_eq, Nat.toUInt8_eq, UInt8.toNat_ofNat', UInt8.toNat_ofNat'] at number
  omega

theorem radio_macs_distinct {macPrefix : Int} (low : 0 ≤ macPrefix) (high : macPrefix ≤ 65535)
    {count : Nat} (within : count ≤ 256) :
    ((List.range count).map (Radios.radioMac macPrefix)).Nodup := by
  apply List.nodup_range.map_on
  intro one first two second same
  have first := List.mem_range.mp first
  have second := List.mem_range.mp second
  exact (radio_mac_injective low high low high (by omega) (by omega) same).2

/-! ## The program -/

/-- The program prints its usage, or it sends the messages of the first radios: of all that were
asked for if it returns 0. Nothing that it allocated is left. -/
inductive RadiosRan (sscanf : CString → Radios.Scanned) (held : Int × Int) (argv : List CString)
    (before : NlState) : Nat → NlState → Prop
  | usage {ret : Nat} {after : NlState} (told : ret = if argv.length = 3 then 1 else 0)
      (table : after.table = before.table) (sent : after.sent = before.sent) :
      RadiosRan sscanf held argv before ret after
  | created {program first second : CString} {nRadios macPrefix : Int} (family : Int)
      {count : Nat} {after : NlState} (given : argv = [program, first, second])
      (number : Radios.parseInt (sscanf first) held.1 = some nRadios)
      (start : Radios.parseInt (sscanf second) held.2 = some macPrefix)
      (numbers : 1 ≤ nRadios ∧ nRadios ≤ 100) (starts : 0 ≤ macPrefix ∧ macPrefix ≤ 65535)
      (within : count ≤ nRadios.toNat) (table : after.table = before.table)
      (sent : after.sent =
        before.sent ++ (List.range count).map (radioMessage family macPrefix))
      (distinct : ((List.range count).map (Radios.radioMac macPrefix)).Nodup) :
      RadiosRan sscanf held argv before (if count = nRadios.toNat then 0 else 1) after

theorem ensures_usage {sscanf : CString → Radios.Scanned} {held : Int × Int} {argv : List CString}
    {before : NlState} (toStderr : Bool) {ret : Nat} (told : ret = if argv.length = 3 then 1 else 0) :
    nlWorld.Ensures (RadiosRan sscanf held argv before) (Radios.printUsage toStderr ret) before :=
  ensures_call_bind fun _ _ => ensures_pure (.usage told rfl rfl)

theorem ensures_main (sscanf : CString → Radios.Scanned) (held : Int × Int) (argv : List CString)
    (before : NlState) :
    nlWorld.Ensures (RadiosRan sscanf held argv before) (Radios.main sscanf held argv) before := by
  match argv with
  | [] => exact ensures_usage false rfl
  | [program] => exact ensures_usage false rfl
  | [program, first] => exact ensures_usage false rfl
  | program :: first :: second :: third :: rest =>
      exact ensures_usage false (if_neg (by simp)).symm
  | [program, first, second] =>
      have refused : nlWorld.Ensures (RadiosRan sscanf held [program, first, second] before)
          (Radios.printUsage true 1) before := ensures_usage true rfl
      unfold Radios.main
      dsimp only
      cases number : Radios.parseInt (sscanf first) held.1 with
      | none => exact refused
      | some nRadios =>
          dsimp only
          by_cases numbers : nRadios < 1 ∨ nRadios > 100
          · rw [if_pos numbers]
            exact refused
          · rw [if_neg numbers]
            cases start : Radios.parseInt (sscanf second) held.2 with
            | none => exact refused
            | some macPrefix =>
                dsimp only
                by_cases starts : macPrefix < 0 ∨ macPrefix > 65535
                · rw [if_pos starts]
                  exact refused
                · rw [if_neg starts]
                  apply ensures_mono (ensures_manage (by omega) macPrefix
                    ⟨.start before.table, rfl⟩)
                  intro ret after managed
                  cases managed with
                  | managed family count within told allocated =>
                      rw [told]
                      exact .created family rfl number start ⟨by omega, by omega⟩
                        ⟨by omega, by omega⟩ within allocated.opened.unchanged allocated.messages
                        (radio_macs_distinct (by omega) (by omega) (by omega))

/-- In every run, whatever the library answers. -/
theorem radios_main (sscanf : CString → Radios.Scanned) (held : Int × Int) (argv : List CString)
    (before : NlState) (events : List (Program.Event RadioCall RadioCall.Answer)) (ret : Nat)
    (ran : Program.Runs (Radios.main sscanf held argv) events ret)
    (allowed : nlWorld.Allowed before events) :
    RadiosRan sscanf held argv before ret (nlWorld.after before events) :=
  ensures_runs (ensures_main sscanf held argv before) ran allowed

/-- A number in decimal digits. -/
def scanDigits (text : CString) : Radios.Scanned :=
  if text = [] then .ended
  else .number (text.foldl (fun value byte => value * 10 + (byte.toNat - 48)) 0)

/-- A pointer that is not in use, if one of the first eight is not. -/
def freePointer (state : NlState) : Option Nat :=
  (List.range 8).find? fun pointer => (state.table pointer).isNone

theorem free_pointer {state : NlState} {pointer : Nat} (found : freePointer state = some pointer) :
    state.table pointer = none :=
  Option.isNone_iff_eq_none.mp (List.find?_eq_some_iff_append.mp found).1

/-- The second message cannot be sent. -/
def flakyAnswers (state : NlState) : (call : RadioCall) → call.Answer
  | .nlSocketAlloc => freePointer state
  | .genlConnect _ => (0 : Int)
  | .genlCtrlResolve _ _ => (27 : Int)
  | .nlmsgAlloc => freePointer state
  | .genlmsgPut _ _ _ _ => true
  | .nlaPut _ _ => (0 : Int)
  | .nlSendAuto _ _ => if state.sent.length = 1 then (-5 : Int) else (40 : Int)
  | .nlmsgFree _ => ()
  | .nlSocketFree _ => ()
  | .printUsage _ => ()
  | .aloge _ _ _ => ()

theorem flaky_answers_allowed (state : NlState) (call : RadioCall) :
    nlWorld.allowed state call (flakyAnswers state call) := by
  cases call with
  | nlSocketAlloc =>
      change state.allowed .nlSocketAlloc (freePointer state)
      cases found : freePointer state with
      | none => trivial
      | some socket => exact free_pointer found
  | nlmsgAlloc =>
      change state.allowed .nlmsgAlloc (freePointer state)
      cases found : freePointer state with
      | none => trivial
      | some msg => exact free_pointer found
  | _ => trivial

def threeRadios : List CString := [ascii "create_radios2", ascii "3", ascii "5555"]

/-- One of three radios is created, and the program returns 1. -/
theorem radios_main_three :
    ∃ events, Program.Runs (Radios.main scanDigits (0, 0) threeRadios) events 1 ∧
      RadiosRan scanDigits (0, 0) threeRadios ⟨fun _ => none, []⟩ 1
        (nlWorld.after ⟨fun _ => none, []⟩ events) ∧
      (nlWorld.after ⟨fun _ => none, []⟩ events).sent = [radioMessage 27 5555 0] := by
  rcases follow_runs flaky_answers_allowed (Radios.main scanDigits (0, 0) threeRadios)
    ⟨fun _ => none, []⟩ with ⟨ran, allowed⟩
  have ended : (nlWorld.follow flakyAnswers (Radios.main scanDigits (0, 0) threeRadios)
      ⟨fun _ => none, []⟩).2 = 1 := by
    decide +kernel
  have sent : (nlWorld.after ⟨fun _ => none, []⟩ (nlWorld.follow flakyAnswers
      (Radios.main scanDigits (0, 0) threeRadios) ⟨fun _ => none, []⟩).1).sent =
        [radioMessage 27 5555 0] := by
    decide +kernel
  rw [ended] at ran
  exact ⟨_, ran, radios_main scanDigits (0, 0) threeRadios _ _ _ ran allowed, sent⟩

end RedroidExt.Wifi
