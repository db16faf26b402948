import RedroidExt.Gnss.Blocklist
import RedroidExt.Library.Monitor

/-!
# A blocklist that changes during a pass

The reporting thread filters its satellites one by one and takes the configuration's
`mMutex` for each of them. `setBlocklist` is called from other threads and holds it from its
first statement to its last.
-/

namespace RedroidExt.Gnss

open RedroidExt.Library

set_option autoImplicit false

inductive ServiceThread (Caller : Type)
  | session
  | caller (who : Caller)
deriving DecidableEq, Repr

/-- `gnssSvInfoList` in the loop of the filter, and `isBlocklistedV2_1` for the satellite at the
index. -/
structure Pass (Number : Type) where
  /-- How many lists were given to the filter. -/
  begun : Nat
  /-- The satellites before the index. -/
  filtered : List (GnssSvInfo Number)
  /-- The satellites from the index on. -/
  rest : List (GnssSvInfo Number)
  /-- The answer, while the flag is not yet changed. -/
  listed : Option Bool

/-- What the reporting thread does without the mutex. -/
inductive PassAct (Number : Type)
  | goesOn
  | filter (gnssSvInfoList : List (GnssSvInfo Number))

namespace ServiceThread

variable {Caller : Type}

abbrev Local (Number : Type) : ServiceThread Caller → Type
  | .session => Pass Number
  | .caller _ => Unit

/-- A call of `isBlocklistedV2_1`, or one of `setBlocklist` with its list. -/
abbrev Section (Constellation Svid : Type) : ServiceThread Caller → Type
  | .session => Unit
  | .caller _ => List (BlocklistedSource Constellation Svid)

abbrev Act (Number : Type) : ServiceThread Caller → Type
  | .session => PassAct Number
  | .caller _ => Empty

end ServiceThread

section Functions

variable {Constellation Svid Number Caller : Type}
variable [DecidableEq Constellation] [DecidableEq Svid] [OfNat Svid 0]

/-! ## The statements -/

/-- The body of the filter's loop. -/
def filterOne (isBlocklisted : Bool) (usedInFix : UInt8) (info : GnssSvInfo Number) :
    GnssSvInfo Number :=
  if isBlocklisted then info.withSvFlag (info.svFlag &&& ~~~usedInFix) else info

def Pass.act (usedInFix : UInt8) (pass : Pass Number) : PassAct Number → Option (Pass Number)
  | .goesOn =>
      match pass.rest, pass.listed with
      | info :: rest, some listed =>
          some { pass with
            filtered := pass.filtered ++ [filterOne listed usedInFix info]
            rest := rest
            listed := none }
      | _, _ => none
  | .filter gnssSvInfoList =>
      match pass.rest with
      | [] => some ⟨pass.begun + 1, [], gnssSvInfoList, none⟩
      | _ :: _ => none

/-- The search of the constellation's set. -/
def findConstellation (key : GnssSvInfo Number → Constellation × Svid)
    (now : BlocklistSets Constellation Svid × Pass Number) :
    BlocklistSets Constellation Svid × Pass Number :=
  match now.2.rest with
  | [] => now
  | info :: _ =>
      (now.1, { now.2 with listed := some (decide ((key info).1 ∈ now.1.constellationSet)) })

/-- The search of the sources' set, unless the constellation was found. -/
def findSource (key : GnssSvInfo Number → Constellation × Svid)
    (now : BlocklistSets Constellation Svid × Pass Number) :
    BlocklistSets Constellation Svid × Pass Number :=
  match now.2.rest with
  | [] => now
  | info :: _ =>
      if now.2.listed = some true then now
      else
        (now.1, { now.2 with
          listed := some (decide ({ constellation := (key info).1, svid := (key info).2 } ∈
            now.1.sourceSet)) })

def clearConstellations (now : BlocklistSets Constellation Svid × Unit) :
    BlocklistSets Constellation Svid × Unit :=
  ({ now.1 with constellationSet := ∅ }, now.2)

def clearSources (now : BlocklistSets Constellation Svid × Unit) :
    BlocklistSets Constellation Svid × Unit :=
  ({ now.1 with sourceSet := ∅ }, now.2)

def insertOne (source : BlocklistedSource Constellation Svid)
    (now : BlocklistSets Constellation Svid × Unit) : BlocklistSets Constellation Svid × Unit :=
  (now.1.insertSource source, now.2)

/-- The configuration with its mutex. A satellite is looked up by its `key`. -/
def blocklistMonitor (Caller : Type) (key : GnssSvInfo Number → Constellation × Svid)
    (usedInFix : UInt8) :
    Monitor (ServiceThread Caller) (BlocklistSets Constellation Svid)
      (ServiceThread.Local Number) (ServiceThread.Section Constellation Svid)
      (ServiceThread.Act Number) where
  may
    | .session => fun pass _ => pass.listed.isNone && !pass.rest.isEmpty
    | .caller _ => fun _ _ => true
  body
    | .session => fun _ => [findConstellation key, findSource key]
    | .caller _ => fun sourceList =>
        clearConstellations :: clearSources :: sourceList.map insertOne
  alone
    | .session => fun pass act => pass.act usedInFix act
    | .caller _ => fun _ act => nomatch act

abbrev BlocklistShared (Constellation Svid Number Caller : Type) :=
  Monitor.Shared (BlocklistSets Constellation Svid)
    (fun thread : ServiceThread Caller => thread.Local Number)
    (fun thread : ServiceThread Caller => thread.Section Constellation Svid)

abbrev BlocklistHistory (Constellation Svid Caller : Type) :=
  List (Sigma fun thread : ServiceThread Caller => thread.Section Constellation Svid)

abbrev BlocklistWhole (Constellation Svid Number Caller : Type) :=
  Monitor.WholeLabel (fun thread : ServiceThread Caller => thread.Section Constellation Svid)
    (fun thread => thread.Act Number)

/-- Nothing is blocked, and the filter has not run. -/
structure BlocklistStarted (shared : BlocklistShared Constellation Svid Number Caller) : Prop where
  value : shared.value = .cleared
  pass : shared.locals .session = ⟨0, [], [], none⟩
  history : shared.history = []

end Functions

/-- Satellites as the AIDL configuration looks them up. -/
def Aidl.satelliteKey {Number : Type} (info : GnssSvInfo Number) : Int32 × Int32 :=
  (constellationType info.v2_0.constellation, info.v2_0.v1_0.svid.toInt32)

/-- Satellites as the HIDL configuration looks them up. -/
def V2_1.satelliteKey {Number : Type} (info : GnssSvInfo Number) : UInt8 × Int16 :=
  (info.v2_0.constellation, info.v2_0.v1_0.svid)

/-- The keys are what the two configurations are asked for. -/
theorem is_blocklisted_by_key {Number : Type} (aidl : Aidl.GnssConfiguration)
    (hidl : V2_1.GnssConfiguration) (info : GnssSvInfo Number) :
    aidl.isBlocklistedV2_1 info =
        BlocklistSets.isListed aidl (Aidl.satelliteKey info).1 (Aidl.satelliteKey info).2 ∧
      hidl.isBlacklistedV2_1 info =
        BlocklistSets.isListed hidl (V2_1.satelliteKey info).1 (V2_1.satelliteKey info).2 :=
  ⟨rfl, rfl⟩

section Runs

variable {Constellation Svid Number Caller : Type}
variable [DecidableEq Constellation] [DecidableEq Svid] [OfNat Svid 0]

/-! ## Whole calls -/

theorem insert_all (sourceList : List (BlocklistedSource Constellation Svid))
    (now : BlocklistSets Constellation Svid × Unit) :
    (sourceList.map insertOne).foldl (fun now statement => statement now) now =
      (sourceList.foldl BlocklistSets.insertSource now.1, now.2) := by
  induction sourceList generalizing now with
  | nil => rfl
  | cons source rest ih =>
      rw [List.map_cons, List.foldl_cons, ih]
      rfl

/-- What the sets were before the call does not matter. -/
theorem exec_set_blocklist (sourceList : List (BlocklistedSource Constellation Svid))
    (now : BlocklistSets Constellation Svid × Unit) :
    (clearConstellations :: clearSources :: sourceList.map insertOne).foldl
        (fun now statement => statement now) now =
      (BlocklistSets.setSources sourceList, now.2) := by
  rw [List.foldl_cons, List.foldl_cons, insert_all]
  rfl

omit [OfNat Svid 0] in
theorem exec_is_blocklisted (key : GnssSvInfo Number → Constellation × Svid)
    (sets : BlocklistSets Constellation Svid) {pass : Pass Number} {info : GnssSvInfo Number}
    {rest : List (GnssSvInfo Number)} (here : pass.rest = info :: rest) :
    findSource key (findConstellation key (sets, pass)) =
      (sets, { pass with listed := some (sets.isListed (key info).1 (key info).2) }) := by
  unfold findSource findConstellation BlocklistSets.isListed
  simp only [here]
  by_cases found : (key info).1 ∈ sets.constellationSet
  · simp [found]
  · simp [found]

/-- The list of the last call of `setBlocklist`. -/
def lastBlocklist (history : BlocklistHistory Constellation Svid Caller) :
    List (BlocklistedSource Constellation Svid) :=
  history.foldl
    (fun current entry =>
      match entry with
      | ⟨.session, _⟩ => current
      | ⟨.caller _, sourceList⟩ => sourceList) []

omit [DecidableEq Constellation] [DecidableEq Svid] [OfNat Svid 0] in
theorem act_cases {usedInFix : UInt8} {pass after : Pass Number} {act : PassAct Number}
    (goes : pass.act usedInFix act = some after) :
    (∃ info rest listed, pass.rest = info :: rest ∧ pass.listed = some listed ∧
      after = { pass with
        filtered := pass.filtered ++ [filterOne listed usedInFix info]
        rest := rest
        listed := none }) ∨
    ∃ gnssSvInfoList, after = ⟨pass.begun + 1, [], gnssSvInfoList, none⟩ := by
  rcases pass with ⟨begun, filtered, rest, listed⟩
  cases act with
  | goesOn =>
      cases rest with
      | nil => exact nomatch goes
      | cons info rest =>
          cases listed with
          | none => exact nomatch goes
          | some listed => exact .inl ⟨info, rest, listed, rfl, rfl, (Option.some.inj goes).symm⟩
  | filter gnssSvInfoList =>
      cases rest with
      | cons info rest => exact nomatch goes
      | nil => exact .inr ⟨gnssSvInfoList, (Option.some.inj goes).symm⟩

/-- What one whole section or one step of the reporting thread does. -/
inductive BlocklistMoved (key : GnssSvInfo Number → Constellation × Svid) (usedInFix : UInt8)
    (shared later : BlocklistShared Constellation Svid Number Caller) : Prop
  | sets (who : Caller) (sourceList : List (BlocklistedSource Constellation Svid))
      (value : later.value = BlocklistSets.setSources sourceList)
      (pass : later.locals .session = shared.locals .session)
      (history : later.history = shared.history ++ [⟨.caller who, sourceList⟩])
  | asks {info : GnssSvInfo Number} {rest : List (GnssSvInfo Number)}
      (here : (shared.locals .session).rest = info :: rest)
      (unanswered : (shared.locals .session).listed = none)
      (value : later.value = shared.value)
      (pass : later.locals .session = { shared.locals .session with
        listed := some (shared.value.isListed (key info).1 (key info).2) })
      (history : later.history = shared.history ++ [⟨.session, ()⟩])
  | goesOn {info : GnssSvInfo Number} {rest : List (GnssSvInfo Number)} {listed : Bool}
      (here : (shared.locals .session).rest = info :: rest)
      (answered : (shared.locals .session).listed = some listed)
      (value : later.value = shared.value)
      (pass : later.locals .session = { shared.locals .session with
        filtered := (shared.locals .session).filtered ++ [filterOne listed usedInFix info]
        rest := rest
        listed := none })
      (history : later.history = shared.history)
  | begins (gnssSvInfoList : List (GnssSvInfo Number))
      (value : later.value = shared.value)
      (pass : later.locals .session =
        ⟨(shared.locals .session).begun + 1, [], gnssSvInfoList, none⟩)
      (history : later.history = shared.history)

variable {key : GnssSvInfo Number → Constellation × Svid} {usedInFix : UInt8}

section Steps

variable [DecidableEq Caller]
variable {shared later : BlocklistShared Constellation Svid Number Caller}

theorem whole_moved {label : BlocklistWhole Constellation Svid Number Caller}
    (taken : (blocklistMonitor Caller key usedInFix).wholeNext shared label = some later) :
    BlocklistMoved key usedInFix shared later := by
  cases label with
  | runs thread entered =>
      unfold Monitor.wholeNext at taken
      dsimp only at taken
      split_ifs at taken with may
      rw [← Option.some.inj taken]
      cases thread with
      | caller who =>
          have run := exec_set_blocklist entered (shared.seen (.caller who))
          have different : ServiceThread.session ≠ .caller who := nofun
          have kept := shared.set_local_of_ne different
            (Monitor.exec (clearConstellations :: clearSources :: entered.map insertOne)
              (shared.seen (.caller who)))
          exact .sets who entered (congrArg Prod.fst run) kept rfl
      | session =>
          rcases Bool.and_eq_true_iff.mp may with ⟨unanswered, more⟩
          cases here : (shared.locals .session).rest with
          | nil => simp [here] at more
          | cons info rest =>
              have run := exec_is_blocklisted key shared.value here
              have own := shared.set_self .session
                (findSource key (findConstellation key (shared.seen .session)))
              exact .asks here (Option.isNone_iff_eq_none.mp unanswered)
                (congrArg Prod.fst run) (own.trans (congrArg Prod.snd run)) rfl
  | alone thread act =>
      rcases Option.map_eq_some_iff.mp taken with ⟨own, goes, rfl⟩
      cases thread with
      | caller who => exact nomatch act
      | session =>
          have became := shared.set_local_self .session own
          rcases act_cases goes with
            ⟨info, rest, listed, here, answered, rfl⟩ | ⟨gnssSvInfoList, rfl⟩
          · exact .goesOn here answered rfl became rfl
          · exact .begins gnssSvInfoList rfl became rfl

end Steps

/-! ## A pass -/

/-- The answer for a satellite when so much of the history was there. -/
def listedAt (key : GnssSvInfo Number → Constellation × Svid)
    (history : BlocklistHistory Constellation Svid Caller) (cut : Nat) (info : GnssSvInfo Number) :
    Bool :=
  (BlocklistSets.setSources (lastBlocklist (history.take cut))).isListed (key info).1 (key info).2

/-- Each satellite was filtered under the blocklist that was set last at some moment, and the
moments follow each other. -/
structure FilteredAt (key : GnssSvInfo Number → Constellation × Svid) (usedInFix : UInt8)
    (history : BlocklistHistory Constellation Svid Caller) (since : Nat) (cuts : List Nat)
    (satellites filtered : List (GnssSvInfo Number)) : Prop where
  sized : cuts.length = satellites.length
  ordered : cuts.Pairwise (· ≤ ·)
  within : ∀ cut ∈ cuts, since ≤ cut ∧ cut ≤ history.length
  filtered : filtered = List.zipWith
    (fun cut info => filterOne (listedAt key history cut info) usedInFix info) cuts satellites

/-- A pass that was begun with these satellites. -/
inductive Midway (key : GnssSvInfo Number → Constellation × Svid) (usedInFix : UInt8)
    (history : BlocklistHistory Constellation Svid Caller) (since : Nat)
    (satellites : List (GnssSvInfo Number)) (pass : Pass Number) : Prop
  | between {cuts : List Nat} {before : List (GnssSvInfo Number)}
      (unanswered : pass.listed = none) (split : satellites = before ++ pass.rest)
      (filtered : FilteredAt key usedInFix history since cuts before pass.filtered)
  | answered {cuts : List Nat} {before rest : List (GnssSvInfo Number)} {cut : Nat}
      {info : GnssSvInfo Number} (here : pass.rest = info :: rest)
      (answer : pass.listed = some (listedAt key history cut info))
      (split : satellites = before ++ pass.rest)
      (filtered : FilteredAt key usedInFix history since cuts before pass.filtered)
      (within : since ≤ cut ∧ cut ≤ history.length) (latest : ∀ earlier ∈ cuts, earlier ≤ cut)

section Cuts

variable {history more : BlocklistHistory Constellation Svid Caller} {since cut : Nat}
variable {cuts : List Nat} {satellites filtered : List (GnssSvInfo Number)}

theorem listed_at_append (before : cut ≤ history.length) (info : GnssSvInfo Number) :
    listedAt key (history ++ more) cut info = listedAt key history cut info := by
  unfold listedAt
  rw [List.take_append_of_le_length before]

theorem filtered_at_append (before : FilteredAt key usedInFix history since cuts satellites filtered) :
    FilteredAt key usedInFix (history ++ more) since cuts satellites filtered where
  sized := before.sized
  ordered := before.ordered
  within := by
    intro cut member
    have within := before.within cut member
    rw [List.length_append]
    omega
  filtered := by
    rw [before.filtered]
    apply List.ext_getElem
    · simp
    · intro index _ _
      simp only [List.getElem_zipWith]
      rw [listed_at_append (before.within _ (List.getElem_mem _)).2]

theorem filtered_at_concat (before : FilteredAt key usedInFix history since cuts satellites filtered)
    (within : since ≤ cut ∧ cut ≤ history.length) (latest : ∀ earlier ∈ cuts, earlier ≤ cut)
    (info : GnssSvInfo Number) :
    FilteredAt key usedInFix history since (cuts ++ [cut]) (satellites ++ [info])
      (filtered ++ [filterOne (listedAt key history cut info) usedInFix info]) where
  sized := by
    rw [List.length_append, List.length_append, before.sized]
    rfl
  ordered := by
    rw [List.pairwise_append]
    refine ⟨before.ordered, List.pairwise_singleton _ _, ?_⟩
    intro earlier member other last
    rw [List.mem_singleton.mp last]
    exact latest earlier member
  within := by
    intro other member
    rcases List.mem_append.mp member with old | new
    · exact before.within other old
    · rw [List.mem_singleton.mp new]
      exact within
  filtered := by
    rw [List.zipWith_append before.sized, ← before.filtered]
    rfl

theorem midway_append {pass : Pass Number}
    (before : Midway key usedInFix history since satellites pass) :
    Midway key usedInFix (history ++ more) since satellites pass := by
  cases before with
  | between unanswered split filtered =>
      exact .between unanswered split (filtered_at_append filtered)
  | @answered cuts before rest cut info here answer split filtered within latest =>
      have answerThen : pass.listed = some (listedAt key (history ++ more) cut info) := by
        rw [listed_at_append within.2]
        exact answer
      have withinThen : since ≤ cut ∧ cut ≤ (history ++ more).length := by
        rw [List.length_append]
        omega
      exact .answered here answerThen split (filtered_at_append filtered) withinThen latest

theorem midway_asks {pass : Pass Number} {info : GnssSvInfo Number}
    {rest : List (GnssSvInfo Number)} {asker : Sigma fun thread : ServiceThread Caller =>
      thread.Section Constellation Svid}
    (before : Midway key usedInFix history since satellites pass)
    (here : pass.rest = info :: rest) (unanswered : pass.listed = none)
    (started : since ≤ history.length) :
    Midway key usedInFix (history ++ [asker]) since satellites
      { pass with
        listed := some ((BlocklistSets.setSources (lastBlocklist history)).isListed
          (key info).1 (key info).2) } := by
  cases before with
  | answered _ answer => exact nomatch unanswered.symm.trans answer
  | between _ split filtered =>
      have now : listedAt key (history ++ [asker]) history.length info =
          (BlocklistSets.setSources (lastBlocklist history)).isListed (key info).1 (key info).2 := by
        unfold listedAt
        rw [List.take_left]
      have within : since ≤ history.length ∧ history.length ≤ (history ++ [asker]).length := by
        rw [List.length_append]
        omega
      exact .answered here (congrArg some now.symm) split (filtered_at_append filtered) within
        fun earlier member => (filtered.within earlier member).2

theorem midway_goes_on {pass : Pass Number} {info : GnssSvInfo Number}
    {rest : List (GnssSvInfo Number)} {listed : Bool}
    (before : Midway key usedInFix history since satellites pass)
    (here : pass.rest = info :: rest) (answered : pass.listed = some listed) :
    Midway key usedInFix history since satellites
      { pass with
        filtered := pass.filtered ++ [filterOne listed usedInFix info]
        rest := rest
        listed := none } := by
  cases before with
  | between unanswered _ _ => exact nomatch unanswered.symm.trans answered
  | @answered cuts before _ cut _ there answer split filtered within latest =>
      cases here.symm.trans there
      cases answered.symm.trans answer
      have passed : satellites = (before ++ [info]) ++ rest := by
        rw [split, here, List.append_assoc]
        rfl
      exact .between rfl passed (filtered_at_concat filtered within latest info)

end Cuts

omit [DecidableEq Constellation] [DecidableEq Svid] [OfNat Svid 0] in
theorem last_blocklist_asks (history : BlocklistHistory Constellation Svid Caller) :
    lastBlocklist (history ++ [⟨.session, ()⟩]) = lastBlocklist history := by
  unfold lastBlocklist
  rw [List.foldl_append]
  rfl

omit [DecidableEq Constellation] [DecidableEq Svid] [OfNat Svid 0] in
theorem last_blocklist_sets (history : BlocklistHistory Constellation Svid Caller) (who : Caller)
    (sourceList : List (BlocklistedSource Constellation Svid)) :
    lastBlocklist (history ++ [⟨.caller who, sourceList⟩]) = sourceList := by
  unfold lastBlocklist
  rw [List.foldl_append]
  rfl

/-- The sets are those of the last list. -/
theorem value_moved {shared later : BlocklistShared Constellation Svid Number Caller}
    (before : shared.value = BlocklistSets.setSources (lastBlocklist shared.history))
    (moved : BlocklistMoved key usedInFix shared later) :
    later.value = BlocklistSets.setSources (lastBlocklist later.history) := by
  cases moved with
  | sets who sourceList value pass history => rw [value, history, last_blocklist_sets]
  | asks here unanswered value pass history => rw [value, history, last_blocklist_asks, before]
  | goesOn here answered value pass history => rw [value, history, before]
  | begins gnssSvInfoList value pass history => rw [value, history, before]

/-- The pass goes on as it was begun, as long as there is no later one. -/
structure InPass (key : GnssSvInfo Number → Constellation × Svid) (usedInFix : UInt8)
    (begun : Nat) (start : BlocklistHistory Constellation Svid Caller)
    (satellites : List (GnssSvInfo Number))
    (shared : BlocklistShared Constellation Svid Number Caller) : Prop where
  value : shared.value = BlocklistSets.setSources (lastBlocklist shared.history)
  grown : ∃ more, shared.history = start ++ more
  counted : begun ≤ (shared.locals .session).begun
  midway : (shared.locals .session).begun = begun →
    Midway key usedInFix shared.history start.length satellites (shared.locals .session)

theorem in_pass_moved {begun : Nat} {start : BlocklistHistory Constellation Svid Caller}
    {satellites : List (GnssSvInfo Number)}
    {shared later : BlocklistShared Constellation Svid Number Caller}
    (before : InPass key usedInFix begun start satellites shared)
    (moved : BlocklistMoved key usedInFix shared later) :
    InPass key usedInFix begun start satellites later := by
  have value := value_moved before.value moved
  rcases before.grown with ⟨more, grown⟩
  cases moved with
  | sets who sourceList _ pass history =>
      refine ⟨value, ⟨more ++ [⟨.caller who, sourceList⟩], ?_⟩, ?_, ?_⟩
      · rw [history, grown, List.append_assoc]
      · rw [pass]
        exact before.counted
      · intro same
        rw [pass] at same ⊢
        rw [history]
        exact midway_append (before.midway same)
  | @asks info rest here unanswered _ pass history =>
      refine ⟨value, ⟨more ++ [⟨.session, ()⟩], ?_⟩, ?_, ?_⟩
      · rw [history, grown, List.append_assoc]
      · rw [pass]
        exact before.counted
      · intro same
        rw [pass] at same
        rw [pass, history, before.value]
        have started : start.length ≤ shared.history.length := by
          rw [grown, List.length_append]
          omega
        exact midway_asks (before.midway same) here unanswered started
  | goesOn here answered _ pass history =>
      refine ⟨value, ⟨more, history.trans grown⟩, ?_, ?_⟩
      · rw [pass]
        exact before.counted
      · intro same
        rw [pass] at same ⊢
        rw [history]
        exact midway_goes_on (before.midway same) here answered
  | begins gnssSvInfoList _ pass history =>
      refine ⟨value, ⟨more, history.trans grown⟩, ?_, ?_⟩
      · rw [pass]
        exact Nat.le_succ_of_le before.counted
      · intro same
        rw [pass] at same
        have earlier := before.counted
        dsimp only at same
        omega

variable [DecidableEq Caller]

theorem value_reachable {shared : BlocklistShared Constellation Svid Number Caller}
    (reached : ((blocklistMonitor Caller key usedInFix).wholeSystem BlocklistStarted).Reachable
      shared) : shared.value = BlocklistSets.setSources (lastBlocklist shared.history) := by
  refine TransitionSystem.reachable_invariant
    (fun shared : BlocklistShared Constellation Svid Number Caller =>
      shared.value = BlocklistSets.setSources (lastBlocklist shared.history)) ?_ ?_ reached
  · intro shared started
    rw [started.value, started.history]
    rfl
  · intro shared label later before taken
    exact value_moved before (whole_moved taken)

/-! ## In the middle of a call -/

abbrev BlocklistState (Constellation Svid Number Caller : Type) :=
  Monitor.State (BlocklistSets Constellation Svid)
    (fun thread : ServiceThread Caller => thread.Local Number)
    (fun thread : ServiceThread Caller => thread.Section Constellation Svid)

omit [OfNat Svid 0] [DecidableEq Caller] in
/-- The first statement of `isBlocklistedV2_1` already gives an answer. -/
theorem answered_at_once (sets : BlocklistSets Constellation Svid) {pass : Pass Number}
    {info : GnssSvInfo Number} {rest : List (GnssSvInfo Number)} (here : pass.rest = info :: rest)
    {statement : BlocklistSets Constellation Svid × Pass Number →
      BlocklistSets Constellation Svid × Pass Number}
    {done left : List (BlocklistSets Constellation Svid × Pass Number →
      BlocklistSets Constellation Svid × Pass Number)}
    (split : [findConstellation key, findSource key] = (statement :: done) ++ left) :
    ∃ answer, ((statement :: done).foldl (fun now statement => statement now)
      (sets, pass)).2.listed = some answer := by
  rcases List.cons.inj split with ⟨rfl, behind⟩
  cases done with
  | nil =>
      refine ⟨decide ((key info).1 ∈ sets.constellationSet), ?_⟩
      rw [List.foldl_cons, List.foldl_nil]
      unfold findConstellation
      simp only [here]
  | cons second done =>
      rcases List.cons.inj behind with ⟨rfl, none⟩
      rcases List.append_eq_nil_iff.mp none.symm with ⟨rfl, -⟩
      have run := exec_is_blocklisted key sets here
      exact ⟨_, congrArg (fun now : BlocklistSets Constellation Svid × Pass Number =>
        now.2.listed) run⟩

/-- A thread that has no answer yet has made no statement of its call. -/
theorem refined_pass {state : BlocklistState Constellation Svid Number Caller}
    {shared : BlocklistShared Constellation Svid Number Caller}
    (refines : (blocklistMonitor Caller key usedInFix).Refines state shared)
    (unanswered : (state.shared.locals .session).listed = none) :
    state.shared.locals .session = shared.locals .session := by
  cases refines with
  | free => rfl
  | @held shared thread entered done rest may split =>
      cases thread with
      | caller who =>
          have different : ServiceThread.session ≠ .caller who := nofun
          exact shared.set_local_of_ne different _
      | session =>
          rcases Bool.and_eq_true_iff.mp may with ⟨-, more⟩
          have own := shared.set_self .session (Monitor.exec done (shared.seen .session))
          cases here : (shared.locals .session).rest with
          | nil => simp [here] at more
          | cons info rest =>
              cases done with
              | nil => exact own
              | cons statement done =>
                  rcases answered_at_once shared.value here split with ⟨answer, answered⟩
                  rw [own] at unanswered
                  exact nomatch unanswered.symm.trans answered

/-! ## Every pass -/

omit [DecidableEq Constellation] [DecidableEq Svid] [OfNat Svid 0] [DecidableEq Caller] in
theorem last_blocklist_steady (history : BlocklistHistory Constellation Svid Caller)
    {more : BlocklistHistory Constellation Svid Caller} (asks : ∀ entry ∈ more, entry.1 = .session) :
    lastBlocklist (history ++ more) = lastBlocklist history := by
  induction more generalizing history with
  | nil => rw [List.append_nil]
  | cons entry rest ih =>
      rw [← List.singleton_append, ← List.append_assoc,
        ih _ fun other member => asks other (List.mem_cons_of_mem _ member)]
      have session := asks entry List.mem_cons_self
      rcases entry with ⟨thread, answer⟩
      subst session
      exact last_blocklist_asks history

/-- What a pass makes of its satellites while the list may change. -/
structure FilteredInTurn (key : GnssSvInfo Number → Constellation × Svid) (usedInFix : UInt8)
    (start history : BlocklistHistory Constellation Svid Caller)
    (satellites filtered : List (GnssSvInfo Number)) : Prop where
  /-- No satellite sees a list that is half set, or one that was replaced before an earlier
  satellite was looked up. -/
  inTurn : ∃ cuts, FilteredAt key usedInFix history start.length cuts satellites filtered
  /-- As long as no call comes to its end, one list is used throughout. -/
  steady : (∀ entry ∈ history.drop start.length, entry.1 = .session) →
    filtered = filterBlocklistedSatellites
      (fun info => (BlocklistSets.setSources (lastBlocklist start)).isListed
        (key info).1 (key info).2) usedInFix satellites

omit [DecidableEq Caller] in
theorem filtered_in_turn {start more : BlocklistHistory Constellation Svid Caller}
    {cuts : List Nat} {satellites filtered : List (GnssSvInfo Number)}
    (done : FilteredAt key usedInFix (start ++ more) start.length cuts satellites filtered) :
    FilteredInTurn key usedInFix start (start ++ more) satellites filtered where
  inTurn := ⟨cuts, done⟩
  steady := by
    intro asks
    rw [List.drop_left] at asks
    have same : ∀ cut ∈ cuts, listedAt key (start ++ more) cut = fun info : GnssSvInfo Number =>
        (BlocklistSets.setSources (lastBlocklist start)).isListed (key info).1 (key info).2 := by
      intro cut member
      funext info
      unfold listedAt
      rw [List.take_append, List.take_of_length_le (done.within cut member).1,
        last_blocklist_steady start fun entry inside => asks entry (List.mem_of_mem_take inside)]
    rw [done.filtered]
    unfold filterBlocklistedSatellites
    apply List.ext_getElem
    · rw [List.length_zipWith, List.length_map, done.sized, Nat.min_self]
    · intro index _ _
      rw [List.getElem_zipWith, List.getElem_map, same _ (List.getElem_mem _)]
      rfl

/-- Every pass of the filter, however `setBlocklist` is called meanwhile: satellite by satellite
under the list that was set last, whole and never older than for the satellite before. -/
theorem every_pass_in_turn (Caller : Type) [DecidableEq Caller]
    (key : GnssSvInfo Number → Constellation × Svid) (usedInFix : UInt8)
    (state after : BlocklistState Constellation Svid Number Caller) (begun : Nat)
    (satellites filtered : List (GnssSvInfo Number))
    (reached : ((blocklistMonitor Caller key usedInFix).system BlocklistStarted).Reachable state)
    (first : state.shared.locals .session = ⟨begun, [], satellites, none⟩)
    (labels : List (Monitor.Label (fun thread : ServiceThread Caller =>
      thread.Section Constellation Svid) (fun thread => thread.Act Number)))
    (path : ((blocklistMonitor Caller key usedInFix).system BlocklistStarted).Takes state labels
      after)
    (last : after.shared.locals .session = ⟨begun, filtered, [], none⟩) :
    FilteredInTurn key usedInFix state.shared.history after.shared.history satellites filtered := by
  rcases Monitor.refines_reachable reached with ⟨shared, before, refines⟩
  have pass := refined_pass refines (by rw [first])
  rcases Monitor.refines_takes refines path with ⟨whole, later, taken, refinesLater⟩
  have passLater := refined_pass refinesLater (by rw [last])
  have history : state.shared.history = shared.history := Monitor.refined_history refines
  have historyLater : after.shared.history = later.history := Monitor.refined_history refinesLater
  rw [pass] at first
  rw [passLater] at last
  rw [history, historyLater]
  have begins : InPass key usedInFix begun shared.history satellites shared := by
    refine ⟨value_reachable before, ⟨[], (List.append_nil _).symm⟩, ?_, ?_⟩
    · rw [first]
    · intro _
      rw [first]
      have nothing : FilteredAt key usedInFix shared.history shared.history.length [] [] [] :=
        ⟨rfl, .nil, fun _ member => absurd member List.not_mem_nil, rfl⟩
      exact .between rfl rfl nothing
  have ends : InPass key usedInFix begun shared.history satellites later :=
    TransitionSystem.takes_invariant (InPass key usedInFix begun shared.history satellites)
      (fun _ _ _ before taken => in_pass_moved before (whole_moved taken)) begins taken
  rcases ends.grown with ⟨more, grown⟩
  have midway := ends.midway (by rw [last])
  rw [last, grown] at midway
  rw [grown]
  cases midway with
  | answered here => exact nomatch here
  | between unanswered split done =>
      rw [List.append_nil] at split
      rw [split]
      exact filtered_in_turn done

end Runs

/-! ## A list that is set in the middle of a pass -/

def gpsSatellite (svid : Int16) (svFlag : UInt8) : GnssSvInfo Unit :=
  ⟨⟨⟨svid, 1, (), (), (), (), svFlag⟩, 1⟩, ()⟩

/-- The whole constellation. -/
def gpsBlocklist : List AidlSource := [⟨1, 0⟩]

def idleService : BlocklistState Int32 Int32 Unit Unit where
  shared :=
    { value := .cleared
      locals := fun thread =>
        match thread with
        | .session => ⟨0, [], [], none⟩
        | .caller _ => ()
      history := [] }
  holder := none

abbrev ServiceLabel :=
  Monitor.Label (fun thread : ServiceThread Unit => thread.Section Int32 Int32)
    (fun thread => thread.Act Unit)

/-- A satellite is looked up, and its flag is changed. -/
def lookUp : List ServiceLabel :=
  [.lock .session (), .statement, .statement, .unlock, .alone .session .goesOn]

def setGpsBlocklist : List ServiceLabel :=
  [.lock (.caller ()) gpsBlocklist, .statement, .statement, .statement, .unlock]

def ranService (labels : List ServiceLabel) (start : BlocklistState Int32 Int32 Unit Unit) :
    BlocklistState Int32 Int32 Unit Unit :=
  (labels.foldlM (blocklistMonitor Unit Aidl.satelliteKey 4).next start).getD start

def begunService : BlocklistState Int32 Int32 Unit Unit :=
  ranService [.alone .session (.filter [gpsSatellite 5 7, gpsSatellite 9 7])] idleService

/-- The list is set between the two satellites, and only the second one is blocked. -/
theorem every_pass_in_turn_mixed :
    FilteredInTurn Aidl.satelliteKey 4 begunService.shared.history
      (ranService (lookUp ++ setGpsBlocklist ++ lookUp) begunService).shared.history
      [gpsSatellite 5 7, gpsSatellite 9 7] [gpsSatellite 5 7, gpsSatellite 9 3] := by
  have idle : ((blocklistMonitor Unit Aidl.satelliteKey 4).system BlocklistStarted).Reachable
      idleService := .start ⟨⟨rfl, rfl, rfl⟩, rfl⟩
  have begins : List.foldlM (blocklistMonitor Unit Aidl.satelliteKey 4).next idleService
      [.alone .session (.filter [gpsSatellite 5 7, gpsSatellite 9 7])] = some begunService := rfl
  have runs : List.foldlM (blocklistMonitor Unit Aidl.satelliteKey 4).next begunService
      (lookUp ++ setGpsBlocklist ++ lookUp) =
        some (ranService (lookUp ++ setGpsBlocklist ++ lookUp) begunService) := rfl
  exact every_pass_in_turn Unit Aidl.satelliteKey 4 _ _ 1 _ _
    (TransitionSystem.reachable_of_run _ idle begins) rfl _
    (TransitionSystem.takes_of_run _ runs) rfl

end RedroidExt.Gnss
