import RedroidExt.Gnss.Locations

/-!
# When the lookup throws

Every line of the location file that starts with one of the ten keys is converted, and
nobody catches what `std::stof` and `std::stol` throw: not `getLocationFromHW`, and not
the thread that calls it.
-/

namespace RedroidExt.Gnss

open RedroidExt.Library

set_option autoImplicit false

/-! ## One line -/

/-- The keys whose text `std::stof` converts. -/
def floatKeys : List String :=
  ["LatitudeDegrees=", "LongitudeDegrees=", "AltitudeMeters=", "SpeedMetersPerSec=",
    "BearingDegrees=", "HorizontalAccuracyMeters=", "VerticalAccuracyMeters=",
    "SpeedAccuracyMetersPerSecond=", "BearingAccuracyDegrees="]

/-- The key whose text `std::stol` converts. -/
def timestampKey : String := "Timestamp="

/-- The line starts with the key, and the text is what follows. -/
def KeyedText (key : String) (line text : List UInt8) : Prop := line = bytesOf key ++ text

section Lines

variable {Number : Type} (std : Conversions Number)

/-- What the line gives to a conversion, the conversion takes. -/
structure LineConverts (line : List UInt8) : Prop where
  float : ∀ key ∈ floatKeys, ∀ text, KeyedText key line text →
    ∃ value, std.stof text = .ok value
  timestamp : ∀ text, KeyedText timestampKey line text → ∃ value, std.stol text = .ok value

/-- No key is the beginning of another one. -/
theorem keys_apart : ∀ key ∈ floatKeys ++ [timestampKey], ∀ other ∈ floatKeys ++ [timestampKey],
    bytesOf key <+: bytesOf other → key = other := by
  decide +kernel

theorem keyed_text_unique {key other : String} {line text rest : List UInt8}
    (isKey : key ∈ floatKeys ++ [timestampKey]) (isOther : other ∈ floatKeys ++ [timestampKey])
    (first : KeyedText key line text) (second : KeyedText other line rest) :
    key = other ∧ text = rest := by
  have starts : bytesOf key <+: line := ⟨text, first.symm⟩
  have startsToo : bytesOf other <+: line := ⟨rest, second.symm⟩
  have same : key = other := by
    rcases List.prefix_or_prefix_of_prefix starts startsToo with shorter | longer
    · exact keys_apart key isKey other isOther shorter
    · exact (keys_apart other isOther key isKey longer).symm
  refine ⟨same, ?_⟩
  unfold KeyedText at first second
  rw [first, same] at second
  exact List.append_cancel_left second

theorem assigned_ok_iff {Value Result : Type} (converted : Except StdException Value)
    (assigned : Value → Result) :
    (∃ result, (do return assigned (← converted)) = Except.ok (ε := StdException) result) ↔
      ∃ value, converted = .ok value := by
  cases converted with
  | error thrown =>
      constructor
      · rintro ⟨result, ok⟩
        cases ok
      · rintro ⟨value, ok⟩
        cases ok
  | ok value => exact ⟨fun _ => ⟨value, rfl⟩, fun _ => ⟨assigned value, rfl⟩⟩

/-- Each branch of the parser throws what its conversion throws. -/
theorem key_branch {key : String}
    {assign : Fix Number → List UInt8 → Except StdException (Fix Number)}
    (member : (key, assign) ∈ keys std) :
    (key ∈ floatKeys ∧ ∀ fix text,
      (∃ after, assign fix text = .ok after) ↔ ∃ value, std.stof text = .ok value) ∨
    (key = timestampKey ∧ ∀ fix text,
      (∃ after, assign fix text = .ok after) ↔ ∃ value, std.stol text = .ok value) := by
  simp only [keys, List.mem_cons, Prod.mk.injEq, List.not_mem_nil, or_false] at member
  rcases member with ⟨rfl, rfl⟩ | ⟨rfl, rfl⟩ | ⟨rfl, rfl⟩ | ⟨rfl, rfl⟩ | ⟨rfl, rfl⟩ | ⟨rfl, rfl⟩ |
    ⟨rfl, rfl⟩ | ⟨rfl, rfl⟩ | ⟨rfl, rfl⟩ | ⟨rfl, rfl⟩
  · exact .inl ⟨by decide, fun fix text => assigned_ok_iff _ _⟩
  · exact .inl ⟨by decide, fun fix text => assigned_ok_iff _ _⟩
  · exact .inl ⟨by decide, fun fix text => assigned_ok_iff _ _⟩
  · exact .inl ⟨by decide, fun fix text => assigned_ok_iff _ _⟩
  · exact .inl ⟨by decide, fun fix text => assigned_ok_iff _ _⟩
  · exact .inl ⟨by decide, fun fix text => assigned_ok_iff _ _⟩
  · exact .inl ⟨by decide, fun fix text => assigned_ok_iff _ _⟩
  · exact .inl ⟨by decide, fun fix text => assigned_ok_iff _ _⟩
  · exact .inl ⟨by decide, fun fix text => assigned_ok_iff _ _⟩
  · exact .inr ⟨rfl, fun fix text => assigned_ok_iff _ _⟩

theorem key_has_branch {key : String} (isKey : key ∈ floatKeys ++ [timestampKey]) :
    ∃ assign, (key, assign) ∈ keys std := by
  have names : (keys std).map Prod.fst = ["LatitudeDegrees=", "LongitudeDegrees=",
      "AltitudeMeters=", "SpeedMetersPerSec=", "BearingDegrees=", "HorizontalAccuracyMeters=",
      "VerticalAccuracyMeters=", "SpeedAccuracyMetersPerSecond=", "BearingAccuracyDegrees=",
      "Timestamp="] := rfl
  have member : key ∈ (keys std).map Prod.fst := names ▸ isKey
  obtain ⟨entry, within, rfl⟩ := List.mem_map.mp member
  exact ⟨entry.2, within⟩

/-- A line throws exactly when a conversion it is given to throws. -/
theorem parse_item_ok_iff (fix : Fix Number) (line : List UInt8) :
    (∃ after, parseItem std fix line = .ok after) ↔ LineConverts std line := by
  unfold parseItem
  cases found : (keys std).find? fun entry => (bytesOf entry.1).isPrefixOf line with
  | none =>
      have noKey : ∀ key ∈ floatKeys ++ [timestampKey], ∀ text, ¬ KeyedText key line text := by
        intro key isKey text keyed
        obtain ⟨assign, member⟩ := key_has_branch std isKey
        have other := List.find?_eq_none.mp found (key, assign) member
        exact other (List.isPrefixOf_iff_prefix.mpr ⟨text, keyed.symm⟩)
      refine ⟨fun _ => ⟨?_, ?_⟩, fun _ => ⟨fix, rfl⟩⟩
      · intro key member text keyed
        exact absurd keyed (noKey key (List.mem_append_left _ member) text)
      · intro text keyed
        exact absurd keyed (noKey timestampKey (by decide) text)
  | some entry =>
      obtain ⟨key, assign⟩ := entry
      have member := List.mem_of_find?_eq_some found
      have starts := List.find?_some found
      dsimp only at starts
      have keyed : KeyedText key line (line.drop (bytesOf key).length) :=
        (List.prefix_iff_eq_append.mp (List.isPrefixOf_iff_prefix.mp starts)).symm
      dsimp only
      rcases key_branch std member with ⟨isFloat, throws⟩ | ⟨isTimestamp, throws⟩
      · rw [throws]
        have isKey := List.mem_append_left [timestampKey] isFloat
        constructor
        · intro converts
          constructor
          · intro other isOther text given
            obtain ⟨-, same⟩ := keyed_text_unique (List.mem_append_left _ isOther) isKey given keyed
            rw [same]
            exact converts
          · intro text given
            obtain ⟨same, -⟩ := keyed_text_unique (by decide) isKey given keyed
            rw [← same] at isFloat
            exact absurd isFloat (by decide)
        · exact fun converts => converts.float key isFloat _ keyed
      · rw [throws]
        have isKey : key ∈ floatKeys ++ [timestampKey] := by
          rw [isTimestamp]
          decide
        constructor
        · intro converts
          constructor
          · intro other isOther text given
            obtain ⟨same, -⟩ := keyed_text_unique (List.mem_append_left _ isOther) isKey given keyed
            rw [same, isTimestamp] at isOther
            exact absurd isOther (by decide)
          · intro text given
            obtain ⟨-, same⟩ := keyed_text_unique (by decide) isKey given keyed
            rw [same]
            exact converts
        · exact fun converts => converts.timestamp _ (isTimestamp ▸ keyed)

/-! ## The whole file -/

theorem foldlM_ok_iff {State Item : Type} {step : State → Item → Except StdException State}
    {good : Item → Prop} (each : ∀ state item, (∃ after, step state item = .ok after) ↔ good item)
    (items : List Item) (state : State) :
    (∃ after, items.foldlM step state = .ok after) ↔ ∀ item ∈ items, good item := by
  induction items generalizing state with
  | nil =>
      constructor
      · intro _ item member
        cases member
      · exact fun _ => ⟨state, rfl⟩
  | cons item rest ih =>
      rw [List.foldlM_cons, List.forall_mem_cons, ← each state item]
      cases taken : step state item with
      | error thrown =>
          constructor
          · rintro ⟨after, ok⟩
            cases ok
          · rintro ⟨⟨after, ok⟩, -⟩
            cases ok
      | ok next =>
          rw [← ih next]
          exact ⟨fun ok => ⟨⟨next, rfl⟩, ok⟩, fun both => both.2⟩

/-- Every line of the file, as far as it is written, converts. -/
def FileConverts (surroundings : Surroundings Number) : Prop :=
  ∀ blocks, surroundings.file = some blocks →
    ∀ line ∈ getlines blocks.flatten, LineConverts std line

variable [NatCast Number]

/-- The lookup returns a location for exactly the files whose lines convert. -/
theorem location_from_hw_iff (surroundings : Surroundings Number) :
    (∃ location, getLocationFromHW std surroundings = .ok (some location)) ↔
      FileConverts std surroundings := by
  have read : (∃ location, getLocationFromHW std surroundings = .ok (some location)) ↔
      ∃ fix, readFix std surroundings = .ok fix := by
    rw [getLocationFromHW]
    cases readFix std surroundings with
    | error thrown =>
        constructor
        · rintro ⟨location, ok⟩
          cases ok
        · rintro ⟨fix, ok⟩
          cases ok
    | ok fix => exact ⟨fun _ => ⟨fix, rfl⟩, fun _ => ⟨_, rfl⟩⟩
  rw [read]
  unfold readFix FileConverts
  cases surroundings.file with
  | none =>
      constructor
      · intro _ blocks given
        cases given
      · exact fun _ => ⟨_, rfl⟩
  | some blocks =>
      have joined : blocks.foldl (fun text block => text ++ block) [] = [] ++ blocks.flatMap id :=
        List.foldl_append_eq_append
      rw [List.nil_append, List.flatMap_id] at joined
      dsimp only
      rw [joined, foldlM_ok_iff (parse_item_ok_iff std)]
      constructor
      · intro lines given same
        rw [← Option.some.inj same]
        exact lines
      · exact fun lines => lines blocks rfl

end Lines

namespace GnssTemplate

/-! ## The thread -/

section Threads

variable {Callback Number : Type}

/-- The file that a lookup reads converts. -/
def ReadsFine (std : Conversions Number) (state : State Callback Number) (step : Step Number) : Prop :=
  ∀ surroundings, step = .reporter surroundings → state.mThread = some .lookup →
    FileConverts std surroundings

/-- Between the test of `mIsActive` and the assignment to `mThread`. -/
def ClientAt.starting : ClientAt → Bool
  | .start => true
  | .sessionBegin => true
  | .spawn => true
  | _ => false

/-- Between clearing `mIsActive` and the end of `join`. -/
def ClientAt.stopping : ClientAt → Bool
  | .sessionEnd _ => true
  | .join _ => true
  | _ => false

/-- `stop` joins the thread before anything can start another one. -/
structure OneThread (state : State Callback Number) : Prop where
  alone : state.client.starting = true → state.mThread = none
  active : state.client = .sessionBegin ∨ state.client = .spawn → state.mIsActive = true
  running : state.mThread ≠ none → state.mIsActive = true ∨ state.client.stopping = true

variable {state after : State Callback Number} {surroundings : Surroundings Number}

theorem running_active (before : OneThread state) (running : state.mThread ≠ none)
    (outside : state.client.stopping = false) : state.mIsActive = true := by
  rcases before.running running with active | stopping
  · exact active
  · rw [outside] at stopping
    cases stopping

/-- A statement of the client that is no part of `start` or `stop`. -/
theorem one_thread_kept (before : OneThread state) (outside : state.client.stopping = false)
    (next : after.client.starting = false) (thread : after.mThread = state.mThread)
    (active : after.mIsActive = state.mIsActive) : OneThread after where
  alone := by
    intro starting
    rw [next] at starting
    cases starting
  active := by
    rintro (begins | spawns)
    · rw [begins] at next
      cases next
    · rw [spawns] at next
      cases next
  running := by
    rw [thread, active]
    exact fun running => .inl (running_active before running outside)

theorem begin_one_thread (before : OneThread state) (place : state.client = .idle)
    (call : Call Callback) :
    OneThread (state.begin call) ∧ (state.begin call).terminated = state.terminated := by
  have outside : state.client.stopping = false := by
    rw [place]
    rfl
  have starting : state.client.starting = false := by
    rw [place]
    rfl
  cases call with
  | register version callback =>
      cases callback with
      | none => exact ⟨one_thread_kept before outside starting rfl rfl, rfl⟩
      | some callback => exact ⟨one_thread_kept before outside rfl rfl rfl, rfl⟩
  | cleanup => exact ⟨one_thread_kept before outside starting rfl rfl, rfl⟩
  | start => exact ⟨one_thread_kept before outside rfl rfl rfl, rfl⟩
  | stop => exact ⟨one_thread_kept before outside rfl rfl rfl, rfl⟩

theorem client_one_thread (before : OneThread state) (taken : nextClient state = some after) :
    OneThread after ∧ after.terminated = state.terminated := by
  cases place : state.client with
  | idle =>
      have outside : state.client.stopping = false := by
        rw [place]
        rfl
      simp only [nextClient, place] at taken
      cases calls : state.calls with
      | nil => simp [calls] at taken
      | cons call rest =>
          rw [calls] at taken
          cases taken
          have idle : OneThread { state with client := .idle, calls := rest } :=
            one_thread_kept before outside rfl rfl rfl
          exact begin_one_thread idle rfl call
  | announce version =>
      have outside : state.client.stopping = false := by
        rw [place]
        rfl
      simp only [nextClient, place] at taken
      cases taken
      exact ⟨one_thread_kept before outside rfl rfl rfl, rfl⟩
  | testActive =>
      have outside : state.client.stopping = false := by
        rw [place]
        rfl
      simp only [nextClient, place] at taken
      cases taken
      refine ⟨?_, rfl⟩
      cases active : state.mIsActive with
      | true => exact one_thread_kept before outside rfl rfl active.symm
      | false =>
          have alone : state.mThread = none := by
            by_contra running
            rw [running_active before running outside] at active
            cases active
          exact ⟨fun _ => alone, by simp, fun running => absurd alone running⟩
  | stop caller =>
      simp only [nextClient, place] at taken
      cases taken
      exact ⟨⟨by simp [ClientAt.starting], by simp, fun _ => .inr rfl⟩, rfl⟩
  | sessionEnd caller =>
      simp only [nextClient, place] at taken
      cases taken
      exact ⟨⟨by simp [ClientAt.starting], by simp, fun _ => .inr rfl⟩, rfl⟩
  | join caller =>
      have joined : ∀ next : State Callback Number, next.client = afterStop caller →
          next.mThread = none → OneThread next := by
        intro next client none
        refine ⟨fun _ => none, ?_, fun running => absurd none running⟩
        rw [client]
        cases caller <;> simp [afterStop]
      cases thread : state.mThread with
      | none =>
          simp only [nextClient, place, thread] at taken
          cases taken
          exact ⟨joined _ rfl rfl, rfl⟩
      | some reporter =>
          simp only [nextClient, place, thread] at taken
          cases reporter with
          | exited =>
              cases taken
              exact ⟨joined _ rfl rfl, rfl⟩
          | _ => cases taken
  | start =>
      have alone : state.mThread = none := before.alone (by rw [place]; rfl)
      simp only [nextClient, place] at taken
      cases taken
      exact ⟨⟨fun _ => alone, fun _ => rfl, fun running => absurd alone running⟩, rfl⟩
  | sessionBegin =>
      have alone : state.mThread = none := before.alone (by rw [place]; rfl)
      simp only [nextClient, place] at taken
      cases taken
      exact ⟨⟨fun _ => alone, fun _ => before.active (.inl place),
        fun running => absurd alone running⟩, rfl⟩
  | spawn =>
      have alone : state.mThread = none := before.alone (by rw [place]; rfl)
      simp only [nextClient, place, alone, Option.isSome_none] at taken
      cases taken
      exact ⟨⟨by simp [ClientAt.starting], by simp,
        fun _ => .inl (before.active (.inr place))⟩, rfl⟩

/-- A lookup ends the process for exactly the files that do not convert. -/
theorem lookup_terminates_iff [NatCast Number] {std : Conversions Number}
    (alive : state.terminated = false) (place : state.mThread = some .lookup)
    (taken : nextReporter std surroundings state = some after) :
    after.terminated = true ↔ ¬ FileConverts std surroundings := by
  rw [← location_from_hw_iff]
  simp only [nextReporter, place] at taken
  cases found : getLocationFromHW std surroundings with
  | error thrown =>
      rw [found] at taken
      cases taken
      exact ⟨fun _ => by simp, fun _ => rfl⟩
  | ok current =>
      obtain ⟨location, present⟩ := location_from_hw_not_null found
      rw [found, present] at taken
      cases taken
      rw [present, alive]
      simp

theorem reporter_one_thread [NatCast Number] {std : Conversions Number} (before : OneThread state)
    (alive : state.terminated = false)
    (fine : state.mThread = some .lookup → FileConverts std surroundings)
    (taken : nextReporter std surroundings state = some after) :
    OneThread after ∧ after.terminated = false := by
  have started : state.mThread ≠ none := by
    intro none
    simp [nextReporter, none] at taken
  have moved : ∀ next : State Callback Number, next.client = state.client →
      next.mIsActive = state.mIsActive → next.terminated = false →
      OneThread next ∧ next.terminated = false := by
    intro next client active still
    refine ⟨⟨?_, ?_, ?_⟩, still⟩
    · rw [client]
      exact fun starting => absurd (before.alone starting) started
    · rw [client, active]
      exact before.active
    · rw [client, active]
      exact fun _ => before.running started
  have step := loop_step taken
  cases step with
  | enter place => exact moved _ rfl rfl alive
  | leave place => exact moved _ rfl rfl alive
  | svStatus place => exact moved _ rfl rfl alive
  | throws place =>
      exact absurd (fine place) ((lookup_terminates_iff alive place taken).mp rfl)
  | found place location => exact moved _ rfl rfl alive
  | mock place location => exact moved _ rfl rfl alive
  | report place => exact moved _ rfl rfl alive
  | wake place => exact moved _ rfl rfl alive

theorem reachable_one_thread [NatCast Number] {std : Conversions Number}
    {calls : List (Call Callback)}
    (reached : ((system std calls).restrict (ReadsFine std)).Reachable state) :
    OneThread state ∧ state.terminated = false := by
  apply TransitionSystem.reachable_invariant _ _ _ reached
  · rintro first ⟨mIsActive, rfl⟩
    exact ⟨⟨fun _ => rfl, by simp [constructed], by simp [constructed]⟩, rfl⟩
  · intro before step after invariant taken
    obtain ⟨fine, taken⟩ := taken
    change next std before step = some after at taken
    obtain ⟨one, alive⟩ := invariant
    simp only [next, alive] at taken
    cases step with
    | client =>
        obtain ⟨kept, same⟩ := client_one_thread one taken
        exact ⟨kept, same.trans alive⟩
    | reporter surroundings => exact reporter_one_thread one alive (fine surroundings rfl) taken

/-- The lookup returns a location for exactly the files whose lines convert; every other file
ends the process, and in a run that only reads such files nothing does. -/
theorem location_file_harmless [NatCast Number] (std : Conversions Number) :
    (∀ surroundings, (∃ location, getLocationFromHW std surroundings = .ok (some location)) ↔
      FileConverts std surroundings) ∧
    (∀ (state after : State Callback Number) surroundings, state.terminated = false →
      state.mThread = some .lookup → next std state (.reporter surroundings) = some after →
      (after.terminated = false ↔ FileConverts std surroundings)) ∧
    ∀ (calls : List (Call Callback)) (state : State Callback Number),
      ((system std calls).restrict (ReadsFine std)).Reachable state →
      state.terminated = false := by
  refine ⟨location_from_hw_iff std, ?_, ?_⟩
  · intro state after surroundings alive place taken
    simp only [next, alive] at taken
    have ends := lookup_terminates_iff alive place taken
    rw [← Bool.not_eq_true, ends, not_not]
  · exact fun calls state reached => (reachable_one_thread reached).2

/-- A file with one complete line. -/
def completeFile : Surroundings Int := onTheGround (some [bytesOf "LatitudeDegrees=3\n"])

/-- The first pass reads it and goes on. -/
theorem location_file_harmless_complete :
    FileConverts threeOnly completeFile ∧
      ∃ state : State Nat Int, state.iterations ≠ [] ∧ state.terminated = false := by
  obtain ⟨returns, -, survives⟩ := @location_file_harmless Nat Int _ threeOnly
  have fine : FileConverts threeOnly completeFile := (returns _).mp ⟨_, rfl⟩
  have reached := TransitionSystem.reachable_of_check
    ((system threeOnly [setCallback_2_1 (some 1), .start]).restrict (ReadsFine threeOnly))
    (fun state step => (next threeOnly state step).getD state)
    (fun state step => (next threeOnly state step).isSome) (firstPass completeFile)
    (by
      intro state step member taken
      refine ⟨?_, (Option.some_get taken).symm.trans ?_⟩
      · rintro surroundings rfl -
        have same : surroundings = completeFile := by
          simpa [firstPass] using member
        rw [same]
        exact fine
      · rw [Option.get_eq_getD])
    (.start ⟨false, rfl⟩) (by decide +kernel)
  generalize computed : (firstPass completeFile).foldl
    (fun state step => (next threeOnly state step).getD state) _ = state at reached
  refine ⟨fine, state, ?_, survives _ _ reached⟩
  rw [← computed]
  decide +kernel

/-- A file that is cut behind its first key. -/
def truncatedFile : Surroundings Int := onTheGround (some [bytesOf "LatitudeDegrees="])

/-- The exception leaves the lookup and then the thread. -/
theorem truncated_file_terminates :
    getLocationFromHW threeOnly truncatedFile = .error .invalid_argument ∧
      ∃ state : State Nat Int,
        (system threeOnly [setCallback_2_1 (some 1), .start]).Reachable state ∧
          state.terminated = true := by
  refine ⟨rfl, _, TransitionSystem.reachable_of_run
    (List.replicate 7 .client ++ List.replicate 3 (.reporter truncatedFile)) (.start ⟨false, rfl⟩)
    rfl, rfl⟩

end Threads

end GnssTemplate

end RedroidExt.Gnss
