import Mathlib.Data.Finset.Insert
import Mathlib.Data.List.Forall2

/-!
# Blocklisted satellites

`setBlocklist` of the AIDL configuration with the filter of `GnssHidlHal`, and their
HIDL counterparts `setBlacklist_2_1` and the filter of `GnssTemplate`. The sets are
searched by equality of the sources, with which their hash functions agree. An
enumeration is the number that stands for its value: one byte in HIDL, an `int` in
AIDL.
-/

namespace RedroidExt.Gnss

set_option autoImplicit false

/-! ## The two sets -/

structure BlocklistedSource (Constellation Svid : Type) where
  constellation : Constellation
  svid : Svid
deriving DecidableEq, Repr

/-- Whole constellations, and sources of which a single satellite is blocked. -/
structure BlocklistSets (Constellation Svid : Type) where
  constellationSet : Finset Constellation
  sourceSet : Finset (BlocklistedSource Constellation Svid)

section Sets

variable {Constellation Svid : Type} [DecidableEq Constellation] [DecidableEq Svid] [OfNat Svid 0]

namespace BlocklistSets

def cleared : BlocklistSets Constellation Svid where
  constellationSet := ∅
  sourceSet := ∅

/-- The body of the loop over the sources. -/
def insertSource (sets : BlocklistSets Constellation Svid)
    (source : BlocklistedSource Constellation Svid) : BlocklistSets Constellation Svid :=
  if source.svid = 0 then
    { sets with constellationSet := insert source.constellation sets.constellationSet }
  else { sets with sourceSet := insert source sets.sourceSet }

def setSources (sourceList : List (BlocklistedSource Constellation Svid)) :
    BlocklistSets Constellation Svid :=
  sourceList.foldl insertSource cleared

def isListed (sets : BlocklistSets Constellation Svid) (constellation : Constellation)
    (svid : Svid) : Bool :=
  if constellation ∈ sets.constellationSet then true
  else decide ({ constellation := constellation, svid := svid } ∈ sets.sourceSet)

end BlocklistSets

/-- The list has a wildcard for the constellation, or the source itself. -/
def Blocklisted (sourceList : List (BlocklistedSource Constellation Svid))
    (constellation : Constellation) (svid : Svid) : Prop :=
  { constellation := constellation, svid := 0 } ∈ sourceList ∨
    { constellation := constellation, svid := svid } ∈ sourceList

namespace BlocklistSets

theorem mem_constellation_insert (sets : BlocklistSets Constellation Svid)
    (source : BlocklistedSource Constellation Svid) (constellation : Constellation) :
    constellation ∈ (sets.insertSource source).constellationSet ↔
      { constellation := constellation, svid := 0 } = source ∨
        constellation ∈ sets.constellationSet := by
  unfold insertSource
  cases source with
  | mk other svid =>
      by_cases wildcard : svid = 0
      · simp [wildcard]
      · simp [wildcard, Ne.symm wildcard]

theorem mem_source_insert (sets : BlocklistSets Constellation Svid)
    (source other : BlocklistedSource Constellation Svid) :
    other ∈ (sets.insertSource source).sourceSet ↔
      other = source ∧ source.svid ≠ 0 ∨ other ∈ sets.sourceSet := by
  unfold insertSource
  by_cases wildcard : source.svid = 0
  · simp [wildcard]
  · simp [wildcard]

theorem mem_constellation_fold (sets : BlocklistSets Constellation Svid)
    (sourceList : List (BlocklistedSource Constellation Svid)) (constellation : Constellation) :
    constellation ∈ (sourceList.foldl insertSource sets).constellationSet ↔
      { constellation := constellation, svid := 0 } ∈ sourceList ∨
        constellation ∈ sets.constellationSet := by
  induction sourceList generalizing sets with
  | nil => simp
  | cons source rest ih =>
      rw [List.foldl_cons, ih, mem_constellation_insert, List.mem_cons, or_left_comm, or_assoc]

theorem mem_source_fold (sets : BlocklistSets Constellation Svid)
    (sourceList : List (BlocklistedSource Constellation Svid))
    (other : BlocklistedSource Constellation Svid) :
    other ∈ (sourceList.foldl insertSource sets).sourceSet ↔
      other ∈ sourceList ∧ other.svid ≠ 0 ∨ other ∈ sets.sourceSet := by
  induction sourceList generalizing sets with
  | nil => simp
  | cons source rest ih =>
      rw [List.foldl_cons, ih, mem_source_insert, List.mem_cons]
      constructor
      · intro found
        rcases found with later | ⟨same, specific⟩ | before
        · exact .inl ⟨.inr later.1, later.2⟩
        · exact .inl ⟨.inl same, same ▸ specific⟩
        · exact .inr before
      · intro found
        rcases found with ⟨same | later, specific⟩ | before
        · exact .inr (.inl ⟨same, same ▸ specific⟩)
        · exact .inl ⟨later, specific⟩
        · exact .inr (.inr before)

theorem mem_constellation_set_sources (sourceList : List (BlocklistedSource Constellation Svid))
    (constellation : Constellation) :
    constellation ∈ (setSources sourceList).constellationSet ↔
      { constellation := constellation, svid := 0 } ∈ sourceList :=
  (mem_constellation_fold cleared sourceList constellation).trans
    (or_iff_left (Finset.notMem_empty constellation))

theorem mem_source_set_sources (sourceList : List (BlocklistedSource Constellation Svid))
    (source : BlocklistedSource Constellation Svid) :
    source ∈ (setSources sourceList).sourceSet ↔ source ∈ sourceList ∧ source.svid ≠ 0 :=
  (mem_source_fold cleared sourceList source).trans (or_iff_left (Finset.notMem_empty source))

/-- The sets of a list find what the list blocks. -/
theorem is_listed_iff (sourceList : List (BlocklistedSource Constellation Svid))
    (constellation : Constellation) (svid : Svid) :
    (setSources sourceList).isListed constellation svid = true ↔
      Blocklisted sourceList constellation svid := by
  unfold isListed Blocklisted
  by_cases whole : constellation ∈ (setSources sourceList).constellationSet
  · rw [if_pos whole]
    exact iff_of_true rfl (.inl ((mem_constellation_set_sources _ _).mp whole))
  · rw [if_neg whole, decide_eq_true_iff, mem_source_set_sources]
    rw [mem_constellation_set_sources] at whole
    constructor
    · exact fun found => .inr found.1
    · intro listed
      have member := listed.resolve_left whole
      refine ⟨member, ?_⟩
      intro wildcard
      dsimp only at wildcard
      rw [wildcard] at member
      exact whole member

end BlocklistSets

omit [DecidableEq Constellation] [DecidableEq Svid] in
/-- Order and repetition do not matter. -/
theorem blocklisted_congr {left right : List (BlocklistedSource Constellation Svid)}
    (same : ∀ source, source ∈ left ↔ source ∈ right) (constellation : Constellation)
    (svid : Svid) :
    Blocklisted left constellation svid ↔ Blocklisted right constellation svid :=
  or_congr (same _) (same _)

end Sets

/-! ## Satellites -/

section Satellites

variable {Number : Type}

/-- `V1_0::IGnssCallback::GnssSvInfo`. -/
structure GnssSvInfo_1_0 (Number : Type) where
  svid : Int16
  constellation : UInt8
  cN0Dbhz : Number
  elevationDegrees : Number
  azimuthDegrees : Number
  carrierFrequencyHz : Number
  svFlag : UInt8

/-- `V2_0::IGnssCallback::GnssSvInfo`. -/
structure GnssSvInfo_2_0 (Number : Type) where
  v1_0 : GnssSvInfo_1_0 Number
  constellation : UInt8

/-- `V2_1::IGnssCallback::GnssSvInfo`. -/
structure GnssSvInfo (Number : Type) where
  v2_0 : GnssSvInfo_2_0 Number
  basebandCN0DbHz : Number

namespace GnssSvInfo

def svFlag (info : GnssSvInfo Number) : UInt8 := info.v2_0.v1_0.svFlag

/-- The same satellite with another flag byte. -/
def withSvFlag (info : GnssSvInfo Number) (svFlag : UInt8) : GnssSvInfo Number :=
  { info with v2_0 := { info.v2_0 with v1_0 := { info.v2_0.v1_0 with svFlag := svFlag } } }

end GnssSvInfo

/-- The loop of both filters; `usedInFix` is `GnssSvFlags::USED_IN_FIX`. -/
def filterBlocklistedSatellites (isBlocklisted : GnssSvInfo Number → Bool) (usedInFix : UInt8)
    (gnssSvInfoList : List (GnssSvInfo Number)) : List (GnssSvInfo Number) :=
  gnssSvInfoList.map fun info =>
    if isBlocklisted info then info.withSvFlag (info.svFlag &&& ~~~usedInFix) else info

/-- A satellite before and behind the filter: if it is blocked, `USED_IN_FIX` is cleared, and all
else is as before. -/
structure Cleared (usedInFix : UInt8) (blocked : GnssSvInfo Number → Prop)
    (info filtered : GnssSvInfo Number) : Prop where
  bits : ∀ bit, filtered.svFlag.toBitVec.getLsbD bit = true ↔
    info.svFlag.toBitVec.getLsbD bit = true ∧
      ¬ (blocked info ∧ usedInFix.toBitVec.getLsbD bit = true)
  rest : filtered = info.withSvFlag filtered.svFlag

theorem cleared_bits (svFlag usedInFix : UInt8) (bit : Nat) :
    (svFlag &&& ~~~usedInFix).toBitVec.getLsbD bit = true ↔
      svFlag.toBitVec.getLsbD bit = true ∧ ¬ usedInFix.toBitVec.getLsbD bit = true := by
  rw [UInt8.toBitVec_and, UInt8.toBitVec_not, BitVec.getLsbD_and, BitVec.getLsbD_not,
    Bool.and_eq_true_iff]
  constructor
  · intro both
    exact ⟨both.1, by simpa using (Bool.and_eq_true_iff.mp both.2).2⟩
  · intro both
    have inside := BitVec.lt_of_getLsbD both.1
    exact ⟨both.1, by simpa [inside] using both.2⟩

theorem filter_cleared {isBlocklisted : GnssSvInfo Number → Bool}
    {blocked : GnssSvInfo Number → Prop}
    (exactly : ∀ info, isBlocklisted info = true ↔ blocked info) (usedInFix : UInt8)
    (gnssSvInfoList : List (GnssSvInfo Number)) :
    List.Forall₂ (Cleared usedInFix blocked) gnssSvInfoList
      (filterBlocklistedSatellites isBlocklisted usedInFix gnssSvInfoList) := by
  unfold filterBlocklistedSatellites
  induction gnssSvInfoList with
  | nil => exact .nil
  | cons info rest ih =>
      rw [List.map_cons]
      refine .cons ?_ ih
      by_cases listed : isBlocklisted info = true
      · rw [if_pos listed]
        have here := (exactly info).mp listed
        constructor
        · intro bit
          exact (cleared_bits info.svFlag usedInFix bit).trans (by simp [here])
        · rfl
      · rw [if_neg listed]
        have notBlocked : ¬ blocked info := fun blocked => listed ((exactly info).mpr blocked)
        constructor
        · intro bit
          simp [notBlocked]
        · rfl

/-- Only what is blocked matters. -/
theorem filter_congr {left right : GnssSvInfo Number → Bool}
    (same : ∀ info, left info = true ↔ right info = true) (usedInFix : UInt8)
    (gnssSvInfoList : List (GnssSvInfo Number)) :
    filterBlocklistedSatellites left usedInFix gnssSvInfoList =
      filterBlocklistedSatellites right usedInFix gnssSvInfoList := by
  have equal : left = right := by
    funext info
    exact Bool.eq_iff_iff.mpr (same info)
  rw [equal]

end Satellites

/-! ## The AIDL configuration -/

abbrev AidlSource := BlocklistedSource Int32 Int32

namespace Aidl

abbrev GnssConfiguration := BlocklistSets Int32 Int32

/-- Both sets are cleared before the loop. -/
def GnssConfiguration.setBlocklist (_ : GnssConfiguration) (sourceList : List AidlSource) :
    GnssConfiguration :=
  BlocklistSets.setSources sourceList

/-- `static_cast` from the HIDL enumeration. -/
def constellationType (constellation : UInt8) : Int32 := Int32.ofNat constellation.toNat

def GnssConfiguration.isBlocklistedV2_1 {Number : Type} (configuration : GnssConfiguration)
    (gnssSvInfo : GnssSvInfo Number) : Bool :=
  configuration.isListed (constellationType gnssSvInfo.v2_0.constellation)
    gnssSvInfo.v2_0.v1_0.svid.toInt32

/-- What the AIDL service keeps of the extension; the object is created once. -/
structure GnssAidl where
  mGnssConfiguration : Option GnssConfiguration

def GnssAidl.getExtensionGnssConfiguration (gnss : GnssAidl) : GnssAidl :=
  match gnss.mGnssConfiguration with
  | none => { mGnssConfiguration := some BlocklistSets.cleared }
  | some _ => gnss

/-- A client gets the extension and sets the list. -/
def GnssAidl.setBlocklist (gnss : GnssAidl) (sourceList : List AidlSource) : GnssAidl where
  mGnssConfiguration := gnss.getExtensionGnssConfiguration.mGnssConfiguration.map
    fun configuration => configuration.setBlocklist sourceList

/-- `mGnssConfigurationAidl` is the service's object from the constructor of `GnssHidlHal` on. -/
def GnssHidlHal.filterBlocklistedSatellitesV2_1 {Number : Type}
    (mGnssConfigurationAidl : Option GnssConfiguration) (usedInFix : UInt8)
    (gnssSvInfoList : List (GnssSvInfo Number)) : List (GnssSvInfo Number) :=
  match mGnssConfigurationAidl with
  | none => gnssSvInfoList
  | some configuration =>
      filterBlocklistedSatellites configuration.isBlocklistedV2_1 usedInFix gnssSvInfoList

/-- The service behind the constructor of `GnssHidlHal` and calls of `setBlocklist`. -/
def afterCalls (gnss : GnssAidl) (calls : List (List AidlSource)) : GnssAidl :=
  calls.foldl GnssAidl.setBlocklist gnss.getExtensionGnssConfiguration

/-- The satellite is blocked by the list. -/
def BlockedBy {Number : Type} (sourceList : List AidlSource) (info : GnssSvInfo Number) : Prop :=
  Blocklisted sourceList (constellationType info.v2_0.constellation) info.v2_0.v1_0.svid.toInt32

theorem set_blocklist_sets (gnss : GnssAidl) (sourceList : List AidlSource) :
    (gnss.setBlocklist sourceList).mGnssConfiguration =
      some (BlocklistSets.setSources sourceList) := by
  unfold GnssAidl.setBlocklist GnssAidl.getExtensionGnssConfiguration
  cases found : gnss.mGnssConfiguration with
  | none => rfl
  | some configuration =>
      dsimp only
      rw [found]
      rfl

/-- The last list replaces the earlier ones. -/
theorem after_calls_last (gnss : GnssAidl) (earlier : List (List AidlSource))
    (last : List AidlSource) :
    (afterCalls gnss (earlier ++ [last])).mGnssConfiguration =
      some (BlocklistSets.setSources last) := by
  unfold afterCalls
  rw [List.foldl_append]
  exact set_blocklist_sets _ last

theorem is_blocklisted_iff {Number : Type} (sourceList : List AidlSource)
    (info : GnssSvInfo Number) :
    GnssConfiguration.isBlocklistedV2_1 (BlocklistSets.setSources sourceList) info = true ↔
      BlockedBy sourceList info :=
  BlocklistSets.is_listed_iff sourceList _ _

end Aidl

/-! ## The HIDL configuration -/

abbrev HidlSource := BlocklistedSource UInt8 Int16

namespace V2_1

abbrev GnssConfiguration := BlocklistSets UInt8 Int16

/-- Both sets are cleared before the loop. -/
def GnssConfiguration.setBlacklist_2_1 (_ : GnssConfiguration) (sourceList : List HidlSource) :
    GnssConfiguration :=
  BlocklistSets.setSources sourceList

def GnssConfiguration.isBlacklistedV2_1 {Number : Type} (configuration : GnssConfiguration)
    (gnssSvInfo : GnssSvInfo Number) : Bool :=
  configuration.isListed gnssSvInfo.v2_0.constellation gnssSvInfo.v2_0.v1_0.svid

/-- `GnssTemplate::filterBlocklistedSatellitesV2_1`. -/
def filterBlocklistedSatellitesV2_1 {Number : Type} (mGnssConfiguration : GnssConfiguration)
    (usedInFix : UInt8) (gnssSvInfoList : List (GnssSvInfo Number)) : List (GnssSvInfo Number) :=
  filterBlocklistedSatellites mGnssConfiguration.isBlacklistedV2_1 usedInFix gnssSvInfoList

def afterCalls (configuration : GnssConfiguration) (calls : List (List HidlSource)) :
    GnssConfiguration :=
  calls.foldl GnssConfiguration.setBlacklist_2_1 configuration

theorem after_calls_last (configuration : GnssConfiguration) (earlier : List (List HidlSource))
    (last : List HidlSource) :
    afterCalls configuration (earlier ++ [last]) = BlocklistSets.setSources last := by
  unfold afterCalls
  rw [List.foldl_append]
  rfl

def BlockedBy {Number : Type} (sourceList : List HidlSource) (info : GnssSvInfo Number) : Prop :=
  Blocklisted sourceList info.v2_0.constellation info.v2_0.v1_0.svid

theorem is_blacklisted_iff {Number : Type} (sourceList : List HidlSource)
    (info : GnssSvInfo Number) :
    GnssConfiguration.isBlacklistedV2_1 (BlocklistSets.setSources sourceList) info = true ↔
      BlockedBy sourceList info :=
  BlocklistSets.is_listed_iff sourceList _ _

end V2_1

/-! ## Corresponding lists -/

/-- The AIDL source with the same numbers. -/
def HidlSource.toAidl (source : HidlSource) : AidlSource where
  constellation := Aidl.constellationType source.constellation
  svid := source.svid.toInt32

theorem constellation_type_injective : Function.Injective Aidl.constellationType := by
  intro left right same
  have number : ∀ constellation : UInt8,
      (Aidl.constellationType constellation).toInt = constellation.toNat := by
    intro constellation
    have small := constellation.toNat_lt
    unfold Aidl.constellationType
    rw [Int32.toInt_ofNat_of_lt (by omega)]
  have equal := congrArg Int32.toInt same
  rw [number, number] at equal
  exact UInt8.toNat_inj.mp (by omega)

theorem svid_injective : Function.Injective Int16.toInt32 := by
  intro left right same
  have equal := congrArg Int32.toInt same
  rw [Int16.toInt_toInt32, Int16.toInt_toInt32] at equal
  exact Int16.toInt_inj.mp equal

theorem to_aidl_injective : Function.Injective HidlSource.toAidl := by
  intro left right same
  have constellation := constellation_type_injective
    (congrArg BlocklistedSource.constellation same)
  have svid := svid_injective (congrArg BlocklistedSource.svid same)
  cases left
  cases right
  dsimp only at constellation svid
  rw [constellation, svid]

theorem blocked_by_to_aidl {Number : Type} (sourceList : List HidlSource)
    (info : GnssSvInfo Number) :
    Aidl.BlockedBy (sourceList.map HidlSource.toAidl) info ↔ V2_1.BlockedBy sourceList info := by
  have widened : ∀ svid : Int16,
      HidlSource.toAidl { constellation := info.v2_0.constellation, svid := svid } ∈
          sourceList.map HidlSource.toAidl ↔
        { constellation := info.v2_0.constellation, svid := svid } ∈ sourceList :=
    fun svid => List.mem_map_of_injective to_aidl_injective
  exact or_congr (widened 0) (widened _)

/-! ## Both filters -/

section Both

variable {Number : Type} (usedInFix : UInt8) (gnss : Aidl.GnssAidl)
variable (configuration : V2_1.GnssConfiguration)

/-- What `GnssHidlHal` returns behind calls of `setBlocklist`. -/
def aidlFiltered (calls : List (List AidlSource)) (satellites : List (GnssSvInfo Number)) :
    List (GnssSvInfo Number) :=
  Aidl.GnssHidlHal.filterBlocklistedSatellitesV2_1
    (Aidl.afterCalls gnss calls).mGnssConfiguration usedInFix satellites

/-- What `GnssTemplate` returns behind calls of `setBlacklist_2_1`. -/
def hidlFiltered (calls : List (List HidlSource)) (satellites : List (GnssSvInfo Number)) :
    List (GnssSvInfo Number) :=
  V2_1.filterBlocklistedSatellitesV2_1 (V2_1.afterCalls configuration calls) usedInFix satellites

theorem aidl_filtered_eq (earlier : List (List AidlSource)) (last : List AidlSource)
    (satellites : List (GnssSvInfo Number)) :
    aidlFiltered usedInFix gnss (earlier ++ [last]) satellites =
      filterBlocklistedSatellites
        (Aidl.GnssConfiguration.isBlocklistedV2_1 (BlocklistSets.setSources last)) usedInFix
        satellites := by
  unfold aidlFiltered
  rw [Aidl.after_calls_last]
  rfl

theorem hidl_filtered_eq (earlier : List (List HidlSource)) (last : List HidlSource)
    (satellites : List (GnssSvInfo Number)) :
    hidlFiltered usedInFix configuration (earlier ++ [last]) satellites =
      filterBlocklistedSatellites
        (V2_1.GnssConfiguration.isBlacklistedV2_1 (BlocklistSets.setSources last)) usedInFix
        satellites := by
  unfold hidlFiltered
  rw [V2_1.after_calls_last]
  rfl

end Both

/-- What the two filters return for the satellites. -/
structure BlocklistingExact {Number : Type} (usedInFix : UInt8) (gnss : Aidl.GnssAidl)
    (configuration : V2_1.GnssConfiguration) (satellites : List (GnssSvInfo Number)) : Prop where
  /-- The last list decides, satellite by satellite. -/
  aidl : ∀ earlier last, List.Forall₂ (Cleared usedInFix (Aidl.BlockedBy last)) satellites
    (aidlFiltered usedInFix gnss (earlier ++ [last]) satellites)
  hidl : ∀ earlier last, List.Forall₂ (Cleared usedInFix (V2_1.BlockedBy last)) satellites
    (hidlFiltered usedInFix configuration (earlier ++ [last]) satellites)
  /-- Corresponding lists have the same result. -/
  agree : ∀ aidlEarlier hidlEarlier (last : List HidlSource),
    hidlFiltered usedInFix configuration (hidlEarlier ++ [last]) satellites =
      aidlFiltered usedInFix gnss (aidlEarlier ++ [last.map HidlSource.toAidl]) satellites
  /-- How the last list is ordered and what it repeats does not matter. -/
  aidlUnordered : ∀ earlier otherEarlier (last other : List AidlSource),
    (∀ source, source ∈ last ↔ source ∈ other) →
    aidlFiltered usedInFix gnss (earlier ++ [last]) satellites =
      aidlFiltered usedInFix gnss (otherEarlier ++ [other]) satellites
  hidlUnordered : ∀ earlier otherEarlier (last other : List HidlSource),
    (∀ source, source ∈ last ↔ source ∈ other) →
    hidlFiltered usedInFix configuration (earlier ++ [last]) satellites =
      hidlFiltered usedInFix configuration (otherEarlier ++ [other]) satellites

theorem blocklisting_exact {Number : Type} (usedInFix : UInt8) (gnss : Aidl.GnssAidl)
    (configuration : V2_1.GnssConfiguration) (satellites : List (GnssSvInfo Number)) :
    BlocklistingExact usedInFix gnss configuration satellites where
  aidl := by
    intro earlier last
    rw [aidl_filtered_eq]
    exact filter_cleared (Aidl.is_blocklisted_iff last) usedInFix satellites
  hidl := by
    intro earlier last
    rw [hidl_filtered_eq]
    exact filter_cleared (V2_1.is_blacklisted_iff last) usedInFix satellites
  agree := by
    intro aidlEarlier hidlEarlier last
    rw [aidl_filtered_eq, hidl_filtered_eq]
    apply filter_congr
    intro info
    rw [V2_1.is_blacklisted_iff, Aidl.is_blocklisted_iff, blocked_by_to_aidl]
  aidlUnordered := by
    intro earlier otherEarlier last other same
    rw [aidl_filtered_eq, aidl_filtered_eq]
    apply filter_congr
    intro info
    rw [Aidl.is_blocklisted_iff, Aidl.is_blocklisted_iff]
    exact blocklisted_congr same _ _
  hidlUnordered := by
    intro earlier otherEarlier last other same
    rw [hidl_filtered_eq, hidl_filtered_eq]
    apply filter_congr
    intro info
    rw [V2_1.is_blacklisted_iff, V2_1.is_blacklisted_iff]
    exact blocklisted_congr same _ _

end RedroidExt.Gnss
