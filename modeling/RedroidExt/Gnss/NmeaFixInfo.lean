import RedroidExt.Gnss.LocationFile
import RedroidExt.Library.Loop
import RedroidExt.Library.Pairing

/-!
# NMEA sentences

`NmeaFixInfo::getLocationFromInputStr`: positions come in `$GPGGA` sentences, speed and
time in `$GPRMC` sentences, and a location needs one of each. Conversions, floating-point
arithmetic and `mktime` are parameters.
-/

namespace RedroidExt.Gnss

open RedroidExt.Library

set_option autoImplicit false

def COMMA_SEPARATOR : UInt8 := 44
def GPGA_RECORD_TAG : List UInt8 := bytesOf "$GPGGA"
def GPRMC_RECORD_TAG : List UInt8 := bytesOf "$GPRMC"
def MIN_COL_NUM : Nat := 13

/-- What the parser sets of a `struct tm`. -/
structure Tm where
  tm_mday : Int
  tm_mon : Int
  tm_year : Int
  tm_hour : Int
  tm_min : Int
  tm_sec : Int
deriving DecidableEq, Repr

structure NmeaConversions (Number : Type) where
  stof : List UInt8 → Except StdException Number
  stoi : List UInt8 → Except StdException Int
  quiet_NaN : Number
  /-- `degrees + minutes / 60.0` -/
  degrees : Number → Number → Number
  /-- `*= -1` -/
  negate : Number → Number
  /-- `(currentTimeStamp - lastTimeStamp) > TIMESTAMP_EPSILON` -/
  newer : Number → Number → Bool
  /-- `mktime(&tm) - timezone` -/
  mktime : Tm → Int

/-- An object of the class. -/
structure NmeaFixInfo (Number : Type) where
  altitudeMeters : Number
  bearingDegrees : Number
  fixId : UInt32
  hasGMCRecord : Bool
  hasGGARecord : Bool
  hDop : Number
  vDop : Number
  latDeg : Number
  lngDeg : Number
  satelliteCount : UInt32
  speedMetersPerSec : Number
  timestamp : Int
deriving DecidableEq, Repr

/-- `substr`; a position behind the end throws. -/
def substr (text : List UInt8) (pos : Nat) (count : Nat) : Except StdException (List UInt8) :=
  if pos > text.length then .error .out_of_range else .ok ((text.drop pos).take count)

/-- `substr` up to the end. -/
def substrFrom (text : List UInt8) (pos : Nat) : Except StdException (List UInt8) :=
  substr text pos text.length

/-- Without the empty piece behind a delimiter at the end. -/
def splitStr (delimiter : UInt8) : List UInt8 → List (List UInt8)
  | [] => []
  | byte :: rest =>
      if byte = delimiter then [] :: splitStr delimiter rest
      else
        match splitStr delimiter rest with
        | [] => [[byte]]
        | item :: items => (byte :: item) :: items

/-- What a `$GPGGA` sentence sets. -/
structure GgaRecord (Number : Type) where
  latDeg : Number
  lngDeg : Number
  altitudeMeters : Number
  hDop : Number
deriving DecidableEq, Repr

/-- What a `$GPRMC` sentence sets. -/
structure RmcRecord (Number : Type) where
  speedMetersPerSec : Number
  bearingDegrees : Number
  timestamp : Int
deriving DecidableEq, Repr

section Parser

variable {Number : Type} (std : NmeaConversions Number)

def checkAndConvertToFloat (sentence : List UInt8) : Except StdException Number :=
  if sentence = [] then .ok std.quiet_NaN else std.stof sentence

def nmeaPartsToTimestamp (timeStr dateStr : List UInt8) : Except StdException Int := do
  let unixYearOffset := 100
  let tm_mday ← std.stoi (← substr dateStr 0 2)
  let tm_mon ← std.stoi (← substr dateStr 2 2)
  let tm_year ← std.stoi (← substr dateStr 4 2)
  let tm_hour ← std.stoi (← substr timeStr 0 2)
  let tm_min ← std.stoi (← substr timeStr 2 2)
  let tm_sec ← std.stoi (← substr timeStr 4 2)
  return std.mktime
    { tm_mday := tm_mday, tm_mon := tm_mon - 1, tm_year := tm_year + unixYearOffset,
      tm_hour := tm_hour, tm_min := tm_min, tm_sec := tm_sec }

/-- Whole degrees of so many digits and minutes; every letter but `positive` is a minus sign. -/
def coordinate (digits : Nat) (positive : String) (value letter : List UInt8) :
    Except StdException Number := do
  let whole ← std.stof (← substr value 0 digits)
  let minutes ← std.stof (← substrFrom value digits)
  let degrees := std.degrees whole minutes
  return if letter ≠ bytesOf positive then std.negate degrees else degrees

/-- The assignments of `parseGGALine` in their order. -/
def readGGA (sentenceValues : List (List UInt8)) : Except StdException (GgaRecord Number) := do
  let value := fun column => sentenceValues.getD column []
  let latDeg ← coordinate std 2 "N" (value 2) (value 3)
  let lngDeg ← coordinate std 3 "E" (value 4) (value 5)
  let altitudeMeters ← std.stof (value 9)
  let hDop ← checkAndConvertToFloat std (value 8)
  return { latDeg := latDeg, lngDeg := lngDeg, altitudeMeters := altitudeMeters, hDop := hDop }

/-- The assignments of `parseRMCLine` in their order. -/
def readRMC (sentenceValues : List (List UInt8)) : Except StdException (RmcRecord Number) := do
  let value := fun column => sentenceValues.getD column []
  let speedMetersPerSec ← checkAndConvertToFloat std (value 7)
  let bearingDegrees ← checkAndConvertToFloat std (value 8)
  let timestamp ← nmeaPartsToTimestamp std (value 1) (value 9)
  return { speedMetersPerSec := speedMetersPerSec, bearingDegrees := bearingDegrees,
           timestamp := timestamp }

namespace NmeaFixInfo

variable (info : NmeaFixInfo Number)

/-- The constructor, which sets the two flags only. -/
def construct : NmeaFixInfo Number := { info with hasGMCRecord := false, hasGGARecord := false }

def isValidFix : Bool := info.hasGMCRecord && info.hasGGARecord

def setGGA (record : GgaRecord Number) : NmeaFixInfo Number :=
  { info with
    latDeg := record.latDeg
    lngDeg := record.lngDeg
    altitudeMeters := record.altitudeMeters
    hDop := record.hDop
    hasGGARecord := true }

def setRMC (record : RmcRecord Number) : NmeaFixInfo Number :=
  { info with
    speedMetersPerSec := record.speedMetersPerSec
    bearingDegrees := record.bearingDegrees
    timestamp := record.timestamp
    hasGMCRecord := true }

def setFixId (fixId : UInt32) : NmeaFixInfo Number := { info with fixId := fixId }

def parseGGALine (sentenceValues : List (List UInt8)) :
    Except StdException (NmeaFixInfo Number) := do
  if sentenceValues.length = 0 ∨ sentenceValues.getD 0 [] ≠ GPGA_RECORD_TAG then return info
  else
    let record ← readGGA std sentenceValues
    return info.setGGA record

def parseRMCLine (sentenceValues : List (List UInt8)) :
    Except StdException (NmeaFixInfo Number) := do
  if sentenceValues.length = 0 ∨ sentenceValues.getD 0 [] ≠ GPRMC_RECORD_TAG then return info
  else
    let record ← readRMC std sentenceValues
    return info.setRMC record

variable {std} {info}

theorem parse_gga_line {sentenceValues : List (List UInt8)} (columns : sentenceValues ≠ []) :
    info.parseGGALine std sentenceValues =
      if sentenceValues.getD 0 [] = GPGA_RECORD_TAG then
        (readGGA std sentenceValues).map info.setGGA
      else .ok info := by
  unfold parseGGALine
  by_cases tag : sentenceValues.getD 0 [] = GPGA_RECORD_TAG
  · rw [if_pos tag, if_neg]
    · rfl
    · exact not_or.mpr ⟨mt List.length_eq_zero_iff.mp columns, not_not.mpr tag⟩
  · rw [if_neg tag, if_pos (Or.inr tag)]
    rfl

theorem parse_rmc_line {sentenceValues : List (List UInt8)} (columns : sentenceValues ≠ []) :
    info.parseRMCLine std sentenceValues =
      if sentenceValues.getD 0 [] = GPRMC_RECORD_TAG then
        (readRMC std sentenceValues).map info.setRMC
      else .ok info := by
  unfold parseRMCLine
  by_cases tag : sentenceValues.getD 0 [] = GPRMC_RECORD_TAG
  · rw [if_pos tag, if_neg]
    · rfl
    · exact not_or.mpr ⟨mt List.length_eq_zero_iff.mp columns, not_not.mpr tag⟩
  · rw [if_neg tag, if_pos (Or.inr tag)]
    rfl

variable (info) [NatCast Number]

def reset : NmeaFixInfo Number where
  altitudeMeters := ((0 : Nat) : Number)
  bearingDegrees := ((0 : Nat) : Number)
  fixId := 0
  hasGMCRecord := false
  hasGGARecord := false
  hDop := ((0 : Nat) : Number)
  vDop := ((0 : Nat) : Number)
  latDeg := ((0 : Nat) : Number)
  lngDeg := ((0 : Nat) : Number)
  satelliteCount := 0
  speedMetersPerSec := ((0 : Nat) : Number)
  timestamp := 0

def toGnssLocation (surroundings : Surroundings Number) : GnssLocation_2_0 Number where
  v1_0 :=
    { latitudeDegrees := info.latDeg
      longitudeDegrees := info.lngDeg
      altitudeMeters := info.altitudeMeters
      speedMetersPerSec := info.speedMetersPerSec
      bearingDegrees := info.bearingDegrees
      horizontalAccuracyMeters := kMockHorizontalAccuracyMeters
      verticalAccuracyMeters := kMockVerticalAccuracyMeters
      speedAccuracyMetersPerSecond := kMockSpeedAccuracyMetersPerSecond
      bearingAccuracyDegrees := kMockBearingAccuracyDegrees
      timestamp := info.timestamp
      gnssLocationFlags := 0xFF }
  elapsedRealtime := currentOsTimestamp surroundings

end NmeaFixInfo

/-! ## What an object holds -/

/-- The object holds these records, and its flags say which. -/
structure NmeaFixInfo.Holds (info : NmeaFixInfo Number) (gga : Option (GgaRecord Number))
    (rmc : Option (RmcRecord Number)) : Prop where
  hasGGA : info.hasGGARecord = gga.isSome
  hasRMC : info.hasGMCRecord = rmc.isSome
  position : ∀ record ∈ gga, record =
    { latDeg := info.latDeg, lngDeg := info.lngDeg, altitudeMeters := info.altitudeMeters,
      hDop := info.hDop }
  motion : ∀ record ∈ rmc, record =
    { speedMetersPerSec := info.speedMetersPerSec, bearingDegrees := info.bearingDegrees,
      timestamp := info.timestamp }

/-- The accepted object is not valid, or it holds the pair. -/
def NmeaFixInfo.Accepted (info : NmeaFixInfo Number) :
    Option (GgaRecord Number × RmcRecord Number) → Prop
  | none => info.isValidFix = false
  | some pair => info.Holds (some pair.1) (some pair.2)

theorem set_gga_holds {info : NmeaFixInfo Number} {gga : Option (GgaRecord Number)}
    {rmc : Option (RmcRecord Number)} (holds : info.Holds gga rmc) (record : GgaRecord Number) :
    (info.setGGA record).Holds (some record) rmc where
  hasGGA := rfl
  hasRMC := holds.hasRMC
  position := by
    intro other same
    cases same
    rfl
  motion := holds.motion

theorem set_rmc_holds {info : NmeaFixInfo Number} {gga : Option (GgaRecord Number)}
    {rmc : Option (RmcRecord Number)} (holds : info.Holds gga rmc) (record : RmcRecord Number) :
    (info.setRMC record).Holds gga (some record) where
  hasGGA := holds.hasGGA
  hasRMC := rfl
  position := holds.position
  motion := by
    intro other same
    cases same
    rfl

/-! ## The loop over the lines -/

structure NmeaLoop (Number : Type) where
  nmeaFixInfo : NmeaFixInfo Number
  candidateFixInfo : NmeaFixInfo Number
  fixId : UInt32
  lastTimeStamp : Number
deriving DecidableEq, Repr

variable [NatCast Number]

/-- Take over the candidate and start a new one. -/
def NmeaLoop.accept (loop : NmeaLoop Number) : NmeaLoop Number :=
  { loop with nmeaFixInfo := loop.candidateFixInfo, candidateFixInfo := .reset }

/-- A sentence that is not from the time before. -/
def NmeaLoop.begins (loop : NmeaLoop Number) (currentTimeStamp : Number) : NmeaLoop Number :=
  if std.newer currentTimeStamp loop.lastTimeStamp ∧ loop.candidateFixInfo.isValidFix then
    { loop.accept with fixId := loop.fixId + 1 }
  else loop

/-- The two ways to parse a sentence into the candidate. -/
def parseSentence (loop : NmeaLoop Number) (line : List UInt8)
    (sentenceValues : List (List UInt8)) : Except StdException (NmeaLoop Number) := do
  if GPGA_RECORD_TAG.isPrefixOf line then
    let candidate ← (loop.candidateFixInfo.setFixId loop.fixId).parseGGALine std sentenceValues
    return { loop with candidateFixInfo := candidate }
  else
    let candidate ← loop.candidateFixInfo.parseRMCLine std sentenceValues
    return { loop with candidateFixInfo := candidate }

/-- The body of the loop. -/
def parseRecord (loop : NmeaLoop Number) (line : List UInt8) :
    Except StdException (NmeaLoop Number) := do
  if ¬ GPGA_RECORD_TAG.isPrefixOf line ∧ ¬ GPRMC_RECORD_TAG.isPrefixOf line then return loop
  else
    let sentenceValues := splitStr COMMA_SEPARATOR line
    if sentenceValues.length < MIN_COL_NUM then return loop
    else
      let currentTimeStamp ← std.stof (sentenceValues.getD 1 [])
      parseSentence std (loop.begins std currentTimeStamp) line sentenceValues

/-- `memory` is what the two objects hold before they are constructed; `none` is a null pointer. -/
def getLocationFromInputStr (memory : NmeaFixInfo Number × NmeaFixInfo Number)
    (surroundings : Surroundings Number) (inputStr : List UInt8) :
    Except StdException (Option (GnssLocation_2_0 Number)) := do
  let nmeaRecords := splitStr LINE_SEPARATOR inputStr
  let loop ← nmeaRecords.foldlM (parseRecord std)
    { nmeaFixInfo := memory.1.construct, candidateFixInfo := memory.2.construct, fixId := 0,
      lastTimeStamp := ((0 : Nat) : Number) }
  let loop := if loop.candidateFixInfo.isValidFix then loop.accept else loop
  return if loop.nmeaFixInfo.isValidFix then some (loop.nmeaFixInfo.toGnssLocation surroundings)
    else none

/-! ## What the loop reads -/

/-- A record of the line, if its first column is exactly the tag. -/
def readItem (line : List UInt8) (sentenceValues : List (List UInt8)) :
    Except StdException (Option (GgaRecord Number ⊕ RmcRecord Number)) :=
  if GPGA_RECORD_TAG.isPrefixOf line then
    if sentenceValues.getD 0 [] = GPGA_RECORD_TAG then
      (readGGA std sentenceValues).map fun record => some (.inl record)
    else .ok none
  else if sentenceValues.getD 0 [] = GPRMC_RECORD_TAG then
    (readRMC std sentenceValues).map fun record => some (.inr record)
  else .ok none

/-- `lastTimeStamp` stays 0, so that a sentence begins something new if its time is positive. -/
def readSentence (line : List UInt8) :
    Except StdException (Option (Arrival (GgaRecord Number) (RmcRecord Number))) :=
  if ¬ GPGA_RECORD_TAG.isPrefixOf line ∧ ¬ GPRMC_RECORD_TAG.isPrefixOf line then .ok none
  else
    let sentenceValues := splitStr COMMA_SEPARATOR line
    if sentenceValues.length < MIN_COL_NUM then .ok none
    else do
      let currentTimeStamp ← std.stof (sentenceValues.getD 1 [])
      let item ← readItem std line sentenceValues
      return some { begins := std.newer currentTimeStamp ((0 : Nat) : Number), item := item }

variable {std}

structure NmeaLoop.Collects (loop : NmeaLoop Number)
    (collector : Collector (GgaRecord Number) (RmcRecord Number)) : Prop where
  candidate : loop.candidateFixInfo.Holds collector.left collector.right
  accepted : loop.nmeaFixInfo.Accepted collector.last
  start : loop.lastTimeStamp = ((0 : Nat) : Number)

theorem reset_holds : (NmeaFixInfo.reset : NmeaFixInfo Number).Holds none none :=
  ⟨rfl, rfl, nofun, nofun⟩

/-- A candidate that is valid is taken over as the pair of its records. -/
theorem accept_collects {loop : NmeaLoop Number}
    {collector : Collector (GgaRecord Number) (RmcRecord Number)}
    (collects : loop.Collects collector) :
    (if loop.candidateFixInfo.isValidFix then loop.accept else loop).Collects collector.flush := by
  rcases collector with ⟨gga, rmc, last⟩
  have holds := collects.candidate
  have valid : loop.candidateFixInfo.isValidFix = (rmc.isSome && gga.isSome) := by
    rw [NmeaFixInfo.isValidFix, holds.hasGGA, holds.hasRMC]
  rw [valid]
  cases rmc with
  | none =>
      cases gga with
      | none => exact collects
      | some position => exact collects
  | some motion =>
      cases gga with
      | none => exact collects
      | some position => exact ⟨reset_holds, holds, collects.start⟩

theorem begins_collects (std : NmeaConversions Number) {loop : NmeaLoop Number}
    {collector : Collector (GgaRecord Number) (RmcRecord Number)}
    (collects : loop.Collects collector) (currentTimeStamp : Number) :
    (loop.begins std currentTimeStamp).Collects
      (if std.newer currentTimeStamp ((0 : Nat) : Number) then collector.flush else collector) := by
  have accepted := accept_collects collects
  unfold NmeaLoop.begins
  rw [collects.start]
  cases std.newer currentTimeStamp ((0 : Nat) : Number) with
  | false =>
      rw [if_neg (fun both => nomatch both.1), if_neg nofun]
      exact collects
  | true =>
      rw [if_pos rfl]
      by_cases valid : loop.candidateFixInfo.isValidFix = true
      · rw [if_pos valid] at accepted
        rw [if_pos ⟨rfl, valid⟩]
        exact ⟨accepted.candidate, accepted.accepted, accepted.start⟩
      · rw [if_neg valid] at accepted
        rw [if_neg fun both => valid both.2]
        exact accepted

theorem parse_sentence_collects (std : NmeaConversions Number) {loop : NmeaLoop Number}
    {collector : Collector (GgaRecord Number) (RmcRecord Number)}
    (collects : loop.Collects collector) (line : List UInt8)
    {sentenceValues : List (List UInt8)} (columns : sentenceValues ≠ []) :
    Loop.Agree (fun next item => NmeaLoop.Collects next (collector.put item))
      (parseSentence std loop line sentenceValues) (readItem std line sentenceValues) := by
  have holds := collects.candidate
  have numbered : (loop.candidateFixInfo.setFixId loop.fixId).Holds collector.left collector.right :=
    ⟨holds.hasGGA, holds.hasRMC, holds.position, holds.motion⟩
  unfold parseSentence readItem
  by_cases gga : GPGA_RECORD_TAG.isPrefixOf line = true
  · rw [if_pos gga, if_pos gga, NmeaFixInfo.parse_gga_line columns]
    by_cases tag : sentenceValues.getD 0 [] = GPGA_RECORD_TAG
    · rw [if_pos tag, if_pos tag]
      cases readGGA std sentenceValues with
      | error thrown => exact .error thrown
      | ok record => exact .ok ⟨set_gga_holds numbered record, collects.accepted, collects.start⟩
    · rw [if_neg tag, if_neg tag]
      exact .ok ⟨numbered, collects.accepted, collects.start⟩
  · rw [if_neg gga, if_neg gga, NmeaFixInfo.parse_rmc_line columns]
    by_cases tag : sentenceValues.getD 0 [] = GPRMC_RECORD_TAG
    · rw [if_pos tag, if_pos tag]
      cases readRMC std sentenceValues with
      | error thrown => exact .error thrown
      | ok record => exact .ok ⟨set_rmc_holds holds record, collects.accepted, collects.start⟩
    · rw [if_neg tag, if_neg tag]
      exact .ok collects

/-- The line is read, and the loop follows the collector. -/
theorem parse_record_collects (std : NmeaConversions Number) (loop : NmeaLoop Number)
    (collector : Collector (GgaRecord Number) (RmcRecord Number)) (line : List UInt8)
    (collects : loop.Collects collector) :
    Loop.Agree (fun next value => NmeaLoop.Collects next (value.toList.foldl Collector.collect
      collector)) (parseRecord std loop line) (readSentence std line) := by
  unfold parseRecord readSentence
  by_cases untagged : ¬ GPGA_RECORD_TAG.isPrefixOf line ∧ ¬ GPRMC_RECORD_TAG.isPrefixOf line
  · rw [if_pos untagged, if_pos untagged]
    exact .ok collects
  · rw [if_neg untagged, if_neg untagged]
    dsimp only
    generalize splitStr COMMA_SEPARATOR line = sentenceValues
    by_cases short : sentenceValues.length < MIN_COL_NUM
    · rw [if_pos short, if_pos short]
      exact .ok collects
    · rw [if_neg short, if_neg short]
      have columns : sentenceValues ≠ [] := by
        rintro rfl
        exact short (by decide)
      cases std.stof (sentenceValues.getD 1 []) with
      | error thrown => exact .error thrown
      | ok currentTimeStamp =>
          have begun := begins_collects std collects currentTimeStamp
          have parsed := parse_sentence_collects std begun line columns
          dsimp only [bind, Except.bind]
          generalize parseSentence std _ line sentenceValues = next at parsed
          generalize readItem std line sentenceValues = item at parsed
          cases parsed with
          | error thrown => exact .error thrown
          | ok collected => exact .ok collected

/-! ## Whole inputs -/

/-- What is read of an input. -/
def readInput (std : NmeaConversions Number) (inputStr : List UInt8) :
    Except StdException (List (Arrival (GgaRecord Number) (RmcRecord Number))) :=
  Loop.readAll (readSentence std) (splitStr LINE_SEPARATOR inputStr)

/-- The location of a pair; the uncertainty of the position is not used. -/
def pairLocation (surroundings : Surroundings Number)
    (pair : GgaRecord Number × RmcRecord Number) : GnssLocation_2_0 Number where
  v1_0 :=
    { latitudeDegrees := pair.1.latDeg
      longitudeDegrees := pair.1.lngDeg
      altitudeMeters := pair.1.altitudeMeters
      speedMetersPerSec := pair.2.speedMetersPerSec
      bearingDegrees := pair.2.bearingDegrees
      horizontalAccuracyMeters := kMockHorizontalAccuracyMeters
      verticalAccuracyMeters := kMockVerticalAccuracyMeters
      speedAccuracyMetersPerSecond := kMockSpeedAccuracyMetersPerSecond
      bearingAccuracyDegrees := kMockBearingAccuracyDegrees
      timestamp := pair.2.timestamp
      gnssLocationFlags := 0xFF }
  elapsedRealtime := currentOsTimestamp surroundings

theorem accepted_location {info : NmeaFixInfo Number}
    {last : Option (GgaRecord Number × RmcRecord Number)} (accepted : info.Accepted last)
    (surroundings : Surroundings Number) :
    (if info.isValidFix then some (info.toGnssLocation surroundings) else none) =
      last.map (pairLocation surroundings) := by
  cases last with
  | none =>
      have invalid : info.isValidFix = false := accepted
      rw [invalid]
      rfl
  | some pair =>
      rcases pair with ⟨gga, rmc⟩
      have holds : info.Holds (some gga) (some rmc) := accepted
      have valid : info.isValidFix = true := by
        rw [NmeaFixInfo.isValidFix, holds.hasGGA, holds.hasRMC]
        rfl
      rw [if_pos valid, holds.position gga rfl, holds.motion rmc rfl]
      rfl

/-- What is returned is the last pair that the collector hands over. -/
theorem location_collected (std : NmeaConversions Number)
    (memory : NmeaFixInfo Number × NmeaFixInfo Number) (surroundings : Surroundings Number)
    (inputStr : List UInt8) :
    getLocationFromInputStr std memory surroundings inputStr =
      (readInput std inputStr).map fun arrivals =>
        (arrivals.foldl Collector.collect (Collector.empty _ _)).flush.last.map
          (pairLocation surroundings) := by
  have start : NmeaLoop.Collects
      { nmeaFixInfo := memory.1.construct, candidateFixInfo := memory.2.construct, fixId := 0,
        lastTimeStamp := ((0 : Nat) : Number) } (Collector.empty _ _) :=
    ⟨⟨rfl, rfl, nofun, nofun⟩, rfl, rfl⟩
  have followed := Loop.foldlM_simulates (parse_record_collects std)
    (splitStr LINE_SEPARATOR inputStr) start
  unfold getLocationFromInputStr readInput
  dsimp only
  generalize (splitStr LINE_SEPARATOR inputStr).foldlM (parseRecord std) _ = loop at followed
  generalize Loop.readAll (readSentence std) (splitStr LINE_SEPARATOR inputStr) = arrivals
    at followed
  cases followed with
  | error thrown => rfl
  | ok collects =>
      exact congrArg Except.ok
        (accepted_location (accept_collects collects).accepted surroundings)

/-- What an input without an exception amounts to. -/
structure Located (surroundings : Surroundings Number)
    (arrivals : List (Arrival (GgaRecord Number) (RmcRecord Number)))
    (location : Option (GnssLocation_2_0 Number)) : Prop where
  /-- There is a location as soon as both kinds of records occur. -/
  found : location.isSome ↔ (∃ gga, some (.inl gga) ∈ arrivals.map Arrival.item) ∧
    ∃ rmc, some (.inr rmc) ∈ arrivals.map Arrival.item
  /-- If every time is positive, it is made of the last of the disjoint pairs of records that follow
  each other. -/
  last : (∀ arrival ∈ arrivals, arrival.begins = true) →
    location = (Collector.pairUp (arrivals.filterMap Arrival.item)).getLast?.map
      (pairLocation surroundings)
  neighbours : (∀ arrival ∈ arrivals, arrival.begins = true) → ∀ place ∈ location,
    ∃ gga rmc, place = pairLocation surroundings (gga, rmc) ∧
      ([.inl gga, .inr rmc] <:+: arrivals.filterMap Arrival.item ∨
        [.inr rmc, .inl gga] <:+: arrivals.filterMap Arrival.item)

theorem collected_located (surroundings : Surroundings Number)
    (arrivals : List (Arrival (GgaRecord Number) (RmcRecord Number))) :
    Located surroundings arrivals
      ((arrivals.foldl Collector.collect (Collector.empty _ _)).flush.last.map
        (pairLocation surroundings)) := by
  constructor
  · rw [Option.isSome_map, Collector.collected_some_iff]
    simp [Collector.empty]
  · exact fun begins => congrArg _ (Collector.collected_pair arrivals begins)
  · intro begins place found
    rw [Collector.collected_pair arrivals begins] at found
    rcases Option.map_eq_some_iff.mp found with ⟨⟨gga, rmc⟩, last, rfl⟩
    exact ⟨gga, rmc, rfl, Collector.pair_up_neighbours (List.mem_of_getLast? last)⟩

/-- The sentences decide on the exception that is thrown, and otherwise on the location. -/
theorem nmea_location (std : NmeaConversions Number)
    (memory : NmeaFixInfo Number × NmeaFixInfo Number) (surroundings : Surroundings Number)
    (inputStr : List UInt8) :
    match readInput std inputStr with
    | .error thrown => getLocationFromInputStr std memory surroundings inputStr = .error thrown
    | .ok arrivals =>
        ∃ location, getLocationFromInputStr std memory surroundings inputStr = .ok location ∧
          Located surroundings arrivals location := by
  rw [location_collected]
  cases readInput std inputStr with
  | error thrown => rfl
  | ok arrivals => exact ⟨_, rfl, collected_located surroundings arrivals⟩

end Parser

section Runs

def readDigits (text : List UInt8) : Except StdException Int :=
  if text ≠ [] ∧ text.all fun byte => 48 ≤ byte && byte ≤ 57 then
    .ok (text.foldl (fun value byte => value * 10 + (byte.toNat - 48)) 0)
  else .error .invalid_argument

/-- Numbers are digits only, and positions are in minutes. -/
def digitsOnly : NmeaConversions Int where
  stof := readDigits
  stoi := readDigits
  quiet_NaN := -1
  degrees := fun degrees minutes => degrees * 60 + minutes
  negate := fun value => -value
  newer := fun current last => current > last
  mktime := fun tm => tm.tm_hour * 3600 + tm.tm_min * 60 + tm.tm_sec

def newMexico : Surroundings Int where
  mock := ⟨0, 0, 0, 0, 0⟩
  time := 0
  elapsedRealtimeNano := 0
  mockTimestamp := 0
  file := none

/-- The last sentence belongs to no pair. -/
def threeSentences : List UInt8 :=
  bytesOf ("$GPGGA,213204,3725,N,12205,W,1,00,1,7,M,,M,,*00\n" ++
    "$GPRMC,213204,A,3725,N,12205,W,4,90,290819,,,A*00\n" ++
    "$GPGGA,213205,3726,N,12206,W,1,00,1,8,M,,M,,*00\n")

theorem nmea_location_three :
    ∃ location, getLocationFromInputStr digitsOnly (.reset, .reset) newMexico threeSentences =
        .ok (some location) ∧
      location.v1_0.latitudeDegrees = 2245 ∧ location.v1_0.longitudeDegrees = -7325 ∧
      location.v1_0.speedMetersPerSec = 4 := by
  have read : (readInput digitsOnly threeSentences).map
      (List.map fun arrival => (arrival.begins, arrival.item)) =
      .ok [(true, some (.inl ⟨2245, -7325, 7, 1⟩)), (true, some (.inr ⟨4, 90, 77524⟩)),
        (true, some (.inl ⟨2246, -7326, 8, 1⟩))] := by
    decide +kernel
  generalize threeSentences = inputStr at read ⊢
  have located := nmea_location digitsOnly (.reset, .reset) newMexico inputStr
  cases arrived : readInput digitsOnly inputStr with
  | error thrown =>
      rw [arrived] at read
      cases read
  | ok arrivals =>
      rw [arrived] at read located
      rcases located with ⟨location, returned, located⟩
      have read := Except.ok.inj read
      have begins : ∀ arrival ∈ arrivals, arrival.begins = true := by
        have all : ∀ pair ∈ arrivals.map fun arrival => (arrival.begins, arrival.item),
            pair.1 = true := by
          rw [read]
          decide
        exact fun arrival member => all _ (List.mem_map_of_mem member)
      have records : arrivals.filterMap Arrival.item =
          [.inl ⟨2245, -7325, 7, 1⟩, .inr ⟨4, 90, 77524⟩, .inl ⟨2246, -7326, 8, 1⟩] := by
        have items := congrArg (List.filterMap Prod.snd) read
        rw [List.filterMap_map] at items
        exact items
      have last := located.last begins
      rw [records] at last
      rw [last] at returned
      exact ⟨_, returned, rfl, rfl, rfl⟩

end Runs

end RedroidExt.Gnss
