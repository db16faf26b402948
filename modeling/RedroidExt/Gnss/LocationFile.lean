import Mathlib.Algebra.Ring.Int.Defs

/-!
# The location file

`GnssTemplate::getLocationFromHW`: the mock location, overwritten line by line from
`/data/vendor/gps/gnss`. The two conversions of the standard library are parameters.
-/

namespace RedroidExt.Gnss

set_option autoImplicit false

/-- What `std::stof` and `std::stol` throw. -/
inductive StdException
  | invalid_argument
  | out_of_range
deriving DecidableEq, Repr

structure Conversions (Number : Type) where
  stof : List UInt8 → Except StdException Number
  stol : List UInt8 → Except StdException Int

structure MockLocation (Number : Type) where
  gMockLatitudeDegrees : Number
  gMockLongitudeDegrees : Number
  gMockAltitudeMeters : Number
  gMockBearingDegrees : Number
  gMockSpeedMetersPerSec : Number
deriving DecidableEq, Repr

/-- What one look at the location reads outside the program. -/
structure Surroundings (Number : Type) where
  mock : MockLocation Number
  /-- `time(NULL)` -/
  time : Int
  elapsedRealtimeNano : Int
  /-- `kMockTimestamp + elapsedRealtimeNano() / 1e6`, a floating-point sum. -/
  mockTimestamp : Int
  /-- The blocks `read` returns before it returns nothing; `none` when `open` fails. -/
  file : Option (List (List UInt8))
deriving DecidableEq, Repr

/-- The values a line of the file can overwrite. -/
structure Fix (Number : Type) where
  latitudeDegrees : Number
  longitudeDegrees : Number
  altitudeMeters : Number
  speedMetersPerSec : Number
  bearingDegrees : Number
  horizontalAccuracyMeters : Number
  verticalAccuracyMeters : Number
  speedAccuracyMetersPerSecond : Number
  bearingAccuracyDegrees : Number
  timestamp : Int
deriving DecidableEq, Repr

structure GnssLocation_1_0 (Number : Type) extends Fix Number where
  gnssLocationFlags : UInt16
deriving DecidableEq, Repr

inductive ElapsedRealtimeFlag
  | HAS_TIMESTAMP_NS
  | HAS_TIME_UNCERTAINTY_NS
deriving DecidableEq, Repr

structure ElapsedRealtime where
  flags : List ElapsedRealtimeFlag
  timestampNs : Nat
  timeUncertaintyNs : Nat
deriving DecidableEq, Repr

structure GnssLocation_2_0 (Number : Type) where
  v1_0 : GnssLocation_1_0 Number
  elapsedRealtime : ElapsedRealtime
deriving DecidableEq, Repr

/-! ## Lines -/

def LINE_SEPARATOR : UInt8 := 10

/-- `std::getline` until it fails: a separator at the end starts no further line. -/
def getlines : List UInt8 → List (List UInt8)
  | [] => []
  | byte :: rest =>
      if byte = LINE_SEPARATOR then [] :: getlines rest
      else
        match getlines rest with
        | [] => [[byte]]
        | line :: lines => (byte :: line) :: lines

example : getlines [97, 10, 98] = [[97], [98]] := by decide
example : getlines [97, 10, 10] = [[97], []] := by decide

def bytesOf (text : String) : List UInt8 := text.toList.map fun letter => letter.toNat.toUInt8

section Lookup

variable {Number : Type} (std : Conversions Number)

/-- The branches of the line parser in their order: the key and the assignment. -/
def keys : List (String × (Fix Number → List UInt8 → Except StdException (Fix Number))) :=
  [("LatitudeDegrees=", fun fix text => do
      return { fix with latitudeDegrees := ← std.stof text }),
    ("LongitudeDegrees=", fun fix text => do
      return { fix with longitudeDegrees := ← std.stof text }),
    ("AltitudeMeters=", fun fix text => do
      return { fix with altitudeMeters := ← std.stof text }),
    ("SpeedMetersPerSec=", fun fix text => do
      return { fix with speedMetersPerSec := ← std.stof text }),
    ("BearingDegrees=", fun fix text => do
      return { fix with bearingDegrees := ← std.stof text }),
    ("HorizontalAccuracyMeters=", fun fix text => do
      return { fix with horizontalAccuracyMeters := ← std.stof text }),
    ("VerticalAccuracyMeters=", fun fix text => do
      return { fix with verticalAccuracyMeters := ← std.stof text }),
    ("SpeedAccuracyMetersPerSecond=", fun fix text => do
      return { fix with speedAccuracyMetersPerSecond := ← std.stof text }),
    ("BearingAccuracyDegrees=", fun fix text => do
      return { fix with bearingAccuracyDegrees := ← std.stof text }),
    ("Timestamp=", fun fix text => do
      return { fix with timestamp := ← std.stol text })]

def parseItem (fix : Fix Number) (item : List UInt8) : Except StdException (Fix Number) :=
  match (keys std).find? fun entry => (bytesOf entry.1).isPrefixOf item with
  | some (key, assign) => assign fix (item.drop (bytesOf key).length)
  | none => pure fix

variable [NatCast Number]

def kMockHorizontalAccuracyMeters : Number := ((5 : Nat) : Number)
def kMockVerticalAccuracyMeters : Number := ((5 : Nat) : Number)
def kMockSpeedAccuracyMetersPerSecond : Number := ((1 : Nat) : Number)
def kMockBearingAccuracyDegrees : Number := ((90 : Nat) : Number)

/-- The mock location with a timestamp of its user. -/
def mockFix (mock : MockLocation Number) (timestamp : Int) : Fix Number where
  latitudeDegrees := mock.gMockLatitudeDegrees
  longitudeDegrees := mock.gMockLongitudeDegrees
  altitudeMeters := mock.gMockAltitudeMeters
  speedMetersPerSec := mock.gMockSpeedMetersPerSec
  bearingDegrees := mock.gMockBearingDegrees
  horizontalAccuracyMeters := kMockHorizontalAccuracyMeters
  verticalAccuracyMeters := kMockVerticalAccuracyMeters
  speedAccuracyMetersPerSecond := kMockSpeedAccuracyMetersPerSecond
  bearingAccuracyDegrees := kMockBearingAccuracyDegrees
  timestamp := timestamp

def currentOsTimestamp (surroundings : Surroundings Number) : ElapsedRealtime where
  flags := [.HAS_TIMESTAMP_NS, .HAS_TIME_UNCERTAINTY_NS]
  timestampNs := (surroundings.elapsedRealtimeNano % 2 ^ 64).toNat
  timeUncertaintyNs := 1000000

/-- The defaults with what the lines of the file overwrite. -/
def readFix (surroundings : Surroundings Number) : Except StdException (Fix Number) :=
  let defaults := mockFix surroundings.mock (surroundings.time - 1)
  match surroundings.file with
  | some blocks =>
      let inputStr := blocks.foldl (fun text block => text ++ block) []
      (getlines inputStr).foldlM (parseItem std) defaults
  | none => pure defaults

/-- `error` is an exception that leaves the function; `none` is a null pointer. -/
def getLocationFromHW (surroundings : Surroundings Number) :
    Except StdException (Option (GnssLocation_2_0 Number)) := do
  let fix ← readFix std surroundings
  return some
    { v1_0 := { fix with gnssLocationFlags := 0xFF }
      elapsedRealtime := currentOsTimestamp surroundings }

def getMockLocationV1_0 (surroundings : Surroundings Number) : GnssLocation_1_0 Number :=
  { mockFix surroundings.mock surroundings.mockTimestamp with gnssLocationFlags := 0xFF }

def getMockLocationV2_0 (surroundings : Surroundings Number) : GnssLocation_2_0 Number where
  v1_0 := getMockLocationV1_0 surroundings
  elapsedRealtime := currentOsTimestamp surroundings

/-! ## What the lookup can return -/

variable {std}

/-- The lookup never returns a null pointer. -/
theorem location_from_hw_not_null {surroundings : Surroundings Number}
    {found : Option (GnssLocation_2_0 Number)}
    (returned : getLocationFromHW std surroundings = .ok found) :
    ∃ location, found = some location := by
  rw [getLocationFromHW] at returned
  cases read : readFix std surroundings with
  | error thrown =>
      rw [read] at returned
      cases returned
  | ok fix =>
      rw [read] at returned
      cases returned
      exact ⟨_, rfl⟩

end Lookup

end RedroidExt.Gnss
