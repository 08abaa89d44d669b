import StationMesh.Bytes

/-!
# Configuration fields

Ten fields lie one behind the other in 27 bytes. Each has a number under which commands name it.
-/

namespace StationMesh.Config

/-- What can be configured. -/
inductive Field where
  | stationId
  | flags
  | csmaPersistence
  /-- In milliseconds. -/
  | csmaSlotTime
  | shortPreamble
  | longPreamble
  /-- In seconds. -/
  | weatherInterval
  | complexWeatherEvery
  | messageRelayList
  | weatherRelayList
deriving DecidableEq, Repr

namespace Field

/-- All fields in the order they are stored. -/
def all : List Field :=
  [stationId, flags, csmaPersistence, csmaSlotTime, shortPreamble, longPreamble,
    weatherInterval, complexWeatherEvery, messageRelayList, weatherRelayList]

def code : Field → UInt8
  | stationId => 1
  | flags => 2
  | csmaPersistence => 3
  | csmaSlotTime => 4
  | shortPreamble => 5
  | longPreamble => 6
  | weatherInterval => 7
  | complexWeatherEvery => 8
  | messageRelayList => 9
  | weatherRelayList => 10

def ofCode? (byte : UInt8) : Option Field := all.find? (·.code == byte)

@[simp]
theorem ofCode?_code (field : Field) : ofCode? field.code = some field := by
  cases field <;> rfl

/-- How many bytes a field takes. -/
def length : Field → Nat
  | stationId | flags | csmaPersistence | csmaSlotTime | complexWeatherEvery => 1
  | shortPreamble | longPreamble | weatherInterval => 2
  | messageRelayList | weatherRelayList => 8

/-- Where a field starts. -/
def offset : Field → Nat
  | stationId => 0
  | flags => 1
  | csmaPersistence => 2
  | csmaSlotTime => 3
  | shortPreamble => 4
  | longPreamble => 6
  | weatherInterval => 8
  | complexWeatherEvery => 10
  | messageRelayList => 11
  | weatherRelayList => 19

/-- A change of this field takes effect on the channel. -/
def affectsChannel : Field → Bool
  | csmaPersistence | csmaSlotTime | shortPreamble | longPreamble | messageRelayList
  | weatherRelayList => true
  | stationId | flags | weatherInterval | complexWeatherEvery => false

end Field

/-- How many bytes all fields take. -/
def dataSize : Nat := 27

/-- Why a configuration is not read or not changed. -/
inductive ConfigError where
  /-- No field has this number. -/
  | unknownField (code : UInt8)
  | wrongLength (expected actual : Nat)
  /-- The field cannot hold this value. -/
  | invalidValue
  | checksumMismatch
deriving DecidableEq, Repr

def ConfigError.message : ConfigError → String
  | unknownField code => "unknown configuration field 0x" ++ hexByte code
  | wrongLength expected actual =>
      "expected " ++ toString expected ++ " bytes, got " ++ toString actual
  | invalidValue => "invalid configuration value"
  | checksumMismatch => "configuration checksum mismatch"

end StationMesh.Config
