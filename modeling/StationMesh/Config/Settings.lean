import StationMesh.Config.Checksum
import StationMesh.Config.Store

/-!
# Settings kept in memory

The settings of a station as a record. Their image is the 27 bytes of all fields followed by the
checksum of these bytes, the low byte first. An image is read back only if it has the right
length and a matching checksum.
-/

namespace StationMesh.Config

/-- The settings of a station; the fields of `Field` with their values. -/
structure Settings where
  stationId : UInt8 := 1
  flags : UInt8 := 0
  csmaPersistence : UInt8 := 63
  csmaSlotTime : UInt8 := 100
  shortPreamble : UInt16 := 8
  longPreamble : UInt16 := 512
  weatherInterval : UInt16 := 300
  complexWeatherEvery : UInt8 := 6
  messageRelays : RelayList := .empty
  weatherRelays : RelayList := .empty
deriving DecidableEq, Repr

namespace Settings

/-- What a station is delivered with, but for its id. -/
def withStationId (stationId : UInt8) : Settings := { stationId }

def get (settings : Settings) : Field → Bytes
  | .stationId => [settings.stationId]
  | .flags => [settings.flags]
  | .csmaPersistence => [settings.csmaPersistence]
  | .csmaSlotTime => [settings.csmaSlotTime]
  | .shortPreamble => Bytes.ofWord settings.shortPreamble
  | .longPreamble => Bytes.ofWord settings.longPreamble
  | .weatherInterval => Bytes.ofWord settings.weatherInterval
  | .complexWeatherEvery => [settings.complexWeatherEvery]
  | .messageRelayList => settings.messageRelays.ids
  | .weatherRelayList => settings.weatherRelays.ids

/-- The settings with a field read from its bytes. -/
def write (settings : Settings) (field : Field) (value : Bytes) : Settings :=
  match field with
  | .stationId => { settings with stationId := value.headD 0 }
  | .flags => { settings with flags := value.headD 0 }
  | .csmaPersistence => { settings with csmaPersistence := value.headD 0 }
  | .csmaSlotTime => { settings with csmaSlotTime := value.headD 0 }
  | .shortPreamble => { settings with shortPreamble := Bytes.toWord value }
  | .longPreamble => { settings with longPreamble := Bytes.toWord value }
  | .weatherInterval => { settings with weatherInterval := Bytes.toWord value }
  | .complexWeatherEvery => { settings with complexWeatherEvery := value.headD 0 }
  | .messageRelayList => { settings with messageRelays := .padded value }
  | .weatherRelayList => { settings with weatherRelays := .padded value }

/-- Changes a field, if the value has the length of the field and, for the station id, is not the
id that addresses every station. -/
def set (field : Field) (value : Bytes) (settings : Settings) : Except ConfigError Settings :=
  if value.length ≠ field.length then
    .error (.wrongLength field.length value.length)
  else if field = .stationId ∧ value.headD 0 = everyStation then
    .error .invalidValue
  else
    .ok (settings.write field value)

def data (settings : Settings) : Bytes := Field.all.flatMap settings.get

/-- The bytes of all fields and their checksum. -/
def image (settings : Settings) : Bytes :=
  settings.data ++ Bytes.ofWord (Checksum.ofBytes settings.data)

def imageSize : Nat := dataSize + 2

/-- The settings whose fields are stored in these bytes. -/
def ofData (data : Bytes) : Settings :=
  Field.all.foldl
    (fun settings field => settings.write field ((data.drop field.offset).take field.length)) {}

def ofImage (image : Bytes) : Except ConfigError Settings :=
  if image.length ≠ imageSize then
    .error (.wrongLength imageSize image.length)
  else if Bytes.toWord (image.drop dataSize) ≠ Checksum.ofBytes (image.take dataSize) then
    .error .checksumMismatch
  else
    .ok (ofData (image.take dataSize))

instance : Store Settings where
  get field settings := settings.get field
  set := set
  image := image

end Settings

end StationMesh.Config
