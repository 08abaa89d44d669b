import StationMesh.Action
import StationMesh.Config.Settings

/-!
# Settings kept as an image

A store that keeps only the bytes of the image. A field is read and written at its place in them,
and after every change the checksum at the end is written anew. What a call has written stays
written, whether the call succeeds or not, so nothing is written before all checks have passed.
-/

namespace StationMesh.Config

/-- The bytes of all fields, and behind them their checksum as it was last written. -/
structure ImageStore where
  image : Bytes
  length_eq : image.length = Settings.imageSize
deriving DecidableEq, Repr

namespace ImageStore

/-- The store with other bytes from an offset on. Bytes that would lie behind the end are left
out. -/
def overwrite (offset : Nat) (value : Bytes) (store : ImageStore) : ImageStore where
  image := (store.image.take offset ++ value ++ store.image.drop (offset + value.length)).take
    Settings.imageSize
  length_eq := by
    have length_eq := store.length_eq
    simp only [List.length_take, List.length_append, List.length_drop]
    omega

def data (store : ImageStore) : Bytes := store.image.take dataSize

/-- The checksum as it was last written. -/
def storedChecksum (store : ImageStore) : UInt16 := Bytes.toWord (store.image.drop dataSize)

def updateChecksum (store : ImageStore) : ImageStore :=
  store.overwrite dataSize (Bytes.ofWord (Checksum.ofBytes store.data))

def zeros : ImageStore where
  image := List.replicate Settings.imageSize 0
  length_eq := List.length_replicate

/-- What a station is delivered with. -/
def delivered : ImageStore :=
  zeros
    |>.overwrite Field.stationId.offset [1]
    |>.overwrite Field.csmaPersistence.offset [63]
    |>.overwrite Field.csmaSlotTime.offset [100]
    |>.overwrite Field.shortPreamble.offset (Bytes.ofWord 8)
    |>.overwrite Field.longPreamble.offset (Bytes.ofWord 512)
    |>.overwrite Field.weatherInterval.offset (Bytes.ofWord 300)
    |>.overwrite Field.complexWeatherEvery.offset [6]
    |>.updateChecksum

/-- What a station is delivered with, but for its id. -/
def withStationId (stationId : UInt8) : ImageStore :=
  (delivered.overwrite Field.stationId.offset [stationId]).updateChecksum

def ofImage (image : Bytes) : Except ConfigError ImageStore :=
  if length_eq : image.length = Settings.imageSize then
    let store : ImageStore := { image, length_eq }
    if store.storedChecksum = Checksum.ofBytes store.data then
      .ok store
    else
      .error .checksumMismatch
  else
    .error (.wrongLength Settings.imageSize image.length)

def get (field : Field) (store : ImageStore) : Bytes :=
  (store.image.drop field.offset).take field.length

/-- Changes a field, if the value has the length of the field and, for the station id, is not the
id that addresses every station. -/
def set (field : Field) (value : Bytes) : Action ImageStore ConfigError Unit :=
  if value.length ≠ field.length then
    throw (.wrongLength field.length value.length)
  else if field = .stationId ∧ value.headD 0 = everyStation then
    throw .invalidValue
  else do
    modify (overwrite field.offset value)
    modify updateChecksum

/-- Changes the field with a number. -/
def setByCode (code : UInt8) (value : Bytes) : Action ImageStore ConfigError Field :=
  match Field.ofCode? code with
  | none => throw (.unknownField code)
  | some field => do
      set field value
      return field

instance : Store ImageStore where
  get := get
  set field value store :=
    match (set field value).run store with
    | (.ok _, left) => .ok left
    | (.error error, _) => .error error
  image := image

end ImageStore

end StationMesh.Config
