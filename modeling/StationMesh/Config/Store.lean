import StationMesh.Config.Field
import StationMesh.Config.RelayList

/-!
# Configuration stores

A store hands out and takes in one field at a time as bytes. A change that is refused leaves the
store as it was. What a station asks of its configuration is derived from the fields here, with
zeros for bytes that a store does not hand out.
-/

namespace StationMesh.Config

/-- Something that keeps a configuration. -/
class Store (κ : Type) where
  /-- The bytes of a field. -/
  get : Field → κ → Bytes
  /-- The store with other bytes in a field. -/
  set : Field → Bytes → κ → Except ConfigError κ
  /-- The whole configuration with its checksum. -/
  image : κ → Bytes

/-- Switches of a station. -/
structure Flags where
  byte : UInt8
deriving DecidableEq, Repr

namespace Flags

/-- Messages are logged even if they are not relayed. -/
def recordNonRelayed (flags : Flags) : Bool := flags.byte &&& 0x01 != 0

/-- A command that is carried out is not confirmed unless it has an answer. -/
def suppressAck (flags : Flags) : Bool := flags.byte &&& 0x02 != 0

/-- Accepted messages are passed on to the host. -/
def hostBridge (flags : Flags) : Bool := flags.byte &&& 0x04 != 0

end Flags

namespace Store

variable {κ : Type} [Store κ]

def getByte (field : Field) (store : κ) : UInt8 := (get field store).headD 0

def getWord (field : Field) (store : κ) : UInt16 := Bytes.toWord (get field store)

def stationId (store : κ) : UInt8 := getByte .stationId store

def flags (store : κ) : Flags := { byte := getByte .flags store }

/-- The list that decides on messages of a kind. -/
def relayList (kind : MessageKind) (store : κ) : RelayList :=
  let field := if kind.usesWeatherList then .weatherRelayList else .messageRelayList
  .padded (get field store)

/-- The station relays for anyone. -/
def relaysForPeers (store : κ) : Bool :=
  (relayList .command store).isActive || (relayList .weather store).isActive

/-- Changes the field with a number. -/
def setByCode (code : UInt8) (value : Bytes) (store : κ) : Except ConfigError (Field × κ) :=
  match Field.ofCode? code with
  | none => .error (.unknownField code)
  | some field =>
      match set field value store with
      | .ok store => .ok (field, store)
      | .error error => .error error

end Store

end StationMesh.Config
