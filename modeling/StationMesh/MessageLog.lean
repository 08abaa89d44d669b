import StationMesh.Message.Frame
import StationMesh.Message.Header

/-!
# The message log

The log keeps the last `capacity` messages that were stored since it was erased.
-/

namespace StationMesh

/-- A message as it is kept: what follows its header, cut to the size of a frame. -/
structure LogRecord where
  kind : MessageKind
  station : UInt8
  payload : Bytes
deriving DecidableEq, Repr

/-- The messages stored last, the oldest first. -/
structure MessageLog (capacity : Nat) where
  records : List LogRecord := []
  /-- How many times the log was erased. -/
  erased : Nat := 0
deriving DecidableEq, Repr

namespace MessageLog

variable {capacity : Nat}

/-- Keeps the last `capacity` records. -/
def latest (capacity : Nat) (records : List LogRecord) : List LogRecord :=
  records.drop (records.length - capacity)

/-- Stores a message; the oldest one makes room if there is none. -/
def store (kind : MessageKind) (station : UInt8) (payload : Bytes) (log : MessageLog capacity) :
    MessageLog capacity :=
  let entry := { kind, station, payload := payload.take OutFrame.maxSize }
  { log with records := latest capacity (log.records ++ [entry]) }

/-- Forgets all messages. -/
def erase (log : MessageLog capacity) : MessageLog capacity :=
  { records := [], erased := log.erased + 1 }

/-- How many messages are kept. -/
def length (log : MessageLog capacity) : Nat := log.records.length

def isEmpty (log : MessageLog capacity) : Bool := log.records.isEmpty

end MessageLog

end StationMesh
