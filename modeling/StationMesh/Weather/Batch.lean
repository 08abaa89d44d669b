import StationMesh.Weather.Reading

/-!
# Readings waiting for relay

A station gathers the readings it has to relay and sends them along with its next weather
message, which saves a frame for each. A batch holds as many readings as fit in `capacity` bytes
of written form.
-/

namespace StationMesh.Weather

/-- Readings to be relayed together, in the order they came. -/
structure Batch (capacity : Nat) where
  readings : List Reading := []
deriving DecidableEq, Repr

namespace Batch

variable {capacity : Nat}

/-- The written form of all readings, one after the other. -/
def bytes (batch : Batch capacity) : Bytes := batch.readings.flatMap Reading.encode

def size (batch : Batch capacity) : Nat := batch.bytes.length

def count (batch : Batch capacity) : Nat := batch.readings.length

def isEmpty (batch : Batch capacity) : Bool := batch.readings.isEmpty

/-- There are bytes enough for one more reading. -/
def fits (reading : Reading) (batch : Batch capacity) : Bool :=
  batch.size + reading.encodedSize ≤ capacity

/-- The batch with one more reading, if that fits and its length can be written in one byte. -/
def push? (reading : Reading) (batch : Batch capacity) : Option (Batch capacity) :=
  if batch.fits reading && reading.data.length ≤ Reading.maxData then
    some { readings := batch.readings ++ [reading] }
  else
    none

end Batch

end StationMesh.Weather
