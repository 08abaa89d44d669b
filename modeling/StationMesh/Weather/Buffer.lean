import StationMesh.Weather.Reading

/-!
# A buffer of written readings

Readings that wait for relay are kept as they are written, one behind the other in at most
`capacity` bytes, and how many of them there are is counted beside the bytes.
-/

namespace StationMesh.Weather

/-- The written form of some readings, and how many they are. -/
structure Buffer (capacity : Nat) where
  bytes : Bytes := []
  count : Nat := 0
deriving DecidableEq, Repr

namespace Buffer

variable {capacity : Nat}

def fits (reading : Reading) (buffer : Buffer capacity) : Bool :=
  buffer.bytes.length + reading.encodedSize ≤ capacity

/-- Puts bytes behind the others, if there is room for all of them. -/
def extend (data : Bytes) (buffer : Buffer capacity) : Buffer capacity :=
  if buffer.bytes.length + data.length ≤ capacity then
    { buffer with bytes := buffer.bytes ++ data }
  else
    buffer

/-- Writes a reading behind the others, first what announces it and then its data, and answers
whether it fits and its length can be written in one byte. -/
def push (reading : Reading) (buffer : Buffer capacity) : Bool × Buffer capacity :=
  if ¬buffer.fits reading ∨ Reading.maxData < reading.data.length then
    (false, buffer)
  else
    let announced := buffer.extend
      [reading.station, reading.uid, UInt8.ofNat reading.data.length]
    let written := announced.extend reading.data
    (true, { written with count := written.count + 1 })

def clear (buffer : Buffer capacity) : Buffer capacity := { buffer with bytes := [], count := 0 }

def isEmpty (buffer : Buffer capacity) : Bool := buffer.bytes.isEmpty

end Buffer

end StationMesh.Weather
