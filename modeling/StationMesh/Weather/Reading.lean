import StationMesh.Bytes

/-!
# Weather readings

The body of a weather frame, which is everything after the type byte, is a run of readings. Each
is written as the station it comes from, its unique id, its length in one byte and its data. The
first one belongs to the station that sends the frame, and the others were gathered on the way.
The data is copied through the mesh and never looked into.

`parseAll` reads as many readings as are complete and hands back the bytes that follow them.
-/

namespace StationMesh.Weather

/-- One reading, tagged with the station it comes from. -/
structure Reading where
  station : UInt8
  uid : UInt8
  data : Bytes
deriving DecidableEq, Repr

namespace Reading

/-- The bytes in front of the data. -/
def overhead : Nat := 3

/-- The length byte can say no more than this. -/
def maxData : Nat := 255

/-- How many bytes the written form takes. -/
def encodedSize (reading : Reading) : Nat := overhead + reading.data.length

/-- The written form: station, unique id, length, data. -/
def encode (reading : Reading) : Bytes :=
  reading.station :: reading.uid :: UInt8.ofNat reading.data.length :: reading.data

@[simp]
theorem length_encode (reading : Reading) : reading.encode.length = reading.encodedSize := by
  simp [encode, encodedSize, overhead]
  omega

/-- Reads the reading at the front, if it is complete. -/
def parse : Bytes → Option (Reading × Bytes)
  | station :: uid :: length :: rest =>
      if length.toNat ≤ rest.length then
        some ({ station, uid, data := rest.take length.toNat }, rest.drop length.toNat)
      else
        none
  | _ => none

/-- Reads at most `count` readings and answers them with the bytes left over. -/
def parseUpTo : (count : Nat) → Bytes → List Reading × Bytes
  | 0, body => ([], body)
  | count + 1, body =>
      match parse body with
      | none => ([], body)
      | some (reading, rest) =>
          let (readings, left) := parseUpTo count rest
          (reading :: readings, left)

/-- Reads every complete reading of a body. A reading takes at least three bytes, so there are
no more readings than bytes. -/
def parseAll (body : Bytes) : List Reading × Bytes :=
  parseUpTo body.length body

end Reading

end StationMesh.Weather
