import StationMesh.Bytes

/-!
# The checksum of a stored configuration

A cyclic redundancy check of 16 bits: generator polynomial `x^16 + x^12 + x^5 + 1`, all ones at
the start, each byte taken most significant bit first. A remainder moves on by one bit with
`shift`, and a byte is taken in by adding it to the high end and shifting eight times.
-/

namespace StationMesh.Config.Checksum

/-- The generator polynomial without its leading term. -/
def polynomial : UInt16 := 0x1021

/-- The remainder after one more bit. -/
def shift (remainder : UInt16) : UInt16 :=
  if remainder &&& 0x8000 != 0 then (remainder <<< 1) ^^^ polynomial else remainder <<< 1

def shifts : (count : Nat) → UInt16 → UInt16
  | 0, remainder => remainder
  | count + 1, remainder => shifts count (shift remainder)

/-- The remainder after one more byte. -/
def absorb (remainder : UInt16) (byte : UInt8) : UInt16 :=
  shifts 8 (remainder ^^^ (byte.toUInt16 <<< 8))

/-- The remainder of a byte string. -/
def ofBytes (data : Bytes) : UInt16 := data.foldl absorb 0xFFFF

end StationMesh.Config.Checksum
