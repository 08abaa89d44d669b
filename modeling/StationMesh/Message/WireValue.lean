import StationMesh.Bytes

/-!
# Integers on the wire

Integers of one, two, four or eight bytes, signed or not, are written with the least significant
byte first; negative ones in two's complement.
-/

namespace StationMesh

/-- The formats an integer can be written in. -/
inductive WireType where
  | uint8 | int8 | uint16 | int16 | uint32 | int32 | uint64 | int64
deriving DecidableEq, Repr

namespace WireType

/-- How many bytes the written form takes. -/
def width : WireType → Nat
  | uint8 | int8 => 1
  | uint16 | int16 => 2
  | uint32 | int32 => 4
  | uint64 | int64 => 8

/-- Negative values have a written form. -/
def isSigned : WireType → Bool
  | int8 | int16 | int32 | int64 => true
  | uint8 | uint16 | uint32 | uint64 => false

/-- How many values a format tells apart. -/
def modulus (type : WireType) : Nat := Bytes.bound type.width

/-- The values a format can write. -/
def InRange (type : WireType) (value : Int) : Prop :=
  if type.isSigned then
    -(type.modulus / 2 : Nat) ≤ value ∧ value < (type.modulus / 2 : Nat)
  else
    0 ≤ value ∧ value < type.modulus

/-- The written form of a value. -/
def encode (type : WireType) (value : Int) : Bytes :=
  Bytes.ofNat type.width (value % type.modulus).toNat

/-- The value of a written form. -/
def decode (type : WireType) (bytes : Bytes) : Int :=
  let number := Bytes.toNat bytes
  if type.isSigned && type.modulus ≤ 2 * number then
    (number : Int) - type.modulus
  else
    number

@[simp]
theorem length_encode (type : WireType) (value : Int) :
    (type.encode value).length = type.width := by
  simp [encode]

end WireType

end StationMesh
