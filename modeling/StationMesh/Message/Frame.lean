import StationMesh.Bytes

/-!
# Outgoing frames

A frame is at most 254 bytes long and is sent behind a short or a long preamble.
-/

namespace StationMesh

/-- How long a preamble the sender puts in front of a frame. -/
inductive Preamble where
  /-- For replies to stations known to be listening. -/
  | short
  /-- Long enough to wake receivers that listen only now and then. -/
  | long
deriving DecidableEq, Repr

/-- A finished frame on its way to the air. -/
structure OutFrame where
  data : Bytes
  preamble : Preamble
  size_le : data.length ≤ 254
deriving DecidableEq, Repr

namespace OutFrame

/-- The ceiling of a frame. -/
def maxSize : Nat := 254

/-- The frame with these bytes, if they fit. -/
def ofBytes? (data : Bytes) (preamble : Preamble) : Option OutFrame :=
  if size_le : data.length ≤ maxSize then some { data, preamble, size_le } else none

end OutFrame

end StationMesh
