import StationMesh.Message.Header

/-!
# Relay lists

A relay list names up to eight stations whose messages are relayed. Free places hold 0. Messages
under the id that addresses every station are relayed as soon as the list names anyone.
-/

namespace StationMesh.Config

/-- The stations whose messages are relayed. -/
structure RelayList where
  ids : Bytes
  length_eq : ids.length = 8
deriving DecidableEq, Repr

namespace RelayList

def size : Nat := 8

/-- The list with these ids in front; ids that find no place are left out. -/
def padded (ids : Bytes) : RelayList where
  ids := (ids ++ List.replicate size 0).take size
  length_eq := by simp [size]

def empty : RelayList := padded []

/-- The list with these ids, if there are places enough. -/
def ofIds? (ids : Bytes) : Option RelayList :=
  if ids.length ≤ size then some (padded ids) else none

/-- The list names a station. -/
def isActive (list : RelayList) : Bool := list.ids.any (· != everyStation)

/-- Messages under this station id are to be relayed. -/
def shouldRelay (station : UInt8) (list : RelayList) : Bool :=
  if station = everyStation then list.isActive else list.ids.contains station

end RelayList

end StationMesh.Config
