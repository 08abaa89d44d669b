import StationMesh.History.Ring

/-!
# Commands handled before

Commands are told apart by their unique ids alone. The id 0 is never remembered, so a command
under it is carried out each time it comes.
-/

namespace StationMesh.History

/-- The unique ids of the commands handled last. -/
structure Handled (capacity : Nat) where
  ring : Ring UInt8 capacity := {}
deriving DecidableEq, Repr

namespace Handled

variable {capacity : Nat}

def record (uid : UInt8) (handled : Handled capacity) : Handled capacity :=
  if uid = 0 then handled else { ring := handled.ring.record uid }

/-- A command under this id was handled lately. -/
def contains (uid : UInt8) (handled : Handled capacity) : Bool :=
  uid ≠ 0 && handled.ring.contains uid

def length (handled : Handled capacity) : Nat := handled.ring.length

def isEmpty (handled : Handled capacity) : Bool := handled.ring.isEmpty

end Handled

end StationMesh.History
