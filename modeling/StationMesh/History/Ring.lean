/-!
# Bounded histories

A ring remembers the last `capacity` values that were recorded in it. A new value takes the place
of the oldest one.
-/

namespace StationMesh.History

/-- The values recorded last. -/
structure Ring (α : Type) (capacity : Nat) where
  /-- What is remembered, the newest first. -/
  recent : List α := []
deriving DecidableEq, Repr

namespace Ring

variable {α : Type} {capacity : Nat}

def record (value : α) (ring : Ring α capacity) : Ring α capacity :=
  { recent := (value :: ring.recent).take capacity }

def contains [DecidableEq α] (value : α) (ring : Ring α capacity) : Bool :=
  value ∈ ring.recent

def length (ring : Ring α capacity) : Nat := ring.recent.length

def isEmpty (ring : Ring α capacity) : Bool := ring.recent.isEmpty

@[simp]
theorem contains_record_self [DecidableEq α] (value : α) (ring : Ring α (capacity + 1)) :
    (ring.record value).contains value = true := by
  simp [contains, record]

end Ring

end StationMesh.History
