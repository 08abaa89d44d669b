/-!
# Stations seen lately

Each station heard of is kept with the time it was heard last. Once all places are taken, a new
station takes the place of the one that was not heard of for the longest time.
-/

namespace StationMesh.History

/-- A station and when it was heard last, in microseconds. -/
structure Sighting where
  station : UInt8
  time : Nat
deriving DecidableEq, Repr

namespace Sighting

/-- How long ago the station was heard; nothing if that lies ahead of `now`. -/
def age (now : Nat) (sighting : Sighting) : Nat := now - sighting.time

end Sighting

/-- The stations heard of lately, each in its place. -/
structure Seen (capacity : Nat) where
  sightings : List Sighting := []
deriving DecidableEq, Repr

namespace Seen

variable {capacity : Nat}

def contains (station : UInt8) (seen : Seen capacity) : Bool :=
  seen.sightings.any (·.station == station)

def length (seen : Seen capacity) : Nat := seen.sightings.length

def isEmpty (seen : Seen capacity) : Bool := seen.sightings.isEmpty

/-- The place of the first sighting that is older than all before it, where `best` is the place
of the oldest one so far, `bestAge` its age and `place` that of the next sighting. -/
def stalestFrom (now : Nat) : (place best bestAge : Nat) → List Sighting → Nat
  | _, best, _, [] => best
  | place, best, bestAge, sighting :: rest =>
      if bestAge < sighting.age now then
        stalestFrom now (place + 1) place (sighting.age now) rest
      else
        stalestFrom now (place + 1) best bestAge rest

/-- The place of the oldest sighting; the first one of several, and the first place of all if
none has an age. -/
def stalest (now : Nat) (seen : Seen capacity) : Nat := stalestFrom now 0 0 0 seen.sightings

/-- Notes that a station is heard now. -/
def observe (station : UInt8) (now : Nat) (seen : Seen capacity) : Seen capacity :=
  if seen.contains station then
    { sightings := seen.sightings.map fun sighting =>
        if sighting.station = station then { sighting with time := now } else sighting }
  else if seen.length < capacity then
    { sightings := seen.sightings ++ [{ station, time := now }] }
  else
    { sightings := seen.sightings.set (seen.stalest now) { station, time := now } }

end Seen

end StationMesh.History
