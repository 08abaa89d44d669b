import StationMesh.Config.Store

/-!
# When weather is due

A station sends a weather message each time its interval is over, and every so often it carries
all sensors. Times are in microseconds.
-/

namespace StationMesh.Weather

/-- Which sensors a weather message carries. -/
inductive ReadingKind where
  /-- Wind alone. -/
  | simple
  /-- Wind, battery, temperature and charge. -/
  | complex
deriving DecidableEq, Repr

/-- When the next message is due, and how many came before. -/
structure Schedule where
  /-- A message is due at once if no time is set. -/
  nextDue : Option Nat := none
  sent : UInt32 := 0
deriving DecidableEq, Repr

namespace Schedule

variable {κ : Type} [Config.Store κ]

/-- The interval between two messages: at least a second. -/
def interval (store : κ) : Nat :=
  max 1 (Config.Store.getWord .weatherInterval store).toNat * 1000000

/-- The sensors of the next message: all of them once in so many messages. -/
def nextKind (store : κ) (schedule : Schedule) : ReadingKind :=
  let every := (Config.Store.getByte .complexWeatherEvery store).toUInt32
  if every ≠ 0 ∧ schedule.sent % every = 0 then .complex else .simple

/-- The message that is due at `now`, if there is one; the next one is due an interval later. -/
def poll (store : κ) (now : Nat) (schedule : Schedule) : Option ReadingKind × Schedule :=
  if schedule.nextDue.any (now < ·) then
    (none, schedule)
  else
    (some (schedule.nextKind store),
      { nextDue := some (now + interval store), sent := schedule.sent + 1 })

end Schedule

end StationMesh.Weather
