import StationMesh.Config.Store
import StationMesh.Message.Frame

/-!
# Channel settings

How a station takes its turn on the channel. Part of it is kept in the configuration store, the
rest comes with the station. Times are in microseconds.
-/

namespace StationMesh.Channel

/-- How a station takes its turn, and the lengths of its preambles. -/
structure Settings where
  /-- After a busy channel a station waits one slot unless a random byte falls below this. -/
  persistence : UInt8 := 63
  slotTime : Nat := 100000
  /-- How long a station tries to get at the channel. -/
  accessTimeout : Nat := 5000000
  shortPreamble : UInt16 := 8
  longPreamble : UInt16 := 512
  /-- The preamble a receiver wakes for that listens all the time. -/
  continuousPreamble : UInt16 := 8
  /-- The preamble a receiver wakes for that listens now and then. -/
  intermittentPreamble : UInt16 := 256
deriving DecidableEq, Repr

namespace Settings

def preambleLength (settings : Settings) : Preamble → UInt16
  | .short => settings.shortPreamble
  | .long => settings.longPreamble

/-- The settings with what the store keeps of them. -/
def ofStore {κ : Type} [Config.Store κ] (store : κ) (base : Settings) : Settings :=
  { base with
    persistence := Config.Store.getByte .csmaPersistence store
    slotTime := (Config.Store.getByte .csmaSlotTime store).toNat * 1000
    shortPreamble := Config.Store.getWord .shortPreamble store
    longPreamble := Config.Store.getWord .longPreamble store }

end Settings

end StationMesh.Channel
