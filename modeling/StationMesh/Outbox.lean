import StationMesh.Message.Frame
import StationMesh.Message.TransportError

/-!
# The outbox

Finished frames wait here, first in first out, until the channel is free. There are 24 slots.
-/

namespace StationMesh

/-- The frames waiting for the channel, the oldest first. -/
structure Outbox where
  frames : List OutFrame := []
  length_le : frames.length ≤ 24 := by decide
deriving Repr

namespace Outbox

def slots : Nat := 24

/-- The outbox in which no frame waits. -/
def empty : Outbox := {}

def length (outbox : Outbox) : Nat := outbox.frames.length

def free (outbox : Outbox) : Nat := slots - outbox.length

/-- The outbox with one more frame at the end. -/
def push (frame : OutFrame) (outbox : Outbox) : Except TransportError Outbox :=
  if room : outbox.frames.length < slots then
    .ok { frames := outbox.frames ++ [frame], length_le := by rw [List.length_append]; exact room }
  else
    .error .outboxFull

/-- The oldest frame, and the outbox without it. -/
def take? (outbox : Outbox) : Option (OutFrame × Outbox) :=
  match frames : outbox.frames with
  | [] => none
  | frame :: rest =>
      have := outbox.length_le
      some (frame, { frames := rest, length_le := by grind })

/-- Puts bytes into the outbox as one frame, if they fit in a frame and a slot is free. -/
def send (data : Bytes) (preamble : Preamble) (outbox : Outbox) : Except TransportError Outbox :=
  match OutFrame.ofBytes? data preamble with
  | some frame => outbox.push frame
  | none => .error .bufferOverrun

end Outbox

end StationMesh
