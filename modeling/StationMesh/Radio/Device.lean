import StationMesh.Action
import StationMesh.Bytes

/-!
# Radio devices

What a station asks of a radio. A device holds at most one received frame and announces it
through a packet signal: a waiting flag, and a counter of all frames that were announced, so that
frames overwritten before they were read show up as a gap in the count.

`Device` is the contract of the device itself, `Timed` adds the time that passes while it works.
-/

namespace StationMesh.Radio

/-- What a device can fail with. -/
inductive DeviceError where
  /-- The device has to be brought up first. -/
  | initializationFailed
  | transmissionFailed
  | receiveFailed
  /-- The channel could not be probed. -/
  | cadFailed
  /-- The received frame does not fit; it stays in the device. -/
  | bufferTooSmall
  | hardwareFault
deriving DecidableEq, Repr

/-- The wording of a device error. -/
def DeviceError.message : DeviceError → String
  | initializationFailed => "radio device is not initialized"
  | transmissionFailed => "radio transmission failed"
  | receiveFailed => "reading the received frame failed"
  | cadFailed => "channel activity detection failed"
  | bufferTooSmall => "received frame does not fit the buffer"
  | hardwareFault => "radio hardware fault"

/-- What a probe of the channel finds. -/
inductive Activity where
  | free
  /-- Another station is sending. -/
  | busy
deriving DecidableEq, Repr

/-- Which preamble a length is set for. -/
inductive Side where
  /-- The preamble in front of outgoing frames. -/
  | transmit
  /-- The shortest preamble the receiver wakes for. -/
  | receive
deriving DecidableEq, Repr

/-- What a receiver does. -/
inductive Mode where
  /-- Powered, but not listening. -/
  | standby
  | continuous
  /-- Listening now and then. -/
  | dutyCycle
  | sleep
deriving DecidableEq, Repr

/-- The receiver can catch a frame. -/
def Mode.listens : Mode → Bool
  | continuous | dutyCycle => true
  | standby | sleep => false

/-- A frame read out of a device. -/
structure Reception where
  data : Bytes
  /-- The frame passed its check. -/
  intact : Bool
deriving DecidableEq, Repr

/-- How a device announces frames. -/
structure Signal where
  waiting : Bool := false
  counter : UInt16 := 0
deriving DecidableEq, Repr

namespace Signal

/-- Announces a frame. -/
def raise (signal : Signal) : Signal :=
  { waiting := true, counter := signal.counter + 1 }

/-- Takes note of the announcement. -/
def lower (signal : Signal) : Signal := { signal with waiting := false }

/-- The counter, if a frame is announced. -/
def announced (signal : Signal) : Option UInt16 :=
  if signal.waiting then some signal.counter else none

end Signal

/-- The most bytes that fit in the buffer of a device. -/
def bufferSize : Nat := 255

/-- An operation of a device. -/
abbrev Operation (δ α : Type) := Action δ DeviceError α

/-- The contract of a radio device. -/
class Device (δ : Type) where
  /-- Brings the device from any state into standby. -/
  bringUp : Operation δ Unit
  /-- Sends a frame. -/
  transmit : Bytes → Operation δ Unit
  /-- Reads the received frame if it has at most `room` bytes. -/
  read : (room : Nat) → Operation δ Reception
  /-- Probes the channel. -/
  probe : Operation δ Activity
  /-- Listens all the time. -/
  listen : Operation δ Unit
  /-- Listens now and then. -/
  dutyCycle : Operation δ Unit
  /-- Turns the receiver off. -/
  sleep : Operation δ Unit
  /-- Sets a preamble length. -/
  setPreamble : Side → UInt16 → δ → δ
  /-- Lets the device take care of what it has to announce. -/
  attend : δ → δ
  /-- How frames are announced at the moment. -/
  signal : δ → Signal
  /-- Takes note of an announcement. -/
  acknowledge : δ → δ

/-- A device together with the time in microseconds. -/
class Timed (ρ : Type) extends Device ρ where
  /-- The time. -/
  now : ρ → Nat
  /-- Lets time pass until the given moment, which is not in the past. -/
  waitUntil : Nat → ρ → ρ
  /-- At least as many as the busy answers and the frames from elsewhere that are still to
  come. -/
  horizon : ρ → Nat

end StationMesh.Radio
