import StationMesh.Channel.Controller

/-!
# Carrier sense

Before it sends, a station probes the channel until it is free. After a busy channel it draws a
random byte, and unless that falls below the persistence it waits one slot before the next probe.
It gives up when it finds the channel busy past the access timeout. While it waits it goes on
taking frames off the radio.

Every probe takes time, so the loops below come to an end with the time that is left.
-/

namespace StationMesh.Channel

open Radio

/-- How long a station waits in one go while a slot passes. -/
def serviceInterval : Nat := 2000

namespace Controller

variable {ρ : Type} [Timed ρ]

def drawByte : Operation ρ UInt8 := do
  let controller ← get
  let (byte, random) := controller.random.nextByte
  set { controller with random }
  pure byte

def probe : Operation ρ Activity := onRadio Device.probe

/-- Takes frames off the radio until the slot is over; `fuel` bounds the number of waits. -/
def waitSlotUpTo (slotEnd : Nat) : (fuel : Nat) → Operation ρ Unit
  | 0 => pure ()
  | fuel + 1 => do
      let _ ← serviceReceiver
      let time ← now
      if slotEnd ≤ time then
        return
      adjust (Timed.waitUntil (time + min (slotEnd - time) serviceInterval))
      waitSlotUpTo slotEnd fuel

def waitSlot : Operation ρ Unit := do
  let slotTime := (← get).settings.slotTime
  waitSlotUpTo ((← now) + slotTime) (slotTime + 2)

/-- Takes frames off the radio and probes until the channel is free or the deadline is past;
`fuel` bounds the number of probes. -/
def awaitFree (deadline : Nat) : (fuel : Nat) → Operation ρ Unit
  | 0 => throw .timeout
  | fuel + 1 => do
      let _ ← serviceReceiver
      if deadline ≤ (← now) then
        throw .timeout
      match ← probe with
      | .busy => awaitFree deadline fuel
      | .free => pure ()

/-- Probes until the first probe of a round finds the channel free; `fuel` bounds the number of
rounds. -/
def contend (deadline : Nat) : (fuel : Nat) → (heardBusy : Bool) → Operation ρ Unit
  | 0, _ => throw .timeout
  | fuel + 1, heardBusy => do
      if heardBusy then
        if (← get).settings.persistence ≤ (← drawByte) then
          waitSlot
      match ← probe with
      | .free => pure ()
      | .busy =>
          awaitFree deadline (deadline - (← now) + 1)
          contend deadline fuel true

/-- Waits for the channel and answers how long that took. -/
def senseCarrier : Operation ρ Nat := do
  let start ← now
  let timeout := (← get).settings.accessTimeout
  contend (start + timeout) (timeout + 2) false
  let elapsed := (← now) - start
  tally (.recordDelay elapsed)
  pure elapsed

/-- Sends a frame when the channel is free, and puts the radio back into its idle state. -/
def transmit (data : Bytes) (preamble : Preamble) : Operation ρ Unit := do
  let _ ← senseCarrier
  let length := (← get).settings.preambleLength preamble
  adjust (Device.setPreamble .transmit length)
  onRadio (Device.transmit data)
  enterIdle

end Controller

end StationMesh.Channel
