import StationMesh.Channel.CarrierSense
import StationMesh.Relay.Message

/-!
# Taking messages out of the receive queue

Messages are processed in the order they arrived. The next one is taken only while the outbox
has room for all that one message can put into it, and stays queued otherwise.
-/

namespace StationMesh.Relay

open Channel Radio

/-- The free slots of the outbox without which no message is taken. -/
def messageReserve : Nat := 8

variable {ρ κ φ : Type} {logSize : Nat} [Timed ρ] [Config.Store κ] [FirmwareUpdater φ]

/-- Processes queued messages, at most `fuel` of them, and answers how many these were, on top of
those processed before. -/
def intakeUpTo (report : Report) (now : Nat) : (fuel processed : Nat) → Controller ρ →
    Hub κ φ logSize → Nat × Controller ρ × Hub κ φ logSize
  | 0, processed, controller, hub => (processed, controller, hub)
  | fuel + 1, processed, controller, hub =>
      if hub.outbox.free < messageReserve then
        (processed, controller, hub)
      else
        match controller.dequeue with
        | (none, controller) => (processed, controller, hub)
        | (some frame, controller) =>
            intakeUpTo report now fuel (processed + 1) controller
              (hub.process frame report now).2

/-- Processes the queued messages as far as the outbox allows. Statistics and time are those of
the start. -/
def intake (controller : Controller ρ) (hub : Hub κ φ logSize) :
    Nat × Controller ρ × Hub κ φ logSize :=
  intakeUpTo controller.statistics.report (Timed.now controller.radio) (controller.queued + 1) 0
    controller hub

end StationMesh.Relay
