import StationMesh.Station.Flush

/-!
# The main loop

One round of a station takes what was received off the radio, processes it, does what commands
asked for and sends what is queued, as long as frames are left. Afterwards the radio listens as
the relay lists call for.
-/

namespace StationMesh.Station

open Channel Radio Relay

variable {ρ κ φ α : Type} {logSize : Nat} [Timed ρ] [Config.Store κ] [FirmwareUpdater φ]

omit [FirmwareUpdater φ] in
/-- Brings the radio up and starts listening. -/
def start : Operation ρ κ φ logSize ChannelError Unit := do
  onController Controller.reinitialize
  let policy := (← get).idlePolicy
  onController (Controller.setIdle policy)

/-- Processes queued messages and answers how many. -/
def processQueued {ε : Type} : Operation ρ κ φ logSize ε Nat := do
  let station ← get
  let (processed, controller, hub) := intake station.controller station.hub
  set { station with controller, hub }
  pure processed

omit [FirmwareUpdater φ] in
/-- Does what commands asked for: takes over changed settings, then brings the radio up anew. -/
def applyPending : Operation ρ κ φ logSize ChannelError Unit := do
  let station ← get
  let (pending, engine) := station.hub.engine.takePending
  set { station with hub := { station.hub with engine } }
  if pending.reload then
    modify fun station =>
      { station with controller := station.controller.configure station.channelSettings }
  if pending.reinitialize then
    onController Controller.reinitialize

/-- Processes and sends until no frame is queued, at most `fuel` times, and answers how many
messages were processed, on top of those processed before. -/
def drainUpTo : (fuel processed : Nat) → Operation ρ κ φ logSize ChannelError Nat
  | 0, processed => pure processed
  | fuel + 1, processed => do
      let more ← processQueued
      applyPending
      let _ ← flush
      if (← get).controller.queued = 0 then
        return processed + more
      drainUpTo fuel (processed + more)

omit [FirmwareUpdater φ] in
/-- Puts the radio into the idle state that the relay lists call for, if it is in another. -/
def followPolicy : Operation ρ κ φ logSize ChannelError Unit := do
  let station ← get
  if station.controller.idle = station.idlePolicy then
    return
  match ← (onController (Controller.setIdle station.idlePolicy)).attempt with
  | .ok () => pure ()
  | .error error => absorb error

omit [Config.Store κ] [FirmwareUpdater φ] in
/-- Takes off the radio what was received. -/
def receive : Operation ρ κ φ logSize ChannelError Unit := do
  match ← (onController (Controller.serviceReceiver (ρ := ρ))).attempt with
  | .ok _ => pure ()
  | .error error => absorb error

/-- One round of the main loop; the answer is the number of messages processed. From the second
time on, each time round processes a frame that was queued or arrived in between, and frames only
arrive while the channel is busy, so the number of times is bounded. -/
def poll : Operation ρ κ φ logSize ChannelError Nat := do
  receive
  let controller := (← get).controller
  let processed ← drainUpTo (controller.queued + Timed.horizon controller.radio + 2) 0
  followPolicy
  pure processed

omit [Timed ρ] [FirmwareUpdater φ] in
/-- The weather message that is due, if there is one. -/
def weatherDue (now : Nat) :
    Operation ρ κ φ logSize StationError (Option Weather.ReadingKind) := do
  let station ← get
  let (due, schedule) := station.schedule.poll station.hub.services.config now
  set { station with schedule }
  pure due

omit [FirmwareUpdater φ] in
/-- Carries out `operation` on the services while the radio is off, and listens again
afterwards, in the way it did before if it did. -/
def withRadioSilence (operation : Services κ φ logSize → α × Services κ φ logSize) :
    Operation ρ κ φ logSize ChannelError α := do
  let previous := (← get).controller.idle
  onController (Controller.setIdle .sleep)
  let station ← get
  let (answer, services) := operation station.hub.services
  let station := { station with hub := { station.hub with services } }
  set station
  let restored :=
    match previous with
    | .uninitialized | .sleep => station.idlePolicy
    | .continuousReceive | .intermittentReceive => previous
  onController (Controller.setIdle restored)
  pure answer

end StationMesh.Station
