import StationMesh.Station.Basic

/-!
# Sending what is queued

All frames of the outbox are handed to the controller, the oldest first. A frame that cannot be
sent is dropped, and the ones behind it still go out.
-/

namespace StationMesh

open Channel Radio Relay

/-- What became of the frames of an outbox. -/
structure FlushReport where
  sent : Nat := 0
  dropped : Nat := 0
  /-- Why the first dropped frame could not be sent. -/
  failure : Option ChannelError := none
deriving DecidableEq, Repr

namespace FlushReport

def addSent (report : FlushReport) : FlushReport := { report with sent := report.sent + 1 }

def addDropped (error : ChannelError) (report : FlushReport) : FlushReport :=
  { report with dropped := report.dropped + 1, failure := some (report.failure.getD error) }

/-- The number of frames sent, if none was dropped. -/
def result (report : FlushReport) : Except ChannelError Nat :=
  match report.failure with
  | none => .ok report.sent
  | some error => .error error

end FlushReport

namespace Station

variable {ρ κ φ α : Type} {logSize : Nat} [Timed ρ] [Config.Store κ] [FirmwareUpdater φ]

omit [Timed ρ] [Config.Store κ] [FirmwareUpdater φ] in
def takeFrame {ε : Type} : Operation ρ κ φ logSize ε (Option OutFrame) := do
  let station ← get
  match station.hub.outbox.take? with
  | none => pure none
  | some (frame, outbox) =>
      set { station with hub := { station.hub with outbox } }
      pure (some frame)

omit [Config.Store κ] [FirmwareUpdater φ] in
/-- Sends the frames of the outbox, at most `fuel` of them. -/
def flushUpTo : (fuel : Nat) → FlushReport → Operation ρ κ φ logSize ChannelError FlushReport
  | 0, report => pure report
  | fuel + 1, report => do
      let some frame ← takeFrame | return report
      match ← (onController (Controller.transmit frame.data frame.preamble)).attempt with
      | .ok () =>
          modify fun station => { station with faults := 0 }
          flushUpTo fuel report.addSent
      | .error error =>
          absorb error
          flushUpTo fuel (report.addDropped error)

omit [Config.Store κ] [FirmwareUpdater φ] in
/-- Sends all frames of the outbox. It fails only if the radio cannot be brought up after a
fault. -/
def flush : Operation ρ κ φ logSize ChannelError FlushReport := do
  flushUpTo (← get).hub.outbox.length {}

omit [Config.Store κ] [FirmwareUpdater φ] in
/-- Sends all frames of the outbox and fails if any of them was dropped. -/
def flushAll : Operation ρ κ φ logSize ChannelError Unit := do
  match (← flush).result with
  | .ok _ => pure ()
  | .error error => throw error

omit [FirmwareUpdater φ] in
/-- Originates a weather message and sends it with what is queued. -/
def sendWeather (reading : Bytes) : Operation ρ κ φ logSize StationError UInt8 := do
  let uid ← onHub (Hub.sendWeather reading)
  overChannel flushAll
  pure uid

omit [FirmwareUpdater φ] in
/-- Originates a status message and sends it with what is queued. -/
def sendStatus : Operation ρ κ φ logSize StationError UInt8 := do
  let report := (← get).controller.statistics.report
  let uid ← onHub (Hub.sendStatus report)
  overChannel flushAll
  pure uid

end Station

end StationMesh
