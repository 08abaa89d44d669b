import StationMesh.Station.Loop

/-!
# Serving the host

The host sends frames over the serial line: radio frames to be sent, and commands to the station
itself, which are answered on the line. Frames of any other kind are passed over, and so are
frames that come in broken or not in time.
-/

namespace StationMesh.Station

open Channel Radio Relay

variable {ρ κ φ : Type} {logSize : Nat} [Timed ρ] [Config.Store κ] [FirmwareUpdater φ]

/-- Does what a frame of the host asks for. -/
def handleHostFrame (frame : Host.Frame) : Operation ρ κ φ logSize StationError Unit := do
  match Kiss.FrameKind.ofCode? frame.kind with
  | some .data =>
      onHub (Hub.sendHostFrame frame.payload)
      overChannel flushAll
  | some .localCommand =>
      let station ← get
      let report := station.controller.statistics.report
      let now := Timed.now station.controller.radio
      let (_, hub) := station.hub.executeLocal frame.payload report now
      set { station with hub }
      overChannel applyPending
  | none => pure ()

omit [Timed ρ] [Config.Store κ] [FirmwareUpdater φ] in
/-- A reader for the serial line of the station. -/
def hostReader (arrivals : List Host.Arrival) (station : Station ρ κ φ logSize) : Host.Reader :=
  .new arrivals station.hostSettings.byteTimeout station.hostSettings.identifierLength

/-- Waits for one frame of the host and does what it asks for. The reader is ready for the next
frame however that ended. -/
def serveHost (reader : Host.Reader) (station : Station ρ κ φ logSize) :
    Except StationError Unit × Host.Reader × Station ρ κ φ logSize :=
  let controller := station.controller
  let (answer, time, reader) := reader.readFrame (Timed.now controller.radio)
  let station :=
    { station with
      controller := { controller with radio := Timed.waitUntil time controller.radio } }
  match answer with
  | .error .timeout | .error .framing | .error .bufferOverrun => (.ok (), reader, station)
  | .error error => (.error (.transport error), reader, station)
  | .ok frame =>
      let (done, station) := (handleHostFrame frame).run station
      (done, reader, station)

end StationMesh.Station
