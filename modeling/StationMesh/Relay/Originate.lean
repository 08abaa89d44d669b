import StationMesh.Channel.Statistics
import StationMesh.Relay.Engine

/-!
# Messages a station originates

Weather messages carry the reading of the station and the readings that wait for relay; status
messages report how the channel is doing. A frame from the host is sent as it is, and remembered
as relayed, so that its copies are not relayed when they come back.

Readings wait in a batch. When one more does not fit, the batch is sent as a weather message
without a reading of the station itself, and a reading that is too long for any batch is sent in
the same way on its own.
-/

namespace StationMesh.Relay.Hub

variable {κ φ : Type} {logSize : Nat} [Config.Store κ]

/-- Acknowledgments are awaited by stations that listen; all else has to wake the receivers. -/
def preambleFor (kind : MessageKind) : Preamble :=
  if kind = .acknowledge then .short else .long

/-- Puts a weather message of this station into the outbox: its own reading, then the written
form of other readings. -/
def sendWeatherFrame (uid : UInt8) (reading relayed : Bytes) : Operation κ φ logSize Unit := do
  let hub ← get
  let header : Header := { kind := .weather, forced := false, station := hub.stationId, uid }
  send (header.encode ++ UInt8.ofNat reading.length :: reading ++ relayed) .long

def clearBatch : Operation κ φ logSize Unit :=
  modify (·.withEngine fun engine => { engine with batch := {} })

/-- Sends the waiting readings as a weather message. They are given up even if the message
cannot be handed on. -/
def flushBatch : Operation κ φ logSize Unit := do
  let batch := (← get).engine.batch
  if batch.isEmpty then
    return
  let uid ← takeUid
  match ← (sendWeatherFrame uid [] batch.bytes).attempt with
  | .ok () => clearBatch
  | .error error =>
      clearBatch
      throw error

/-- Adds a reading to the batch, if it fits. -/
def addToBatch (reading : Weather.Reading) : Operation κ φ logSize Bool := do
  let hub ← get
  match hub.engine.batch.push? reading with
  | some batch =>
      set (hub.withEngine fun engine => { engine with batch })
      pure true
  | none => pure false

/-- Takes care of a reading that is to be relayed: it waits in the batch, after the batch was
sent if need be, or is sent on its own. -/
def relayReading (reading : Weather.Reading) : Operation κ φ logSize Unit := do
  if ← addToBatch reading then
    return
  flushBatch
  if ← addToBatch reading then
    return
  let uid ← takeUid
  sendWeatherFrame uid [] reading.encode

/-- How long a reading of the station itself may be. -/
def maxOwnReading : Nat := OutFrame.maxSize - Header.size - 1

/-- Originates a weather message. The waiting readings go along if they fit, and are sent after
it otherwise. -/
def sendWeather (reading : Bytes) : Operation κ φ logSize UInt8 := do
  if maxOwnReading < reading.length then
    throw .bufferOverrun
  let uid ← takeUid
  let batch := (← get).engine.batch
  if batch.size ≤ maxOwnReading - reading.length then
    match ← (sendWeatherFrame uid reading batch.bytes).attempt with
    | .ok () => clearBatch
    | .error error =>
        clearBatch
        throw error
  else
    sendWeatherFrame uid reading []
    flushBatch
  pure uid

/-- Originates a status message: how the channel is doing, how many stations were heard lately
and how many bytes of readings wait for relay. -/
def sendStatus (report : Channel.Report) : Operation κ φ logSize UInt8 := do
  let uid ← takeUid
  let hub ← get
  let header : Header := { kind := .status, forced := false, station := hub.stationId, uid }
  let state := [UInt8.ofNat hub.engine.seen.length, UInt8.ofNat hub.engine.batch.size]
  send (header.encode ++ report.encode ++ state) .long
  pure uid

omit [Config.Store κ] in
/-- Sends a frame of the host. It is remembered before it is handed on. -/
def sendHostFrame (frame : Bytes) : Operation κ φ logSize Unit := do
  match Header.parse frame with
  | .ok header =>
      modify (·.withEngine fun engine =>
        { engine with relayed := engine.relayed.record header.identity })
      send frame (preambleFor header.kind)
  | .error _ => send frame .long

end StationMesh.Relay.Hub
