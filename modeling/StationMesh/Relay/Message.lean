import StationMesh.Relay.Command

/-!
# What becomes of a message

A message that is malformed, or that this station sent itself, is discarded. All others go
through these steps:

1. it is passed on to the host, if the host wants to see it;
2. a command to this station or to every station is carried out, unless it was handled lately;
3. the sender of weather is noted as heard;
4. a message of another station is relayed if it demands so or its station is on the relay list
   for its kind, unless it was relayed lately; readings of weather messages wait in the batch,
   and other messages go out again under their own header;
5. weather, status and acknowledgments are logged if they were relayed, or in any case if the
   station is told so.
-/

namespace StationMesh.Relay

/-- What became of a message. -/
structure Disposition where
  discarded : Bool := false
  executed : Bool := false
  relayed : Bool := false
  logged : Bool := false
deriving DecidableEq, Repr

/-- Messages of this kind can be logged. -/
def isLoggable : MessageKind → Bool
  | .weather | .status | .acknowledge => true
  | .command | .relayWrapper | .ping => false

namespace Hub

variable {κ φ : Type} {logSize : Nat} [Config.Store κ] [FirmwareUpdater φ]

omit [Config.Store κ] in
omit [FirmwareUpdater φ] in
/-- Passes a message on to the host, if the host is there. -/
def forward (frame : Bytes) (hub : Hub κ φ logSize) : Hub κ φ logSize :=
  if hub.host.bridged then hub.tell .data frame else hub

omit [Config.Store κ] in
omit [FirmwareUpdater φ] in
/-- Sends an acknowledgment, if the outbox takes it. -/
def acknowledge (own uid : UInt8) (payload : Bytes) (hub : Hub κ φ logSize) :
    Hub κ φ logSize :=
  let header : Header := { kind := .acknowledge, forced := false, station := own, uid }
  (hub.enqueue (header.encode ++ payload) .short).2

/-- Carries out a command that came over the radio, unless it was handled lately, and sends the
answer under the id the station had before. -/
def obey (header : Header) (own : UInt8) (command : Bytes) (report : Channel.Report) (now : Nat)
    (hub : Hub κ φ logSize) : Bool × Hub κ φ logSize :=
  if hub.engine.handled.contains header.uid then
    (false, hub)
  else
    let (answer, hub) := hub.executeBytes command report now
    let hub := hub.withEngine fun engine =>
      { engine with handled := engine.handled.record header.uid }
    match answer.payload hub.flags with
    | none => (answer.handled, hub)
    | some payload => (answer.handled, hub.acknowledge own header.uid payload)

omit [Config.Store κ] in
omit [FirmwareUpdater φ] in
def observe (station : UInt8) (now : Nat) (hub : Hub κ φ logSize) : Hub κ φ logSize :=
  hub.withEngine fun engine => { engine with seen := engine.seen.observe station now }

omit [FirmwareUpdater φ] in
/-- Takes care of the readings of a weather message that are not from this station itself, up to
the first one that cannot be handed on. -/
def relayReadings : List Weather.Reading → Operation κ φ logSize Unit
  | [] => pure ()
  | reading :: rest => do
      if reading.station ≠ (← get).stationId then
        relayReading reading
      relayReadings rest

omit [Config.Store κ] in
omit [FirmwareUpdater φ] in
/-- Sends a message again under its own header. Commands and pings go on demanding relay, all
other kinds do not. -/
def relayCopy (header : Header) (frame : Bytes) : Operation κ φ logSize Unit :=
  let forced := header.kind == .command || header.kind == .ping
  let copy : Header := { header with forced }
  send (copy.encode ++ frame.drop Header.size) (preambleFor header.kind)

omit [FirmwareUpdater φ] in
def relayFrame (header : Header) (frame : Bytes) : Operation κ φ logSize Unit :=
  if header.kind = .weather then
    relayReadings (Weather.Reading.parseAll (frame.drop 1)).1
  else
    relayCopy header frame

omit [FirmwareUpdater φ] in
/-- The message is one to be relayed, by a station with the given id. -/
def wantsRelay (header : Header) (own : UInt8) (hub : Hub κ φ logSize) : Bool :=
  let list := Config.Store.relayList header.kind hub.services.config
  header.station != own && (header.forced || list.shouldRelay header.station)

omit [FirmwareUpdater φ] in
/-- Relays a message that is to be relayed and was not relayed lately. It is remembered as
relayed only if all of it could be handed on. -/
def relay (header : Header) (own : UInt8) (frame : Bytes) (hub : Hub κ φ logSize) :
    Bool × Hub κ φ logSize :=
  if !hub.wantsRelay header own || hub.engine.relayed.contains header.identity then
    (false, hub)
  else
    match (relayFrame header frame).run hub with
    | (.error _, hub) => (false, hub)
    | (.ok (), hub) =>
        (true, hub.withEngine fun engine =>
          { engine with relayed := engine.relayed.record header.identity })

omit [Config.Store κ] in
omit [FirmwareUpdater φ] in
def log (header : Header) (frame : Bytes) (hub : Hub κ φ logSize) : Hub κ φ logSize :=
  { hub with
    services := { hub.services with
      log := hub.services.log.store header.kind header.station (frame.drop Header.size) } }

/-- Takes care of a message that was received at time `now`. -/
def process (frame : Bytes) (report : Channel.Report) (now : Nat) (hub : Hub κ φ logSize) :
    Disposition × Hub κ φ logSize :=
  let own := hub.stationId
  match Header.parse frame with
  | .error _ => ({ discarded := true }, hub)
  | .ok header =>
      if header.kind ≠ .command ∧ header.station = own then
        ({ discarded := true }, hub)
      else
        let flags := hub.flags
        let hub := if flags.hostBridge then hub.forward frame else hub
        let (executed, hub) :=
          if header.kind = .command ∧ (header.station = own ∨ header.station = everyStation) then
            hub.obey header own (frame.drop Header.size) report now
          else
            (false, hub)
        let hub := if header.kind = .weather then hub.observe header.station now else hub
        let (relayed, hub) := hub.relay header own frame
        let logged := isLoggable header.kind && (relayed || flags.recordNonRelayed)
        ({ executed, relayed, logged }, if logged then hub.log header frame else hub)

end Hub

end StationMesh.Relay
