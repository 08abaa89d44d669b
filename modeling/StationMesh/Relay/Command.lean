import StationMesh.Relay.Originate

/-!
# Commands

A command comes over the radio, behind the header of its message, or from the host, and is the
same bytes either way: a letter and its arguments. `Command.parse` reads it and `Hub.execute`
carries it out. A command that cannot be read or carried out is answered with a fixed word, one
that has nothing to say is confirmed, unless the station is told not to.
-/

namespace StationMesh.Relay

/-- The letters that commands open with. -/
inductive CommandCode where
  | noOp
  | setField
  | setRelayList
  | query
  | setCsma
  | reinitializeRadio
  | eraseDatabase
  | firmwareUpdate
  | pickStationId
deriving DecidableEq, Repr

namespace CommandCode

def all : List CommandCode :=
  [noOp, setField, setRelayList, query, setCsma, reinitializeRadio, eraseDatabase,
    firmwareUpdate, pickStationId]

def letter : CommandCode → UInt8
  | noOp => 0x4E
  | setField => 0x46
  | setRelayList => 0x4C
  | query => 0x51
  | setCsma => 0x4D
  | reinitializeRadio => 0x42
  | eraseDatabase => 0x45
  | firmwareUpdate => 0x55
  | pickStationId => 0x49

def ofLetter? (byte : UInt8) : Option CommandCode := all.find? (·.letter == byte)

@[simp]
theorem ofLetter?_letter (code : CommandCode) : ofLetter? code.letter = some code := by
  cases code <;> rfl

end CommandCode

/-- What a station can be told to do. -/
inductive Command where
  | noOp
  | setField (field : Config.Field) (value : Bytes)
  | setRelayList (field : Config.Field) (list : Config.RelayList)
  /-- Hand out the image of the configuration. -/
  | queryConfiguration
  /-- Hand out what is not kept over a restart. -/
  | queryState
  | setCsma (persistence slotTime : UInt8)
  | reinitializeRadio
  | eraseLog
  | updateFirmware (arguments : Bytes)
  | pickStationId
deriving DecidableEq, Repr

namespace Command

/-- The list a letter stands for. -/
def relayListField? (letter : UInt8) : Option Config.Field :=
  if letter = 0x4D then some .messageRelayList
  else if letter = 0x57 then some .weatherRelayList
  else none

/-- Reads the arguments that set a field: its number and its bytes. -/
def parseSetField : Bytes → Option Command
  | number :: value => (Config.Field.ofCode? number).map (setField · value)
  | [] => none

/-- Reads the arguments that set a relay list: the letter of the list and up to eight ids. -/
def parseSetRelayList : Bytes → Option Command
  | letter :: ids =>
      match relayListField? letter, Config.RelayList.ofIds? ids with
      | some field, some list => some (setRelayList field list)
      | _, _ => none
  | [] => none

/-- Reads the letter of what is asked for. -/
def parseQuery : Bytes → Option Command
  | letter :: _ =>
      if letter = 0x43 then some queryConfiguration
      else if letter = 0x56 then some queryState
      else none
  | [] => none

/-- Reads persistence and slot time. -/
def parseSetCsma : Bytes → Option Command
  | persistence :: slotTime :: _ => some (setCsma persistence slotTime)
  | _ => none

def parse : Bytes → Option Command
  | [] => none
  | letter :: arguments =>
      match CommandCode.ofLetter? letter with
      | none => none
      | some .noOp => some noOp
      | some .setField => parseSetField arguments
      | some .setRelayList => parseSetRelayList arguments
      | some .query => parseQuery arguments
      | some .setCsma => parseSetCsma arguments
      | some .reinitializeRadio => some reinitializeRadio
      | some .eraseDatabase => some eraseLog
      | some .firmwareUpdate => some (updateFirmware arguments)
      | some .pickStationId => some pickStationId

end Command

/-- What became of a command. -/
structure CommandAnswer where
  handled : Bool
  /-- A command that has no other answer is to be confirmed. -/
  ackOwed : Bool
  reply : Bytes := []
deriving DecidableEq, Repr

namespace CommandAnswer

/-- The command was carried out and is to be confirmed. -/
def done (reply : Bytes := []) : CommandAnswer := { handled := true, ackOwed := true, reply }

/-- The command was carried out and its answer says all. -/
def answered (reply : Bytes) : CommandAnswer := { handled := true, ackOwed := false, reply }

/-- The command was not carried out. -/
def ignored : CommandAnswer := { handled := false, ackOwed := false }

/-- The word that confirms a command. -/
def okWord : Bytes := [0x4F, 0x4B]

/-- The word that turns a command down. -/
def ignoredWord : Bytes := [0x49, 0x47, 0x4E, 0x4F, 0x52, 0x45, 0x44]

/-- What is sent back, if anything is. -/
def payload (flags : Config.Flags) (answer : CommandAnswer) : Option Bytes :=
  if !answer.handled then some ignoredWord
  else if !answer.reply.isEmpty then some answer.reply
  else if answer.ackOwed && !flags.suppressAck then some okWord
  else none

end CommandAnswer

namespace Engine

/-- The age of a sighting in seconds, as two bytes can say it. -/
def ageInSeconds (now : Nat) (sighting : History.Sighting) : UInt16 :=
  UInt16.ofNat (min (sighting.age now / 1000000) 0xFFFF)

/-- What is not kept over a restart: how the channel is doing, the next unique id, how much waits
for relay, and each station heard lately with its age. -/
def stateReply (report : Channel.Report) (now : Nat) (engine : Engine) : Bytes :=
  report.encode ++
    [engine.nextUid, UInt8.ofNat engine.batch.size, UInt8.ofNat engine.seen.length] ++
    engine.seen.sightings.flatMap fun sighting =>
      sighting.station :: Bytes.ofWord (ageInSeconds now sighting)

end Engine

namespace Hub

variable {κ φ : Type} {logSize : Nat} [Config.Store κ] [FirmwareUpdater φ]

omit [Config.Store κ] in
omit [FirmwareUpdater φ] in
def withConfig (config : κ) (hub : Hub κ φ logSize) : Hub κ φ logSize :=
  { hub with services := { hub.services with config } }

omit [Config.Store κ] in
omit [FirmwareUpdater φ] in
/-- Notes that channel settings were changed. -/
def requestReload (hub : Hub κ φ logSize) : Hub κ φ logSize :=
  hub.withEngine fun engine => { engine with pending := { engine.pending with reload := true } }

omit [Config.Store κ] in
omit [FirmwareUpdater φ] in
/-- An answer of so many bytes, if they fit in one. -/
def answerWith (reply : Bytes) (hub : Hub κ φ logSize) : CommandAnswer × Hub κ φ logSize :=
  if reply.length ≤ replyCapacity then (.answered reply, hub) else (.ignored, hub)

def execute (command : Command) (report : Channel.Report) (now : Nat) (hub : Hub κ φ logSize) :
    CommandAnswer × Hub κ φ logSize :=
  match command with
  | .noOp => (.done, hub)
  | .setField field value =>
      match Config.Store.set field value hub.services.config with
      | .error _ => (.ignored, hub)
      | .ok config =>
          let hub := hub.withConfig config
          (.done, if field.affectsChannel then hub.requestReload else hub)
  | .setRelayList field list =>
      match Config.Store.set field list.ids hub.services.config with
      | .error _ => (.ignored, hub)
      | .ok config => (.done, (hub.withConfig config).requestReload)
  | .queryConfiguration => hub.answerWith (Config.Store.image hub.services.config)
  | .queryState => hub.answerWith (hub.engine.stateReply report now)
  | .setCsma persistence slotTime =>
      match Config.Store.set .csmaPersistence [persistence] hub.services.config with
      | .error _ => (.ignored, hub)
      | .ok config =>
          match Config.Store.set .csmaSlotTime [slotTime] config with
          | .error _ => (.ignored, hub.withConfig config)
          | .ok config => (.done, (hub.withConfig config).requestReload)
  | .reinitializeRadio =>
      (.done, hub.withEngine fun engine =>
        { engine with pending := { engine.pending with reinitialize := true } })
  | .eraseLog =>
      (.done, { hub with services := { hub.services with log := hub.services.log.erase } })
  | .updateFirmware arguments =>
      let (reply, firmware) := FirmwareUpdater.step arguments hub.services.firmware
      let hub := { hub with services := { hub.services with firmware } }
      match reply with
      | none => (.ignored, hub)
      | some reply => (.done (reply.take replyCapacity), hub)
  | .pickStationId =>
      let (picked, engine) := hub.engine.pickId hub.stationId
      let hub := { hub with engine }
      match picked with
      | none => (.ignored, hub)
      | some id =>
          match Config.Store.set .stationId [id] hub.services.config with
          | .error _ => (.ignored, hub)
          | .ok config => (.answered [id], hub.withConfig config)

/-- Reads a command and carries it out. -/
def executeBytes (command : Bytes) (report : Channel.Report) (now : Nat)
    (hub : Hub κ φ logSize) : CommandAnswer × Hub κ φ logSize :=
  match Command.parse command with
  | none => (.ignored, hub)
  | some command => hub.execute command report now

/-- Carries out a command of the host and answers on the serial line. The answer says whether the
command was carried out. -/
def executeLocal (command : Bytes) (report : Channel.Report) (now : Nat)
    (hub : Hub κ φ logSize) : Bool × Hub κ φ logSize :=
  let (answer, hub) := hub.executeBytes command report now
  match answer.payload hub.flags with
  | none => (answer.handled, hub)
  | some payload => (answer.handled, hub.tell .localCommand payload)

end Hub

end StationMesh.Relay
