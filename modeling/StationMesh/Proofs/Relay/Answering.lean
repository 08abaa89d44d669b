import StationMesh.Config.Settings
import StationMesh.Proofs.Kiss.RoundTrip
import StationMesh.Proofs.Message.Reading
import StationMesh.Proofs.Relay.Replay

/-!
# Commands over the radio and from the host

A command is read at some place of a message, behind the header of a radio frame or at the front of
what the host sent, and the place does not matter. It is carried out in the same way, and its answer
is the same bytes: behind the header of an acknowledgment, or in a frame on the serial line. An
answer is never longer than an acknowledgment can carry, so a free slot is all it needs.
-/

namespace StationMesh

/-! ### Reading a command where it stands -/

namespace Relay

namespace Command

def readSetField (cursor : Cursor) : Option Command := do
  let (number, cursor) ← cursor.readByte.toOption
  let field ← Config.Field.ofCode? number
  let value ← (cursor.peek cursor.position cursor.remaining).toOption
  some (setField field value)

def readSetRelayList (cursor : Cursor) : Option Command := do
  let (letter, cursor) ← cursor.readByte.toOption
  let field ← relayListField? letter
  let ids ← (cursor.peek cursor.position cursor.remaining).toOption
  let list ← Config.RelayList.ofIds? ids
  some (setRelayList field list)

def readQuery (cursor : Cursor) : Option Command := do
  let (letter, _) ← cursor.readByte.toOption
  parseQuery [letter]

def readSetCsma (cursor : Cursor) : Option Command := do
  let (persistence, cursor) ← cursor.readByte.toOption
  let (slotTime, _) ← cursor.readByte.toOption
  some (setCsma persistence slotTime)

/-- Reads the command at the position of a message, one byte after the other; what follows its
fixed part is taken as a whole. -/
def read (cursor : Cursor) : Option Command :=
  match cursor.readByte with
  | .error _ => none
  | .ok (letter, cursor) =>
      match CommandCode.ofLetter? letter with
      | none => none
      | some .noOp => some noOp
      | some .setField => readSetField cursor
      | some .setRelayList => readSetRelayList cursor
      | some .query => readQuery cursor
      | some .setCsma => readSetCsma cursor
      | some .reinitializeRadio => some reinitializeRadio
      | some .eraseDatabase => some eraseLog
      | some .firmwareUpdate =>
          (cursor.peek cursor.position cursor.remaining).toOption.map updateFirmware
      | some .pickStationId => some pickStationId

theorem readSetField_eq_parse (cursor : Cursor) :
    readSetField cursor = parseSetField cursor.rest := by
  cases rest_eq : cursor.rest with
  | nil => simp [readSetField, parseSetField, Cursor.readByte_of_rest_eq_nil rest_eq,
      Except.toOption]
  | cons number value =>
      have peeked := Cursor.peek_rest (Cursor.position_advance_le rest_eq)
      rw [Cursor.rest_advance, rest_eq] at peeked
      simp only [readSetField, Cursor.readByte_of_rest_eq_cons rest_eq, peeked, Except.toOption,
        List.tail_cons, Option.bind_eq_bind, Option.bind_some, parseSetField]
      cases Config.Field.ofCode? number with
      | none => rfl
      | some field => rfl

theorem readSetRelayList_eq_parse (cursor : Cursor) :
    readSetRelayList cursor = parseSetRelayList cursor.rest := by
  cases rest_eq : cursor.rest with
  | nil => simp [readSetRelayList, parseSetRelayList, Cursor.readByte_of_rest_eq_nil rest_eq,
      Except.toOption]
  | cons letter ids =>
      have peeked := Cursor.peek_rest (Cursor.position_advance_le rest_eq)
      rw [Cursor.rest_advance, rest_eq] at peeked
      simp only [readSetRelayList, Cursor.readByte_of_rest_eq_cons rest_eq, peeked, Except.toOption,
        List.tail_cons, Option.bind_eq_bind, Option.bind_some, parseSetRelayList]
      cases relayListField? letter with
      | none => rfl
      | some field =>
          cases Config.RelayList.ofIds? ids with
          | none => rfl
          | some list => rfl

theorem readQuery_eq_parse (cursor : Cursor) : readQuery cursor = parseQuery cursor.rest := by
  cases rest_eq : cursor.rest with
  | nil => simp [readQuery, parseQuery, Cursor.readByte_of_rest_eq_nil rest_eq, Except.toOption]
  | cons letter ids =>
      simp [readQuery, parseQuery, Cursor.readByte_of_rest_eq_cons rest_eq, Except.toOption]

theorem readSetCsma_eq_parse (cursor : Cursor) :
    readSetCsma cursor = parseSetCsma cursor.rest := by
  cases rest_eq : cursor.rest with
  | nil => simp [readSetCsma, parseSetCsma, Cursor.readByte_of_rest_eq_nil rest_eq,
      Except.toOption]
  | cons persistence later =>
      have later_eq : cursor.advance.rest = later := by
        rw [Cursor.rest_advance, rest_eq, List.tail_cons]
      cases later with
      | nil => simp [readSetCsma, parseSetCsma, Cursor.readByte_of_rest_eq_cons rest_eq,
          Cursor.readByte_of_rest_eq_nil later_eq, Except.toOption]
      | cons slotTime _ => simp [readSetCsma, parseSetCsma,
          Cursor.readByte_of_rest_eq_cons rest_eq, Cursor.readByte_of_rest_eq_cons later_eq,
          Except.toOption]

/-- The place at which a command stands does not matter. -/
theorem read_eq_parse (cursor : Cursor) : read cursor = parse cursor.rest := by
  cases rest_eq : cursor.rest with
  | nil => simp only [read, parse, Cursor.readByte_of_rest_eq_nil rest_eq]
  | cons letter arguments =>
      have later_eq : cursor.advance.rest = arguments := by
        rw [Cursor.rest_advance, rest_eq, List.tail_cons]
      have peeked := Cursor.peek_rest (Cursor.position_advance_le rest_eq)
      rw [later_eq] at peeked
      simp only [read, Cursor.readByte_of_rest_eq_cons rest_eq, parse, readSetField_eq_parse,
        readSetRelayList_eq_parse, readQuery_eq_parse, readSetCsma_eq_parse, later_eq, peeked]
      cases CommandCode.ofLetter? letter with
      | none => rfl
      | some code => cases code <;> rfl

end Command

namespace Hub

variable {κ φ : Type} {logSize : Nat} [Config.Store κ] [FirmwareUpdater φ]

/-- Carries out the command that is read at the position of a message. -/
def executeAt (cursor : Cursor) (report : Channel.Report) (now : Nat) (hub : Hub κ φ logSize) :
    CommandAnswer × Hub κ φ logSize :=
  match Command.read cursor with
  | none => (.ignored, hub)
  | some command => hub.execute command report now

/-- Carrying out what is read at the position of a message is carrying out the bytes that follow
it. -/
theorem executeAt_eq (cursor : Cursor) (report : Channel.Report) (now : Nat)
    (hub : Hub κ φ logSize) :
    hub.executeAt cursor report now = hub.executeBytes cursor.rest report now := by
  rw [executeAt, Command.read_eq_parse]
  rfl

/-! ### How long an answer is -/

theorem reply_length_execute (command : Command) (report : Channel.Report) (now : Nat)
    (hub : Hub κ φ logSize) :
    (hub.execute command report now).1.reply.length ≤ replyCapacity := by
  have ends := hub.ends_execute command report now
  generalize hub.execute command report now = ended at ends ⊢
  cases ends with
  | configurationTold fits => exact fits
  | stateTold fits => exact fits
  -- A longer answer of the updater is cut off.
  | stepTaken => exact List.length_take_le _ _
  | @idTaken id =>
      have single : [id].length ≤ replyCapacity := by
        rw [List.length_singleton]
        decide
      exact single
  | _ => exact Nat.zero_le _

theorem reply_length_executeBytes (command : Bytes) (report : Channel.Report) (now : Nat)
    (hub : Hub κ φ logSize) :
    (hub.executeBytes command report now).1.reply.length ≤ replyCapacity := by
  rw [executeBytes]
  split
  · exact Nat.zero_le _
  · exact reply_length_execute _ report now hub

end Hub

theorem CommandAnswer.length_payload {answer : CommandAnswer} {flags : Config.Flags}
    {payload : Bytes} (fits : answer.reply.length ≤ replyCapacity)
    (owed : answer.payload flags = some payload) : payload.length ≤ replyCapacity := by
  simp only [CommandAnswer.payload] at owed
  split at owed
  · cases owed
    decide
  · split at owed
    · cases owed
      exact fits
    · split at owed
      · cases owed
        decide
      · contradiction

namespace Hub

variable {κ φ : Type} {logSize : Nat} [Config.Store κ] [FirmwareUpdater φ]

/-! ### The two ways -/

def commandHeader (forced : Bool) (uid : UInt8) (hub : Hub κ φ logSize) : Header :=
  { kind := .command, forced, station := hub.stationId, uid }

def acknowledgeHeader (uid : UInt8) (hub : Hub κ φ logSize) : Header :=
  { kind := .acknowledge, forced := false, station := hub.stationId, uid }

/-- What a command comes to over the radio is what it comes to from the host, and so is the payload
of the answer. -/
structure Agrees (uid : UInt8) (before : Hub κ φ logSize)
    (radio : Disposition × Hub κ φ logSize) (line : Bool × Hub κ φ logSize) : Prop where
  handled : radio.1.executed = line.1
  services : radio.2.services = line.2.services
  pending : radio.2.engine.pending = line.2.engine.pending
  random : radio.2.engine.random = line.2.engine.random
  seen : radio.2.engine.seen = line.2.engine.seen
  batch : radio.2.engine.batch = line.2.engine.batch
  /-- Each answers in its own way only. -/
  apart : radio.2.host = before.host ∧ line.2.outbox = before.outbox
  answers : (radio.2.outbox = before.outbox ∧ line.2.host = before.host) ∨
    ∃ payload outgoing,
      radio.2.outbox.frames = before.outbox.frames ++ [outgoing] ∧
      outgoing.data = (before.acknowledgeHeader uid).encode ++ payload ∧
      outgoing.preamble = .short ∧
      line.2.host.sink.bytes =
        before.host.sink.bytes ++ Kiss.encode .localCommand payload

/-- A command to this station is not relayed and not logged. -/
theorem process_of_command {hub : Hub κ φ logSize} (unbridged : hub.flags.hostBridge = false)
    (forced : Bool) (uid : UInt8) (command : Bytes) (report : Channel.Report) (now : Nat) :
    let header := hub.commandHeader forced uid
    let obeyed := hub.obey header hub.stationId command report now
    hub.process (header.encode ++ command) report now =
      ({ executed := obeyed.1 }, obeyed.2) := by
  intro header obeyed
  have foreign : ¬hub.IsOwn header := fun own => own.1 rfl
  have heard : hub.hear header (header.encode ++ command) report now = obeyed := by
    simp only [hear, unbridged, Bool.false_eq_true, if_false]
    rw [if_pos ⟨rfl, .inl rfl⟩, if_neg (by simp [header, commandHeader])]
    rfl
  have unwanted : obeyed.2.wantsRelay header hub.stationId = false := by
    simp [wantsRelay, header, commandHeader]
  have unrelayed : obeyed.2.relay header hub.stationId (header.encode ++ command) =
      (false, obeyed.2) := by
    simp [relay, unwanted]
  rw [process_of_accepted (Header.parse_encode_append header command) foreign]
  simp only [heard, unrelayed]
  rfl

omit [Config.Store κ] [FirmwareUpdater φ] in
theorem exists_acknowledge_eq {hub : Hub κ φ logSize} {payload : Bytes}
    (room : hub.outbox.length < Outbox.slots) (payload_le : payload.length ≤ replyCapacity)
    (own uid : UInt8) :
    ∃ outgoing outbox, hub.acknowledge own uid payload = { hub with outbox } ∧
      outbox.frames = hub.outbox.frames ++ [outgoing] ∧
      outgoing.data =
        Header.encode { kind := .acknowledge, forced := false, station := own, uid } ++ payload ∧
      outgoing.preamble = .short := by
  rw [acknowledge]
  rcases hub.enqueue_cases
      (Header.encode { kind := .acknowledge, forced := false, station := own, uid } ++ payload)
      .short with
    ⟨outgoing, outbox, data_eq, preamble_eq, frames_eq, run_eq⟩ | ⟨full, _⟩ | ⟨long, _⟩
  · exact ⟨outgoing, outbox, by rw [run_eq], frames_eq, data_eq, preamble_eq⟩
  · omega
  · rw [List.length_append, Header.length_encode] at long
    simp only [OutFrame.maxSize, Header.size, replyCapacity] at long payload_le
    omega

omit [Config.Store κ] [FirmwareUpdater φ] in
theorem bytes_tell {hub : Hub κ φ logSize} (unlimited : hub.host.sink.capacity = none)
    (kind : Kiss.FrameKind) (payload : Bytes) :
    (hub.tell kind payload).host.sink.bytes =
      hub.host.sink.bytes ++ Kiss.encode kind payload := by
  rw [tell, Kiss.write, Host.Sink.writeAll_of_unlimited _ unlimited, Kiss.flatten_pieces]

/-- A command comes to the same over the radio and from the host, and to what it comes to when it is
read, byte by byte, anywhere in any message that it ends. -/
theorem agrees_process_executeLocal {hub : Hub κ φ logSize} {uid : UInt8} (forced : Bool)
    (command : Bytes) (report : Channel.Report) (now : Nat)
    (unbridged : hub.flags.hostBridge = false)
    (fresh : uid = 0 ∨ hub.engine.handled.contains uid = false)
    (room : hub.outbox.length < Outbox.slots) (unlimited : hub.host.sink.capacity = none) :
    let radio := hub.process ((hub.commandHeader forced uid).encode ++ command) report now
    Agrees uid hub radio (hub.executeLocal command report now) ∧
      ∀ cursor : Cursor, cursor.rest = command →
        let ended := hub.executeAt cursor report now
        radio.1.executed = ended.1.handled ∧ radio.2.services = ended.2.services ∧
          radio.2.engine =
            { ended.2.engine with handled := ended.2.engine.handled.record uid } := by
  intro radio
  have unhandled : hub.engine.handled.contains uid = false := by
    rcases fresh with rfl | fresh
    · rfl
    · exact fresh
  have radio_eq : radio = _ := process_of_command unbridged forced uid command report now
  rw [radio_eq]
  refine ⟨?_, fun cursor rest_eq => ?_⟩
  · have executes := onlyExecutes_executeBytes command report now hub
    have reply_le := reply_length_executeBytes command report now hub
    simp only [obey, commandHeader, unhandled, Bool.false_eq_true, if_false, executeLocal]
    generalize hub.executeBytes command report now = ended at executes reply_le ⊢
    rcases ended with ⟨answer, left⟩
    dsimp only at executes reply_le ⊢
    -- The switches that decide on the answer are those after the command, the same either way.
    have flags_eq (engine : Engine) : ({ left with engine } : Hub κ φ logSize).flags = left.flags :=
      rfl
    simp only [withEngine, flags_eq]
    cases owed : answer.payload left.flags with
    | none =>
        constructor
        case apart => exact ⟨executes.host, executes.outbox⟩
        case answers => exact .inl ⟨executes.outbox, executes.host⟩
        all_goals rfl
    | some payload =>
        have payload_le := CommandAnswer.length_payload reply_le owed
        have unlimitedLeft : left.host.sink.capacity = none := by rw [executes.host, unlimited]
        have roomLeft : left.outbox.length < Outbox.slots := by rw [executes.outbox]; exact room
        rcases @exists_acknowledge_eq _ _ _
            { left with engine := { left.engine with handled := left.engine.handled.record uid } }
            _ roomLeft payload_le hub.stationId uid with
          ⟨outgoing, outbox, acknowledged, frames_eq, data_eq, preamble_eq⟩
        dsimp only
        rw [acknowledged]
        constructor
        case apart => exact ⟨executes.host, executes.outbox⟩
        case answers =>
          refine .inr ⟨payload, outgoing, ?_, data_eq, preamble_eq, ?_⟩
          · rw [frames_eq, executes.outbox]
          · rw [bytes_tell unlimitedLeft, executes.host]
        all_goals rfl
  · have executed_eq : hub.executeAt cursor report now = hub.executeBytes command report now := by
      rw [executeAt_eq, rest_eq]
    have unknown : hub.engine.handled.contains (hub.commandHeader forced uid).uid = false :=
      unhandled
    rw [executed_eq]
    exact hub.obey_of_fresh unknown hub.stationId command report now

/-- A station with nothing to do yet. -/
def newcomer : Hub Config.Settings RuleUpdater 0 where
  engine := .new 5
  services := { config := .withStationId 3, firmware := .echoes }

/-- A station that is told to pick another id answers under the one it had; the command is read
behind the header of the frame. -/
theorem agrees_process_executeLocal_newcomer :
    let frame := (newcomer.commandHeader false 9).encode ++ [0x49]
    let line := newcomer.executeLocal [0x49] {} 0
    Agrees 9 newcomer (newcomer.process frame {} 0) line ∧ line.1 = true ∧
      line.2.stationId ≠ newcomer.stationId ∧
      line.2.services = (newcomer.executeAt { data := frame, position := 3 } {} 0).2.services := by
  intro frame line
  have unbridged : newcomer.flags.hostBridge = false := by decide
  have fresh : newcomer.engine.handled.contains 9 = false := rfl
  have unlimited : newcomer.host.sink.capacity = none := rfl
  obtain ⟨agrees, anywhere⟩ :=
    agrees_process_executeLocal false [0x49] {} 0 unbridged (.inr fresh) (by decide) unlimited
  refine ⟨agrees, by decide +kernel, by decide +kernel, ?_⟩
  rw [← agrees.services]
  exact (anywhere { data := frame, position := 3 } rfl).2.1

end Hub

end Relay

end StationMesh
