import Mathlib.Data.List.DropRight
import StationMesh.Proofs.Relay.Replay

/-!
# What the log holds

A command can erase the log, and any other message can add one record to it. Which of them it does
is read off the message, the settings at its arrival and what became of it. Over a run the log then
holds the newest of the records that were added since it was erased last.
-/

namespace StationMesh

namespace MessageLog

variable {capacity : Nat} {log : MessageLog capacity}

/-- The log with one more record in it, or as it is. -/
def add (record? : Option LogRecord) (log : MessageLog capacity) : MessageLog capacity :=
  match record? with
  | some record => log.store record.kind record.station record.payload
  | none => log

@[simp]
theorem erased_add (record? : Option LogRecord) : (log.add record?).erased = log.erased := by
  cases record? <;> rfl

/-- A payload that fits in a frame is stored as it is. -/
theorem records_add {record? : Option LogRecord} (within : log.records.length ≤ capacity)
    (fits : ∀ record ∈ record?, record.payload.length ≤ OutFrame.maxSize) :
    (log.add record?).records = (log.records ++ record?.toList).rtake capacity := by
  cases record? with
  | none => simp [add, List.rtake, Nat.sub_eq_zero_of_le within]
  | some record =>
      have uncut := List.take_of_length_le (fits record rfl)
      simp [add, store, latest, List.rtake, uncut]

end MessageLog

theorem rtake_rtake_append {α : Type} (front back : List α) (count : Nat) :
    (front.rtake count ++ back).rtake count = (front ++ back).rtake count := by
  simp only [List.rtake, List.drop_append, List.drop_drop, List.length_append, List.length_drop]
  congr 2 <;> omega

namespace Relay

theorem CommandCode.ofLetter?_eq_some_iff {byte : UInt8} {code : CommandCode} :
    ofLetter? byte = some code ↔ byte = code.letter := by
  constructor
  · intro known
    unfold ofLetter? at known
    have same := List.find?_some known
    exact (beq_iff_eq.mp same).symm
  · rintro rfl
    exact ofLetter?_letter code

/-- A command erases the log if it opens with the letter for that, whatever follows. -/
theorem Command.parse_eq_eraseLog_iff (command : Bytes) :
    parse command = some eraseLog ↔ command.head? = some CommandCode.eraseDatabase.letter := by
  cases command with
  | nil => simp [parse]
  | cons letter arguments =>
      rw [List.head?_cons, Option.some.injEq, ← CommandCode.ofLetter?_eq_some_iff, parse]
      cases CommandCode.ofLetter? letter with
      | none => simp
      | some code =>
          cases code with
          | setField => cases arguments <;> simp [parseSetField]
          | setRelayList =>
              dsimp only [parseSetRelayList]
              split
              · split <;> simp
              · simp
          | query =>
              dsimp only [parseQuery]
              split
              · split
                · simp
                · split <;> simp
              · simp
          | setCsma =>
              dsimp only [parseSetCsma]
              split <;> simp
          | _ => simp

namespace Hub

variable {κ φ : Type} {logSize : Nat} [Config.Store κ] [FirmwareUpdater φ]

/-! ### One message -/

theorem log_execute (command : Command) (report : Channel.Report) (now : Nat)
    (hub : Hub κ φ logSize) :
    (hub.execute command report now).2.services.log =
      if command = .eraseLog then hub.services.log.erase else hub.services.log := by
  have ends := hub.ends_execute command report now
  generalize hub.execute command report now = ended at ends ⊢
  cases ends
  all_goals rfl

theorem log_executeBytes (command : Bytes) (report : Channel.Report) (now : Nat)
    (hub : Hub κ φ logSize) :
    (hub.executeBytes command report now).2.services.log =
      if command.head? = some CommandCode.eraseDatabase.letter then hub.services.log.erase
      else hub.services.log := by
  simp only [executeBytes, ← Command.parse_eq_eraseLog_iff]
  cases Command.parse command with
  | none => simp
  | some command => simp [log_execute]

/-- A command that erases the log is carried out. -/
def Event.erasesLog (event : Event κ φ logSize) : Bool :=
  match event.call with
  | .process frame _ _ =>
      event.dispatched?.isSome &&
        (frame.drop Header.size).head? == some CommandCode.eraseDatabase.letter
  | _ => false

omit [FirmwareUpdater φ] in
theorem Event.dispatched_of_erasesLog {event : Event κ φ logSize}
    (erases : event.erasesLog = true) : event.dispatched?.isSome = true := by
  rcases event with ⟨hub, call⟩
  cases call with
  | process frame report now => exact (Bool.and_eq_true_iff.mp erases).1
  | _ => contradiction

/-- The record to be made of the message that was received: weather, a status or an acknowledgment
that was not discarded, and was relayed or arrived while all of them were to be recorded. -/
def Event.toLog? (event : Event κ φ logSize) : Option LogRecord :=
  match event.call with
  | .process frame report now =>
      let answer := (event.hub.process frame report now).1
      event.received?.bind fun header =>
        if answer.discarded = false ∧ header.kind ∈ [.weather, .status, .acknowledge] ∧
            (answer.relayed = true ∨ event.hub.flags.recordNonRelayed = true) then
          some ⟨header.kind, header.station, frame.drop Header.size⟩
        else none
  | _ => none

/-- Nothing but the hub writes to the log. -/
def Event.LeavesLog (event : Event κ φ logSize) : Prop :=
  match event.call with
  | .outside _ services _ => services.log = event.hub.services.log
  | _ => True

omit [Config.Store κ] [FirmwareUpdater φ] in
theorem isLoggable_iff (kind : MessageKind) :
    isLoggable kind = true ↔ kind ∈ [.weather, .status, .acknowledge] := by
  cases kind <;> decide

theorem Event.toLog?_of_dispatched {event : Event κ φ logSize}
    (dispatched : event.dispatched?.isSome = true) : event.toLog? = none := by
  rcases event with ⟨hub, call⟩
  cases call with
  | process frame report now =>
      cases parsed : Header.parse frame with
      | error error => simp [toLog?, received?, parsed, Except.toOption]
      | ok header =>
          rw [dispatched?_process parsed] at dispatched
          have isCommand : header.kind = .command := by
            by_contra other
            simp [IsAddressed, other] at dispatched
          simp [toLog?, received?_process parsed, isCommand]
  | _ => rfl

theorem log_next_of_dispatched {frame : Bytes} {report : Channel.Report} {now : Nat}
    {hub : Hub κ φ logSize} {uid : UInt8}
    (dispatched : (⟨hub, .process frame report now⟩ : Event _ _ _).dispatched? = some uid) :
    (hub.process frame report now).2.services.log =
      if (frame.drop Header.size).head? = some CommandCode.eraseDatabase.letter then
        hub.services.log.erase
      else hub.services.log := by
  rcases process_of_dispatched dispatched with ⟨host, _, services_eq, _, _⟩
  rw [services_eq, log_executeBytes]

/-- A message that calls for no command leaves its record at most. -/
theorem log_next_of_not_dispatched {frame : Bytes} {report : Channel.Report} {now : Nat}
    {hub : Hub κ φ logSize}
    (idle : (⟨hub, .process frame report now⟩ : Event _ _ _).dispatched? = none) :
    (hub.process frame report now).2.services.log =
      hub.services.log.add (⟨hub, .process frame report now⟩ : Event _ _ _).toLog? := by
  rcases process_cases_of_not_dispatched idle with
    process_eq | ⟨header, relayed, next, parsed, relays, process_eq⟩
  · simp [Event.toLog?, process_eq, MessageLog.add]
  · simp only [Event.toLog?, Event.received?_process parsed, process_eq, Option.bind_some,
      ← isLoggable_iff, true_and, ← Bool.or_eq_true, ← Bool.and_eq_true]
    split
    · simp [log, relays.services, MessageLog.add]
    · simp [relays.services, MessageLog.add]

/-! ### A run -/

namespace Event

/-- A call erases the log, adds one record to it, or leaves it alone. -/
theorem log_next {event : Event κ φ logSize} (leaves : event.LeavesLog) :
    event.next.services.log =
      (if event.erasesLog then event.hub.services.log.erase
        else event.hub.services.log).add event.toLog? := by
  rcases event with ⟨hub, call⟩
  cases call with
  | process frame report now =>
      cases dispatched : (⟨hub, .process frame report now⟩ : Event κ φ logSize).dispatched? with
      | none =>
          simp only [erasesLog, dispatched]
          exact log_next_of_not_dispatched dispatched
      | some uid =>
          rw [toLog?_of_dispatched (by simp [dispatched])]
          simp only [erasesLog, dispatched]
          simpa [MessageLog.add, next, perform] using log_next_of_dispatched dispatched
  | sendHostFrame frame =>
      rcases hub.run_sendHostFrame frame with ⟨preamble, run_eq⟩
      change ((sendHostFrame frame).run hub).2.services.log = hub.services.log
      rw [run_eq, (onlySends_enqueue _ _ _).services, remember]
      split <;> rfl
  | sendWeather reading => exact congrArg Services.log (moves_sendWeather reading hub).services
  | sendStatus report => exact congrArg Services.log (moves_sendStatus report hub).services
  | flushBatch => exact congrArg Services.log (moves_flushBatch hub).services
  | outside outbox services host => exact leaves

/-- A record is no longer than the message it is made of, without its header. -/
theorem length_payload_le_of_toLog {event : Event κ φ logSize}
    (fits : ∀ frame report now, event.call = .process frame report now → frame.length ≤ 255) :
    ∀ record ∈ event.toLog?, record.payload.length ≤ OutFrame.maxSize := by
  intro record toLog
  rcases event with ⟨hub, call⟩
  cases call with
  | process frame report now =>
      have within := fits frame report now rfl
      simp only [toLog?, Option.mem_def, Option.bind_eq_some_iff] at toLog
      rcases toLog with ⟨header, _, made⟩
      split at made
      · simp only [Option.some.injEq] at made
        subst made
        simp [OutFrame.maxSize, Header.size]
        omega
      · contradiction
  | _ => simp [toLog?] at toLog

end Event

/-- The records that were to be made since the log was erased last, the oldest first. -/
def toLogSinceErased (events : List (Event κ φ logSize)) : List LogRecord :=
  (events.rtakeWhile (!·.erasesLog)).filterMap Event.toLog?

theorem toLogSinceErased_concat (events : List (Event κ φ logSize)) (event : Event κ φ logSize) :
    toLogSinceErased (events ++ [event]) =
      if event.erasesLog then [] else toLogSinceErased events ++ event.toLog?.toList := by
  cases erases : event.erasesLog with
  | true => simp [toLogSinceErased, erases]
  | false =>
      cases toLog : event.toLog? <;> simp [toLogSinceErased, erases, toLog]

/-- Of the messages that were received since the log was erased last, the log holds the newest of
those it was to record, and it was erased as often as a command for that was carried out. -/
theorem log_run_eq_toLogSinceErased {calls : List (Call κ φ logSize)} {start : Hub κ φ logSize}
    (fresh : start.services.log.records = [])
    (leaves : ∀ event ∈ trace calls start, event.LeavesLog)
    (fits : ∀ frame report now, .process frame report now ∈ calls → frame.length ≤ 255) :
    (run calls start).services.log.records =
        (toLogSinceErased (trace calls start)).rtake logSize ∧
      (run calls start).services.log.erased =
        start.services.log.erased + (trace calls start).countP Event.erasesLog := by
  induction calls using List.reverseRecOn with
  | nil => simp [run, trace, toLogSinceErased, fresh]
  | append_singleton calls call ih =>
      let last : Event κ φ logSize := ⟨run calls start, call⟩
      have trace_eq : trace (calls ++ [call]) start = trace calls start ++ [last] :=
        trace_append calls [call] start
      have run_eq : run (calls ++ [call]) start = last.next :=
        List.foldl_concat perform start call calls
      rw [trace_eq] at leaves
      obtain ⟨records_eq, erased_eq⟩ := ih (fun event mem => leaves event (by simp [mem]))
        fun frame report now mem => fits frame report now (by simp [mem])
      have log_eq := last.log_next (leaves last (by simp))
      have recordFits := last.length_payload_le_of_toLog fun frame report now call_eq =>
        fits frame report now (by simp [last, ← call_eq])
      rw [run_eq, trace_eq, log_eq, toLogSinceErased_concat]
      have within : last.hub.services.log.records.length ≤ logSize := by
        simp [last, records_eq, List.rtake]
        omega
      cases erases : last.erasesLog with
      | true =>
          have unlogged := Event.toLog?_of_dispatched (last.dispatched_of_erasesLog erases)
          simp [erases, unlogged, MessageLog.add, MessageLog.erase, erased_eq, last]
          omega
      | false =>
          have added := MessageLog.records_add within recordFits
          rw [records_eq, rtake_rtake_append] at added
          simp [erases, added, erased_eq, last]

/-- A status before anything is to be recorded, a command that has all recorded, weather, a command
that erases the log, the same again, a status that demands relay, an acknowledgment, a ping, and a
message of the station itself. -/
def recordedAndErased : List (Call Config.Settings RuleUpdater 2) :=
  [.process [0x53, 7, 1] {} 0,
    .process [0x43, 1, 5, 0x46, 2, 1] {} 0,
    .process [0x57, 6, 1, 1, 10] {} 0,
    .process [0x43, 0, 6, 0x45] {} 0,
    .process [0x43, 0, 6, 0x45] {} 0,
    .process [0x57, 6, 2, 1, 20] {} 0,
    .process [0xD3, 7, 2, 9] {} 0,
    .process [0x41, 8, 1, 0x4F, 0x4B] {} 0,
    .process [0x50, 8, 2] {} 0,
    .process [0x53, 1, 3, 1] {} 0]

theorem log_run_eq_toLogSinceErased_recordedAndErased :
    let start : Hub Config.Settings RuleUpdater 2 :=
      { engine := .new 0, services := { config := {}, firmware := .declines } }
    (start.services.log.records = [] ∧
        (∀ event ∈ trace recordedAndErased start, event.LeavesLog) ∧
        ∀ frame report now, .process frame report now ∈ recordedAndErased → frame.length ≤ 255) ∧
      (toLogSinceErased (trace recordedAndErased start)).length = 3 ∧
      (run recordedAndErased start).services.log.records =
        [⟨.status, 7, [9]⟩, ⟨.acknowledge, 8, [0x4F, 0x4B]⟩] ∧
      (run recordedAndErased start).services.log.erased = 1 := by
  intro start
  have leaves : ∀ event ∈ trace recordedAndErased start, event.LeavesLog := by
    intro event mem
    have call_mem := call_mem_of_mem_trace mem
    rcases event with ⟨hub, call⟩
    cases call with
    | outside outbox services host => simp [recordedAndErased] at call_mem
    | _ => trivial
  have fits : ∀ frame report now, .process frame report now ∈ recordedAndErased →
      frame.length ≤ 255 := by
    intro frame report now mem
    simp only [recordedAndErased, List.mem_cons, Call.process.injEq, List.not_mem_nil,
      or_false] at mem
    rcases mem with ⟨rfl, _⟩ | ⟨rfl, _⟩ | ⟨rfl, _⟩ | ⟨rfl, _⟩ | ⟨rfl, _⟩ | ⟨rfl, _⟩ | ⟨rfl, _⟩ |
      ⟨rfl, _⟩ | ⟨rfl, _⟩ | ⟨rfl, _⟩
    all_goals decide
  have log_eq := log_run_eq_toLogSinceErased rfl leaves fits
  have toLog : toLogSinceErased (trace recordedAndErased start) =
      [⟨.weather, 6, [1, 20]⟩, ⟨.status, 7, [9]⟩, ⟨.acknowledge, 8, [0x4F, 0x4B]⟩] := by
    decide +kernel
  have erased : (trace recordedAndErased start).countP Event.erasesLog = 1 := by decide +kernel
  rw [toLog, erased] at log_eq
  exact ⟨⟨rfl, leaves, fits⟩, by rw [toLog]; rfl, log_eq⟩

end Hub

end Relay

end StationMesh
