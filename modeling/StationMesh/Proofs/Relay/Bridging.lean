import StationMesh.Host.Reader
import StationMesh.Proofs.Relay.Answering
import StationMesh.Proofs.Relay.Run

/-!
# What the host is shown

A message is passed on to the host as it arrived if it is not discarded and the switch for that is
on at this moment, before the message itself is obeyed. Nothing else that a station receives or
sends writes to the host. So what was written over a run is read back as the messages that were
passed on, in order, whatever the commands among them do to the switch.
-/

namespace StationMesh.Relay

/-- The host is there, and takes all that is written. -/
structure HostLine.IsOpen (host : HostLine) : Prop where
  bridged : host.bridged = true
  unlimited : host.sink.capacity = none

theorem HostLine.IsOpen.tell {κ φ : Type} {logSize : Nat} {hub : Hub κ φ logSize}
    (isOpen : hub.host.IsOpen) (kind : Kiss.FrameKind) (payload : Bytes) :
    (hub.tell kind payload).host.IsOpen where
  bridged := isOpen.bridged
  unlimited := by
    rw [Hub.tell, Kiss.write, Host.Sink.writeAll_of_unlimited _ isOpen.unlimited]
    exact isOpen.unlimited

namespace Hub

variable {κ φ : Type} {logSize : Nat} [Config.Store κ] [FirmwareUpdater φ]

/-! ### One message -/

theorem host_obey (header : Header) (own : UInt8) (command : Bytes) (report : Channel.Report)
    (now : Nat) (hub : Hub κ φ logSize) :
    (hub.obey header own command report now).2.host = hub.host := by
  have executes := onlyExecutes_executeBytes command report now hub
  rcases hub.obey_cases header own command report now with
    ⟨_, obey_eq⟩ | ⟨_, _, left_eq | ⟨payload, left_eq⟩⟩
  · rw [obey_eq]
  · rw [left_eq]
    exact executes.host
  · rw [left_eq]
    exact (onlySends_enqueue _ _ _).host.trans executes.host

/-- Hearing a message writes it to the host, if the switch is on. -/
theorem host_hear (header : Header) (frame : Bytes) (report : Channel.Report) (now : Nat)
    (hub : Hub κ φ logSize) :
    (hub.hear header frame report now).2.host =
      if hub.flags.hostBridge then (hub.forward frame).host else hub.host := by
  simp only [hear]
  have forwarded : (if hub.flags.hostBridge then hub.forward frame else hub).host =
      if hub.flags.hostBridge then (hub.forward frame).host else hub.host := by
    split <;> rfl
  rw [← forwarded]
  generalize (if hub.flags.hostBridge then hub.forward frame else hub) = told
  split
  · split
    · exact host_obey _ _ _ _ _ told
    · rfl
  · split
    · exact host_obey _ _ _ _ _ told
    · rfl

omit [FirmwareUpdater φ] in
theorem host_relay (header : Header) (own : UInt8) (frame : Bytes) (hub : Hub κ φ logSize) :
    (hub.relay header own frame).2.host = hub.host := by
  rcases hub.exists_onlySends_relay header own frame with ⟨left, sends, relay_eq | relay_eq⟩
  · rw [relay_eq]
    exact sends.host
  · rw [relay_eq]
    exact sends.host

/-- A message that is not discarded is written to the host if the switch was on when it arrived. -/
theorem host_process (frame : Bytes) (report : Channel.Report) (now : Nat)
    (hub : Hub κ φ logSize) :
    (hub.process frame report now).2.host =
      if !(hub.process frame report now).1.discarded && hub.flags.hostBridge then
        (hub.forward frame).host
      else hub.host := by
  cases parsed : Header.parse frame with
  | error error =>
      rw [process_of_malformed parsed]
      rfl
  | ok header =>
      by_cases own : hub.IsOwn header
      · rw [process_of_own parsed own]
        rfl
      · have heard := hub.host_hear header frame report now
        have relayed := host_relay header hub.stationId frame
          (hub.hear header frame report now).2
        simp only [process_of_accepted parsed own, Bool.not_false, Bool.true_and]
        rw [← heard, ← relayed]
        split <;> rfl

/-! ### A run -/

namespace Event

/-- The message that was received and is to be passed on to the host. -/
def bridged? (event : Event κ φ logSize) : Option Bytes :=
  match event.call with
  | .process frame report now =>
      if !(event.hub.process frame report now).1.discarded && event.hub.flags.hostBridge then
        some frame
      else none
  | _ => none

theorem exists_process_of_bridged {event : Event κ φ logSize} {frame : Bytes}
    (bridged : event.bridged? = some frame) :
    ∃ report now, event.call = .process frame report now := by
  rcases event with ⟨hub, call⟩
  cases call with
  | process received report now =>
      simp only [bridged?] at bridged
      split at bridged
      · cases bridged
        exact ⟨report, now, rfl⟩
      · contradiction
  | _ => contradiction

/-- Nothing but the hub writes to the host. -/
def LeavesHost (event : Event κ φ logSize) : Prop :=
  match event.call with
  | .outside _ _ host => host = event.hub.host
  | _ => True

/-- A call passes on one message to the host, or leaves the host alone. -/
theorem host_next {event : Event κ φ logSize} (leaves : event.LeavesHost) :
    event.next.host =
      match event.bridged? with
      | some frame => (event.hub.forward frame).host
      | none => event.hub.host := by
  rcases event with ⟨hub, call⟩
  cases call with
  | process frame report now =>
      have host_eq := hub.host_process frame report now
      simp only [bridged?]
      split at host_eq
      · rename_i shown
        simp only [shown, ↓reduceIte]
        exact host_eq
      · rename_i hidden
        simp only [hidden]
        exact host_eq
  | sendHostFrame frame =>
      rcases hub.run_sendHostFrame frame with ⟨preamble, run_eq⟩
      change ((sendHostFrame frame).run hub).2.host = hub.host
      rw [run_eq, (onlySends_enqueue _ _ _).host, remember]
      split <;> rfl
  | sendWeather reading => exact (moves_sendWeather reading hub).host
  | sendStatus report => exact (moves_sendStatus report hub).host
  | flushBatch => exact (moves_flushBatch hub).host
  | outside outbox services host => exact leaves

/-- A host that is there and takes all that is written is written one frame for each message. -/
theorem isOpen_next {event : Event κ φ logSize} (isOpen : event.hub.host.IsOpen)
    (leaves : event.LeavesHost) :
    event.next.host.IsOpen ∧ event.next.host.sink.bytes =
      event.hub.host.sink.bytes ++ event.bridged?.toList.flatMap (Kiss.encode .data) := by
  rw [host_next leaves]
  cases event.bridged? with
  | none => exact ⟨isOpen, (List.append_nil _).symm⟩
  | some frame =>
      dsimp only
      rw [forward, if_pos isOpen.bridged, bytes_tell isOpen.unlimited]
      exact ⟨isOpen.tell .data frame, by simp⟩

end Event

/-- Over a run the host is written one frame for each message that is passed on. -/
theorem bytes_run {calls : List (Call κ φ logSize)} {start : Hub κ φ logSize}
    (isOpen : start.host.IsOpen) (leaves : ∀ event ∈ trace calls start, event.LeavesHost) :
    (run calls start).host.sink.bytes = start.host.sink.bytes ++
      ((trace calls start).filterMap Event.bridged?).flatMap (Kiss.encode .data) := by
  induction calls generalizing start with
  | nil => exact (List.append_nil _).symm
  | cons call calls ih =>
      rw [trace, List.forall_mem_cons] at leaves
      rcases Event.isOpen_next isOpen leaves.1 with ⟨nextOpen, bytes_eq⟩
      have others := ih nextOpen leaves.2
      rw [bytes_eq] at others
      rw [run_cons, trace, List.filterMap_cons]
      refine others.trans ?_
      cases (⟨start, call⟩ : Event κ φ logSize).bridged? with
      | none => simp [Event.next]
      | some frame => simp [Event.next]

/-- Whatever was done, a new decoder reads what was written to the host as the messages that were
not discarded and found the switch on, in order, and finds nothing wrong with it. -/
theorem completed_written_eq_bridged {calls : List (Call κ φ logSize)} {start : Hub κ φ logSize}
    (isOpen : start.host.IsOpen) (leaves : ∀ event ∈ trace calls start, event.LeavesHost)
    (fits : ∀ frame report now, .process frame report now ∈ calls →
      frame.length ≤ Host.maxPayload) :
    ∃ written, (run calls start).host.sink.bytes = start.host.sink.bytes ++ written ∧
      let reports := ({ identifierLength := 0 } : Kiss.Decoder Host.maxPayload).reports written
      (∀ report ∈ reports, ∃ completed?, report = .ok completed?) ∧
        Kiss.completed reports =
          ((trace calls start).filterMap Event.bridged?).map (Kiss.FrameKind.data.code, ·) := by
  refine ⟨_, bytes_run isOpen leaves, Kiss.Decoder.reports_encoded .data ?_⟩
  intro frame mem
  rcases List.mem_filterMap.mp mem with ⟨event, event_mem, bridged⟩
  rcases event.exists_process_of_bridged bridged with ⟨report, now, call_eq⟩
  exact fits frame report now (call_eq ▸ call_mem_of_mem_trace event_mem)

/-- A command that switches the host off, weather it does not see, a command that switches it on
again, a message of the station itself, one without a header, and one with delimiters in it. -/
def switchedOffAndOn : List (Call Config.Settings RuleUpdater 0) :=
  [.process [0x43, 1, 5, 0x46, 2, 0] {} 0,
    .process [0x57, 6, 1, 1, 10] {} 0,
    .process [0x43, 1, 6, 0x46, 2, 4] {} 0,
    .process [0x53, 1, 7, 1] {} 0,
    .process [0xC0] {} 0,
    .process [0x50, 7, 0xC0, 0xDB, 0xC0] {} 0]

theorem completed_written_eq_bridged_switchedOffAndOn :
    let start := ofSettings { flags := 4 }
    (start.host.IsOpen ∧ (∀ event ∈ trace switchedOffAndOn start, event.LeavesHost) ∧
        ∀ frame report now, .process frame report now ∈ switchedOffAndOn →
          frame.length ≤ Host.maxPayload) ∧
      ∃ written, (run switchedOffAndOn start).host.sink.bytes = start.host.sink.bytes ++ written ∧
        let reports := ({ identifierLength := 0 } : Kiss.Decoder Host.maxPayload).reports written
        (∀ report ∈ reports, ∃ completed?, report = .ok completed?) ∧
          Kiss.completed reports =
            [(0, [0x43, 1, 5, 0x46, 2, 0]), (0, [0x50, 7, 0xC0, 0xDB, 0xC0])] := by
  intro start
  have isOpen : start.host.IsOpen := ⟨rfl, rfl⟩
  have leaves : ∀ event ∈ trace switchedOffAndOn start, event.LeavesHost := by
    intro event mem
    have call_mem := call_mem_of_mem_trace mem
    rcases event with ⟨hub, call⟩
    cases call with
    | outside outbox services host => simp [switchedOffAndOn] at call_mem
    | _ => trivial
  have fits : ∀ frame report now, .process frame report now ∈ switchedOffAndOn →
      frame.length ≤ Host.maxPayload := by
    intro frame report now mem
    simp only [switchedOffAndOn, List.mem_cons, Call.process.injEq, List.not_mem_nil,
      or_false] at mem
    rcases mem with ⟨rfl, _⟩ | ⟨rfl, _⟩ | ⟨rfl, _⟩ | ⟨rfl, _⟩ | ⟨rfl, _⟩ | ⟨rfl, _⟩
    all_goals decide
  have bridged : (trace switchedOffAndOn start).filterMap Event.bridged? =
      [[0x43, 1, 5, 0x46, 2, 0], [0x50, 7, 0xC0, 0xDB, 0xC0]] := by
    decide +kernel
  have completed := completed_written_eq_bridged isOpen leaves fits
  rw [bridged] at completed
  exact ⟨⟨isOpen, leaves, fits⟩, completed⟩

end Hub

end StationMesh.Relay
