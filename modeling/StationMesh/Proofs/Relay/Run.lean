import StationMesh.Config.Settings
import StationMesh.Proofs.History.Ring
import StationMesh.Proofs.Relay.Processing

/-!
# Runs of a relay hub

A run is a list of calls, each made in the state that the one before left. Between two calls
frames may leave the outbox, and the services and the host line may change in any way. A trace
keeps the state before each call, so that what a call reported, recorded and sent can be told
afterwards.
-/

namespace StationMesh.Relay.Hub

variable {κ φ : Type} {logSize : Nat}

/-- What can be done with a hub. -/
inductive Call (κ φ : Type) (logSize : Nat) where
  | process (frame : Bytes) (report : Channel.Report) (now : Nat)
  | sendHostFrame (frame : Bytes)
  | sendWeather (reading : Bytes)
  | sendStatus (report : Channel.Report)
  | flushBatch
  /-- Something happens that the hub does not do. -/
  | outside (outbox : Outbox) (services : Services κ φ logSize) (host : HostLine)

/-- A hub that nothing was done with yet, over settings kept in memory. -/
def ofSettings (config : Config.Settings) : Hub Config.Settings RuleUpdater 0 where
  engine := { nextUid := 0, random := .ofSeed .wyRand 0 }
  services := { config, firmware := .declines }

variable [Config.Store κ] [FirmwareUpdater φ]

/-- The hub after one call. -/
def perform (hub : Hub κ φ logSize) : Call κ φ logSize → Hub κ φ logSize
  | .process frame report now => (hub.process frame report now).2
  | .sendHostFrame frame => ((sendHostFrame frame).run hub).2
  | .sendWeather reading => ((sendWeather reading).run hub).2
  | .sendStatus report => ((sendStatus report).run hub).2
  | .flushBatch => (flushBatch.run hub).2
  | .outside outbox services host => { hub with outbox, services, host }

/-- The hub after a run of calls. -/
def run (calls : List (Call κ φ logSize)) (hub : Hub κ φ logSize) : Hub κ φ logSize :=
  calls.foldl perform hub

/-- A call of a run, and the hub it was made on. -/
structure Event (κ φ : Type) (logSize : Nat) where
  hub : Hub κ φ logSize
  call : Call κ φ logSize

/-- The calls of a run with the hubs they were made on. -/
def trace : List (Call κ φ logSize) → Hub κ φ logSize → List (Event κ φ logSize)
  | [], _ => []
  | call :: calls, hub => { hub, call } :: trace calls (hub.perform call)

namespace Event

/-- The hub the call left. -/
def next (event : Event κ φ logSize) : Hub κ φ logSize := event.hub.perform event.call

/-- The header of the message that was received. -/
def received? (event : Event κ φ logSize) : Option Header :=
  match event.call with
  | .process frame _ _ => (Header.parse frame).toOption
  | _ => none

/-- The readings of the weather message that was received. -/
def readings (event : Event κ φ logSize) : List Weather.Reading :=
  match event.call with
  | .process frame _ _ =>
      if event.received?.any (·.kind == .weather) then (Weather.Reading.parseAll (frame.drop 1)).1
      else []
  | _ => []

/-- The frames that were put into the outbox, behind those already there. -/
def queued (event : Event κ φ logSize) : List OutFrame :=
  match event.call with
  | .outside .. => []
  | _ => event.next.outbox.frames.drop event.hub.outbox.frames.length

/-- The message that was reported as relayed. -/
def relayed? (event : Event κ φ logSize) : Option Identity :=
  match event.call with
  | .process frame report now =>
      if (event.hub.process frame report now).1.relayed then event.received?.map Header.identity
      else none
  | _ => none

/-- The message that was recorded as relayed: one that was relayed, or one of the host. -/
def recorded? (event : Event κ φ logSize) : Option Identity :=
  match event.call with
  | .sendHostFrame frame =>
      match Header.parse frame with
      | .ok header => some header.identity
      | .error _ => none
  | _ => event.relayed?

omit [Config.Store κ] [FirmwareUpdater φ] in
theorem received?_process {header : Header} {frame : Bytes}
    (parsed : Header.parse frame = .ok header) (report : Channel.Report) (now : Nat)
    (hub : Hub κ φ logSize) : (⟨hub, .process frame report now⟩ : Event _ _ _).received? =
      some header := by
  simp only [received?, parsed, Except.toOption]

omit [Config.Store κ] [FirmwareUpdater φ] in
theorem readings_process {header : Header} {frame : Bytes}
    (parsed : Header.parse frame = .ok header) (report : Channel.Report) (now : Nat)
    (hub : Hub κ φ logSize) : (⟨hub, .process frame report now⟩ : Event _ _ _).readings =
      if header.kind = .weather then (Weather.Reading.parseAll (frame.drop 1)).1 else [] := by
  simp only [readings, received?_process parsed, Option.any_some, beq_iff_eq]

theorem relayed?_process {header : Header} {frame : Bytes}
    (parsed : Header.parse frame = .ok header) (report : Channel.Report) (now : Nat)
    (hub : Hub κ φ logSize) : (⟨hub, .process frame report now⟩ : Event _ _ _).relayed? =
      if (hub.process frame report now).1.relayed then some header.identity else none := by
  simp only [relayed?, received?_process parsed, Option.map_some]

theorem relayed?_of_unreported {frame : Bytes} {report : Channel.Report} {now : Nat}
    {hub : Hub κ φ logSize} (unreported : (hub.process frame report now).1.relayed = false) :
    (⟨hub, .process frame report now⟩ : Event _ _ _).relayed? = none := by
  simp only [relayed?, unreported, Bool.false_eq_true, ↓reduceIte]

theorem exists_relayed_of_reported {frame : Bytes} {report : Channel.Report} {now : Nat}
    {hub : Hub κ φ logSize} (reported : (hub.process frame report now).1.relayed = true) :
    ∃ identity, (⟨hub, .process frame report now⟩ : Event _ _ _).relayed? = some identity := by
  rcases hub.process_cases frame report now with
    process_eq | ⟨header, services, parsed, _, _, _, _⟩
  · simp [process_eq] at reported
  · refine ⟨header.identity, ?_⟩
    simp only [relayed?_process parsed, reported, ↓reduceIte]

omit [Config.Store κ] [FirmwareUpdater φ] in
/-- Only a message that is processed has a header. -/
theorem exists_process_of_received {event : Event κ φ logSize} {header : Header}
    (received : event.received? = some header) :
    ∃ frame report now, event.call = .process frame report now ∧
      Header.parse frame = .ok header := by
  rcases event with ⟨hub, call⟩
  cases call with
  | process frame report now =>
      refine ⟨frame, report, now, rfl, ?_⟩
      simp only [received?] at received
      cases parsed : Header.parse frame with
      | error error => simp [parsed, Except.toOption] at received
      | ok known => simpa [parsed, Except.toOption] using received
  | _ => contradiction

theorem exists_received_of_relayed {event : Event κ φ logSize} {identity : Identity}
    (relayed : event.relayed? = some identity) :
    ∃ header, event.received? = some header ∧ header.identity = identity := by
  rcases event with ⟨hub, call⟩
  cases call with
  | process frame report now =>
      simp only [relayed?] at relayed
      split at relayed
      · simpa using relayed
      · contradiction
  | _ => contradiction

/-- A message that was reported as relayed was processed, heard, and then relayed. -/
theorem exists_relay_of_relayed {event : Event κ φ logSize} {identity : Identity}
    (relayed : event.relayed? = some identity) :
    ∃ header frame report now services, event.call = .process frame report now ∧
      Header.parse frame = .ok header ∧ header.identity = identity ∧
      let heard := (event.hub.hear header frame report now).2
      (heard.relay header event.hub.stationId frame).1 = true ∧
        event.next = { (heard.relay header event.hub.stationId frame).2 with services } := by
  rcases exists_received_of_relayed relayed with ⟨header, received, identity_eq⟩
  rcases exists_process_of_received received with ⟨frame, report, now, call_eq, parsed⟩
  rcases event with ⟨hub, call⟩
  subst call_eq
  have reported : (hub.process frame report now).1.relayed = true := by
    cases reported : (hub.process frame report now).1.relayed with
    | true => rfl
    | false => simp [relayed?_of_unreported reported] at relayed
  rcases hub.process_cases frame report now with
    process_eq | ⟨known, services, knownParsed, _, relayed_eq, process_eq, _⟩
  · simp [process_eq] at reported
  · simp only [parsed, Except.ok.injEq] at knownParsed
    subst knownParsed
    exact ⟨header, frame, report, now, services, rfl, parsed, identity_eq,
      relayed_eq.symm.trans reported, process_eq⟩

/-- A message that is reported as relayed is recorded. -/
theorem recorded?_of_relayed {event : Event κ φ logSize} {identity : Identity}
    (relayed : event.relayed? = some identity) : event.recorded? = some identity := by
  rcases event with ⟨hub, call⟩
  cases call with
  | sendHostFrame frame => contradiction
  | _ => exact relayed

end Event

/-- The messages recorded as relayed in a run, in order. -/
def recordings (calls : List (Call κ φ logSize)) (hub : Hub κ φ logSize) : List Identity :=
  (trace calls hub).filterMap Event.recorded?

@[simp]
theorem run_cons (call : Call κ φ logSize) (calls : List (Call κ φ logSize))
    (hub : Hub κ φ logSize) : run (call :: calls) hub = run calls (hub.perform call) := rfl

theorem trace_append (calls more : List (Call κ φ logSize)) (hub : Hub κ φ logSize) :
    trace (calls ++ more) hub = trace calls hub ++ trace more (run calls hub) := by
  induction calls generalizing hub with
  | nil => rfl
  | cons call calls ih => simp only [List.cons_append, trace, ih, run_cons]

theorem call_mem_of_mem_trace {calls : List (Call κ φ logSize)} {start : Hub κ φ logSize}
    {event : Event κ φ logSize} (mem : event ∈ trace calls start) : event.call ∈ calls := by
  induction calls generalizing start with
  | nil => contradiction
  | cons call calls ih =>
      rcases List.mem_cons.mp mem with rfl | later
      · exact List.mem_cons_self
      · exact List.mem_cons_of_mem _ (ih later)

/-! ### The recordings of a run -/

omit [FirmwareUpdater φ] in
theorem relayed_relay (header : Header) (own : UInt8) (frame : Bytes) (hub : Hub κ φ logSize) :
    (hub.relay header own frame).2.engine.relayed =
      if (hub.relay header own frame).1 then hub.engine.relayed.record header.identity
      else hub.engine.relayed := by
  rcases hub.exists_onlySends_relay header own frame with ⟨left, sends, relay_eq | relay_eq⟩
  · rw [relay_eq]
    exact sends.relayed
  · rw [relay_eq]
    change left.engine.relayed.record header.identity = _
    rw [sends.relayed]
    rfl

/-- The history of a hub is changed by recordings alone. -/
theorem relayed_next (event : Event κ φ logSize) :
    event.next.engine.relayed = event.hub.engine.relayed.recordAll event.recorded?.toList := by
  rcases event with ⟨hub, call⟩
  cases call with
  | process frame report now =>
      rcases hub.process_cases frame report now with
        process_eq | ⟨header, services, parsed, _, reported_eq, process_eq, _⟩
      · have unreported : (⟨hub, .process frame report now⟩ : Event κ φ logSize).recorded? = none :=
          Event.relayed?_of_unreported (by rw [process_eq])
        rw [unreported]
        change (hub.process frame report now).2.engine.relayed = _
        rw [process_eq]
        rfl
      · have heard := (hub.onlyHears_hear header frame report now).relayed
        have recorded := relayed_relay header hub.stationId frame
          (hub.hear header frame report now).2
        rw [heard] at recorded
        have reported : (⟨hub, .process frame report now⟩ : Event κ φ logSize).recorded? =
            if ((hub.hear header frame report now).2.relay header hub.stationId frame).1 then
              some header.identity else none := by
          simp only [Event.recorded?, Event.relayed?_process parsed, reported_eq]
        rw [reported]
        change (hub.process frame report now).2.engine.relayed = _
        simp only [process_eq]
        rw [recorded]
        split <;> rfl
  | sendHostFrame frame =>
      rcases hub.run_sendHostFrame frame with ⟨preamble, run_eq⟩
      change ((sendHostFrame frame).run hub).2.engine.relayed = _
      rw [run_eq, engine_enqueue]
      simp only [remember, Event.recorded?]
      cases Header.parse frame <;> rfl
  | sendWeather reading => exact (moves_sendWeather reading hub).relayed
  | sendStatus report => exact (moves_sendStatus report hub).relayed
  | flushBatch => exact (moves_flushBatch hub).relayed
  | outside outbox services host => rfl

/-- What each call of a run adds to a part of the hub, the run adds to it one after the other. -/
theorem run_eq_foldl {ι β : Type} (view : Hub κ φ logSize → β) {add : β → ι → β}
    {added? : Event κ φ logSize → Option ι}
    (adds : ∀ event, view event.next = (added? event).toList.foldl add (view event.hub))
    (calls : List (Call κ φ logSize)) (hub : Hub κ φ logSize) :
    view (run calls hub) = ((trace calls hub).filterMap added?).foldl add (view hub) := by
  induction calls generalizing hub with
  | nil => rfl
  | cons call calls ih =>
      have first : view (hub.perform call) = _ := adds ⟨hub, call⟩
      rw [run_cons, ih, first, trace, List.filterMap_cons]
      cases added? ⟨hub, call⟩ with
      | none => rfl
      | some added => rfl

/-- The history of a hub is what was recorded in the run. -/
theorem relayed_run (calls : List (Call κ φ logSize)) (hub : Hub κ φ logSize) :
    (run calls hub).engine.relayed = hub.engine.relayed.recordAll (recordings calls hub) :=
  run_eq_foldl (fun hub => hub.engine.relayed) relayed_next calls hub

end StationMesh.Relay.Hub
