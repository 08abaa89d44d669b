import StationMesh.Proofs.Relay.Conservation

/-!
# A message is relayed once

A message is told apart by its kind, its station and its unique id, and by nothing else. Once it
was relayed it is not relayed again before as many other messages were recorded as the history
holds. The readings a weather message carries for others are not told apart: they are handed on
with each message they come in.
-/

namespace StationMesh.Relay.Hub

open Weather

variable {κ φ : Type} {logSize : Nat} [Config.Store κ] [FirmwareUpdater φ]

/-- A message that is reported as relayed was not remembered, and now is. -/
theorem recorded_of_relayed {event : Event κ φ logSize} {identity : Identity}
    (relayed : event.relayed? = some identity) :
    event.hub.engine.relayed.contains identity = false ∧
      event.next.engine.relayed = event.hub.engine.relayed.record identity := by
  constructor
  · rcases Event.exists_relay_of_relayed relayed with
      ⟨header, frame, report, now, services, _, _, rfl, handedOn, _⟩
    have heard := (event.hub.onlyHears_hear header frame report now).relayed
    rcases (event.hub.hear header frame report now).2.relay_cases header event.hub.stationId frame
      with ⟨_, relay_eq⟩ | ⟨_, fresh, _⟩
    · simp [relay_eq] at handedOn
    · simpa only [heard] using fresh
  · simp only [relayed_next, Event.recorded?_of_relayed relayed]
    rfl

/-- Between two calls that report a message as relayed, at least as many other messages were
recorded as the history holds. -/
theorem historySize_le_others_recorded {hub : Hub κ φ logSize} {identity : Identity}
    {first second : Call κ φ logSize} (between : List (Call κ φ logSize))
    (firstRelayed : (⟨hub, first⟩ : Event _ _ _).relayed? = some identity)
    (secondRelayed :
      (⟨run between (hub.perform first), second⟩ : Event _ _ _).relayed? = some identity) :
    (run between (hub.perform first)).engine.relayed =
        (hub.perform first).engine.relayed.recordAll (recordings between (hub.perform first)) ∧
      historySize ≤ (recordings between (hub.perform first)).countP fun other =>
        other ≠ identity := by
  have recorded := relayed_run between (hub.perform first)
  have remembered : (hub.perform first).engine.relayed = hub.engine.relayed.record identity :=
    (recorded_of_relayed firstRelayed).2
  have forgotten : (run between (hub.perform first)).engine.relayed.contains identity = false :=
    (recorded_of_relayed secondRelayed).1
  refine ⟨recorded, ?_⟩
  rw [recorded, remembered] at forgotten
  exact History.Ring.capacity_le_countP_of_forgotten forgotten

/-- A status message is relayed, then sixteen others, then the first one again. -/
def sixteenBetween : List (Call Config.Settings RuleUpdater 0) :=
  (List.range historySize).map fun uid => .sendHostFrame [0x53, 7, UInt8.ofNat uid]

theorem historySize_le_others_recorded_sixteenBetween :
    let hub := ofSettings {}
    let first : Call Config.Settings RuleUpdater 0 := .process [0xD3, 6, 1, 5] {} 0
    let second : Call Config.Settings RuleUpdater 0 := .process [0xD3, 6, 1] {} 9
    let identity : Identity := { kind := .status, station := 6, uid := 1 }
    ((⟨hub, first⟩ : Event _ _ _).relayed? = some identity ∧
      (⟨run sixteenBetween (hub.perform first), second⟩ : Event _ _ _).relayed? =
        some identity) ∧
    historySize ≤ (recordings sixteenBetween (hub.perform first)).countP fun other =>
      other ≠ identity := by
  intro hub first second identity
  have firstRelayed : (⟨hub, first⟩ : Event _ _ _).relayed? = some identity := by
    decide +kernel
  have secondRelayed : (⟨run sixteenBetween (hub.perform first), second⟩ : Event _ _ _).relayed? =
      some identity := by
    decide +kernel
  exact ⟨⟨firstRelayed, secondRelayed⟩,
    (historySize_le_others_recorded sixteenBetween firstRelayed secondRelayed).2⟩

/-! ### Weather messages -/

theorem trace_mem_split {calls : List (Call κ φ logSize)} {hub : Hub κ φ logSize}
    {later : Event κ φ logSize} (mem : later ∈ trace calls hub) :
    ∃ between after, calls = between ++ later.call :: after ∧ later.hub = run between hub := by
  induction calls generalizing hub with
  | nil => contradiction
  | cons call calls ih =>
      rcases List.mem_cons.mp mem with rfl | mem
      · exact ⟨[], calls, rfl, rfl⟩
      · rcases ih mem with ⟨between, after, calls_eq, hub_eq⟩
        exact ⟨call :: between, after, by rw [calls_eq, List.cons_append], hub_eq⟩

theorem recordings_append (calls more : List (Call κ φ logSize)) (hub : Hub κ φ logSize) :
    recordings (calls ++ more) hub = recordings calls hub ++ recordings more (run calls hub) := by
  rw [recordings, trace_append, List.filterMap_append]
  rfl

/-- What was recorded is remembered as long as only few others are. -/
theorem remembered_of_few {hub next : Hub κ φ logSize} {identity : Identity}
    (recorded : next.engine.relayed = hub.engine.relayed.record identity)
    {between : List (Call κ φ logSize)}
    (few : (recordings between next).countP (fun other => other ≠ identity) < historySize) :
    (run between next).engine.relayed.contains identity = true := by
  rw [relayed_run, recorded, ← Bool.not_eq_false]
  intro forgotten
  have others_le := History.Ring.capacity_le_countP_of_forgotten forgotten
  omega

theorem contains_of_few {event : Event κ φ logSize} {identity : Identity}
    (relayed : event.relayed? = some identity) {between : List (Call κ φ logSize)}
    (few : (recordings between event.next).length < historySize) :
    (run between event.next).engine.relayed.contains identity = true :=
  remembered_of_few (recorded_of_relayed relayed).2 (Nat.lt_of_le_of_lt List.countP_le_length few)

/-- A weather message that is not to be relayed, or is remembered, brings nothing in. -/
theorem process_of_unwanted {header : Header} {frame : Bytes} {hub : Hub κ φ logSize}
    (parsed : Header.parse frame = .ok header) (isWeather : header.kind = .weather)
    (unwanted : ¬(hub.wantsRelay header hub.stationId = true ∧
      hub.engine.relayed.contains header.identity = false)) (report : Channel.Report) (now : Nat) :
    (hub.process frame report now).1.relayed = false ∧
      (hub.process frame report now).2.outbox = hub.outbox ∧
      (hub.process frame report now).2.engine.batch = hub.engine.batch := by
  rcases hub.process_cases frame report now with
    process_eq | ⟨known, services, knownParsed, _, relayed_eq, process_eq, _⟩
  · rw [process_eq]
    exact ⟨rfl, rfl, rfl⟩
  · rw [parsed, Except.ok.injEq] at knownParsed
    subst knownParsed
    have observes := onlyObserves_hear isWeather frame report now hub
    have hears := onlyHears_hear header frame report now hub
    have relay_eq : (hub.hear header frame report now).2.relay header hub.stationId frame =
        (false, (hub.hear header frame report now).2) := by
      apply relay_of_unwanted
      simpa only [wantsRelay, observes.services, hears.relayed] using unwanted
    rw [relayed_eq, process_eq, relay_eq]
    exact ⟨rfl, observes.outbox, hears.batch⟩

/-- A weather message that is reported as relayed brings in its readings for other stations. -/
theorem conserved_of_relayed {event : Event κ φ logSize} {header : Header}
    (sound : event.hub.HasSoundBatch) (isWeather : header.kind = .weather)
    (relayed : event.relayed? = some header.identity) :
    event.queued.flatMap carried ++ event.next.engine.batch.readings =
      event.hub.engine.batch.readings ++ foreign event.hub.stationId event.readings := by
  have queued_eq : event.queued =
      event.next.outbox.frames.drop event.hub.outbox.frames.length := by
    rcases event with ⟨hub, call⟩
    cases call with
    | outside outbox services host => contradiction
    | _ => rfl
  have handedOn_eq : event.handedOn = foreign event.hub.stationId event.readings := by
    simp only [Event.handedOn, relayed, Option.isSome_some, ↓reduceIte]
  rcases conveys_of_relayed sound relayed with ⟨conveys, turnedAway_eq⟩
  rw [← handedOn_eq]
  exact (conserved_of_conveys queued_eq conveys).2 (turnedAway_eq isWeather)

/-- A copy of a weather message that was relayed brings nothing in. -/
theorem unchanged_of_relayed_before {event : Event κ φ logSize} {later : Event κ φ logSize}
    {header : Header} {between : List (Call κ φ logSize)}
    (relayed : event.relayed? = some header.identity)
    (few : (recordings between event.next).length < historySize)
    (later_eq : later.hub = run between event.next) (received : later.received? = some header)
    (isWeather : header.kind = .weather) :
    later.relayed? = none ∧ later.next.outbox = later.hub.outbox ∧
      later.next.engine.batch = later.hub.engine.batch := by
  have remembered := contains_of_few relayed few
  rw [← later_eq] at remembered
  rcases Event.exists_process_of_received received with ⟨frame, report, now, call_eq, parsed⟩
  rcases later with ⟨hub, call⟩
  subst call_eq
  have unwanted : ¬(hub.wantsRelay header hub.stationId = true ∧
      hub.engine.relayed.contains header.identity = false) := by
    intro due
    exact absurd due.2 (by simpa using remembered)
  rcases process_of_unwanted parsed isWeather unwanted report now with
    ⟨unreported, outbox_eq, batch_eq⟩
  exact ⟨Event.relayed?_of_unreported unreported, outbox_eq, batch_eq⟩

/-- In a run in which fewer messages are recorded than the history holds, a weather message that is
reported as relayed brings in all its readings for other stations, in the order they stand in it,
and no message under the same header brings anything in after it. -/
theorem weather_handed_on_once (calls : List (Call κ φ logSize)) {start : Hub κ φ logSize}
    (empty : start.engine.batch.readings = [])
    (few : (recordings calls start).length < historySize) :
    (∀ event ∈ trace calls start, ∀ header, event.received? = some header →
        header.kind = .weather → event.relayed? = some header.identity →
          event.queued.flatMap carried ++ event.next.engine.batch.readings =
            event.hub.engine.batch.readings ++ foreign event.hub.stationId event.readings) ∧
      (trace calls start).Pairwise fun event later => ∀ header, later.received? = some header →
        header.kind = .weather → event.relayed? = some header.identity →
          later.relayed? = none ∧ later.next.outbox = later.hub.outbox ∧
            later.next.engine.batch = later.hub.engine.batch := by
  constructor
  · intro event mem header received isWeather relayed
    have sound := keeps_sound_run calls (hasSoundBatch_of_readings_eq_nil empty) event mem
    exact conserved_of_relayed sound isWeather relayed
  · clear empty
    induction calls generalizing start with
    | nil => exact List.Pairwise.nil
    | cons call calls ih =>
        have recordings_eq : recordings (call :: calls) start =
            recordings [call] start ++ recordings calls (start.perform call) :=
          recordings_append [call] calls start
        rw [recordings_eq, List.length_append] at few
        refine List.Pairwise.cons ?_ (ih (by omega))
        intro later mem header received isWeather relayed
        rcases trace_mem_split mem with ⟨between, after, calls_eq, later_eq⟩
        refine unchanged_of_relayed_before relayed ?_ later_eq received isWeather
        rw [calls_eq, recordings_append, List.length_append] at few
        change (recordings between (start.perform call)).length < historySize
        omega

/-- A weather message, a copy of it that demands relay and has more to say, and a message of another
station. -/
def copyBetween : List (Call Config.Settings RuleUpdater 0) :=
  [.process [0x57, 6, 1, 1, 10] {} 0,
    .process [0xD7, 6, 1, 1, 11, 8, 2, 0] {} 0,
    .process [0x57, 7, 1, 0] {} 0]

theorem weather_handed_on_once_copyBetween :
    let start := ofSettings { weatherRelays := .padded [6, 7] }
    (start.engine.batch.readings = [] ∧ (recordings copyBetween start).length < historySize) ∧
      (run copyBetween start).engine.batch.readings = [⟨6, 1, [10]⟩, ⟨7, 1, []⟩] ∧
      (trace copyBetween start).Pairwise fun event later => ∀ header,
        later.received? = some header → header.kind = .weather →
          event.relayed? = some header.identity →
            later.relayed? = none ∧ later.next.outbox = later.hub.outbox ∧
              later.next.engine.batch = later.hub.engine.batch := by
  have few : (recordings copyBetween
      (ofSettings { weatherRelays := .padded [6, 7] })).length < historySize := by
    decide +kernel
  exact ⟨⟨rfl, few⟩, rfl, (weather_handed_on_once copyBetween rfl few).2⟩

/-- The readings a message carries for others are not told apart: a reading that was relayed as its
own station sent it is relayed once more when another station carries it along. -/
def carriedAlong : List (Call Config.Settings RuleUpdater 0) :=
  [.process [0x57, 6, 1, 1, 10] {} 0,
    .process [0x57, 7, 1, 0, 6, 1, 1, 10] {} 0]

theorem reading_handed_on_twice :
    let start := ofSettings { weatherRelays := .padded [6, 7] }
    (∀ event ∈ trace carriedAlong start, event.hub.stationId = 1) ∧
      (recordings carriedAlong start).length < historySize ∧
      start.engine.batch.readings = [] ∧
      ((run carriedAlong start).engine.batch.readings.filter fun reading =>
        reading.station == 6 && reading.uid == 1) = [⟨6, 1, [10]⟩, ⟨6, 1, [10]⟩] := by
  decide +kernel

end StationMesh.Relay.Hub
