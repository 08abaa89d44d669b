import StationMesh.Proofs.Relay.Copying
import StationMesh.Proofs.Relay.Dedup
import StationMesh.Proofs.Relay.OutboxGrowth
import StationMesh.Relay.Intake

/-!
# Weather on its way

A station that relays weather takes the readings out of it, and a reading too long for its batch
goes out again in a message of its own, behind the empty reading of the station that relays it. That
takes three bytes more than the message the reading came in, for the header of the reading itself.
So the longest readings that can be originated go no further than to the first station.
-/

namespace StationMesh

namespace Weather.Batch

variable {capacity : Nat} {batch : Batch capacity}

theorem encodedSize_le_size {reading : Reading} (mem : reading ∈ batch.readings) :
    reading.encodedSize ≤ batch.size := by
  rcases List.append_of_mem mem with ⟨before, after, readings_eq⟩
  simp only [size, bytes, readings_eq, List.flatMap_append, List.flatMap_cons, List.length_append,
    Reading.length_encode]
  omega

end Weather.Batch

namespace Relay

open Weather

namespace Hub

variable {κ φ : Type} {logSize : Nat} [Config.Store κ]

/-! ### A station that relays -/

omit [Config.Store κ] in
theorem push?_of_long {reading : Reading} (long : maxCarried < reading.data.length)
    (batch : Batch batchSize) : batch.push? reading = none := by
  apply if_neg
  intro accepted
  simp only [Bool.and_eq_true, Batch.fits, decide_eq_true_eq] at accepted
  simp only [Reading.encodedSize, batchSize, maxCarried] at accepted long
  omega

/-- A reading that is too long does not fit in a frame with the header of the reading. -/
theorem exists_error_relayReading {reading : Reading} (long : maxCarried < reading.data.length)
    (hub : Hub κ φ logSize) :
    ∃ cause left, (relayReading reading).run hub = (.error cause, left) := by
  rw [run_relayReading]
  simp only [push?_of_long long]
  rcases flushBatch.run hub with ⟨cause | _, flushed⟩
  · exact ⟨cause, flushed, rfl⟩
  · rcases flushed.afterUid.enqueue_cases
      (weatherData flushed.stationId flushed.engine.nextUid [] reading.encode) .long with
      ⟨frame, _, data_eq, _⟩ | ⟨_, run_eq⟩ | ⟨_, run_eq⟩
    · have size_le := frame.size_le
      rw [data_eq, length_weatherData, Reading.length_encode] at size_le
      simp only [Reading.encodedSize, Reading.overhead, List.length_nil, maxCarried] at size_le long
      omega
    · exact ⟨_, _, run_eq⟩
    · exact ⟨_, _, run_eq⟩

theorem relayFrame_of_weather {header : Header} (isWeather : header.kind = .weather)
    (frame : Bytes) : (relayFrame header frame : Operation κ φ logSize Unit) =
      relayReadings (Reading.parseAll (frame.drop 1)).1 :=
  if_pos isWeather

variable [FirmwareUpdater φ]

/-- A weather message was heard, and whether it was relayed was settled by what became of its
readings at the hub that heard it. -/
structure Settles (readings : List Reading) (hub heard : Hub κ φ logSize)
    (processed : Disposition × Hub κ φ logSize) : Prop where
  observes : hub.OnlyObserves heard
  hears : hub.OnlyHears heard
  relayed_iff : processed.1.relayed = true ↔ ((relayReadings readings).run heard).1 = .ok ()
  outbox : processed.2.outbox = ((relayReadings readings).run heard).2.outbox
  batch : processed.2.engine.batch = ((relayReadings readings).run heard).2.engine.batch
  forgotten : processed.1.relayed = false → processed.2.engine.relayed = hub.engine.relayed

theorem exists_settles {header : Header} {frame : Bytes} {hub : Hub κ φ logSize}
    (parsed : Header.parse frame = .ok header) (isWeather : header.kind = .weather)
    (must : hub.MustRelay header) (report : Channel.Report) (now : Nat) :
    ∃ heard, Settles (Reading.parseAll (frame.drop 1)).1 hub heard
      (hub.process frame report now) := by
  have observes := onlyObserves_hear isWeather frame report now hub
  have hears := onlyHears_hear header frame report now hub
  have accepted : ¬hub.IsOwn header := fun own => must.foreign own.2
  have heardMust := must.of_eq (congrArg Services.config observes.services) hears.relayed
  rw [mustRelay_iff, observes.stationId_eq] at heardMust
  rcases relay_settled heardMust.1 heardMust.2 frame with
    ⟨relayed_iff, outbox_eq, batch_eq, _, forgotten⟩
  rw [relayFrame_of_weather isWeather] at relayed_iff outbox_eq batch_eq
  rcases hub.process_cases frame report now with
    process_eq | ⟨known, services, knownParsed, _, relayed_eq, process_eq, _⟩
  · simp [process_of_accepted parsed accepted] at process_eq
  · simp only [parsed, Except.ok.injEq] at knownParsed
    subst knownParsed
    refine ⟨(hub.hear header frame report now).2, observes, hears, ?_, ?_, ?_, ?_⟩
    · rw [relayed_eq]
      exact relayed_iff
    · rw [process_eq]
      exact outbox_eq
    · rw [process_eq]
      exact batch_eq
    · intro refused
      rw [process_eq]
      rw [relayed_eq] at refused
      exact (forgotten refused).trans hears.relayed

/-- A weather message whose readings are all short is relayed if there are slots enough. -/
theorem relayed_of_short {header : Header} {frame : Bytes} {hub : Hub κ φ logSize}
    (sound : hub.HasSoundBatch) (parsed : Header.parse frame = .ok header)
    (isWeather : header.kind = .weather) (length_le : frame.length ≤ 255)
    (must : hub.MustRelay header)
    (short : ∀ reading ∈ (Reading.parseAll (frame.drop 1)).1, reading.data.length ≤ maxCarried)
    (room : hub.outbox.length + 6 ≤ Outbox.slots) (report : Channel.Report) (now : Nat) :
    (hub.process frame report now).1.relayed = true := by
  rcases exists_settles parsed isWeather must report now with ⟨heard, settles⟩
  have heardSound := settles.hears.hasSoundBatch sound
  have handsOn := handsOn_relayWeather frame heardSound
  have queues := queues_relayFrame header length_le heardSound
  rw [if_pos isWeather, relayFrame_of_weather isWeather] at queues
  rw [← settles.observes.outbox] at room
  have noneTurnedAway := queues.turnedAway_eq room
  rw [settles.relayed_iff]
  generalize (relayReadings _).run heard = ended at handsOn noneTurnedAway ⊢
  rcases ended with ⟨cause | _, left⟩
  · have turnedAway_lt := handsOn.2 short
    simp only at noneTurnedAway
    omega
  · rfl

/-- A reading of another station at the front of a message stops all of it if it is too long. -/
theorem not_relayed_of_long {header : Header} {frame : Bytes} {hub : Hub κ φ logSize}
    (parsed : Header.parse frame = .ok header) (isWeather : header.kind = .weather)
    (must : hub.MustRelay header) {reading : Reading} {rest : List Reading}
    (readings_eq : (Reading.parseAll (frame.drop 1)).1 = reading :: rest)
    (foreign : reading.station ≠ hub.stationId) (long : maxCarried < reading.data.length)
    (report : Channel.Report) (now : Nat) :
    (hub.process frame report now).1.relayed = false := by
  rcases exists_settles parsed isWeather must report now with ⟨heard, settles⟩
  rcases exists_error_relayReading long heard with ⟨cause, left, run_eq⟩
  rw [← settles.observes.stationId_eq] at foreign
  have relayed_iff := settles.relayed_iff
  rw [readings_eq, run_relayReadings_cons, if_neg foreign, run_eq] at relayed_iff
  simpa using relayed_iff

/-- The reading waits in the batch, or a frame that was put into the outbox carries it. -/
def TakesOver (reading : Reading) (hub next : Hub κ φ logSize) : Prop :=
  reading ∈ next.engine.batch.readings ∨
    ∃ outgoing ∈ next.outbox.frames.drop hub.outbox.frames.length, reading ∈ carried outgoing

/-- A weather message that is relayed hands on its readings for other stations, in their order,
behind those that waited. -/
theorem handedOn_of_relayed {header : Header} {frame : Bytes} {hub : Hub κ φ logSize}
    (sound : hub.HasSoundBatch) (parsed : Header.parse frame = .ok header)
    (isWeather : header.kind = .weather) {report : Channel.Report} {now : Nat}
    (relayed : (hub.process frame report now).1.relayed = true) :
    ((hub.process frame report now).2.outbox.frames.drop
        hub.outbox.frames.length).flatMap carried ++
        (hub.process frame report now).2.engine.batch.readings =
      hub.engine.batch.readings ++
        foreign hub.stationId (Reading.parseAll (frame.drop 1)).1 := by
  let event : Event κ φ logSize := ⟨hub, .process frame report now⟩
  have eventSound : event.hub.HasSoundBatch := sound
  have reported : event.relayed? = some header.identity := by
    rw [Event.relayed?_process parsed, if_pos relayed]
  have conserved := conserved_of_relayed eventSound isWeather reported
  rw [Event.readings_process parsed, if_pos isWeather] at conserved
  exact conserved

theorem takesOver_of_relayed {header : Header} {frame : Bytes} {hub : Hub κ φ logSize}
    (sound : hub.HasSoundBatch) (parsed : Header.parse frame = .ok header)
    (isWeather : header.kind = .weather) {report : Channel.Report} {now : Nat}
    (relayed : (hub.process frame report now).1.relayed = true) {reading : Reading}
    (mem : reading ∈ (Reading.parseAll (frame.drop 1)).1)
    (other : reading.station ≠ hub.stationId) :
    TakesOver reading hub (hub.process frame report now).2 := by
  have handedOn : reading ∈ hub.engine.batch.readings ++
      foreign hub.stationId (Reading.parseAll (frame.drop 1)).1 := by
    apply List.mem_append_right
    apply List.mem_filter.mpr
    exact ⟨mem, decide_eq_true other⟩
  rw [← handedOn_of_relayed sound parsed isWeather relayed] at handedOn
  rcases List.mem_append.mp handedOn with queued | waiting
  · exact .inr (List.mem_flatMap.mp queued)
  · exact .inl waiting

/-! ### A station that originates -/

omit [FirmwareUpdater φ] in
/-- The message with the reading of the station goes first, with readings that waited or without. -/
theorem exists_frame_of_sendWeather {origin next : Hub κ φ logSize} {reading : Bytes} {uid : UInt8}
    (sent : (sendWeather reading).run origin = (.ok uid, next)) :
    ∃ (frame : OutFrame) (later : List OutFrame) (along : List Reading),
      next.outbox.frames = origin.outbox.frames ++ frame :: later ∧
      frame.data = weatherData origin.stationId uid reading (along.flatMap Reading.encode) ∧
      (∀ other ∈ along, other ∈ origin.engine.batch.readings) := by
  rw [run_sendWeather] at sent
  split at sent
  · simp at sent
  · split at sent
    · rcases origin.afterUid.enqueue_cases (weatherData origin.stationId origin.engine.nextUid
          reading origin.engine.batch.bytes) .long with
        ⟨frame, outbox, data_eq, _, frames_eq, run_eq⟩ | ⟨_, run_eq⟩ | ⟨_, run_eq⟩
      · simp only [run_eq, Except.map, Prod.mk.injEq, Except.ok.injEq] at sent
        rcases sent with ⟨rfl, rfl⟩
        exact ⟨frame, [], origin.engine.batch.readings, frames_eq, data_eq, fun _ mem => mem⟩
      · simp [run_eq, Except.map] at sent
      · simp [run_eq, Except.map] at sent
    · rcases origin.afterUid.enqueue_cases (weatherData origin.stationId origin.engine.nextUid
          reading []) .long with
        ⟨frame, outbox, data_eq, _, frames_eq, run_eq⟩ | ⟨_, run_eq⟩ | ⟨_, run_eq⟩
      · let queued : Hub κ φ logSize := { origin.afterUid with outbox }
        have flushed := (queues_flushBatch queued).1
        simp only [run_eq] at sent
        generalize flushBatch.run queued = ended at sent flushed
        rcases ended with ⟨cause | _, left⟩
        · simp [Except.map] at sent
        · simp only [Except.map, Prod.mk.injEq, Except.ok.injEq] at sent
          rcases sent with ⟨rfl, rfl⟩
          rcases flushed with ⟨later, _, later_eq, _⟩
          change left.outbox.frames = outbox.frames ++ later at later_eq
          refine ⟨frame, later, [], ?_, data_eq, by simp⟩
          rw [later_eq, frames_eq, List.append_assoc]
          rfl
      · simp [run_eq] at sent
      · simp [run_eq] at sent

omit [Config.Store κ] [FirmwareUpdater φ] in
theorem parseAll_of_weatherData {own uid : UInt8} {reading : Bytes} {along : List Reading}
    (length_le : reading.length ≤ Reading.maxData) (writable : ∀ other ∈ along, other.Writable)
    {frame received : Bytes}
    (data_eq : frame = weatherData own uid reading (along.flatMap Reading.encode))
    (same : received.drop 1 = frame.drop 1) :
    (Reading.parseAll (received.drop 1)).1 = ⟨own, uid, reading⟩ :: along := by
  have body_eq : received.drop 1 = (⟨own, uid, reading⟩ :: along).flatMap Reading.encode := by
    rw [same, data_eq]
    rfl
  rw [body_eq, Reading.parseAll_flatMap_encode]
  simpa [Reading.Writable] using ⟨length_le, writable⟩

omit [FirmwareUpdater φ] in
/-- The message with a reading that a station originates goes first of what it sends then. Any
station that has to relay it, and has the slots without which it takes no message, relays it if and
only if the reading is no longer than `maxCarried`, which is three bytes less than what can be
originated. What it relays it takes over as it is. -/
theorem relayed_iff_length_le_maxCarried {origin next : Hub κ φ logSize} {reading : Bytes}
    {uid : UInt8} (sound : origin.HasSoundBatch)
    (sent : (sendWeather reading).run origin = (.ok uid, next)) :
    ∃ (frame : OutFrame) (later : List OutFrame),
      next.outbox.frames = origin.outbox.frames ++ frame :: later ∧
      ∀ {κ' φ' : Type} {logSize' : Nat} [Config.Store κ'] [FirmwareUpdater φ']
        (relay : Hub κ' φ' logSize') (header : Header) (received : Bytes)
        (report : Channel.Report) (now : Nat),
        Header.parse received = .ok header → header.kind = .weather →
          received.drop 1 = frame.data.drop 1 → relay.HasSoundBatch → relay.MustRelay header →
            messageReserve ≤ relay.outbox.free →
              let processed := relay.process received report now
              (processed.1.relayed = true ↔ reading.length ≤ maxCarried) ∧
                (processed.1.relayed = true →
                  TakesOver ⟨origin.stationId, uid, reading⟩ relay processed.2) := by
  rcases exists_frame_of_sendWeather sent with ⟨frame, later, along, frames_eq, data_eq, waited⟩
  refine ⟨frame, later, frames_eq, ?_⟩
  intro κ' φ' logSize' _ _ relay header received report now parsed isWeather same relaySound must
    free
  have size_le := frame.size_le
  have length_le : reading.length ≤ Reading.maxData := by
    rw [data_eq, length_weatherData] at size_le
    simp only [Reading.maxData]
    omega
  have readings_eq := parseAll_of_weatherData length_le
    (fun other mem => sound.writable other (waited other mem)) data_eq same
  have foreign : origin.stationId ≠ relay.stationId := by
    rcases Header.exists_of_parse parsed with ⟨first, payload, rfl, _⟩
    have station_eq : origin.stationId = header.station := by
      rw [data_eq] at same
      exact (List.cons.inj same).1.symm
    rw [station_eq]
    exact must.foreign
  have received_le : received.length ≤ 255 := by
    have length_eq := congrArg List.length same
    simp only [List.length_drop] at length_eq
    omega
  have room : relay.outbox.length + 6 ≤ Outbox.slots := by
    simp only [Outbox.free, messageReserve] at free
    omega
  refine ⟨⟨?_, ?_⟩, ?_⟩
  · intro relayed
    apply Nat.le_of_not_lt
    intro long
    have stopped := not_relayed_of_long parsed isWeather must readings_eq foreign long report now
    simp [stopped] at relayed
  · intro short
    apply relayed_of_short relaySound parsed isWeather received_le must _ room
    intro other mem
    rw [readings_eq, List.mem_cons] at mem
    rcases mem with rfl | mem
    · exact short
    · have encoded_le := Batch.encodedSize_le_size (waited other mem)
      have batch_le := sound.size_le
      simp only [Reading.encodedSize, batchSize, maxCarried] at encoded_le batch_le ⊢
      omega
  · intro relayed
    apply takesOver_of_relayed relaySound parsed isWeather relayed _ foreign
    rw [readings_eq]
    exact List.mem_cons_self

/-- The longest reading that is carried on, past a station that relays for its sender. -/
theorem relayed_iff_length_le_maxCarried_longest :
    let origin := ofSettings { stationId := 6 }
    let relay := ofSettings { weatherRelays := .padded [6] }
    let reading : Bytes := List.replicate 247 0xA5
    let data : Bytes := [0x57, 6, 0, 247] ++ reading
    let header : Header := { kind := .weather, forced := false, station := 6, uid := 0 }
    (∃ next, (sendWeather reading).run origin = (.ok 0, next) ∧
      next.outbox.frames.map OutFrame.data = [data]) ∧
    (origin.HasSoundBatch ∧ Header.parse data = .ok header ∧ relay.HasSoundBatch ∧
      relay.MustRelay header ∧ messageReserve ≤ relay.outbox.free) ∧
    (relay.process data {} 0).1.relayed = true ∧
    TakesOver ⟨6, 0, reading⟩ relay (relay.process data {} 0).2 := by
  intro origin relay reading data header
  have sound : origin.HasSoundBatch := hasSoundBatch_of_readings_eq_nil rfl
  have relaySound : relay.HasSoundBatch := hasSoundBatch_of_readings_eq_nil rfl
  have must : relay.MustRelay header := by decide +kernel
  have free : messageReserve ≤ relay.outbox.free := by decide
  have short : reading.length ≤ maxCarried := Nat.le_of_eq List.length_replicate
  have accepted : ((sendWeather reading).run origin).1.toOption = some 0 := by decide +kernel
  have queued : ((sendWeather reading).run origin).2.outbox.frames.map OutFrame.data = [data] := by
    decide +kernel
  rcases sent : (sendWeather reading).run origin with ⟨cause | uid, next⟩
  · simp [sent, Except.toOption] at accepted
  · rw [sent] at accepted queued
    have uid_eq : uid = 0 := Option.some.inj accepted
    subst uid_eq
    rcases relayed_iff_length_le_maxCarried sound sent with ⟨frame, later, frames_eq, relays⟩
    have data_eq : frame.data = data := by
      rw [frames_eq] at queued
      exact (List.cons.inj queued).1
    have settled := relays relay header data {} 0 rfl rfl (by rw [data_eq]) relaySound must free
    have relayed := settled.1.mpr short
    exact ⟨⟨next, rfl, queued⟩, ⟨sound, rfl, relaySound, must, free⟩, relayed, settled.2 relayed⟩

/-- The longest reading that can be originated gets no further than to a station that has to relay
it: nothing is relayed, and the reading is nowhere. -/
theorem not_relayed_of_longestOriginated :
    let origin := ofSettings { stationId := 6 }
    let relay := ofSettings { weatherRelays := .padded [6] }
    let reading : Bytes := List.replicate 250 0xA5
    let sent := (sendWeather reading).run origin
    let data : Bytes := [0x57, 6, 0, 250] ++ reading
    let header : Header := { kind := .weather, forced := false, station := 6, uid := 0 }
    let processed := relay.process data {} 0
    sent.1.toOption = some 0 ∧ sent.2.outbox.frames.map OutFrame.data = [data] ∧
      (Header.parse data).toOption = some header ∧ relay.MustRelay header ∧
      relay.outbox.free = Outbox.slots ∧ processed.1.relayed = false ∧
      processed.2.outbox.frames = [] ∧ processed.2.engine.batch.readings = [] := by
  decide +kernel

end Hub

end Relay

end StationMesh
