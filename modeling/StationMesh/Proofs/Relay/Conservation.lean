import StationMesh.Proofs.Relay.Run

/-!
# No reading is lost on the way

A weather frame carries the readings behind its first one for other stations. As long as the
outbox takes every frame, the readings that go out in this way, followed by those that still wait
in the batch, are the readings that waited before, followed by those that were taken in.
-/

namespace StationMesh.Relay

open Weather

/-- The readings a frame carries for other stations. -/
def carried (frame : OutFrame) : List Reading :=
  match Header.parse frame.data with
  | .ok header =>
      if header.kind = .weather then (Reading.parseAll (frame.data.drop 1)).1.tail else []
  | .error _ => []

namespace Hub

open StationMesh.Action

variable {κ φ : Type} {logSize : Nat}

theorem length_weatherData (own uid : UInt8) (reading relayed : Bytes) :
    (weatherData own uid reading relayed).length = 4 + reading.length + relayed.length := by
  simp only [weatherData, Header.encode, List.length_append, List.length_cons, List.length_nil]
  omega

/-- The reading of the station comes first, and all others are carried. -/
theorem carried_weatherData {frame : OutFrame} {own uid : UInt8} {reading : Bytes}
    {readings : List Reading} (length_le : reading.length ≤ Reading.maxData)
    (writable : ∀ other ∈ readings, other.Writable)
    (data_eq : frame.data = weatherData own uid reading (readings.flatMap Reading.encode)) :
    carried frame = readings := by
  let header : Header := { kind := .weather, forced := false, station := own, uid }
  let ownReading : Reading := { station := own, uid, data := reading }
  have parsed : Header.parse frame.data = .ok header := by
    rw [data_eq]
    exact Header.parse_encode_append header _
  have body_eq : frame.data.drop 1 = (ownReading :: readings).flatMap Reading.encode := by
    rw [data_eq]
    rfl
  have allWritable : ∀ other ∈ ownReading :: readings, other.Writable := by
    intro other mem
    rcases List.mem_cons.mp mem with rfl | mem
    · exact length_le
    · exact writable other mem
  simp only [carried, parsed]
  rw [if_pos rfl, body_eq, Reading.parseAll_flatMap_encode allWritable]
  rfl

/-- Frames were put behind the others, and if none was turned away the readings they carry and
those that wait now are those that waited before and those that were taken in. -/
def Conveys (taken : List Reading) (hub next : Hub κ φ logSize) : Prop :=
  hub.turnedAway ≤ next.turnedAway ∧
    ∃ queued, next.outbox.frames = hub.outbox.frames ++ queued ∧
      (next.turnedAway = hub.turnedAway →
        queued.flatMap carried ++ next.engine.batch.readings =
          hub.engine.batch.readings ++ taken)

namespace Conveys

variable {taken more : List Reading} {hub next last : Hub κ φ logSize}

theorem of_eq (outbox_eq : next.outbox = hub.outbox)
    (turnedAway_eq : next.turnedAway = hub.turnedAway)
    (batch_eq : next.engine.batch = hub.engine.batch) : Conveys [] hub next := by
  refine ⟨Nat.le_of_eq turnedAway_eq.symm, [], ?_, fun _ => ?_⟩
  · rw [outbox_eq, List.append_nil]
  · rw [batch_eq, List.flatMap_nil, List.nil_append, List.append_nil]

theorem refl (hub : Hub κ φ logSize) : Conveys [] hub hub := of_eq rfl rfl rfl

theorem of_refused (outbox_eq : next.outbox = hub.outbox)
    (turnedAway_lt : hub.turnedAway < next.turnedAway) : Conveys taken hub next := by
  refine ⟨Nat.le_of_lt turnedAway_lt, [], ?_, ?_⟩
  · simp only [outbox_eq, List.append_nil]
  · intro noneTurnedAway
    omega

theorem trans (first : Conveys taken hub next) (second : Conveys more next last) :
    Conveys (taken ++ more) hub last := by
  rcases first with ⟨first_le, queued, first_eq, firstKept⟩
  rcases second with ⟨second_le, queuedMore, second_eq, secondKept⟩
  refine ⟨Nat.le_trans first_le second_le, queued ++ queuedMore, ?_, ?_⟩
  · rw [second_eq, first_eq, List.append_assoc]
  · intro noneTurnedAway
    have firstKept := firstKept (by omega)
    have secondKept := secondKept (by omega)
    calc (queued ++ queuedMore).flatMap carried ++ last.engine.batch.readings
        = queued.flatMap carried ++
            (queuedMore.flatMap carried ++ last.engine.batch.readings) := by
          rw [List.flatMap_append, List.append_assoc]
      _ = (queued.flatMap carried ++ next.engine.batch.readings) ++ more := by
          rw [secondKept, List.append_assoc]
      _ = hub.engine.batch.readings ++ (taken ++ more) := by
          rw [firstKept, List.append_assoc]

/-- Once a frame was turned away nothing is promised about the readings. -/
theorem of_turnedAway_lt (conveys : Conveys taken hub next)
    (turnedAway_lt : hub.turnedAway < next.turnedAway) (more : List Reading) :
    Conveys more hub next := by
  rcases conveys with ⟨turnedAway_le, queued, frames_eq, _⟩
  refine ⟨turnedAway_le, queued, frames_eq, ?_⟩
  intro noneTurnedAway
  omega

end Conveys

/-- The readings `taken` were handed on, all of them, or the operation failed; a failure is due to a
frame that was turned away if all readings are short. -/
def HandsOn {α : Type} (short : Prop) (taken : List Reading) (hub : Hub κ φ logSize) :
    Except TransportError α × Hub κ φ logSize → Prop
  | (.ok _, next) => Conveys taken hub next ∧ next.turnedAway = hub.turnedAway
  | (.error _, next) => (∃ kept, Conveys kept hub next) ∧ (short → hub.turnedAway < next.turnedAway)

namespace HandsOn

variable {α : Type} {short : Prop} {taken first : List Reading} {hub next : Hub κ φ logSize}
  {ended : Except TransportError α × Hub κ φ logSize}

theorem conveys (handsOn : HandsOn short taken hub ended) (allShort : short) :
    Conveys taken hub ended.2 := by
  rcases ended with ⟨cause | value, left⟩
  · rcases handsOn with ⟨⟨kept, conveys⟩, turnedAway_lt⟩
    exact conveys.of_turnedAway_lt (turnedAway_lt allShort) taken
  · exact handsOn.1

theorem imp {shorter : Prop} (handsOn : HandsOn short taken hub ended)
    (short_of_shorter : shorter → short) : HandsOn shorter taken hub ended := by
  rcases ended with ⟨cause | value, left⟩
  · exact ⟨handsOn.1, fun allShorter => handsOn.2 (short_of_shorter allShorter)⟩
  · exact handsOn

/-- What was handed on before comes first. -/
theorem after (handsOn : HandsOn short taken next ended) (conveys : Conveys first hub next)
    (turnedAway_eq : next.turnedAway = hub.turnedAway) :
    HandsOn short (first ++ taken) hub ended := by
  rcases ended with ⟨cause | value, left⟩
  · rcases handsOn with ⟨⟨kept, later⟩, turnedAway_lt⟩
    refine ⟨⟨first ++ kept, conveys.trans later⟩, ?_⟩
    intro allShort
    rw [← turnedAway_eq]
    exact turnedAway_lt allShort
  · rcases handsOn with ⟨later, noneTurnedAway⟩
    exact ⟨conveys.trans later, noneTurnedAway.trans turnedAway_eq⟩

end HandsOn

/-- A weather message that fits in a frame hands on what it carries. -/
theorem handsOn_weatherData (own uid : UInt8) {reading : Bytes} {readings taken : List Reading}
    {hub : Hub κ φ logSize} (writable : ∀ other ∈ readings, other.Writable)
    (fits : 4 + reading.length + (readings.flatMap Reading.encode).length ≤ OutFrame.maxSize)
    (readings_eq : readings = hub.engine.batch.readings ++ taken) (short : Prop) :
    let sent := hub.enqueue
      (weatherData own uid reading (readings.flatMap Reading.encode)) .long
    HandsOn short taken hub (sent.1, sent.2.withBatch {}) := by
  rcases hub.enqueue_cases (weatherData own uid reading (readings.flatMap Reading.encode)) .long
    with ⟨frame, outbox, data_eq, _, frames_eq, run_eq⟩ | ⟨_, run_eq⟩ | ⟨long, _⟩
  · have length_le : reading.length ≤ Reading.maxData := by
      simp only [OutFrame.maxSize, Reading.maxData] at fits ⊢
      omega
    have carried_eq := carried_weatherData length_le writable data_eq
    rw [run_eq]
    refine ⟨⟨Nat.le_refl _, [frame], frames_eq, fun _ => ?_⟩, rfl⟩
    rw [List.flatMap_singleton, carried_eq, readings_eq]
    exact List.append_nil _
  · rw [run_eq]
    exact ⟨⟨[], .of_refused rfl (Nat.lt_succ_self _)⟩, fun _ => Nat.lt_succ_self _⟩
  · rw [length_weatherData] at long
    omega

section

variable [Config.Store κ]

theorem readings_flushBatch (hub : Hub κ φ logSize) :
    (flushBatch.run hub).2.engine.batch.readings = [] := by
  rw [run_flushBatch]
  split
  · rename_i empty
    exact List.isEmpty_iff.mp empty
  · rfl

theorem handsOn_flushBatch {hub : Hub κ φ logSize} (sound : hub.HasSoundBatch) (short : Prop) :
    HandsOn short [] hub (flushBatch.run hub) := by
  rw [run_flushBatch]
  split
  · exact ⟨Conveys.refl hub, rfl⟩
  · have fits : 4 + ([] : Bytes).length + hub.engine.batch.bytes.length ≤ OutFrame.maxSize := by
      have size_le : hub.engine.batch.bytes.length ≤ 100 := sound.size_le
      simp only [List.length_nil, OutFrame.maxSize]
      omega
    have held : hub.engine.batch.readings = hub.afterUid.engine.batch.readings ++ [] :=
      (List.append_nil _).symm
    exact (handsOn_weatherData _ _ sound.writable fits held short).after (.of_eq rfl rfl rfl) rfl

/-- A reading this long still fits in a weather message of its own. -/
def maxCarried : Nat := 247

omit [Config.Store κ] in
theorem withBatch_eq_self {hub : Hub κ φ logSize} (emptied : hub.engine.batch.readings = []) :
    hub.withBatch {} = hub := by
  rcases hub with ⟨⟨_, _, _, ⟨readings⟩, _, _, _⟩, _, _, _, _⟩
  simp only at emptied
  rw [emptied]
  rfl

/-- A reading that is too long for the batch goes out on its own, if that is empty. -/
theorem handsOn_standalone {reading : Reading} (writable : reading.Writable)
    {hub : Hub κ φ logSize} (emptied : hub.engine.batch.readings = []) :
    HandsOn (reading.data.length ≤ maxCarried) [reading] hub
      (hub.afterUid.enqueue (weatherData hub.stationId hub.engine.nextUid [] reading.encode)
        .long) := by
  have prepared : Conveys [] hub hub.afterUid := .of_eq rfl rfl rfl
  have encode_eq : reading.encode = [reading].flatMap Reading.encode :=
    (List.append_nil _).symm
  by_cases fits : 4 + ([] : Bytes).length + reading.encode.length ≤ OutFrame.maxSize
  · rw [encode_eq] at fits ⊢
    have alone : ∀ other ∈ [reading], other.Writable := by
      intro other mem
      rw [List.mem_singleton.mp mem]
      exact writable
    have held : [reading] = hub.afterUid.engine.batch.readings ++ [reading] := by
      rw [batch_afterUid, emptied, List.nil_append]
    have sent := handsOn_weatherData hub.stationId hub.engine.nextUid alone fits held
      (reading.data.length ≤ maxCarried)
    dsimp only at sent
    rw [withBatch_eq_self] at sent
    · exact sent.after prepared rfl
    · rw [engine_enqueue]
      exact emptied
  · simp only [List.length_nil, Reading.length_encode, Reading.encodedSize, Reading.overhead,
      OutFrame.maxSize] at fits
    rcases hub.afterUid.enqueue_cases (weatherData hub.stationId hub.engine.nextUid []
        reading.encode) .long with ⟨frame, _, data_eq, _⟩ | ⟨_, run_eq⟩ | ⟨_, run_eq⟩
    · have size_le := frame.size_le
      rw [data_eq, length_weatherData] at size_le
      simp only [List.length_nil, Reading.length_encode, Reading.encodedSize,
        Reading.overhead] at size_le
      omega
    · rw [run_eq]
      exact ⟨⟨[], .of_refused rfl (Nat.lt_succ_self _)⟩, fun _ => Nat.lt_succ_self _⟩
    · rw [run_eq]
      refine ⟨⟨[], prepared⟩, fun short => ?_⟩
      simp only [maxCarried] at short
      omega

theorem handsOn_relayReading {reading : Reading} (writable : reading.Writable)
    {hub : Hub κ φ logSize} (sound : hub.HasSoundBatch) :
    HandsOn (reading.data.length ≤ maxCarried) [reading] hub ((relayReading reading).run hub) := by
  have stored {base : Hub κ φ logSize} {batch : Batch batchSize}
      (taken : base.engine.batch.push? reading = some batch) :
      Conveys [reading] base (base.withBatch batch) :=
    ⟨Nat.le_refl _, [], (List.append_nil _).symm, fun _ => (Batch.push?_eq_some taken).1⟩
  rw [run_relayReading]
  cases taken : hub.engine.batch.push? reading with
  | some batch => exact ⟨stored taken, rfl⟩
  | none =>
      have flush := handsOn_flushBatch sound (reading.data.length ≤ maxCarried)
      have emptied := hub.readings_flushBatch
      generalize flushBatch.run hub = ended at flush emptied ⊢
      rcases ended with ⟨cause | _, flushed⟩
      · exact flush
      · rcases flush with ⟨conveys, turnedAway_eq⟩
        dsimp only at emptied ⊢
        cases again : flushed.engine.batch.push? reading with
        | some batch => exact ⟨conveys.trans (stored again), turnedAway_eq⟩
        | none => exact (handsOn_standalone writable emptied).after conveys turnedAway_eq

/-- The readings of other stations among those of a message, as they stand in it. -/
def foreign (own : UInt8) (readings : List Reading) : List Reading :=
  readings.filter fun reading => reading.station ≠ own

theorem foreign_cons_of_eq {own : UInt8} {reading : Reading} (same : reading.station = own)
    (rest : List Reading) : foreign own (reading :: rest) = foreign own rest := by
  apply List.filter_cons_of_neg
  simpa using same

theorem foreign_cons_of_ne {own : UInt8} {reading : Reading} (other : reading.station ≠ own)
    (rest : List Reading) : foreign own (reading :: rest) = [reading] ++ foreign own rest := by
  apply List.filter_cons_of_pos
  simpa using other

theorem handsOn_relayReadings {readings : List Reading}
    (writable : ∀ reading ∈ readings, reading.Writable) {hub : Hub κ φ logSize}
    (sound : hub.HasSoundBatch) :
    HandsOn (∀ reading ∈ readings, reading.data.length ≤ maxCarried)
      (foreign hub.stationId readings) hub ((relayReadings readings).run hub) := by
  induction readings generalizing hub with
  | nil => exact ⟨Conveys.refl hub, rfl⟩
  | cons reading rest ih =>
      have restWritable : ∀ other ∈ rest, other.Writable :=
        fun other mem => writable other (List.mem_cons_of_mem _ mem)
      have restShort (allShort : ∀ other ∈ reading :: rest, other.data.length ≤ maxCarried) :
          ∀ other ∈ rest, other.data.length ≤ maxCarried :=
        fun other mem => allShort other (List.mem_cons_of_mem _ mem)
      rw [run_relayReadings_cons]
      split
      · rename_i own
        rw [foreign_cons_of_eq own]
        exact (ih restWritable sound).imp restShort
      · rename_i other
        have one := handsOn_relayReading (writable reading List.mem_cons_self) sound
        have leftSound := keeps_sound_relayReading reading hub sound
        have sends := moves_relayReading reading hub
        rw [foreign_cons_of_ne other]
        generalize (relayReading reading).run hub = ended at one leftSound sends ⊢
        rcases ended with ⟨cause | _, left⟩
        · exact ⟨one.1, fun allShort => one.2 (allShort reading List.mem_cons_self)⟩
        · rcases one with ⟨conveys, turnedAway_eq⟩
          have more := ih restWritable leftSound
          rw [sends.stationId_eq] at more
          exact (more.imp restShort).after conveys turnedAway_eq

/-! ### One call -/

omit [Config.Store κ] in
/-- A frame that carries nothing does not matter, whether the outbox takes it or not. -/
theorem conveys_enqueue {data : Bytes} (carriesNone : ∀ frame : OutFrame, frame.data = data →
    carried frame = []) (preamble : Preamble) (hub : Hub κ φ logSize) :
    Conveys [] hub (hub.enqueue data preamble).2 := by
  rcases hub.enqueue_cases data preamble with
    ⟨frame, outbox, data_eq, _, frames_eq, run_eq⟩ | ⟨_, run_eq⟩ | ⟨_, run_eq⟩
  · rw [run_eq]
    refine ⟨Nat.le_refl _, [frame], frames_eq, fun _ => ?_⟩
    rw [List.flatMap_singleton, carriesNone frame data_eq, List.append_nil, List.nil_append]
  · rw [run_eq]
    exact Conveys.of_refused rfl (Nat.lt_succ_self _)
  · rw [run_eq]
    exact Conveys.refl hub

omit [Config.Store κ] in
theorem turnedAway_enqueue_of_ok {data : Bytes} {preamble : Preamble} {hub : Hub κ φ logSize}
    (sent : (hub.enqueue data preamble).1 = .ok ()) :
    (hub.enqueue data preamble).2.turnedAway = hub.turnedAway := by
  rcases hub.enqueue_cases data preamble with ⟨_, _, _, _, _, run_eq⟩ | ⟨_, run_eq⟩ | ⟨_, run_eq⟩
  · rw [run_eq]
  · rw [run_eq] at sent
    contradiction
  · rw [run_eq]

theorem carried_of_other {frame : OutFrame} {header : Header} {payload : Bytes}
    (other : header.kind ≠ .weather) (data_eq : frame.data = header.encode ++ payload) :
    carried frame = [] := by
  simp only [carried]
  rw [data_eq, Header.parse_encode_append]
  exact if_neg other

theorem conveys_sendStatus (report : Channel.Report) (hub : Hub κ φ logSize) :
    Conveys [] hub ((sendStatus report).run hub).2 := by
  have prepared : Conveys [] hub hub.afterUid := .of_eq rfl rfl rfl
  rw [run_sendStatus]
  refine prepared.trans (conveys_enqueue ?_ .long hub.afterUid)
  intro frame data_eq
  rw [statusData, List.append_assoc] at data_eq
  exact carried_of_other (by simp) data_eq

theorem conveys_sendWeather (reading : Bytes) {hub : Hub κ φ logSize}
    (sound : hub.HasSoundBatch) : Conveys [] hub ((sendWeather reading).run hub).2 := by
  have prepared : Conveys [] hub hub.afterUid := .of_eq rfl rfl rfl
  rw [run_sendWeather]
  split
  · exact Conveys.refl hub
  · rename_i fitsFrame
    split
    · rename_i together
      have fits : 4 + reading.length + hub.engine.batch.bytes.length ≤ OutFrame.maxSize := by
        simp only [maxOwnReading, OutFrame.maxSize, Header.size] at fitsFrame together ⊢
        change hub.engine.batch.bytes.length ≤ _ at together
        omega
      have held : hub.engine.batch.readings = hub.afterUid.engine.batch.readings ++ [] :=
        (List.append_nil _).symm
      have sent := handsOn_weatherData hub.stationId hub.engine.nextUid sound.writable fits held
        True
      exact prepared.trans (sent.conveys trivial)
    · have length_le : reading.length ≤ Reading.maxData := by
        simp only [maxOwnReading, OutFrame.maxSize, Header.size, Reading.maxData] at fitsFrame ⊢
        omega
      have noneWritable : ∀ other ∈ ([] : List Reading), other.Writable := by simp
      have alone (frame : OutFrame) (data_eq : frame.data =
          weatherData hub.stationId hub.engine.nextUid reading []) : carried frame = [] :=
        carried_weatherData length_le noneWritable data_eq
      have sent := prepared.trans (conveys_enqueue alone .long hub.afterUid)
      have leftSound := keeps_sound_send (weatherData hub.stationId hub.engine.nextUid reading [])
        .long hub.afterUid sound
      change ((hub.afterUid.enqueue _ _).2).HasSoundBatch at leftSound
      generalize hub.afterUid.enqueue _ _ = ended at sent leftSound ⊢
      rcases ended with ⟨cause | _, left⟩
      · exact sent
      · exact sent.trans ((handsOn_flushBatch leftSound True).conveys trivial)

omit [Config.Store κ] in
theorem conveys_relayCopy {header : Header} (other : header.kind ≠ .weather) (frame : Bytes)
    (hub : Hub κ φ logSize) : Conveys [] hub ((relayCopy header frame).run hub).2 := by
  let copy : Header :=
    { header with forced := header.kind == .command || header.kind == .ping }
  have otherCopy : copy.kind ≠ .weather := other
  exact conveys_enqueue (fun _ data_eq => carried_of_other otherCopy data_eq) _ hub

theorem handsOn_relayWeather (frame : Bytes) {hub : Hub κ φ logSize} (sound : hub.HasSoundBatch) :
    HandsOn (∀ reading ∈ (Reading.parseAll (frame.drop 1)).1, reading.data.length ≤ maxCarried)
      (foreign hub.stationId (Reading.parseAll (frame.drop 1)).1) hub
      ((relayReadings (Reading.parseAll (frame.drop 1)).1).run hub) :=
  handsOn_relayReadings (fun _ mem => Reading.writable_of_mem_parseAll mem) sound

/-- The readings that a relayed message hands on. -/
def handedOn (header : Header) (own : UInt8) (frame : Bytes) : List Reading :=
  if header.kind = .weather then foreign own (Reading.parseAll (frame.drop 1)).1 else []

/-- A message that is reported as relayed hands on all its readings for other stations. -/
theorem conveys_relay_of_relayed {header : Header} {own : UInt8} {frame : Bytes}
    {hub : Hub κ φ logSize} (sound : hub.HasSoundBatch)
    (own_eq : header.kind = .weather → own = hub.stationId)
    (relayed : (hub.relay header own frame).1 = true) :
    Conveys (handedOn header own frame) hub (hub.relay header own frame).2 ∧
      (hub.relay header own frame).2.turnedAway = hub.turnedAway := by
  rcases hub.relay_cases header own frame with
    ⟨_, relay_eq⟩ | ⟨_, _, ⟨cause, left, run_eq, relay_eq⟩ | ⟨left, run_eq, relay_eq⟩⟩
  · rw [relay_eq] at relayed
    contradiction
  · rw [relay_eq] at relayed
    contradiction
  · rw [relay_eq]
    unfold relayFrame at run_eq
    simp only [handedOn]
    split at run_eq
    · rename_i isWeather
      have handsOn := handsOn_relayWeather frame sound
      rw [run_eq] at handsOn
      rw [if_pos isWeather, own_eq isWeather]
      exact handsOn
    · rename_i other
      have conveys := conveys_relayCopy other frame hub
      have turnedAway_eq := turnedAway_enqueue_of_ok (congrArg Prod.fst run_eq)
      rw [run_eq] at conveys
      rw [if_neg other]
      refine ⟨conveys, ?_⟩
      change left.turnedAway = _
      rw [← turnedAway_eq]
      exact congrArg (fun ended => ended.2.turnedAway) run_eq.symm

/-- A message that is not reported as relayed hands nothing on, unless a frame was turned away or a
reading is too long to be sent. -/
theorem conveys_relay_of_not_relayed {header : Header} {own : UInt8} {frame : Bytes}
    {hub : Hub κ φ logSize} (sound : hub.HasSoundBatch)
    (short : header.kind = .weather → ∀ reading ∈ (Reading.parseAll (frame.drop 1)).1,
      reading.data.length ≤ maxCarried)
    (notRelayed : (hub.relay header own frame).1 = false) :
    Conveys [] hub (hub.relay header own frame).2 := by
  rcases hub.relay_cases header own frame with
    ⟨_, relay_eq⟩ | ⟨_, _, ⟨cause, left, run_eq, relay_eq⟩ | ⟨left, run_eq, relay_eq⟩⟩
  · rw [relay_eq]
    exact Conveys.refl hub
  · rw [relay_eq]
    unfold relayFrame at run_eq
    split at run_eq
    · rename_i isWeather
      have handsOn := handsOn_relayWeather frame sound
      rw [run_eq] at handsOn
      rcases handsOn with ⟨⟨kept, conveys⟩, turnedAway_lt⟩
      exact conveys.of_turnedAway_lt (turnedAway_lt (short isWeather)) []
    · rename_i other
      have conveys := conveys_relayCopy other frame hub
      rw [run_eq] at conveys
      exact conveys
  · rw [relay_eq] at notRelayed
    contradiction

variable [FirmwareUpdater φ]

theorem conveys_obey (header : Header) (own : UInt8) (command : Bytes) (report : Channel.Report)
    (now : Nat) (hub : Hub κ φ logSize) :
    Conveys [] hub (hub.obey header own command report now).2 := by
  have executes := onlyExecutes_executeBytes command report now hub
  have recorded : Conveys [] hub
      ((hub.executeBytes command report now).2.afterCommand header.uid) :=
    .of_eq executes.outbox executes.turnedAway executes.batch
  rcases hub.obey_cases header own command report now with
    ⟨_, obey_eq⟩ | ⟨_, _, left_eq | ⟨payload, left_eq⟩⟩
  · rw [obey_eq]
    exact .refl hub
  · rw [left_eq]
    exact recorded
  · rw [left_eq]
    refine recorded.trans (conveys_enqueue ?_ .short _)
    intro _ data_eq
    exact carried_of_other (by simp) data_eq

theorem conveys_hear (header : Header) (frame : Bytes) (report : Channel.Report) (now : Nat)
    (hub : Hub κ φ logSize) : Conveys [] hub (hub.hear header frame report now).2 := by
  rcases hub.hear_cases header frame report now with
    ⟨host, ⟨_, _, hear_eq⟩ | ⟨_, hear_eq⟩ | ⟨_, hear_eq⟩⟩
  · have told : Conveys [] hub { hub with host } := .of_eq rfl rfl rfl
    rw [hear_eq]
    exact told.trans (conveys_obey header hub.stationId _ report now { hub with host })
  · rw [hear_eq]
    exact .of_eq rfl rfl rfl
  · rw [hear_eq]
    exact .of_eq rfl rfl rfl

/-- The readings for other stations in a message that was reported as relayed. -/
def Event.handedOn (event : Event κ φ logSize) : List Reading :=
  if event.relayed?.isSome then foreign event.hub.stationId event.readings else []

theorem conveys_of_relayed {event : Event κ φ logSize} {identity : Identity}
    (sound : event.hub.HasSoundBatch) (relayed : event.relayed? = some identity) :
    Conveys event.handedOn event.hub event.next ∧
      (identity.kind = .weather → event.next.turnedAway = event.hub.turnedAway) := by
  rcases Event.exists_relay_of_relayed relayed with
    ⟨header, frame, report, now, services, call_eq, parsed, rfl, reported, next_eq⟩
  rcases event with ⟨hub, call⟩
  subst call_eq
  have heard := conveys_hear header frame report now hub
  have heardSound := (hub.onlyHears_hear header frame report now).hasSoundBatch sound
  have own_eq : header.kind = .weather →
      hub.stationId = (hub.hear header frame report now).2.stationId := by
    intro isWeather
    exact (onlyObserves_hear isWeather frame report now hub).stationId_eq.symm
  rcases conveys_relay_of_relayed heardSound own_eq reported with ⟨conveys, turnedAway_eq⟩
  have handedOn_eq : (⟨hub, .process frame report now⟩ : Event _ _ _).handedOn =
      Hub.handedOn header hub.stationId frame := by
    simp only [Event.handedOn, relayed, Event.readings_process parsed, Hub.handedOn,
      Option.isSome_some, ↓reduceIte]
    split
    · rfl
    · rfl
  rw [handedOn_eq, next_eq]
  refine ⟨heard.trans conveys, ?_⟩
  intro isWeather
  have observed := (onlyObserves_hear isWeather frame report now hub).turnedAway
  exact turnedAway_eq.trans observed

theorem conveys_process_of_unreported {frame : Bytes} {report : Channel.Report} {now : Nat}
    {hub : Hub κ φ logSize} (sound : hub.HasSoundBatch)
    (short : ∀ reading ∈ (⟨hub, .process frame report now⟩ : Event _ _ _).readings,
      reading.data.length ≤ maxCarried)
    (unreported : (hub.process frame report now).1.relayed = false) :
    Conveys [] hub (hub.process frame report now).2 := by
  rcases hub.process_cases frame report now with
    process_eq | ⟨header, services, parsed, _, relayed_eq, process_eq, _⟩
  · rw [process_eq]
    exact Conveys.refl hub
  · have heard := conveys_hear header frame report now hub
    have heardSound := (hub.onlyHears_hear header frame report now).hasSoundBatch sound
    have shortWeather : header.kind = .weather →
        ∀ reading ∈ (Reading.parseAll (frame.drop 1)).1, reading.data.length ≤ maxCarried := by
      intro isWeather
      simpa only [Event.readings_process parsed, isWeather, ↓reduceIte] using short
    rw [unreported] at relayed_eq
    rw [process_eq]
    exact heard.trans (conveys_relay_of_not_relayed heardSound shortWeather relayed_eq.symm)

theorem keeps_sound_next (event : Event κ φ logSize) (sound : event.hub.HasSoundBatch) :
    event.next.HasSoundBatch := by
  rcases event with ⟨hub, call⟩
  cases call with
  | process frame report now => exact keeps_sound_process frame report now sound
  | sendHostFrame frame => exact keeps_sound_sendHostFrame frame hub sound
  | sendWeather reading => exact keeps_sound_sendWeather reading hub sound
  | sendStatus report => exact keeps_sound_sendStatus report hub sound
  | flushBatch => exact keeps_sound_flushBatch hub sound
  | outside outbox services host => exact sound

theorem conserved_of_conveys {event : Event κ φ logSize}
    (queued_eq : event.queued =
      event.next.outbox.frames.drop event.hub.outbox.frames.length)
    (conveys : Conveys event.handedOn event.hub event.next) :
    event.hub.turnedAway ≤ event.next.turnedAway ∧
      (event.next.turnedAway = event.hub.turnedAway →
        event.queued.flatMap carried ++ event.next.engine.batch.readings =
          event.hub.engine.batch.readings ++ event.handedOn) := by
  rcases conveys with ⟨turnedAway_le, queued, frames_eq, conserved⟩
  rw [frames_eq, List.drop_left] at queued_eq
  rw [queued_eq]
  exact ⟨turnedAway_le, conserved⟩

/-- What one call does to the readings, unless it sends a frame of the host. -/
theorem conserved_next (event : Event κ φ logSize) (sound : event.hub.HasSoundBatch)
    (notHost : ∀ frame, event.call ≠ .sendHostFrame frame)
    (short : ∀ reading ∈ event.readings, reading.data.length ≤ maxCarried) :
    event.hub.turnedAway ≤ event.next.turnedAway ∧
      (event.next.turnedAway = event.hub.turnedAway →
        event.queued.flatMap carried ++ event.next.engine.batch.readings =
          event.hub.engine.batch.readings ++ event.handedOn) := by
  rcases event with ⟨hub, call⟩
  cases call with
  | process frame report now =>
      apply conserved_of_conveys rfl
      cases reported : (hub.process frame report now).1.relayed with
      | false =>
          simp only [Event.handedOn, Event.relayed?_of_unreported reported]
          exact conveys_process_of_unreported sound short reported
      | true =>
          rcases Event.exists_relayed_of_reported reported with ⟨identity, relayed⟩
          exact (conveys_of_relayed sound relayed).1
  | sendHostFrame frame => exact absurd rfl (notHost frame)
  | sendWeather reading => exact conserved_of_conveys rfl (conveys_sendWeather reading sound)
  | sendStatus report => exact conserved_of_conveys rfl (conveys_sendStatus report hub)
  | flushBatch =>
      exact conserved_of_conveys rfl ((handsOn_flushBatch sound True).conveys trivial)
  | outside outbox services host =>
      exact ⟨Nat.le_refl _, fun _ => (List.append_nil _).symm⟩

/-! ### A whole run -/

theorem conserved_run {calls : List (Call κ φ logSize)} {start : Hub κ φ logSize}
    (sound : start.HasSoundBatch) (noHostFrames : ∀ frame, .sendHostFrame frame ∉ calls)
    (short : ∀ event ∈ trace calls start, ∀ reading ∈ event.readings,
      reading.data.length ≤ maxCarried) :
    start.turnedAway ≤ (run calls start).turnedAway ∧
      ((run calls start).turnedAway = start.turnedAway →
        ((trace calls start).flatMap fun event => event.queued.flatMap carried) ++
            (run calls start).engine.batch.readings =
          start.engine.batch.readings ++ (trace calls start).flatMap Event.handedOn) := by
  induction calls generalizing start with
  | nil => exact ⟨Nat.le_refl _, fun _ => (List.append_nil _).symm⟩
  | cons call calls ih =>
      have notHost (frame : Bytes) : call ≠ .sendHostFrame frame :=
        fun same => noHostFrames frame (same ▸ List.mem_cons_self)
      let event : Event κ φ logSize := ⟨start, call⟩
      have first := conserved_next event sound notHost (short event List.mem_cons_self)
      have rest := ih (keeps_sound_next event sound)
        (fun frame mem => noHostFrames frame (List.mem_cons_of_mem _ mem))
        (fun event mem => short event (List.mem_cons_of_mem _ mem))
      rcases first with ⟨first_le, firstConserved⟩
      rcases rest with ⟨rest_le, restConserved⟩
      refine ⟨Nat.le_trans first_le rest_le, fun noneTurnedAway => ?_⟩
      change (run calls event.next).turnedAway = event.hub.turnedAway at noneTurnedAway
      have firstConserved := firstConserved (by omega)
      have restConserved := restConserved (by omega)
      rw [trace, List.flatMap_cons, List.flatMap_cons]
      calc event.queued.flatMap carried ++
              ((trace calls event.next).flatMap fun event => event.queued.flatMap carried) ++
              (run calls event.next).engine.batch.readings
          = event.queued.flatMap carried ++
              (((trace calls event.next).flatMap fun event => event.queued.flatMap carried) ++
                (run calls event.next).engine.batch.readings) := List.append_assoc _ _ _
        _ = (event.queued.flatMap carried ++ event.next.engine.batch.readings) ++
              (trace calls event.next).flatMap Event.handedOn := by
            rw [restConserved, List.append_assoc]
        _ = start.engine.batch.readings ++
              (event.handedOn ++ (trace calls event.next).flatMap Event.handedOn) := by
            rw [firstConserved, List.append_assoc]

theorem keeps_sound_run (calls : List (Call κ φ logSize)) {start : Hub κ φ logSize}
    (sound : start.HasSoundBatch) : ∀ event ∈ trace calls start, event.hub.HasSoundBatch := by
  induction calls generalizing start with
  | nil => simp [trace]
  | cons call calls ih =>
      intro event mem
      rcases List.mem_cons.mp mem with rfl | mem
      · exact sound
      · exact ih (keeps_sound_next ⟨start, call⟩ sound) event mem

omit [Config.Store κ] [FirmwareUpdater φ] in
theorem hasSoundBatch_of_readings_eq_nil {hub : Hub κ φ logSize}
    (empty : hub.engine.batch.readings = []) : hub.HasSoundBatch where
  size_le := by
    simp [Batch.size, Batch.bytes, empty]
  writable := by
    simp [empty]

/-- In a run that starts with an empty batch and in which no frame is turned away, the readings
that weather messages carried out, followed by those that still wait, are the readings for other
stations of the messages reported as relayed, in the order they came. -/
theorem carried_append_waiting_eq_handedOn (calls : List (Call κ φ logSize))
    {start : Hub κ φ logSize} (empty : start.engine.batch.readings = [])
    (noHostFrames : ∀ frame, .sendHostFrame frame ∉ calls)
    (short : ∀ event ∈ trace calls start, ∀ reading ∈ event.readings,
      reading.data.length ≤ maxCarried)
    (noneTurnedAway : (run calls start).turnedAway = start.turnedAway) :
    ((trace calls start).flatMap fun event => event.queued.flatMap carried) ++
          (run calls start).engine.batch.readings = (trace calls start).flatMap Event.handedOn ∧
      ∀ event ∈ trace calls start, event.next.engine.batch.size ≤ batchSize := by
  have sound := hasSoundBatch_of_readings_eq_nil empty
  constructor
  · have conserved := (conserved_run sound noHostFrames short).2 noneTurnedAway
    rw [empty, List.nil_append] at conserved
    exact conserved
  · intro event mem
    exact (keeps_sound_next event (keeps_sound_run calls sound event mem)).size_le

/-- Two messages with three readings, the message of the station they go along with, and one more
reading that has to wait. -/
def fourReadings : List (Call Config.Settings RuleUpdater 0) :=
  [.process [0x57, 6, 1, 1, 10] {} 0,
    .process [0x57, 7, 3, 0, 1, 5, 0, 6, 9, 1, 11] {} 0,
    .sendWeather [9],
    .process [0xD7, 8, 0, 0] {} 0]

theorem carried_append_waiting_fourReadings :
    let start := ofSettings { weatherRelays := .padded [6, 7] }
    (start.engine.batch.readings = [] ∧ (∀ frame, .sendHostFrame frame ∉ fourReadings) ∧
      (∀ event ∈ trace fourReadings start, ∀ reading ∈ event.readings,
        reading.data.length ≤ maxCarried) ∧
      (run fourReadings start).turnedAway = start.turnedAway) ∧
    ((trace fourReadings start).flatMap fun event => event.queued.flatMap carried) ++
        (run fourReadings start).engine.batch.readings =
      [⟨6, 1, [10]⟩, ⟨7, 3, []⟩, ⟨6, 9, [11]⟩, ⟨8, 0, []⟩] := by
  have noHostFrames : ∀ frame, .sendHostFrame frame ∉ fourReadings := by simp [fourReadings]
  have short : ∀ event ∈ trace fourReadings (ofSettings { weatherRelays := .padded [6, 7] }),
      ∀ reading ∈ event.readings, reading.data.length ≤ maxCarried := by decide
  refine ⟨⟨rfl, noHostFrames, short, rfl⟩, ?_⟩
  exact (carried_append_waiting_eq_handedOn fourReadings rfl noHostFrames short rfl).1

end

end Hub

end StationMesh.Relay
