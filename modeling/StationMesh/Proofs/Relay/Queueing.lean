import StationMesh.Proofs.Invariant
import StationMesh.Proofs.Weather.Codec
import StationMesh.Relay.Message

/-!
# Putting frames into the outbox

A frame that is put into the outbox either comes behind the others, or is turned away because all
slots are taken, or is longer than a frame can be. The operations that relay readings are spelled
out here in terms of that one step.
-/

namespace StationMesh.Relay.Hub

open StationMesh.Action

variable {κ φ : Type} {logSize : Nat}

/-- The hub with other readings waiting. -/
def withBatch (batch : Weather.Batch batchSize) (hub : Hub κ φ logSize) : Hub κ φ logSize :=
  hub.withEngine fun engine => { engine with batch }

/-- The hub after a unique id was taken. -/
def afterUid (hub : Hub κ φ logSize) : Hub κ φ logSize :=
  { hub with engine := hub.engine.takeUid.2 }

/-- What a station remembers of the traffic, its services and its host line are as before: only
frames were sent and readings gathered. -/
structure OnlySends (hub next : Hub κ φ logSize) : Prop where
  services : next.services = hub.services
  host : next.host = hub.host
  seen : next.engine.seen = hub.engine.seen
  relayed : next.engine.relayed = hub.engine.relayed
  handled : next.engine.handled = hub.engine.handled
  random : next.engine.random = hub.engine.random
  pending : next.engine.pending = hub.engine.pending

namespace OnlySends

variable {hub next last : Hub κ φ logSize}

theorem refl (hub : Hub κ φ logSize) : hub.OnlySends hub := by
  constructor <;> rfl

theorem trans (first : hub.OnlySends next) (second : next.OnlySends last) :
    hub.OnlySends last where
  services := second.services.trans first.services
  host := second.host.trans first.host
  seen := second.seen.trans first.seen
  relayed := second.relayed.trans first.relayed
  handled := second.handled.trans first.handled
  random := second.random.trans first.random
  pending := second.pending.trans first.pending

theorem stationId_eq [Config.Store κ] (sends : hub.OnlySends next) :
    next.stationId = hub.stationId := by
  rw [stationId, sends.services, stationId]

end OnlySends

theorem onlySends_withBatch (batch : Weather.Batch batchSize) (hub : Hub κ φ logSize) :
    hub.OnlySends (hub.withBatch batch) := by
  constructor <;> rfl

theorem onlySends_afterUid (hub : Hub κ φ logSize) : hub.OnlySends hub.afterUid := by
  constructor <;> rfl

/-- How one frame fared. -/
theorem enqueue_cases (data : Bytes) (preamble : Preamble) (hub : Hub κ φ logSize) :
    (∃ (frame : OutFrame) (outbox : Outbox), frame.data = data ∧ frame.preamble = preamble ∧
        outbox.frames = hub.outbox.frames ++ [frame] ∧
        hub.enqueue data preamble = (.ok (), { hub with outbox })) ∨
      (hub.outbox.length = Outbox.slots ∧
        hub.enqueue data preamble =
          (.error .outboxFull, { hub with turnedAway := hub.turnedAway + 1 })) ∨
      (OutFrame.maxSize < data.length ∧
        hub.enqueue data preamble = (.error .bufferOverrun, hub)) := by
  simp only [enqueue, Outbox.send, OutFrame.ofBytes?]
  by_cases size_le : data.length ≤ OutFrame.maxSize
  · by_cases room : hub.outbox.frames.length < Outbox.slots
    · left
      simp only [size_le, ↓reduceDIte, Outbox.push, room]
      exact ⟨{ data, preamble, size_le }, _, rfl, rfl, rfl, rfl⟩
    · right; left
      have length_le := hub.outbox.length_le
      simp only [size_le, ↓reduceDIte, Outbox.push, room]
      refine ⟨?_, trivial⟩
      change hub.outbox.frames.length = 24
      exact Nat.le_antisymm length_le (Nat.le_of_not_lt room)
  · right; right
    simp only [size_le, ↓reduceDIte]
    exact ⟨Nat.lt_of_not_le size_le, trivial⟩

@[simp]
theorem engine_enqueue (data : Bytes) (preamble : Preamble) (hub : Hub κ φ logSize) :
    (hub.enqueue data preamble).2.engine = hub.engine := by
  rcases hub.enqueue_cases data preamble with ⟨_, _, _, _, _, run_eq⟩ | ⟨_, run_eq⟩ | ⟨_, run_eq⟩
  all_goals rw [run_eq]

theorem onlySends_enqueue (data : Bytes) (preamble : Preamble) (hub : Hub κ φ logSize) :
    hub.OnlySends (hub.enqueue data preamble).2 := by
  rcases hub.enqueue_cases data preamble with ⟨_, _, _, _, _, run_eq⟩ | ⟨_, run_eq⟩ | ⟨_, run_eq⟩
  all_goals
    rw [run_eq]
    constructor <;> rfl

theorem onlySends_enqueue_afterUid (data : Bytes) (preamble : Preamble) (hub : Hub κ φ logSize) :
    hub.OnlySends (hub.afterUid.enqueue data preamble).2 :=
  (onlySends_afterUid hub).trans (onlySends_enqueue data preamble hub.afterUid)

section

variable [Config.Store κ]

/-- The bytes of a weather message of this station. -/
def weatherData (own uid : UInt8) (reading relayed : Bytes) : Bytes :=
  let header : Header := { kind := .weather, forced := false, station := own, uid }
  header.encode ++ UInt8.ofNat reading.length :: reading ++ relayed

theorem run_sendWeatherFrame (uid : UInt8) (reading relayed : Bytes) (hub : Hub κ φ logSize) :
    (sendWeatherFrame uid reading relayed).run hub =
      hub.enqueue (weatherData hub.stationId uid reading relayed) .long := rfl

omit [Config.Store κ] in
@[simp]
theorem batch_afterUid (hub : Hub κ φ logSize) :
    hub.afterUid.engine.batch = hub.engine.batch := rfl

omit [Config.Store κ] in
@[simp]
theorem seen_afterUid (hub : Hub κ φ logSize) :
    hub.afterUid.engine.seen = hub.engine.seen := rfl

@[simp]
theorem stationId_afterUid (hub : Hub κ φ logSize) : hub.afterUid.stationId = hub.stationId := rfl

omit [Config.Store κ] in
theorem run_takeUid (hub : Hub κ φ logSize) :
    takeUid.run hub = (.ok hub.engine.nextUid, hub.afterUid) := rfl

theorem run_flushBatch (hub : Hub κ φ logSize) :
    flushBatch.run hub =
      if hub.engine.batch.isEmpty then
        (.ok (), hub)
      else
        let data := weatherData hub.stationId hub.engine.nextUid [] hub.engine.batch.bytes
        let sent := hub.afterUid.enqueue data .long
        (sent.1, sent.2.withBatch {}) := by
  simp only [flushBatch, run_bind, run_get]
  split
  · rfl
  · rw [run_bind, run_takeUid]
    dsimp only
    simp only [run_bind, run_attempt]
    rw [run_sendWeatherFrame, stationId_afterUid]
    rcases hub.afterUid.enqueue _ _ with ⟨cause | _, left⟩
    · rfl
    · rfl

omit [Config.Store κ] in
theorem run_addToBatch (reading : Weather.Reading) (hub : Hub κ φ logSize) :
    (addToBatch reading).run hub =
      match hub.engine.batch.push? reading with
      | some batch => (.ok true, hub.withBatch batch)
      | none => (.ok false, hub) := by
  simp only [addToBatch, run_bind, run_get]
  cases hub.engine.batch.push? reading with
  | none => rfl
  | some batch => rfl

theorem run_relayReading (reading : Weather.Reading) (hub : Hub κ φ logSize) :
    (relayReading reading).run hub =
      match hub.engine.batch.push? reading with
      | some batch => (.ok (), hub.withBatch batch)
      | none =>
          match flushBatch.run hub with
          | (.error cause, flushed) => (.error cause, flushed)
          | (.ok (), flushed) =>
              match flushed.engine.batch.push? reading with
              | some batch => (.ok (), flushed.withBatch batch)
              | none =>
                  flushed.afterUid.enqueue
                    (weatherData flushed.stationId flushed.engine.nextUid [] reading.encode)
                    .long := by
  simp only [relayReading]
  rw [run_bind, run_addToBatch]
  cases hub.engine.batch.push? reading with
  | some batch => rfl
  | none =>
      dsimp only
      rw [if_neg Bool.false_ne_true, run_bind]
      rcases flushBatch.run hub with ⟨cause | _, flushed⟩
      · rfl
      · dsimp only
        rw [run_bind, run_addToBatch]
        cases flushed.engine.batch.push? reading with
        | some batch => rfl
        | none => rfl

theorem run_relayReadings_cons (reading : Weather.Reading) (rest : List Weather.Reading)
    (hub : Hub κ φ logSize) :
    (relayReadings (reading :: rest)).run hub =
      if reading.station = hub.stationId then
        (relayReadings rest).run hub
      else
        match (relayReading reading).run hub with
        | (.error cause, left) => (.error cause, left)
        | (.ok (), left) => (relayReadings rest).run left := by
  rw [relayReadings, run_bind, run_get]
  by_cases own : reading.station = hub.stationId
  · simp only [own, ne_eq, not_true_eq_false, ↓reduceIte]
  · simp only [own, ne_eq, not_false_eq_true, ↓reduceIte]
    rw [run_bind]
    rcases (relayReading reading).run hub with ⟨cause | _, left⟩
    · rfl
    · rfl

theorem run_sendWeather (reading : Bytes) (hub : Hub κ φ logSize) :
    (sendWeather reading).run hub =
      if maxOwnReading < reading.length then
        (.error .bufferOverrun, hub)
      else if hub.engine.batch.size ≤ maxOwnReading - reading.length then
        let data :=
          weatherData hub.stationId hub.engine.nextUid reading hub.engine.batch.bytes
        let sent := hub.afterUid.enqueue data .long
        (sent.1.map fun _ => hub.engine.nextUid, sent.2.withBatch {})
      else
        match hub.afterUid.enqueue
            (weatherData hub.stationId hub.engine.nextUid reading []) .long with
        | (.error cause, left) => (.error cause, left)
        | (.ok (), left) =>
            ((flushBatch.run left).1.map fun _ => hub.engine.nextUid, (flushBatch.run left).2) := by
  simp only [sendWeather]
  by_cases long : maxOwnReading < reading.length
  · simp only [long, ↓reduceIte]
    rfl
  · simp only [long, ↓reduceIte]
    rw [run_bind, run_takeUid]
    dsimp only
    simp only [run_bind, run_get]
    rw [batch_afterUid]
    split
    · simp only [run_bind, run_attempt]
      rw [run_sendWeatherFrame, stationId_afterUid]
      rcases hub.afterUid.enqueue _ _ with ⟨cause | _, left⟩
      · rfl
      · rfl
    · rw [run_bind, run_sendWeatherFrame, stationId_afterUid]
      rcases hub.afterUid.enqueue _ _ with ⟨cause | _, left⟩
      · rfl
      · dsimp only
        rw [run_bind]
        rcases flushBatch.run left with ⟨cause | _, flushed⟩
        · rfl
        · rfl

/-- The bytes of a status message of this station. -/
def statusData (uid : UInt8) (report : Channel.Report) (hub : Hub κ φ logSize) : Bytes :=
  let header : Header := { kind := .status, forced := false, station := hub.stationId, uid }
  header.encode ++ report.encode ++
    [UInt8.ofNat hub.engine.seen.length, UInt8.ofNat hub.engine.batch.size]

theorem run_sendStatus (report : Channel.Report) (hub : Hub κ φ logSize) :
    (sendStatus report).run hub =
      let sent := hub.afterUid.enqueue (hub.statusData hub.engine.nextUid report) .long
      (sent.1.map fun _ => hub.engine.nextUid, sent.2) := by
  simp only [sendStatus, statusData]
  rw [run_bind, run_takeUid]
  dsimp only
  rw [run_bind, run_get]
  dsimp only
  rw [run_bind, send, run_of, stationId_afterUid, seen_afterUid, batch_afterUid]
  rcases hub.afterUid.enqueue _ _ with ⟨cause | _, left⟩
  · rfl
  · rfl

omit [Config.Store κ] in
/-- The hub after a frame of the host was remembered as relayed, if it has a header. -/
def remember (frame : Bytes) (hub : Hub κ φ logSize) : Hub κ φ logSize :=
  match Header.parse frame with
  | .ok header =>
      hub.withEngine fun engine =>
        { engine with relayed := engine.relayed.record header.identity }
  | .error _ => hub

omit [Config.Store κ] in
theorem run_sendHostFrame (frame : Bytes) (hub : Hub κ φ logSize) :
    ∃ preamble, (sendHostFrame frame).run hub = (hub.remember frame).enqueue frame preamble := by
  simp only [sendHostFrame, remember]
  cases Header.parse frame with
  | error _ => exact ⟨.long, rfl⟩
  | ok header => exact ⟨preambleFor header.kind, rfl⟩

omit [Config.Store κ] in
theorem moves_takeUid : (takeUid : Operation κ φ logSize UInt8).Moves OnlySends :=
  fun hub => onlySends_afterUid hub

theorem moves_flushBatch : (flushBatch : Operation κ φ logSize Unit).Moves OnlySends := by
  intro hub
  rw [run_flushBatch]
  split
  · exact OnlySends.refl hub
  · exact (onlySends_enqueue_afterUid _ _ hub).trans (onlySends_withBatch _ _)

omit [Config.Store κ] in
theorem moves_addToBatch (reading : Weather.Reading) :
    (addToBatch reading : Operation κ φ logSize Bool).Moves OnlySends := by
  intro hub
  rw [run_addToBatch]
  cases hub.engine.batch.push? reading with
  | none => exact OnlySends.refl hub
  | some batch => exact onlySends_withBatch batch hub

theorem moves_sendWeather (reading : Bytes) :
    (sendWeather reading : Operation κ φ logSize UInt8).Moves OnlySends := by
  intro hub
  rw [run_sendWeather]
  split
  · exact OnlySends.refl hub
  · split
    · exact (onlySends_enqueue_afterUid _ _ hub).trans (onlySends_withBatch _ _)
    · have moved := onlySends_enqueue_afterUid
        (weatherData hub.stationId hub.engine.nextUid reading []) .long hub
      generalize hub.afterUid.enqueue _ _ = ended at moved ⊢
      rcases ended with ⟨cause | _, left⟩
      · exact moved
      · exact moved.trans (moves_flushBatch left)

theorem moves_sendStatus (report : Channel.Report) :
    (sendStatus report : Operation κ φ logSize UInt8).Moves OnlySends := by
  intro hub
  rw [run_sendStatus]
  exact onlySends_enqueue_afterUid _ _ hub

theorem moves_relayReading (reading : Weather.Reading) :
    (relayReading reading : Operation κ φ logSize Unit).Moves OnlySends := by
  simp only [relayReading]
  apply (moves_addToBatch reading).bind OnlySends.trans
  intro stored
  split
  · exact moves_pure OnlySends.refl ()
  · apply moves_flushBatch.bind OnlySends.trans
    intro _
    apply (moves_addToBatch reading).bind OnlySends.trans
    intro stored
    split
    · exact moves_pure OnlySends.refl ()
    · exact moves_takeUid.bind OnlySends.trans fun uid hub => onlySends_enqueue _ _ hub

theorem moves_relayReadings (readings : List Weather.Reading) :
    (relayReadings readings : Operation κ φ logSize Unit).Moves OnlySends := by
  induction readings with
  | nil => exact moves_pure OnlySends.refl ()
  | cons reading rest ih =>
      simp only [relayReadings]
      apply (moves_get OnlySends.refl).bind OnlySends.trans
      intro hub
      split
      · exact (moves_relayReading reading).bind OnlySends.trans fun _ => ih
      · exact ih

theorem moves_relayFrame (header : Header) (frame : Bytes) :
    (relayFrame header frame : Operation κ φ logSize Unit).Moves OnlySends := by
  simp only [relayFrame]
  split
  · exact moves_relayReadings _
  · intro hub
    exact onlySends_enqueue _ _ hub

/-- The readings that wait fit in the batch and can be written. -/
def HasSoundBatch (hub : Hub κ φ logSize) : Prop := hub.engine.batch.Sound

theorem keeps_sound_flushBatch :
    (flushBatch : Operation κ φ logSize Unit).Keeps HasSoundBatch := by
  intro hub sound
  rw [run_flushBatch]
  split
  · exact sound
  · exact Weather.Batch.sound_empty

omit [Config.Store κ] in
theorem keeps_sound_addToBatch (reading : Weather.Reading) :
    (addToBatch reading : Operation κ φ logSize Bool).Keeps HasSoundBatch := by
  intro hub sound
  rw [run_addToBatch]
  cases taken : hub.engine.batch.push? reading with
  | none => exact sound
  | some batch => exact Weather.Batch.sound_push? sound taken

omit [Config.Store κ] in
theorem keeps_sound_send (data : Bytes) (preamble : Preamble) :
    (send data preamble : Operation κ φ logSize Unit).Keeps HasSoundBatch := by
  intro hub sound
  change ((hub.enqueue data preamble).2.engine.batch).Sound
  rw [engine_enqueue]
  exact sound

theorem keeps_sound_relayReading (reading : Weather.Reading) :
    (relayReading reading : Operation κ φ logSize Unit).Keeps HasSoundBatch := by
  simp only [relayReading]
  apply (keeps_sound_addToBatch reading).bind
  intro stored
  split
  · exact keeps_pure ()
  · apply keeps_sound_flushBatch.bind
    intro _
    apply (keeps_sound_addToBatch reading).bind
    intro stored
    split
    · exact keeps_pure ()
    · apply Keeps.bind
      · intro hub sound
        exact sound
      · intro uid hub
        exact keeps_sound_send _ _ hub

theorem keeps_sound_relayReadings (readings : List Weather.Reading) :
    (relayReadings readings : Operation κ φ logSize Unit).Keeps HasSoundBatch := by
  induction readings with
  | nil => exact keeps_pure ()
  | cons reading rest ih =>
      simp only [relayReadings]
      apply Keeps.get_bind
      intro hub
      split
      · exact (keeps_sound_relayReading reading).bind fun _ => ih
      · exact ih

theorem keeps_sound_relayFrame (header : Header) (frame : Bytes) :
    (relayFrame header frame : Operation κ φ logSize Unit).Keeps HasSoundBatch := by
  simp only [relayFrame]
  split
  · exact keeps_sound_relayReadings _
  · exact keeps_sound_send _ _

theorem keeps_sound_sendWeather (reading : Bytes) :
    (sendWeather reading : Operation κ φ logSize UInt8).Keeps HasSoundBatch := by
  intro hub sound
  rw [run_sendWeather]
  split
  · exact sound
  · split
    · exact Weather.Batch.sound_empty
    · have kept : (hub.afterUid.enqueue
          (weatherData hub.stationId hub.engine.nextUid reading []) .long).2.HasSoundBatch :=
        keeps_sound_send _ _ hub.afterUid sound
      generalize hub.afterUid.enqueue _ _ = ended at kept ⊢
      rcases ended with ⟨cause | _, left⟩
      · exact kept
      · exact keeps_sound_flushBatch left kept

theorem keeps_sound_sendStatus (report : Channel.Report) :
    (sendStatus report : Operation κ φ logSize UInt8).Keeps HasSoundBatch := by
  intro hub sound
  rw [run_sendStatus]
  exact keeps_sound_send _ _ hub.afterUid sound

omit [Config.Store κ] in
theorem keeps_sound_sendHostFrame (frame : Bytes) :
    (sendHostFrame frame : Operation κ φ logSize Unit).Keeps HasSoundBatch := by
  intro hub sound
  rcases hub.run_sendHostFrame frame with ⟨preamble, run_eq⟩
  rw [run_eq]
  refine keeps_sound_send _ _ (hub.remember frame) ?_
  simp only [remember]
  split
  · exact sound
  · exact sound

end

end StationMesh.Relay.Hub
