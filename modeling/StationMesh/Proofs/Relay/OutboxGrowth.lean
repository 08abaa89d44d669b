import StationMesh.Proofs.Relay.Processing

/-!
# How far the outbox grows

Relaying one reading puts at most two frames into the outbox, but then the batch is left with
less than it held. Counting the bytes of the batch along with the frames, every frame that goes
out is paid for by bytes that were waiting or that have just come, and so one received message
puts six frames at most into the outbox. A batch with readings in it counts as the frame it will
take when it is sent; with that frame counted, sending the batch is free.
-/

namespace StationMesh

theorem Outbox.frames_of_take? {outbox left : Outbox} {frame : OutFrame}
    (taken : outbox.take? = some (frame, left)) : outbox.frames = frame :: left.frames := by
  unfold take? at taken
  split at taken
  · contradiction
  · rename_i frames_eq
    simp only [Option.some.injEq, Prod.mk.injEq] at taken
    rcases taken with ⟨rfl, rfl⟩
    exact frames_eq

theorem Outbox.length_of_take? {outbox left : Outbox} {frame : OutFrame}
    (taken : outbox.take? = some (frame, left)) : outbox.length = left.length + 1 := by
  rw [length, frames_of_take? taken, List.length_cons, length]

theorem Outbox.length_eq_zero_of_take? {outbox : Outbox} (taken : outbox.take? = none) :
    outbox.length = 0 := by
  unfold take? at taken
  split at taken
  · rename_i frames_eq
    rw [length, frames_eq]
    rfl
  · contradiction

namespace Relay.Hub

open StationMesh.Action

variable {κ φ : Type} {logSize : Nat}

/-- At most `attempts` frames were to be put into the outbox: each of them is there now, behind
those that were there before, or was turned away, and none was if there was room for so many. -/
def Queues (attempts : Nat) (hub next : Hub κ φ logSize) : Prop :=
  ∃ added refused, next.outbox.frames = hub.outbox.frames ++ added ∧
    next.turnedAway = hub.turnedAway + refused ∧ added.length + refused ≤ attempts ∧
    (hub.outbox.length + attempts ≤ Outbox.slots → refused = 0)

namespace Queues

variable {attempts more : Nat} {hub next last : Hub κ φ logSize}

theorem length_le (queues : Queues attempts hub next) :
    next.outbox.length ≤ hub.outbox.length + attempts := by
  rcases queues with ⟨added, refused, frames_eq, _, few, _⟩
  simp only [Outbox.length, frames_eq, List.length_append]
  omega

theorem turnedAway_eq (queues : Queues attempts hub next)
    (room : hub.outbox.length + attempts ≤ Outbox.slots) : next.turnedAway = hub.turnedAway := by
  rcases queues with ⟨_, refused, _, refused_eq, _, none_refused⟩
  rw [refused_eq, none_refused room, Nat.add_zero]

theorem of_eq (outbox_eq : next.outbox = hub.outbox)
    (turnedAway_eq : next.turnedAway = hub.turnedAway) : Queues 0 hub next :=
  ⟨[], 0, by simp [outbox_eq], turnedAway_eq, Nat.le_refl 0, fun _ => rfl⟩

theorem refl (hub : Hub κ φ logSize) : Queues 0 hub hub := of_eq rfl rfl

theorem mono (queues : Queues attempts hub next) (attempts_le : attempts ≤ more) :
    Queues more hub next := by
  rcases queues with ⟨added, refused, frames_eq, refused_eq, few, none_refused⟩
  exact ⟨added, refused, frames_eq, refused_eq, by omega, fun room => none_refused (by omega)⟩

theorem trans (first : Queues attempts hub next) (second : Queues more next last) :
    Queues (attempts + more) hub last := by
  have length_le := first.length_le
  rcases first with ⟨added, refused, frames_eq, refused_eq, few, none_refused⟩
  rcases second with ⟨later, again, laterFrames_eq, again_eq, laterFew, none_again⟩
  refine ⟨added ++ later, refused + again, ?_, ?_, ?_, ?_⟩
  · rw [laterFrames_eq, frames_eq, List.append_assoc]
  · omega
  · rw [List.length_append]
    omega
  · intro room
    have firstNone := none_refused (by omega)
    have laterNone := none_again (by omega)
    omega

end Queues

theorem queues_withBatch (batch : Weather.Batch batchSize) (hub : Hub κ φ logSize) :
    Queues 0 hub (hub.withBatch batch) := .of_eq rfl rfl

theorem queues_afterUid (hub : Hub κ φ logSize) : Queues 0 hub hub.afterUid := .of_eq rfl rfl

theorem queues_enqueue (data : Bytes) (preamble : Preamble) (hub : Hub κ φ logSize) :
    Queues 1 hub (hub.enqueue data preamble).2 := by
  rcases hub.enqueue_cases data preamble with
    ⟨frame, outbox, _, _, frames_eq, run_eq⟩ | ⟨full, run_eq⟩ | ⟨_, run_eq⟩
  · rw [run_eq]
    exact ⟨[frame], 0, frames_eq, rfl, Nat.le_refl 1, fun _ => rfl⟩
  · rw [run_eq]
    refine ⟨[], 1, by simp, rfl, Nat.le_refl 1, fun room => ?_⟩
    rw [full] at room
    omega
  · rw [run_eq]
    exact (Queues.refl hub).mono (Nat.zero_le 1)

theorem queues_enqueue_afterUid (data : Bytes) (preamble : Preamble) (hub : Hub κ φ logSize) :
    Queues 1 hub (hub.afterUid.enqueue data preamble).2 :=
  (queues_afterUid hub).trans (queues_enqueue data preamble hub.afterUid)

/-- A frame that could not be handed on is not in the outbox. -/
theorem outbox_enqueue_of_error {data : Bytes} {preamble : Preamble} {hub : Hub κ φ logSize}
    {cause : TransportError} (failed : (hub.enqueue data preamble).1 = .error cause) :
    (hub.enqueue data preamble).2.outbox = hub.outbox := by
  rcases hub.enqueue_cases data preamble with ⟨_, _, _, _, _, run_eq⟩ | ⟨_, run_eq⟩ | ⟨_, run_eq⟩
  · rw [run_eq] at failed
    contradiction
  · rw [run_eq]
  · rw [run_eq]

section

variable [Config.Store κ]

theorem queues_flushBatch (hub : Hub κ φ logSize) :
    Queues 1 hub (flushBatch.run hub).2 ∧ (flushBatch.run hub).2.engine.batch.size = 0 := by
  rw [run_flushBatch]
  split
  · rename_i empty
    exact ⟨(Queues.refl hub).mono (Nat.zero_le 1), Weather.Batch.size_eq_zero_of_isEmpty empty⟩
  · refine ⟨?_, rfl⟩
    exact (queues_enqueue_afterUid _ _ hub).trans (queues_withBatch {} _)

/-- Each frame counts as one byte more than the batch holds. A reading then pays for its frames
with twice its size and with what was waiting. -/
theorem queues_relayReading {reading : Weather.Reading} (writable : reading.Writable)
    (hub : Hub κ φ logSize) :
    ∃ attempts, Queues attempts hub ((relayReading reading).run hub).2 ∧
      (batchSize + 1) * attempts + ((relayReading reading).run hub).2.engine.batch.size ≤
        2 * reading.encodedSize + hub.engine.batch.size := by
  rw [run_relayReading]
  cases stored : hub.engine.batch.push? reading with
  | some batch =>
      have size_eq := (Weather.Batch.push?_eq_some stored).2
      refine ⟨0, queues_withBatch batch hub, ?_⟩
      change 0 + batch.size ≤ _
      omega
  | none =>
      rw [Weather.Batch.push?_eq_none_iff writable] at stored
      have flushedQueues := hub.queues_flushBatch
      generalize flushBatch.run hub = ended at flushedQueues ⊢
      rcases ended with ⟨cause | _, flushed⟩
      · refine ⟨1, flushedQueues.1, ?_⟩
        dsimp only at flushedQueues ⊢
        omega
      · dsimp only at flushedQueues ⊢
        cases again : flushed.engine.batch.push? reading with
        | some batch =>
            have size_eq := (Weather.Batch.push?_eq_some again).2
            refine ⟨1, flushedQueues.1.trans (queues_withBatch batch flushed), ?_⟩
            change (batchSize + 1) * 1 + batch.size ≤ _
            omega
        | none =>
            -- The reading is longer than the batch, so it pays for both frames alone.
            rw [Weather.Batch.push?_eq_none_iff writable] at again
            refine ⟨2, flushedQueues.1.trans (queues_enqueue_afterUid _ _ flushed), ?_⟩
            rw [engine_enqueue, batch_afterUid]
            omega

theorem queues_relayReadings {readings : List Weather.Reading}
    (writable : ∀ reading ∈ readings, reading.Writable) (hub : Hub κ φ logSize) :
    ∃ attempts, Queues attempts hub ((relayReadings readings).run hub).2 ∧
      (batchSize + 1) * attempts + ((relayReadings readings).run hub).2.engine.batch.size ≤
        2 * (readings.flatMap Weather.Reading.encode).length + hub.engine.batch.size := by
  induction readings generalizing hub with
  | nil =>
      refine ⟨0, Queues.refl hub, ?_⟩
      simp [relayReadings]
  | cons reading rest ih =>
      have restWritable : ∀ other ∈ rest, other.Writable :=
        fun other mem => writable other (List.mem_cons_of_mem _ mem)
      simp only [List.flatMap_cons, List.length_append, Weather.Reading.length_encode]
      rw [run_relayReadings_cons]
      split
      · rcases ih restWritable hub with ⟨attempts, queues, paid⟩
        exact ⟨attempts, queues, by omega⟩
      · have one := queues_relayReading (writable reading List.mem_cons_self) hub
        generalize (relayReading reading).run hub = ended at one ⊢
        rcases one with ⟨first, firstQueues, firstPaid⟩
        rcases ended with ⟨cause | _, left⟩
        · dsimp only at firstQueues firstPaid ⊢
          exact ⟨first, firstQueues, by omega⟩
        · dsimp only at firstQueues firstPaid ⊢
          rcases ih restWritable left with ⟨second, secondQueues, secondPaid⟩
          refine ⟨first + second, firstQueues.trans secondQueues, ?_⟩
          rw [Nat.mul_add]
          omega

/-- What one message that is relayed can put into the outbox. -/
theorem queues_relayFrame (header : Header) {frame : Bytes} (length_le : frame.length ≤ 255)
    {hub : Hub κ φ logSize} (sound : hub.HasSoundBatch) :
    Queues (if header.kind = .weather then 6 else 1) hub ((relayFrame header frame).run hub).2 := by
  simp only [relayFrame]
  split
  · rename_i isWeather
    have writable : ∀ reading ∈ (Weather.Reading.parseAll (frame.drop 1)).1, reading.Writable :=
      fun reading mem => Weather.Reading.writable_of_mem_parseAll mem
    rcases queues_relayReadings writable hub with ⟨attempts, queues, paid⟩
    have body_le : (frame.drop 1).length ≤ 254 := by
      rw [List.length_drop]
      omega
    have written_le := Weather.Reading.length_flatMap_encode_parseAll_le (frame.drop 1)
    have size_le := sound.size_le
    refine queues.mono ?_
    simp only [batchSize] at paid size_le
    omega
  · exact queues_enqueue _ _ hub

theorem queues_relay (header : Header) (own : UInt8) {frame : Bytes}
    (length_le : frame.length ≤ 255) {hub : Hub κ φ logSize} (sound : hub.HasSoundBatch) :
    Queues (if header.kind = .weather then 6 else 1) hub (hub.relay header own frame).2 := by
  have queues := queues_relayFrame header length_le sound
  rcases hub.relay_cases header own frame with
    ⟨_, relay_eq⟩ | ⟨_, _, ⟨cause, left, run_eq, relay_eq⟩ | ⟨left, run_eq, relay_eq⟩⟩
  · rw [relay_eq]
    exact (Queues.refl hub).mono (Nat.zero_le _)
  · rw [run_eq] at queues
    rw [relay_eq]
    exact queues
  · rw [run_eq] at queues
    rw [relay_eq]
    exact queues

variable [FirmwareUpdater φ]

theorem queues_obey (header : Header) (own : UInt8) (command : Bytes) (report : Channel.Report)
    (now : Nat) (hub : Hub κ φ logSize) :
    Queues 1 hub (hub.obey header own command report now).2 := by
  have executes := onlyExecutes_executeBytes command report now hub
  have recorded : Queues 0 hub
      ((hub.executeBytes command report now).2.afterCommand header.uid) :=
    .of_eq executes.outbox executes.turnedAway
  rcases hub.obey_cases header own command report now with
    ⟨_, obey_eq⟩ | ⟨_, _, left_eq | ⟨payload, left_eq⟩⟩
  · rw [obey_eq]
    exact (Queues.refl hub).mono (Nat.zero_le 1)
  · rw [left_eq]
    exact recorded.mono (Nat.zero_le 1)
  · rw [left_eq]
    exact recorded.trans (queues_enqueue _ _ _)

theorem queues_hear (header : Header) (frame : Bytes) (report : Channel.Report) (now : Nat)
    (hub : Hub κ φ logSize) :
    Queues (if header.kind = .command then 1 else 0) hub
      (hub.hear header frame report now).2 := by
  rcases hub.hear_cases header frame report now with
    ⟨host, ⟨isCommand, _, hear_eq⟩ | ⟨_, hear_eq⟩ | ⟨_, hear_eq⟩⟩
  · rw [hear_eq, if_pos isCommand]
    exact queues_obey header hub.stationId (frame.drop Header.size) report now { hub with host }
  · rw [hear_eq]
    have queues : Queues 0 hub ({ hub with host }.observe header.station now) := .of_eq rfl rfl
    exact queues.mono (Nat.zero_le _)
  · rw [hear_eq]
    have queues : Queues 0 hub { hub with host } := .of_eq rfl rfl
    exact queues.mono (Nat.zero_le _)

/-- A received message puts at most six frames into the outbox. -/
theorem queues_process {frame : Bytes} (length_le : frame.length ≤ 255) (report : Channel.Report)
    (now : Nat) {hub : Hub κ φ logSize} (sound : hub.HasSoundBatch) :
    Queues 6 hub (hub.process frame report now).2 := by
  rcases hub.process_cases frame report now with
    process_eq | ⟨header, services, _, _, _, process_eq, _⟩
  · rw [process_eq]
    exact (Queues.refl hub).mono (Nat.zero_le 6)
  · have heardQueues := hub.queues_hear header frame report now
    have heardSound := (hub.onlyHears_hear header frame report now).hasSoundBatch sound
    have queues := heardQueues.trans (queues_relay header hub.stationId length_le heardSound)
    have few : (if header.kind = .command then 1 else 0) +
        (if header.kind = .weather then 6 else 1) ≤ 6 := by
      cases header.kind <;> decide
    rw [process_eq]
    exact queues.mono few

omit [Config.Store κ] [FirmwareUpdater φ]

/-- How many slots of the outbox are taken, with one for the readings that wait. -/
def load (hub : Hub κ φ logSize) : Nat :=
  hub.outbox.length + if hub.engine.batch.isEmpty then 0 else 1

theorem length_le_load (hub : Hub κ φ logSize) : hub.outbox.length ≤ hub.load :=
  Nat.le_add_right _ _

theorem load_le_length_succ (hub : Hub κ φ logSize) : hub.load ≤ hub.outbox.length + 1 := by
  simp only [load]
  split
  · exact Nat.le_succ _
  · exact Nat.le_refl _

theorem load_of_batch_eq {hub next : Hub κ φ logSize}
    (batch_eq : next.engine.batch = hub.engine.batch) :
    next.load + hub.outbox.length = hub.load + next.outbox.length := by
  simp only [load]
  rw [batch_eq]
  omega

theorem load_withBatch_empty (hub : Hub κ φ logSize) :
    (hub.withBatch {}).load = hub.outbox.length := rfl

variable [Config.Store κ]

/-- The batch takes no more than the slot that is kept for it. -/
theorem load_flushBatch_le (hub : Hub κ φ logSize) : (flushBatch.run hub).2.load ≤ hub.load := by
  rw [run_flushBatch]
  split
  · exact Nat.le_refl _
  · rename_i waiting
    simp only [load_withBatch_empty]
    rw [load, if_neg waiting]
    exact (queues_enqueue_afterUid _ _ hub).length_le

/-- Readings that cannot be handed on are given up, and no slot is kept for them any more. -/
theorem load_flushBatch_of_error {hub : Hub κ φ logSize} {cause : TransportError}
    (failed : (flushBatch.run hub).1 = .error cause) :
    (flushBatch.run hub).2.load + 1 ≤ hub.load := by
  rw [run_flushBatch] at failed ⊢
  split at failed
  · contradiction
  · rename_i waiting
    have outbox_eq := outbox_enqueue_of_error failed
    simp only [if_neg waiting]
    rw [load_withBatch_empty, outbox_eq, load, if_neg waiting]
    exact Nat.le_refl _

theorem turnedAway_flushBatch {hub : Hub κ φ logSize} (room : hub.load ≤ Outbox.slots) :
    (flushBatch.run hub).2.turnedAway = hub.turnedAway := by
  rw [run_flushBatch]
  split
  · rfl
  · rename_i waiting
    rw [load, if_neg waiting] at room
    exact (queues_enqueue_afterUid _ _ hub).turnedAway_eq room

/-- A message of the station itself takes one slot more than before, and none if it could not be
handed on. -/
structure Originates {α : Type} (hub : Hub κ φ logSize)
    (ended : Except TransportError α × Hub κ φ logSize) : Prop where
  turnedAway_eq : hub.load < Outbox.slots → ended.2.turnedAway = hub.turnedAway
  load_le : ended.2.load ≤ hub.load + 1
  load_le_of_error : ∀ cause, ended.1 = .error cause → ended.2.load ≤ hub.load

namespace Originates

variable {α β : Type} {hub prepared : Hub κ φ logSize}
  {ended : Except TransportError α × Hub κ φ logSize}

omit [Config.Store κ] in
theorem map (originates : hub.Originates ended) (answer : α → β) :
    hub.Originates (ended.1.map answer, ended.2) where
  turnedAway_eq := originates.turnedAway_eq
  load_le := originates.load_le
  load_le_of_error cause failed := by
    rcases ended with ⟨error | value, left⟩
    · exact originates.load_le_of_error error rfl
    · contradiction

omit [Config.Store κ] in
/-- What does not touch the outbox or the batch can come first. -/
theorem of_prepared (originates : prepared.Originates ended)
    (load_eq : prepared.load = hub.load) (turnedAway_eq : prepared.turnedAway = hub.turnedAway) :
    hub.Originates ended where
  turnedAway_eq room := by rw [originates.turnedAway_eq (load_eq ▸ room), turnedAway_eq]
  load_le := load_eq ▸ originates.load_le
  load_le_of_error cause failed := load_eq ▸ originates.load_le_of_error cause failed

end Originates

omit [Config.Store κ] in
theorem originates_enqueue (data : Bytes) (preamble : Preamble) (hub : Hub κ φ logSize) :
    hub.Originates (hub.enqueue data preamble) where
  turnedAway_eq room := by
    have length_le := hub.length_le_load
    exact (queues_enqueue data preamble hub).turnedAway_eq (by omega)
  load_le := by
    have queued := (queues_enqueue data preamble hub).length_le
    have load_eq := load_of_batch_eq (congrArg Engine.batch (engine_enqueue data preamble hub))
    omega
  load_le_of_error cause failed := by
    apply Nat.le_of_eq
    rw [load, load, engine_enqueue, outbox_enqueue_of_error failed]

theorem originates_sendStatus (report : Channel.Report) (hub : Hub κ φ logSize) :
    hub.Originates ((sendStatus report).run hub) := by
  have sent : hub.Originates
      (hub.afterUid.enqueue (hub.statusData hub.engine.nextUid report) .long) :=
    (originates_enqueue _ _ hub.afterUid).of_prepared rfl rfl
  rw [run_sendStatus]
  exact sent.map fun _ => hub.engine.nextUid

omit [Config.Store κ] in
theorem originates_sendHostFrame (frame : Bytes) (hub : Hub κ φ logSize) :
    hub.Originates ((sendHostFrame frame).run hub) := by
  rcases hub.run_sendHostFrame frame with ⟨preamble, run_eq⟩
  rw [run_eq]
  have originates := originates_enqueue frame preamble (hub.remember frame)
  refine originates.of_prepared ?_ ?_
  · simp only [remember]
    split <;> rfl
  · simp only [remember]
    split <;> rfl

/-- Readings that do not fit in the message go out behind it in a message of their own, which takes
the slot that was kept for them. -/
theorem originates_sendWeather (reading : Bytes) (hub : Hub κ φ logSize) :
    hub.Originates ((sendWeather reading).run hub) := by
  rw [run_sendWeather]
  split
  · exact ⟨fun _ => rfl, Nat.le_succ _, fun _ _ => Nat.le_refl _⟩
  · have prepared (data : Bytes) : hub.Originates (hub.afterUid.enqueue data .long) :=
      (originates_enqueue data .long hub.afterUid).of_prepared rfl rfl
    split
    · have sent := prepared
        (weatherData hub.stationId hub.engine.nextUid reading hub.engine.batch.bytes)
      dsimp only
      generalize hub.afterUid.enqueue _ _ = ended at sent ⊢
      have left_le := ended.2.length_le_load
      have cleared : hub.Originates (ended.1, ended.2.withBatch {}) := by
        refine ⟨sent.turnedAway_eq, ?_, ?_⟩
        · rw [load_withBatch_empty]
          exact Nat.le_trans left_le sent.load_le
        · intro cause failed
          rw [load_withBatch_empty]
          exact Nat.le_trans left_le (sent.load_le_of_error cause failed)
      exact cleared.map fun _ => hub.engine.nextUid
    · have sent := prepared (weatherData hub.stationId hub.engine.nextUid reading [])
      generalize hub.afterUid.enqueue _ _ = ended at sent ⊢
      rcases ended with ⟨cause | _, left⟩
      · exact ⟨sent.turnedAway_eq, sent.load_le, fun _ _ => sent.load_le_of_error cause rfl⟩
      · have sent_le := sent.load_le
        have flushed_le := load_flushBatch_le left
        dsimp only at sent_le
        have flushed : hub.Originates (flushBatch.run left) := by
          refine ⟨?_, ?_, ?_⟩
          · intro room
            rw [turnedAway_flushBatch (Nat.le_trans sent_le room), sent.turnedAway_eq room]
          · exact Nat.le_trans flushed_le sent_le
          · intro cause failed
            have given_up := load_flushBatch_of_error failed
            omega
        exact flushed.map fun _ => hub.engine.nextUid

end

end Relay.Hub

end StationMesh
