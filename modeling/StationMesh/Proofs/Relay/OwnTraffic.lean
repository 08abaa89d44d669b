import StationMesh.Proofs.Relay.Conservation

/-!
# A station's own traffic

What a station sent comes back to it in three shapes. A message under its own header is discarded
and changes nothing, like one without a header. A command to the station itself is answered at most,
and is not relayed whatever it demands. And a reading of its own that another station carries along
is left out when the others are taken in, so that it never waits in the batch, and never goes out
again behind the first reading of a weather message.
-/

namespace StationMesh

/-- The frame is shorter than a header, or its first byte stands for no kind. -/
def Header.Malformed (frame : Bytes) : Prop :=
  frame.length < Header.size ∨
    ∃ type rest, frame = type :: rest ∧ MessageKind.ofCode? (type &&& 0x7F) = none

theorem Header.malformed_iff {frame : Bytes} :
    Header.Malformed frame ↔ ∃ error, Header.parse frame = .error error := by
  rcases frame with _ | ⟨type, _ | ⟨station, _ | ⟨uid, rest⟩⟩⟩
  · exact iff_of_true (.inl (by simp [Header.size])) ⟨_, rfl⟩
  · exact iff_of_true (.inl (by simp [Header.size])) ⟨_, rfl⟩
  · exact iff_of_true (.inl (by simp [Header.size])) ⟨_, rfl⟩
  · have long : ¬(type :: station :: uid :: rest).length < Header.size := by simp [Header.size]
    rw [Header.Malformed, or_iff_right long, Header.parse, TypeByte.decode]
    cases known : MessageKind.ofCode? (type &&& 0x7F) with
    | none => exact iff_of_true ⟨type, _, rfl, known⟩ ⟨_, rfl⟩
    | some kind =>
        refine iff_of_false ?_ (by simp)
        rintro ⟨first, others, frame_eq, unknown⟩
        rw [List.cons.injEq] at frame_eq
        rw [← frame_eq.1, known] at unknown
        contradiction

namespace Relay

open Weather

namespace Hub

open StationMesh.Action

variable {κ φ : Type} {logSize : Nat}

/-! ### Messages that are dropped, and commands to the station -/

/-- Nothing is relayed and no reading is taken in. An acknowledgment is put behind the other frames
at most. -/
structure OnlyAcknowledges (own uid : UInt8) (hub next : Hub κ φ logSize) : Prop where
  relayed : next.engine.relayed = hub.engine.relayed
  batch : next.engine.batch = hub.engine.batch
  frames : next.outbox.frames = hub.outbox.frames ∨ ∃ (outgoing : OutFrame) (payload : Bytes),
    next.outbox.frames = hub.outbox.frames ++ [outgoing] ∧
      outgoing.data =
        Header.encode { kind := .acknowledge, forced := false, station := own, uid } ++ payload

section

variable [Config.Store κ] [FirmwareUpdater φ]

theorem onlyAcknowledges_obey (header : Header) (own : UInt8) (command : Bytes)
    (report : Channel.Report) (now : Nat) (hub : Hub κ φ logSize) :
    hub.OnlyAcknowledges own header.uid (hub.obey header own command report now).2 := by
  have hears := onlyHears_obey header own command report now hub
  have executes := onlyExecutes_executeBytes command report now hub
  have frames_eq := congrArg Outbox.frames executes.outbox
  refine ⟨hears.relayed, hears.batch, ?_⟩
  rcases hub.obey_cases header own command report now with
    ⟨_, obey_eq⟩ | ⟨_, _, left_eq | ⟨payload, left_eq⟩⟩
  · rw [obey_eq]
    exact .inl rfl
  · rw [left_eq]
    exact .inl frames_eq
  · let answering : Header :=
      { kind := .acknowledge, forced := false, station := own, uid := header.uid }
    let recorded := (hub.executeBytes command report now).2.afterCommand header.uid
    rw [left_eq, acknowledge]
    rcases recorded.enqueue_cases (answering.encode ++ payload) .short with
      ⟨outgoing, outbox, data_eq, _, added, run_eq⟩ | ⟨_, run_eq⟩ | ⟨_, run_eq⟩
    · have frames_added : outbox.frames = hub.outbox.frames ++ [outgoing] := by
        rw [added, ← frames_eq]
        rfl
      rw [run_eq]
      exact .inr ⟨outgoing, payload, frames_added, data_eq⟩
    · rw [run_eq]
      exact .inl frames_eq
    · rw [run_eq]
      exact .inl frames_eq

theorem onlyAcknowledges_hear (header : Header) (frame : Bytes) (report : Channel.Report)
    (now : Nat) (hub : Hub κ φ logSize) :
    hub.OnlyAcknowledges hub.stationId header.uid (hub.hear header frame report now).2 := by
  rcases hub.hear_cases header frame report now with
    ⟨host, ⟨_, _, hear_eq⟩ | ⟨_, hear_eq⟩ | ⟨_, hear_eq⟩⟩
  · rw [hear_eq]
    have obeyed := onlyAcknowledges_obey header hub.stationId (frame.drop Header.size) report now
      { hub with host }
    exact ⟨obeyed.relayed, obeyed.batch, obeyed.frames⟩
  · rw [hear_eq]
    exact ⟨rfl, rfl, .inl rfl⟩
  · rw [hear_eq]
    exact ⟨rfl, rfl, .inl rfl⟩

/-- The message is to be dropped: it has no header, or the station sent it itself. -/
def Disregards (frame : Bytes) (hub : Hub κ φ logSize) : Prop :=
  Header.Malformed frame ∨ ∃ header, Header.parse frame = .ok header ∧ hub.IsOwn header

/-- A message that is to be dropped is reported as discarded and changes nothing, and so is no
other. -/
theorem process_eq_discarded_iff (frame : Bytes) (report : Channel.Report) (now : Nat)
    (hub : Hub κ φ logSize) :
    hub.process frame report now = ({ discarded := true }, hub) ↔ hub.Disregards frame := by
  constructor
  · intro discarded
    cases parsed : Header.parse frame with
    | error error => exact .inl (Header.malformed_iff.mpr ⟨error, parsed⟩)
    | ok header =>
        by_cases own : hub.IsOwn header
        · exact .inr ⟨header, parsed, own⟩
        · rw [process_of_accepted parsed own] at discarded
          have accepted := congrArg (fun ended => ended.1.discarded) discarded
          simp at accepted
  · rintro (malformed | ⟨header, parsed, own⟩)
    · rcases Header.malformed_iff.mp malformed with ⟨error, parsed⟩
      exact process_of_malformed parsed report now hub
    · exact process_of_own parsed own report now

/-- A command to this station is not relayed, even if it demands that. -/
theorem process_of_commandToSelf {header : Header} {frame : Bytes} {hub : Hub κ φ logSize}
    (parsed : Header.parse frame = .ok header) (isCommand : header.kind = .command)
    (toSelf : header.station = hub.stationId) (report : Channel.Report) (now : Nat) :
    (hub.process frame report now).1.relayed = false ∧
      hub.OnlyAcknowledges hub.stationId header.uid (hub.process frame report now).2 := by
  have foreign : ¬hub.IsOwn header := fun own => own.1 isCommand
  have heard := onlyAcknowledges_hear header frame report now hub
  rw [process_of_accepted parsed foreign]
  generalize (hub.hear header frame report now) = ended at heard ⊢
  have unwanted : ended.2.wantsRelay header hub.stationId = false := by
    simp [wantsRelay, toSelf]
  have unrelayed : ended.2.relay header hub.stationId frame = (false, ended.2) := by
    simp [relay, unwanted]
  simp only [unrelayed, isCommand, isLoggable, Bool.false_and, Bool.false_eq_true, ↓reduceIte]
  exact ⟨trivial, heard⟩

end

/-! ### Readings that are left out -/

/-- The readings that wait are those of other stations. -/
structure AwaitsOthers (own : UInt8) (hub : Hub κ φ logSize) : Prop where
  sound : hub.HasSoundBatch
  waiting : ∀ reading ∈ hub.engine.batch.readings, reading.station ≠ own

/-- The readings that wait are those of other stations, and so are the readings that the frames
behind `sent` in the outbox carry. -/
structure SparesOwn (own : UInt8) (sent : List OutFrame) (hub : Hub κ φ logSize) : Prop
    extends hub.AwaitsOthers own where
  queued : ∃ queued, hub.outbox.frames = sent ++ queued ∧
    ∀ outgoing ∈ queued, ∀ reading ∈ carried outgoing, reading.station ≠ own

namespace AwaitsOthers

variable {own : UInt8} {hub next : Hub κ φ logSize}

theorem of_eq (awaits : hub.AwaitsOthers own) (batch_eq : next.engine.batch = hub.engine.batch) :
    next.AwaitsOthers own where
  sound := by
    rw [HasSoundBatch, batch_eq]
    exact awaits.sound
  waiting := batch_eq ▸ awaits.waiting

theorem sparesOwn (awaits : hub.AwaitsOthers own) : hub.SparesOwn own hub.outbox.frames :=
  ⟨awaits, [], (List.append_nil _).symm, by simp⟩

theorem withBatch_empty (own : UInt8) (hub : Hub κ φ logSize) :
    (hub.withBatch {}).AwaitsOthers own where
  sound := Batch.sound_empty
  waiting := by simp [withBatch, withEngine]

theorem push (awaits : hub.AwaitsOthers own) {reading : Reading} {batch : Batch batchSize}
    (foreign : reading.station ≠ own) (taken : hub.engine.batch.push? reading = some batch) :
    (hub.withBatch batch).AwaitsOthers own where
  sound := Batch.sound_push? awaits.sound taken
  waiting := by
    intro other mem
    change other ∈ batch.readings at mem
    rw [(Batch.push?_eq_some taken).1, List.mem_append, List.mem_singleton] at mem
    rcases mem with held | rfl
    · exact awaits.waiting other held
    · exact foreign

end AwaitsOthers

namespace SparesOwn

variable {own : UInt8} {sent : List OutFrame} {hub next : Hub κ φ logSize}

theorem of_eq (spares : hub.SparesOwn own sent) (batch_eq : next.engine.batch = hub.engine.batch)
    (frames_eq : next.outbox.frames = hub.outbox.frames) : next.SparesOwn own sent :=
  ⟨spares.toAwaitsOthers.of_eq batch_eq, frames_eq ▸ spares.queued⟩

/-- One more frame that carries no reading of the station. -/
theorem of_append (spares : hub.SparesOwn own sent)
    (batch_eq : next.engine.batch = hub.engine.batch) {outgoing : OutFrame}
    (frames_eq : next.outbox.frames = hub.outbox.frames ++ [outgoing])
    (harmless : ∀ reading ∈ carried outgoing, reading.station ≠ own) :
    next.SparesOwn own sent := by
  rcases spares.queued with ⟨queued, hub_frames_eq, others⟩
  refine ⟨spares.toAwaitsOthers.of_eq batch_eq, queued ++ [outgoing], ?_, ?_⟩
  · rw [frames_eq, hub_frames_eq, List.append_assoc]
  · intro other mem
    rcases List.mem_append.mp mem with earlier | last
    · exact others other earlier
    · rw [List.mem_singleton.mp last]
      exact harmless

theorem enqueue (spares : hub.SparesOwn own sent) {data : Bytes}
    (harmless : ∀ outgoing : OutFrame, outgoing.data = data →
      ∀ reading ∈ carried outgoing, reading.station ≠ own) (preamble : Preamble) :
    (hub.enqueue data preamble).2.SparesOwn own sent := by
  have batch_eq := congrArg Engine.batch (engine_enqueue data preamble hub)
  rcases hub.enqueue_cases data preamble with
    ⟨outgoing, outbox, data_eq, _, frames_eq, run_eq⟩ | ⟨_, run_eq⟩ | ⟨_, run_eq⟩
  · rw [run_eq] at batch_eq ⊢
    exact spares.of_append batch_eq frames_eq (harmless outgoing data_eq)
  · rw [run_eq] at batch_eq ⊢
    exact spares.of_eq batch_eq rfl
  · rw [run_eq]
    exact spares

theorem withBatch_empty (spares : hub.SparesOwn own sent) :
    (hub.withBatch {}).SparesOwn own sent :=
  ⟨.withBatch_empty own hub, spares.queued⟩

theorem push (spares : hub.SparesOwn own sent) {reading : Reading} {batch : Batch batchSize}
    (foreign : reading.station ≠ own) (taken : hub.engine.batch.push? reading = some batch) :
    (hub.withBatch batch).SparesOwn own sent :=
  ⟨spares.toAwaitsOthers.push foreign taken, spares.queued⟩

end SparesOwn

variable {own : UInt8} {sent : List OutFrame}

/-- A weather message carries no reading of the station if none of those in it is. -/
theorem foreign_of_mem_carried {outgoing : OutFrame} {head uid : UInt8} {reading : Bytes}
    {readings : List Reading} (length_le : reading.length ≤ Reading.maxData)
    (writable : ∀ other ∈ readings, other.Writable)
    (foreign : ∀ other ∈ readings, other.station ≠ own)
    (data_eq : outgoing.data = weatherData head uid reading (readings.flatMap Reading.encode)) :
    ∀ other ∈ carried outgoing, other.station ≠ own := by
  rw [carried_weatherData length_le writable data_eq]
  exact foreign

theorem foreign_of_carries_none {outgoing : OutFrame} (carriesNone : carried outgoing = []) :
    ∀ reading ∈ carried outgoing, reading.station ≠ own := by
  simp [carriesNone]

variable [Config.Store κ]

theorem keeps_sparesOwn_flushBatch :
    (flushBatch : Operation κ φ logSize Unit).Keeps (SparesOwn own sent) := by
  intro hub spares
  rw [run_flushBatch]
  split
  · exact spares
  · have prepared : hub.afterUid.SparesOwn own sent := spares.of_eq rfl rfl
    refine (prepared.enqueue ?_ .long).withBatch_empty
    intro outgoing
    exact foreign_of_mem_carried (Nat.zero_le _) spares.sound.writable spares.waiting

theorem keeps_sparesOwn_relayReading {reading : Reading} (writable : reading.Writable)
    (foreign : reading.station ≠ own) :
    (relayReading reading : Operation κ φ logSize Unit).Keeps (SparesOwn own sent) := by
  intro hub spares
  rw [run_relayReading]
  cases taken : hub.engine.batch.push? reading with
  | some batch => exact spares.push foreign taken
  | none =>
      have flushedSpares := keeps_sparesOwn_flushBatch hub spares
      generalize flushBatch.run hub = ended at flushedSpares ⊢
      rcases ended with ⟨cause | _, flushed⟩
      · exact flushedSpares
      · dsimp only at flushedSpares ⊢
        cases again : flushed.engine.batch.push? reading with
        | some batch => exact flushedSpares.push foreign again
        | none =>
            have prepared : flushed.afterUid.SparesOwn own sent := flushedSpares.of_eq rfl rfl
            refine prepared.enqueue ?_ .long
            intro outgoing data_eq
            have alone : reading.encode = [reading].flatMap Reading.encode :=
              (List.append_nil _).symm
            rw [alone] at data_eq
            exact foreign_of_mem_carried (Nat.zero_le _) (by simpa using writable)
              (by simpa using foreign) data_eq

/-- The station knows its own readings as long as it has the id under which it sent them. -/
theorem sparesOwn_relayReadings {readings : List Reading}
    (writable : ∀ reading ∈ readings, reading.Writable) {hub : Hub κ φ logSize}
    (stationId_eq : hub.stationId = own) (spares : hub.SparesOwn own sent) :
    ((relayReadings readings).run hub).2.SparesOwn own sent := by
  induction readings generalizing hub with
  | nil => exact spares
  | cons reading rest ih =>
      rw [List.forall_mem_cons] at writable
      rw [run_relayReadings_cons]
      split
      · -- A reading of the station itself is passed over.
        exact ih writable.2 stationId_eq spares
      · rename_i foreign
        rw [stationId_eq] at foreign
        have oneSpares := keeps_sparesOwn_relayReading writable.1 foreign hub spares
        have sends := moves_relayReading reading hub
        generalize (relayReading reading).run hub = ended at oneSpares sends ⊢
        rcases ended with ⟨cause | _, left⟩
        · exact oneSpares
        · exact ih writable.2 (sends.stationId_eq.trans stationId_eq) oneSpares

theorem sparesOwn_relayFrame {header : Header} (frame : Bytes) {hub : Hub κ φ logSize}
    (stationId_eq : header.kind = .weather → hub.stationId = own)
    (spares : hub.SparesOwn own sent) :
    ((relayFrame header frame).run hub).2.SparesOwn own sent := by
  simp only [relayFrame]
  split
  · rename_i isWeather
    exact sparesOwn_relayReadings (fun _ mem => Reading.writable_of_mem_parseAll mem)
      (stationId_eq isWeather) spares
  · rename_i other
    refine spares.enqueue ?_ _
    intro outgoing data_eq
    apply foreign_of_carries_none
    let copy : Header :=
      { header with forced := header.kind == .command || header.kind == .ping }
    have otherCopy : copy.kind ≠ .weather := other
    exact carried_of_other otherCopy data_eq

theorem sparesOwn_relay {header : Header} (id : UInt8) (frame : Bytes) {hub : Hub κ φ logSize}
    (stationId_eq : header.kind = .weather → hub.stationId = own)
    (spares : hub.SparesOwn own sent) : (hub.relay header id frame).2.SparesOwn own sent := by
  have relayedSpares := sparesOwn_relayFrame frame stationId_eq spares
  rcases hub.relay_cases header id frame with
    ⟨_, relay_eq⟩ | ⟨_, _, ⟨cause, left, run_eq, relay_eq⟩ | ⟨left, run_eq, relay_eq⟩⟩
  · rw [relay_eq]
    exact spares
  · rw [run_eq] at relayedSpares
    rw [relay_eq]
    exact relayedSpares
  · rw [run_eq] at relayedSpares
    rw [relay_eq]
    exact relayedSpares.of_eq rfl rfl

theorem keeps_sparesOwn_sendWeather (reading : Bytes) :
    (sendWeather reading : Operation κ φ logSize UInt8).Keeps (SparesOwn own sent) := by
  intro hub spares
  have prepared : hub.afterUid.SparesOwn own sent := spares.of_eq rfl rfl
  rw [run_sendWeather]
  split
  · exact spares
  · rename_i fits
    have length_le : reading.length ≤ Reading.maxData := by
      simp only [maxOwnReading, OutFrame.maxSize, Header.size, Reading.maxData] at fits ⊢
      omega
    split
    · refine (prepared.enqueue ?_ .long).withBatch_empty
      intro outgoing
      exact foreign_of_mem_carried length_le spares.sound.writable spares.waiting
    · have sentSpares : SparesOwn own sent (hub.afterUid.enqueue
          (weatherData hub.stationId hub.engine.nextUid reading []) .long).2 := by
        refine prepared.enqueue ?_ .long
        intro outgoing data_eq
        have noneWritable : ∀ other ∈ ([] : List Reading), other.Writable := by simp
        exact foreign_of_carries_none (carried_weatherData length_le noneWritable data_eq)
      generalize hub.afterUid.enqueue _ _ = ended at sentSpares ⊢
      rcases ended with ⟨cause | _, left⟩
      · exact sentSpares
      · exact keeps_sparesOwn_flushBatch left sentSpares

theorem keeps_sparesOwn_sendStatus (report : Channel.Report) :
    (sendStatus report : Operation κ φ logSize UInt8).Keeps (SparesOwn own sent) := by
  intro hub spares
  have prepared : hub.afterUid.SparesOwn own sent := spares.of_eq rfl rfl
  rw [run_sendStatus]
  refine prepared.enqueue ?_ .long
  intro outgoing data_eq
  rw [statusData, List.append_assoc] at data_eq
  exact foreign_of_carries_none (carried_of_other (by simp) data_eq)

variable [FirmwareUpdater φ]

theorem sparesOwn_hear (header : Header) (frame : Bytes) (report : Channel.Report) (now : Nat)
    {hub : Hub κ φ logSize} (spares : hub.SparesOwn own sent) :
    (hub.hear header frame report now).2.SparesOwn own sent := by
  have heard := onlyAcknowledges_hear header frame report now hub
  rcases heard.frames with frames_eq | ⟨outgoing, payload, frames_eq, data_eq⟩
  · exact spares.of_eq heard.batch frames_eq
  · apply spares.of_append heard.batch frames_eq
    exact foreign_of_carries_none (carried_of_other (by simp) data_eq)

theorem sparesOwn_process (frame : Bytes) (report : Channel.Report) (now : Nat)
    {hub : Hub κ φ logSize} (stationId_eq : hub.stationId = own)
    (spares : hub.SparesOwn own sent) :
    (hub.process frame report now).2.SparesOwn own sent := by
  rcases hub.process_cases frame report now with
    process_eq | ⟨header, services, _, _, _, process_eq, _⟩
  · rw [process_eq]
    exact spares
  · have heardSpares := sparesOwn_hear header frame report now spares
    have heard_eq : header.kind = .weather →
        (hub.hear header frame report now).2.stationId = own := by
      intro isWeather
      exact (onlyObserves_hear isWeather frame report now hub).stationId_eq.trans stationId_eq
    rw [process_eq]
    exact (sparesOwn_relay hub.stationId frame heard_eq heardSpares).of_eq rfl rfl

/-! ### A run -/

/-- The call leaves only readings of other stations waiting, and sends only such readings along,
unless it sends a frame of the host. -/
def Event.Spares (own : UInt8) (event : Event κ φ logSize) : Prop :=
  event.next.AwaitsOthers own ∧ ((∀ frame, event.call ≠ .sendHostFrame frame) →
    ∀ outgoing ∈ event.queued, ∀ reading ∈ carried outgoing, reading.station ≠ own)

theorem Event.spares_of_sparesOwn {event : Event κ φ logSize}
    (queued_eq : event.queued = event.next.outbox.frames.drop event.hub.outbox.frames.length)
    (spares : event.next.SparesOwn own event.hub.outbox.frames) : event.Spares own := by
  refine ⟨spares.toAwaitsOthers, fun _ => ?_⟩
  rcases spares.queued with ⟨queued, frames_eq, foreign⟩
  rw [queued_eq, frames_eq, List.drop_left]
  exact foreign

theorem Event.spares (event : Event κ φ logSize) (stationId_eq : event.hub.stationId = own)
    (awaits : event.hub.AwaitsOthers own) : event.Spares own := by
  have spares := awaits.sparesOwn
  rcases event with ⟨hub, call⟩
  cases call with
  | process frame report now =>
      exact spares_of_sparesOwn rfl (sparesOwn_process frame report now stationId_eq spares)
  | sendHostFrame frame =>
      -- What a frame of the host carries is not known, but nothing is taken in.
      refine ⟨?_, fun notHost => absurd rfl (notHost frame)⟩
      rcases hub.run_sendHostFrame frame with ⟨preamble, run_eq⟩
      apply awaits.of_eq
      change ((sendHostFrame frame).run hub).2.engine.batch = hub.engine.batch
      rw [run_eq, engine_enqueue, remember]
      split <;> rfl
  | sendWeather reading =>
      exact spares_of_sparesOwn rfl (keeps_sparesOwn_sendWeather reading hub spares)
  | sendStatus report =>
      exact spares_of_sparesOwn rfl (keeps_sparesOwn_sendStatus report hub spares)
  | flushBatch => exact spares_of_sparesOwn rfl (keeps_sparesOwn_flushBatch hub spares)
  | outside outbox services host =>
      exact ⟨awaits.of_eq rfl, fun _ _ mem => absurd mem List.not_mem_nil⟩

/-- What is done with a hub over time: its calls, the commands of the host, and what only draws ids
or takes up pending work. -/
inductive Deed (κ φ : Type) (logSize : Nat) where
  | call (call : Call κ φ logSize)
  | executeLocal (command : Bytes) (report : Channel.Report) (now : Nat)
  | takePending
  | takeUid
  | pickId

/-- The call that is made, if one is. -/
def Deed.call? : Deed κ φ logSize → Option (Call κ φ logSize)
  | .call made => some made
  | _ => none

/-- The hub after one deed. -/
def act (hub : Hub κ φ logSize) : Deed κ φ logSize → Hub κ φ logSize
  | .call call => hub.perform call
  | .executeLocal command report now => (hub.executeLocal command report now).2
  | .takePending => hub.withEngine fun engine => engine.takePending.2
  | .takeUid => hub.afterUid
  | .pickId => hub.withEngine fun engine => (engine.pickId hub.stationId).2

/-- The calls among some deeds, with the hubs they were made on. -/
def history : List (Deed κ φ logSize) → Hub κ φ logSize → List (Event κ φ logSize)
  | [], _ => []
  | deed :: deeds, hub =>
      (deed.call?.map fun call => { hub, call }).toList ++ history deeds (hub.act deed)

theorem batch_act_of_noCall {deed : Deed κ φ logSize} (noCall : deed.call? = none)
    (hub : Hub κ φ logSize) : (hub.act deed).engine.batch = hub.engine.batch := by
  cases deed with
  | call made => simp [Deed.call?] at noCall
  | executeLocal command report now =>
      have executes := onlyExecutes_executeBytes command report now hub
      simp only [act, executeLocal]
      generalize hub.executeBytes command report now = ended at executes ⊢
      rcases ended with ⟨answer, left⟩
      dsimp only at executes ⊢
      split
      · exact executes.batch
      · exact executes.batch
  | takePending => rfl
  | takeUid => rfl
  | pickId =>
      rcases hub.engine.onlyDraws_pickId hub.stationId Engine.idDraws with ⟨random, left_eq⟩
      simp only [act, withEngine, left_eq]

theorem act_of_call {deed : Deed κ φ logSize} {made : Call κ φ logSize}
    (called : deed.call? = some made) (hub : Hub κ φ logSize) :
    hub.act deed = hub.perform made := by
  cases deed with
  | call _ =>
      cases called
      rfl
  | _ => contradiction

/-- Over a run no reading of the station waits, and its own messages carry none along. -/
theorem spares_history {deeds : List (Deed κ φ logSize)} {start : Hub κ φ logSize}
    (awaits : start.AwaitsOthers own)
    (constant : ∀ event ∈ history deeds start, event.hub.stationId = own) :
    (deeds.foldl act start).AwaitsOthers own ∧
      ∀ event ∈ history deeds start, event.Spares own := by
  induction deeds generalizing start with
  | nil => exact ⟨awaits, by simp [history]⟩
  | cons deed deeds ih =>
      rw [history] at constant ⊢
      -- A deed that is no call leaves the readings that wait alone.
      cases called : deed.call? with
      | none =>
          rw [called] at constant
          exact ih (awaits.of_eq (batch_act_of_noCall called start)) constant
      | some made =>
          rw [called] at constant
          simp only [Option.map_some, Option.toList_some, List.singleton_append,
            List.forall_mem_cons] at constant ⊢
          have first := Event.spares ⟨start, made⟩ constant.1 awaits
          have next_eq : start.act deed = (⟨start, made⟩ : Event κ φ logSize).next :=
            act_of_call called start
          rcases ih (next_eq ▸ first.1) constant.2 with ⟨leftAwaits, later⟩
          exact ⟨leftAwaits, first, later⟩

/-- A message that is to be dropped changes nothing, and no other is reported as discarded alone. A
command to the station itself is not relayed, whatever it demands: it is answered at most. In any
run that starts with no reading waiting, and in which the station has one id, no reading under that
id waits in the batch, or is carried along by a message that the station puts into the outbox, other
than a frame of the host. -/
theorem own_traffic_inert :
    (∀ (hub : Hub κ φ logSize) (frame : Bytes) (report : Channel.Report) (now : Nat),
      hub.process frame report now = ({ discarded := true }, hub) ↔ hub.Disregards frame) ∧
    (∀ (hub : Hub κ φ logSize) (header : Header) (frame : Bytes) (report : Channel.Report)
      (now : Nat), Header.parse frame = .ok header → header.kind = .command →
        header.station = hub.stationId →
          (hub.process frame report now).1.relayed = false ∧
            hub.OnlyAcknowledges hub.stationId header.uid (hub.process frame report now).2) ∧
    ∀ (deeds : List (Deed κ φ logSize)) (start : Hub κ φ logSize) (own : UInt8),
      start.engine.batch.readings = [] →
        (∀ event ∈ history deeds start, event.hub.stationId = own) →
          (∀ reading ∈ (deeds.foldl act start).engine.batch.readings, reading.station ≠ own) ∧
            ∀ event ∈ history deeds start, (∀ frame, event.call ≠ .sendHostFrame frame) →
              ∀ outgoing ∈ event.queued, ∀ reading ∈ carried outgoing, reading.station ≠ own := by
  refine ⟨fun hub frame report now => hub.process_eq_discarded_iff frame report now, ?_, ?_⟩
  · intro hub header frame report now parsed isCommand toSelf
    exact process_of_commandToSelf parsed isCommand toSelf report now
  · intro deeds start own empty constant
    have awaits : start.AwaitsOthers own :=
      ⟨hasSoundBatch_of_readings_eq_nil empty, by simp [empty]⟩
    rcases spares_history awaits constant with ⟨leftAwaits, spares⟩
    exact ⟨leftAwaits.waiting, fun event mem => (spares event mem).2⟩

/-- Weather in which a reading of the station stands between two others, weather of the station
itself, and weather that brings back what it sent. -/
def ownAmongOthers : List (Deed Config.Settings RuleUpdater 0) :=
  [.call (.process [0x57, 6, 1, 1, 10, 1, 7, 1, 9, 8, 2, 0] {} 0),
    .executeLocal [0x42] {} 0,
    .call (.sendWeather [9]),
    .takePending,
    .call (.process [0xD7, 7, 3, 0, 1, 4, 0] {} 0),
    .call .flushBatch]

theorem own_traffic_inert_ownAmongOthers :
    let start := ofSettings { weatherRelays := .padded [6] }
    let toSelf : Header := { kind := .command, forced := true, station := 1, uid := 5 }
    (start.Disregards [0xD7, 1, 9, 1, 10] ∧
      start.process [0xD7, 1, 9, 1, 10] {} 0 = ({ discarded := true }, start)) ∧
    ((Header.parse [0xC3, 1, 5, 0x4E] = .ok toSelf ∧ toSelf.kind = .command ∧
        toSelf.station = start.stationId) ∧
      (start.process [0xC3, 1, 5, 0x4E] {} 0).1.relayed = false) ∧
    (start.engine.batch.readings = [] ∧
      ∀ event ∈ history ownAmongOthers start, event.hub.stationId = 1) ∧
    ((∀ event ∈ history ownAmongOthers start, (∀ frame, event.call ≠ .sendHostFrame frame) →
        ∀ outgoing ∈ event.queued, ∀ reading ∈ carried outgoing, reading.station ≠ 1) ∧
      ((history ownAmongOthers start).flatMap fun event => event.queued.flatMap carried) =
        [⟨6, 1, [10]⟩, ⟨8, 2, []⟩, ⟨7, 3, []⟩]) := by
  intro start toSelf
  have inert := @own_traffic_inert Config.Settings RuleUpdater 0 _ _
  have disregards : start.Disregards [0xD7, 1, 9, 1, 10] := .inr ⟨_, rfl, by decide, rfl⟩
  have discarded := (inert.1 start [0xD7, 1, 9, 1, 10] {} 0).mpr disregards
  have unrelayed := inert.2.1 start toSelf [0xC3, 1, 5, 0x4E] {} 0 rfl rfl rfl
  have constant : ∀ event ∈ history ownAmongOthers start, event.hub.stationId = 1 := by
    decide +kernel
  have spared := inert.2.2 ownAmongOthers start 1 rfl constant
  exact ⟨⟨disregards, discarded⟩, ⟨⟨rfl, rfl, rfl⟩, unrelayed.1⟩, ⟨rfl, constant⟩, spared.2,
    by decide +kernel⟩

end Hub

end Relay

end StationMesh
