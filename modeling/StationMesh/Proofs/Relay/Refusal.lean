import StationMesh.Proofs.Relay.Carriage

/-!
# Sends that fail

A send that fails is reported, leaves the frames that are queued where they are, and is not
remembered, so that it can be tried again. The readings that wait are not kept for that: they go
along with the message, and are given up with it. What was handed on until then is a front part of
what was to be handed on.
-/

namespace StationMesh

theorem Weather.Batch.eq_of_readings_eq {capacity : Nat} {batch other : Batch capacity}
    (readings_eq : batch.readings = other.readings) : batch = other := by
  cases batch
  cases other
  simpa using readings_eq

namespace Relay.Hub

open Weather

variable {κ φ : Type} {logSize : Nat}

/-- The frames that are queued, the readings that wait and what is remembered as relayed are as they
were. -/
structure Untouched (hub next : Hub κ φ logSize) : Prop where
  frames : next.outbox.frames = hub.outbox.frames
  batch : next.engine.batch = hub.engine.batch
  relayed : next.engine.relayed = hub.engine.relayed

/-- A send broke off. No reading waits any more, nothing more is remembered, and the frames that
were queued until then carry a front part of the readings that waited and of those on offer. -/
structure BreaksOff (offered : List Reading) (hub next : Hub κ φ logSize) : Prop where
  emptied : next.engine.batch.readings = []
  relayed : next.engine.relayed = hub.engine.relayed
  queued : ∃ queued, next.outbox.frames = hub.outbox.frames ++ queued ∧
    queued.flatMap carried <+: hub.engine.batch.readings ++ offered

namespace BreaksOff

variable {offered more taken : List Reading} {hub next last : Hub κ φ logSize}

theorem of_outbox_eq (emptied : next.engine.batch.readings = [])
    (relayed : next.engine.relayed = hub.engine.relayed) (outbox_eq : next.outbox = hub.outbox) :
    BreaksOff offered hub next where
  emptied := emptied
  relayed := relayed
  queued := ⟨[], by simp [outbox_eq], by simp⟩

theorem mono (breaks : BreaksOff offered hub next) : BreaksOff (offered ++ more) hub next where
  emptied := breaks.emptied
  relayed := breaks.relayed
  queued := by
    rcases breaks.queued with ⟨queued, frames_eq, front⟩
    refine ⟨queued, frames_eq, ?_⟩
    rw [← List.append_assoc]
    exact front.trans (List.prefix_append _ _)

/-- What was handed on before comes first. -/
theorem after (breaks : BreaksOff offered next last) (conveys : Conveys taken hub next)
    (turnedAway_eq : next.turnedAway = hub.turnedAway)
    (relayed_eq : next.engine.relayed = hub.engine.relayed) :
    BreaksOff (taken ++ offered) hub last where
  emptied := breaks.emptied
  relayed := breaks.relayed.trans relayed_eq
  queued := by
    rcases breaks.queued with ⟨later, later_eq, front⟩
    rcases conveys with ⟨_, queued, frames_eq, conserved⟩
    refine ⟨queued ++ later, ?_, ?_⟩
    · rw [later_eq, frames_eq, List.append_assoc]
    · rw [List.flatMap_append, ← List.append_assoc, ← conserved turnedAway_eq, List.append_assoc]
      exact (List.prefix_append_right_inj _).mpr front

theorem untouched_iff (breaks : BreaksOff offered hub next) : Untouched hub next ↔
    hub.engine.batch.readings = [] ∧ next.outbox.frames = hub.outbox.frames := by
  constructor
  · intro untouched
    refine ⟨?_, untouched.frames⟩
    rw [← untouched.batch]
    exact breaks.emptied
  · rintro ⟨empty, frames_eq⟩
    refine ⟨frames_eq, ?_, breaks.relayed⟩
    apply Batch.eq_of_readings_eq
    rw [breaks.emptied, empty]

end BreaksOff

variable [Config.Store κ]

/-! ### The batch is sent -/

/-- The readings that wait are given up if they cannot be sent. -/
theorem breaksOff_flushBatch {hub next : Hub κ φ logSize} {cause : TransportError}
    (failed : flushBatch.run hub = (.error cause, next)) :
    BreaksOff [] hub next ∧ next.outbox = hub.outbox ∧ hub.engine.batch.readings ≠ [] := by
  have sends := moves_flushBatch hub
  have emptied := hub.readings_flushBatch
  rw [failed] at sends emptied
  rw [run_flushBatch] at failed
  split at failed
  · simp at failed
  · rename_i waiting
    simp only [Prod.mk.injEq] at failed
    have outbox_eq : next.outbox = hub.outbox := by
      rw [← failed.2]
      exact outbox_enqueue_of_error failed.1
    refine ⟨.of_outbox_eq emptied sends.relayed outbox_eq, outbox_eq, ?_⟩
    simpa [Batch.isEmpty] using waiting

/-! ### Readings are relayed -/

theorem breaksOff_relayReading {reading : Reading} {hub next : Hub κ φ logSize}
    {cause : TransportError} (sound : hub.HasSoundBatch)
    (failed : (relayReading reading).run hub = (.error cause, next)) :
    BreaksOff [reading] hub next := by
  have flush := handsOn_flushBatch sound True
  have emptied := hub.readings_flushBatch
  have sends := moves_flushBatch hub
  rw [run_relayReading] at failed
  split at failed
  · simp at failed
  · rcases flushed_eq : flushBatch.run hub with ⟨flushCause | _, flushed⟩
    · simp only [flushed_eq, Prod.mk.injEq] at failed
      rw [← failed.2]
      exact (breaksOff_flushBatch flushed_eq).1.mono
    · simp only [flushed_eq] at failed flush emptied sends
      split at failed
      · simp at failed
      · -- The batch went out, and the reading does not fit in a message or finds no slot.
        have lost := outbox_enqueue_of_error (congrArg Prod.fst failed)
        rw [failed] at lost
        have engine_eq := engine_enqueue
          (weatherData flushed.stationId flushed.engine.nextUid [] reading.encode) .long
          flushed.afterUid
        rw [failed] at engine_eq
        have alone : BreaksOff [reading] flushed next := by
          apply BreaksOff.of_outbox_eq
          · rw [engine_eq]
            exact emptied
          · rw [engine_eq]
            rfl
          · exact lost
        exact alone.after flush.1 flush.2 sends.relayed

theorem breaksOff_relayReadings {readings : List Reading}
    (writable : ∀ reading ∈ readings, reading.Writable) {hub next : Hub κ φ logSize}
    {cause : TransportError} (sound : hub.HasSoundBatch)
    (failed : (relayReadings readings).run hub = (.error cause, next)) :
    BreaksOff (foreign hub.stationId readings) hub next := by
  induction readings generalizing hub with
  | nil => cases failed
  | cons reading rest ih =>
      have restWritable : ∀ other ∈ rest, other.Writable :=
        fun other mem => writable other (List.mem_cons_of_mem _ mem)
      rw [run_relayReadings_cons] at failed
      split at failed
      · rename_i own
        rw [foreign_cons_of_eq own]
        exact ih restWritable sound failed
      · rename_i other
        have one := handsOn_relayReading (writable reading List.mem_cons_self) sound
        have leftSound := keeps_sound_relayReading reading hub sound
        have sends := moves_relayReading reading hub
        rw [foreign_cons_of_ne other]
        rcases first : (relayReading reading).run hub with ⟨firstCause | _, left⟩
        · simp only [first, Prod.mk.injEq] at failed
          rw [← failed.2]
          exact (breaksOff_relayReading sound first).mono
        · simp only [first] at failed one leftSound sends
          have breaks := ih restWritable leftSound failed
          rw [sends.stationId_eq] at breaks
          exact breaks.after one.1 one.2 sends.relayed

/-! ### The station sends weather -/

omit [Config.Store κ] in
theorem eq_error_of_map {α β : Type} {answer : α → β} {ended : Except TransportError α}
    {cause : TransportError} (failed : ended.map answer = .error cause) : ended = .error cause := by
  cases ended with
  | error other => simpa [Except.map] using failed
  | ok value => simp [Except.map] at failed

/-- The readings that wait do not suffer from a message of the station that fails: it is too long
whatever waits, nothing waits, or they would have gone behind it, and there is no slot even for it.
-/
def SparesBatch (reading : Bytes) (hub : Hub κ φ logSize) : Prop :=
  maxOwnReading < reading.length ∨ hub.engine.batch.readings = [] ∨
    (maxOwnReading - reading.length < hub.engine.batch.size ∧ hub.outbox.length = Outbox.slots)

/-- The message of the station is queued, and the readings that were to go behind it find no slot.
-/
theorem breaksOff_flushBatch_behind {reading : Bytes} {hub next : Hub κ φ logSize}
    {own : OutFrame} {outbox : Outbox} {cause : TransportError}
    (fits : reading.length ≤ maxOwnReading)
    (data_eq : own.data = weatherData hub.stationId hub.engine.nextUid reading [])
    (frames_eq : outbox.frames = hub.outbox.frames ++ [own])
    (failed : flushBatch.run { hub.afterUid with outbox } = (.error cause, next)) :
    BreaksOff [] hub next ∧ next.outbox.frames = hub.outbox.frames ++ [own] ∧
      hub.engine.batch.readings ≠ [] := by
  rcases breaksOff_flushBatch failed with ⟨breaks, outbox_eq, waiting⟩
  have length_le : reading.length ≤ Reading.maxData := by
    simp only [maxOwnReading, OutFrame.maxSize, Header.size, Reading.maxData] at fits ⊢
    omega
  have carriesNone : carried own = [] := carried_weatherData length_le (by simp) data_eq
  have conveys : Conveys [] hub { hub.afterUid with outbox } :=
    ⟨Nat.le_refl _, [own], frames_eq, fun _ => by simp [carriesNone]⟩
  refine ⟨breaks.after conveys rfl rfl, ?_, waiting⟩
  rw [outbox_eq]
  exact frames_eq

/-- How a message of the station failed: nothing happened, or the readings that waited are given up,
and the message itself is queued at most. -/
theorem sendWeather_error_cases {reading : Bytes} {hub next : Hub κ φ logSize}
    {cause : TransportError} (failed : (sendWeather reading).run hub = (.error cause, next)) :
    (Untouched hub next ∧ SparesBatch reading hub) ∨
      (BreaksOff [] hub next ∧ ¬SparesBatch reading hub ∧
        (next.outbox.frames = hub.outbox.frames ∨
          ∃ own, next.outbox.frames = hub.outbox.frames ++ [own] ∧
            own.data = weatherData hub.stationId hub.engine.nextUid reading [])) := by
  have sends := moves_sendWeather reading hub
  rw [failed] at sends
  rw [run_sendWeather] at failed
  split at failed
  · rename_i long
    simp only [Prod.mk.injEq] at failed
    rcases failed with ⟨_, rfl⟩
    exact .inl ⟨⟨rfl, rfl, rfl⟩, .inl long⟩
  · rename_i fitsFrame
    split at failed
    · rename_i together
      simp only [Prod.mk.injEq] at failed
      rcases failed with ⟨failed, rfl⟩
      have outbox_eq := outbox_enqueue_of_error (eq_error_of_map failed)
      have frames_eq := congrArg Outbox.frames outbox_eq
      have breaks : BreaksOff [] hub _ := .of_outbox_eq rfl sends.relayed outbox_eq
      by_cases empty : hub.engine.batch.readings = []
      · left
        exact ⟨breaks.untouched_iff.mpr ⟨empty, frames_eq⟩, .inr (.inl empty)⟩
      · right
        refine ⟨breaks, ?_, .inl frames_eq⟩
        rintro (long | waitsNone | ⟨apart, _⟩)
        · exact fitsFrame long
        · exact empty waitsNone
        · omega
    · rename_i apart
      rcases hub.afterUid.enqueue_cases (weatherData hub.stationId hub.engine.nextUid reading [])
          .long with
        ⟨own, outbox, data_eq, _, frames_eq, run_eq⟩ | ⟨full, run_eq⟩ | ⟨long, _⟩
      · right
        simp only [run_eq, Prod.mk.injEq] at failed
        rcases failed with ⟨failed, rfl⟩
        have fits := Nat.le_of_not_lt fitsFrame
        rcases breaksOff_flushBatch_behind fits data_eq frames_eq
          (Prod.ext (eq_error_of_map failed) rfl) with ⟨breaks, added, waiting⟩
        refine ⟨breaks, ?_, .inr ⟨own, added, data_eq⟩⟩
        rintro (long | waitsNone | ⟨_, full⟩)
        · exact fitsFrame long
        · exact waiting waitsNone
        · have room := outbox.length_le
          rw [frames_eq, List.length_append, List.length_singleton] at room
          change hub.outbox.frames.length = 24 at full
          change hub.outbox.frames.length + 1 ≤ 24 at room
          omega
      · left
        simp only [run_eq, Prod.mk.injEq] at failed
        rcases failed with ⟨_, rfl⟩
        refine ⟨⟨rfl, rfl, rfl⟩, .inr (.inr ⟨by omega, full⟩)⟩
      · rw [length_weatherData] at long
        simp only [maxOwnReading, OutFrame.maxSize, Header.size, List.length_nil] at long fitsFrame
        omega

/-! ### Sending again -/

omit [Config.Store κ] in
theorem exists_enqueue_eq_ok {data : Bytes} {hub : Hub κ φ logSize}
    (fits : data.length ≤ OutFrame.maxSize) (room : hub.outbox.length < Outbox.slots)
    (preamble : Preamble) : ∃ frame outbox, outbox.frames = hub.outbox.frames ++ [frame] ∧
      hub.enqueue data preamble = (.ok (), { hub with outbox }) := by
  rcases hub.enqueue_cases data preamble with
    ⟨frame, outbox, _, _, frames_eq, run_eq⟩ | ⟨full, _⟩ | ⟨long, _⟩
  · exact ⟨frame, outbox, frames_eq, run_eq⟩
  · omega
  · omega

theorem exists_flushBatch_eq_ok {hub : Hub κ φ logSize} (sound : hub.HasSoundBatch)
    (room : hub.outbox.length < Outbox.slots) : ∃ left, flushBatch.run hub = (.ok (), left) := by
  rw [run_flushBatch]
  split
  · exact ⟨hub, rfl⟩
  · have batch_le := sound.size_le
    have fits : (weatherData hub.stationId hub.engine.nextUid []
        hub.engine.batch.bytes).length ≤ OutFrame.maxSize := by
      rw [length_weatherData]
      change hub.engine.batch.bytes.length ≤ 100 at batch_le
      simp only [List.length_nil, OutFrame.maxSize]
      omega
    have roomAfter : hub.afterUid.outbox.length < Outbox.slots := room
    rcases exists_enqueue_eq_ok fits roomAfter .long with ⟨_, outbox, _, run_eq⟩
    simp only [run_eq]
    exact ⟨_, rfl⟩

theorem exists_sendWeather_eq_ok {reading : Bytes} {hub : Hub κ φ logSize}
    (sound : hub.HasSoundBatch) (length_le : reading.length ≤ maxOwnReading)
    (room : 2 ≤ hub.outbox.free) :
    ∃ uid next, (sendWeather reading).run hub = (.ok uid, next) := by
  have slot : hub.afterUid.outbox.length < Outbox.slots := by
    simp only [Outbox.free] at room
    change hub.outbox.length < Outbox.slots
    omega
  rw [run_sendWeather, if_neg (Nat.not_lt.mpr length_le)]
  simp only [maxOwnReading, OutFrame.maxSize, Header.size] at length_le
  split
  · rename_i together
    have fits : (weatherData hub.stationId hub.engine.nextUid reading
        hub.engine.batch.bytes).length ≤ OutFrame.maxSize := by
      rw [length_weatherData]
      change hub.engine.batch.bytes.length ≤ _ at together
      simp only [maxOwnReading, OutFrame.maxSize, Header.size] at together ⊢
      omega
    rcases exists_enqueue_eq_ok fits slot .long with ⟨_, outbox, _, run_eq⟩
    simp only [run_eq]
    exact ⟨_, _, rfl⟩
  · have fits : (weatherData hub.stationId hub.engine.nextUid reading []).length ≤
        OutFrame.maxSize := by
      rw [length_weatherData]
      simp only [List.length_nil, OutFrame.maxSize]
      omega
    rcases exists_enqueue_eq_ok fits slot .long with ⟨own, outbox, frames_eq, run_eq⟩
    let queued : Hub κ φ logSize := { hub.afterUid with outbox }
    have queuedSound : queued.HasSoundBatch := sound
    have queuedRoom : queued.outbox.length < Outbox.slots := by
      change outbox.frames.length < Outbox.slots
      rw [frames_eq, List.length_append, List.length_singleton]
      change hub.outbox.frames.length + 1 < Outbox.slots
      simp only [Outbox.free, Outbox.length] at room
      omega
    rcases exists_flushBatch_eq_ok queuedSound queuedRoom with ⟨left, flushed⟩
    simp only [run_eq]
    change ∃ uid next, ((flushBatch.run queued).1.map fun _ => hub.engine.nextUid,
      (flushBatch.run queued).2) = (.ok uid, next)
    rw [flushed]
    exact ⟨_, _, rfl⟩

/-- The message with the reading went out first, and each reading that waited goes out behind it or
waits still. -/
def SendsAll (reading : Bytes) (uid : UInt8) (hub next : Hub κ φ logSize) : Prop :=
  ∃ (frame : OutFrame) (later : List OutFrame) (along : List Reading),
    next.outbox.frames = hub.outbox.frames ++ frame :: later ∧
    frame.data = weatherData hub.stationId uid reading (along.flatMap Reading.encode) ∧
    (frame :: later).flatMap carried ++ next.engine.batch.readings = hub.engine.batch.readings

theorem exists_sendsAll {reading : Bytes} {hub : Hub κ φ logSize} (sound : hub.HasSoundBatch)
    (length_le : reading.length ≤ maxOwnReading) (room : 2 ≤ hub.outbox.free) :
    ∃ uid next, (sendWeather reading).run hub = (.ok uid, next) ∧
      SendsAll reading uid hub next := by
  rcases exists_sendWeather_eq_ok sound length_le room with ⟨uid, next, sent⟩
  rcases exists_frame_of_sendWeather sent with ⟨frame, later, along, frames_eq, data_eq, _⟩
  have load_lt : hub.load < Outbox.slots := by
    have load_le := hub.load_le_length_succ
    simp only [Outbox.free] at room
    omega
  have turnedAway_eq := (originates_sendWeather reading hub).turnedAway_eq load_lt
  rcases conveys_sendWeather reading sound with ⟨_, queued, queued_eq, conserved⟩
  rw [sent] at turnedAway_eq queued_eq conserved
  have same : frame :: later = queued := by
    apply List.append_cancel_left
    rw [← frames_eq, ← queued_eq]
  refine ⟨uid, next, sent, frame, later, along, frames_eq, data_eq, ?_⟩
  rw [same, conserved turnedAway_eq, List.append_nil]

/-! ### Weather is relayed -/

section

variable [FirmwareUpdater φ]

theorem breaksOff_process {header : Header} {frame : Bytes} {hub : Hub κ φ logSize}
    (sound : hub.HasSoundBatch) (parsed : Header.parse frame = .ok header)
    (isWeather : header.kind = .weather) (must : hub.MustRelay header) {report : Channel.Report}
    {now : Nat} (refused : (hub.process frame report now).1.relayed = false) :
    BreaksOff (foreign hub.stationId (Reading.parseAll (frame.drop 1)).1) hub
      (hub.process frame report now).2 := by
  rcases exists_settles parsed isWeather must report now with ⟨heard, settles⟩
  have heardSound := settles.hears.hasSoundBatch sound
  have forgotten := settles.forgotten refused
  have relayed_iff := settles.relayed_iff
  have outbox_eq := settles.outbox
  have batch_eq := settles.batch
  rcases ended : (relayReadings (Reading.parseAll (frame.drop 1)).1).run heard with
    ⟨cause | ⟨⟩, left⟩
  · have breaks := breaksOff_relayReadings (fun _ mem => Reading.writable_of_mem_parseAll mem)
      heardSound ended
    rw [ended] at outbox_eq batch_eq
    rw [settles.observes.stationId_eq] at breaks
    constructor
    · rw [batch_eq]
      exact breaks.emptied
    · exact forgotten
    · simpa only [outbox_eq, settles.observes.outbox, settles.hears.batch] using breaks.queued
  · simp only [ended, refused, Bool.false_eq_true, false_iff, not_true_eq_false] at relayed_iff

/-- A message that broke off is relayed as soon as there is room, if its readings are short: all of
those for other stations are then handed on, whatever was handed on of them before. -/
theorem handedOn_again {header : Header} {frame : Bytes} {later : Hub κ φ logSize}
    (emptied : later.engine.batch.readings = []) (parsed : Header.parse frame = .ok header)
    (isWeather : header.kind = .weather) (length_le : frame.length ≤ OutFrame.maxSize)
    (must : later.MustRelay header)
    (short : ∀ reading ∈ (Reading.parseAll (frame.drop 1)).1, reading.data.length ≤ maxCarried)
    (room : messageReserve ≤ later.outbox.free) (report : Channel.Report) (now : Nat) :
    let again := later.process frame report now
    again.1.relayed = true ∧
      (again.2.outbox.frames.drop later.outbox.frames.length).flatMap carried ++
          again.2.engine.batch.readings =
        foreign later.stationId (Reading.parseAll (frame.drop 1)).1 := by
  have sound := hasSoundBatch_of_readings_eq_nil emptied
  have slots : later.outbox.length + 6 ≤ Outbox.slots := by
    simp only [Outbox.free, messageReserve] at room
    omega
  have received_le : frame.length ≤ 255 := Nat.le_succ_of_le length_le
  have relayed := relayed_of_short sound parsed isWeather received_le must short slots report now
  have handedOn := handedOn_of_relayed sound parsed isWeather relayed
  rw [emptied] at handedOn
  exact ⟨relayed, handedOn⟩

/-- A send that fails leaves the queued frames where they are and is not remembered. The readings
that wait are given up with the batch when it cannot be sent, with a message of the station unless
it spares them, and with a weather message that is being relayed, and then with it all it did not
hand on so far; what it handed on is a front part of what was to be. So nothing at all has happened
if and only if no reading was given up and no frame was queued, and in that case a second try hands
on every reading once. -/
theorem untouched_iff_of_refused :
    (∀ (hub next : Hub κ φ logSize) (cause : TransportError),
      flushBatch.run hub = (.error cause, next) →
        BreaksOff [] hub next ∧ next.outbox = hub.outbox ∧
          hub.engine.batch.readings ≠ [] ∧ ¬Untouched hub next) ∧
    (∀ (hub next : Hub κ φ logSize) (cause : TransportError) (reading : Bytes),
      (sendWeather reading).run hub = (.error cause, next) →
        next.engine.relayed = hub.engine.relayed ∧
        (Untouched hub next ↔ SparesBatch reading hub) ∧
        (¬SparesBatch reading hub → BreaksOff [] hub next ∧
          (next.outbox.frames = hub.outbox.frames ∨
            ∃ own, next.outbox.frames = hub.outbox.frames ++ [own] ∧
              own.data = weatherData hub.stationId hub.engine.nextUid reading [])) ∧
        ∀ later : Hub κ φ logSize, later.HasSoundBatch → reading.length ≤ maxOwnReading →
          2 ≤ later.outbox.free → ∃ uid last, (sendWeather reading).run later = (.ok uid, last) ∧
            SendsAll reading uid later last) ∧
    (∀ (hub : Hub κ φ logSize) (header : Header) (frame : Bytes) (report : Channel.Report)
      (now : Nat),
      hub.HasSoundBatch → Header.parse frame = .ok header → header.kind = .weather →
        hub.MustRelay header → (hub.process frame report now).1.relayed = false →
          let next := (hub.process frame report now).2
          BreaksOff (foreign hub.stationId (Reading.parseAll (frame.drop 1)).1) hub next ∧
          (Untouched hub next ↔
            hub.engine.batch.readings = [] ∧ next.outbox.frames = hub.outbox.frames) ∧
          ∀ (later : Hub κ φ logSize) (report : Channel.Report) (now : Nat),
            later.engine.batch = next.engine.batch → later.MustRelay header →
              frame.length ≤ OutFrame.maxSize →
                (∀ reading ∈ (Reading.parseAll (frame.drop 1)).1,
                  reading.data.length ≤ maxCarried) →
                  messageReserve ≤ later.outbox.free →
                    let again := later.process frame report now
                    again.1.relayed = true ∧
                      (again.2.outbox.frames.drop later.outbox.frames.length).flatMap carried ++
                          again.2.engine.batch.readings =
                        foreign later.stationId (Reading.parseAll (frame.drop 1)).1) := by
  refine ⟨?_, ?_, ?_⟩
  · intro hub next cause failed
    rcases breaksOff_flushBatch failed with ⟨breaks, outbox_eq, waiting⟩
    refine ⟨breaks, outbox_eq, waiting, ?_⟩
    rw [breaks.untouched_iff]
    exact fun untouched => waiting untouched.1
  · intro hub next cause reading failed
    have again (later : Hub κ φ logSize) (sound : later.HasSoundBatch)
        (length_le : reading.length ≤ maxOwnReading) (room : 2 ≤ later.outbox.free) :=
      exists_sendsAll sound length_le room
    rcases sendWeather_error_cases failed with ⟨untouched, spares⟩ | ⟨breaks, spoils, frames_eq⟩
    · refine ⟨untouched.relayed, iff_of_true untouched spares, ?_, again⟩
      exact fun spoils => absurd spares spoils
    · refine ⟨breaks.relayed, iff_of_false ?_ spoils, fun _ => ⟨breaks, frames_eq⟩, again⟩
      rw [breaks.untouched_iff]
      exact fun untouched => spoils (.inr (.inl untouched.1))
  · intro hub header frame report now sound parsed isWeather must refused next
    have breaks := breaksOff_process sound parsed isWeather must refused
    refine ⟨breaks, breaks.untouched_iff, ?_⟩
    intro later report now batch_eq mustAgain length_le short room
    have emptied : later.engine.batch.readings = [] := by
      rw [batch_eq]
      exact breaks.emptied
    exact handedOn_again emptied parsed isWeather length_le mustAgain short room report now

end

/-- An outbox with no free slot. -/
def crowded : Outbox where
  frames := List.replicate 24 { data := [0x50, 1, 7], preamble := .long, size_le := by decide }

/-- Nothing can be sent: a reading that waits is given up, a message of the station on which none
waits is not, and a reading that is too long for the batch is relayed once there is room. -/
theorem untouched_iff_of_refused_crowded :
    let idle := ofSettings { weatherRelays := .padded [6] }
    let stuck := { idle with outbox := crowded }
    let loaded := stuck.withBatch { readings := [⟨6, 1, [10]⟩] }
    let data : Bytes := [0x57, 6, 2, 120] ++ List.replicate 120 0xA5
    let header : Header := { kind := .weather, forced := false, station := 6, uid := 2 }
    (∃ cause next, flushBatch.run loaded = (.error cause, next) ∧ ¬Untouched loaded next) ∧
    (∃ cause next, (sendWeather [9]).run stuck = (.error cause, next) ∧ Untouched stuck next ∧
      ∃ uid last, (sendWeather [9]).run idle = (.ok uid, last) ∧ SendsAll [9] uid idle last) ∧
    (stuck.HasSoundBatch ∧ Header.parse data = .ok header ∧ stuck.MustRelay header ∧
      (stuck.process data {} 0).1.relayed = false) ∧
    Untouched stuck (stuck.process data {} 0).2 ∧
    (idle.process data {} 0).1.relayed = true := by
  intro idle stuck loaded data header
  have refused := @untouched_iff_of_refused Config.Settings RuleUpdater 0 _ _
  have sound : stuck.HasSoundBatch := hasSoundBatch_of_readings_eq_nil rfl
  have must : stuck.MustRelay header := by decide +kernel
  have mustAgain : idle.MustRelay header := by decide +kernel
  have stopped : (stuck.process data {} 0).1.relayed = false := by decide +kernel
  have frames_eq : (stuck.process data {} 0).2.outbox.frames = stuck.outbox.frames := by
    decide +kernel
  have short : ∀ reading ∈ (Reading.parseAll (data.drop 1)).1,
      reading.data.length ≤ maxCarried := by decide +kernel
  have length_le : data.length ≤ OutFrame.maxSize := by decide +kernel
  have room : messageReserve ≤ idle.outbox.free := by decide
  have relaying := refused.2.2 stuck header data {} 0 sound rfl rfl must stopped
  have untouched := relaying.2.1.mpr ⟨rfl, frames_eq⟩
  have again := relaying.2.2 idle {} 0 untouched.batch.symm mustAgain length_le short room
  refine ⟨?_, ?_, ⟨sound, rfl, must, stopped⟩, untouched, again.1⟩
  · rcases flushed : flushBatch.run loaded with ⟨cause | _, next⟩
    · exact ⟨cause, next, rfl, (refused.1 loaded next cause flushed).2.2.2⟩
    · have failed : (flushBatch.run loaded).1.toOption = none := by decide +kernel
      simp [flushed, Except.toOption] at failed
  · rcases sent : (sendWeather [9]).run stuck with ⟨cause | uid, next⟩
    · have sending := refused.2.1 stuck next cause [9] sent
      exact ⟨cause, next, rfl, sending.2.1.mpr (.inr (.inl rfl)),
        sending.2.2.2 idle sound (by decide) (by decide)⟩
    · have failed : ((sendWeather [9]).run stuck).1.toOption = none := by decide +kernel
      simp [sent, Except.toOption] at failed

/-- A reading that waits is gone when the batch cannot be sent, and no frame carries it. -/
theorem waiting_lost_of_refused :
    let hub := ({ ofSettings {} with outbox := crowded } : Hub Config.Settings RuleUpdater 0)
      |>.withBatch { readings := [⟨6, 1, [10]⟩] }
    let flushed := flushBatch.run hub
    flushed.1.toOption = none ∧ hub.engine.batch.readings = [⟨6, 1, [10]⟩] ∧
      flushed.2.engine.batch.readings = [] ∧ flushed.2.outbox.frames = hub.outbox.frames ∧
      flushed.2.outbox.frames.flatMap carried = [] := by
  decide +kernel

end Relay.Hub

end StationMesh
