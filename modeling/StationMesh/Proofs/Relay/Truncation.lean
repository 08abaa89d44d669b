import StationMesh.Proofs.Relay.HostFrames

/-!
# Weather that breaks off

The first reading of a weather message is the one of the station that sends it, and the header of
the message is its beginning. Readings are taken up to the first one that breaks off. If that is
the first one of all, then none is taken, but the message counts as relayed all the same and is
remembered, so that the intact message is not relayed when it comes by.
-/

namespace StationMesh

namespace Weather

variable {header : Header} {frame body : Bytes} {reading : Reading}

theorem Reading.parseAll_of_parse_eq_none (broken : parse body = none) :
    (parseAll body).1 = [] := by
  cases body with
  | nil => rfl
  | cons first rest => simp only [parseAll, List.length_cons, parseUpTo, broken]

theorem Reading.mem_parseAll_of_parse {rest : Bytes} (parsed : parse body = some (reading, rest)) :
    reading ∈ (parseAll body).1 := by
  cases body with
  | nil => contradiction
  | cons first others =>
      simp only [parseAll, List.length_cons, parseUpTo, parsed]
      exact List.mem_cons_self

/-- How many bytes of data the first reading of a weather frame announces. -/
def announced (frame : Bytes) : Nat := (frame[3]?.getD 0).toNat

/-- The first reading of a weather frame is there to its end. -/
def OpensWhole (frame : Bytes) : Prop := Header.size + 1 + announced frame ≤ frame.length

instance (frame : Bytes) : Decidable (OpensWhole frame) :=
  inferInstanceAs (Decidable (Header.size + 1 + announced frame ≤ frame.length))

/-- The reading of the station that sends the frame. -/
def firstReading (header : Header) (frame : Bytes) : Reading where
  station := header.station
  uid := header.uid
  data := (frame.drop (Header.size + 1)).take (announced frame)

theorem parse_drop_one (parsed : Header.parse frame = .ok header) :
    Reading.parse (frame.drop 1) =
      if OpensWhole frame then
        some (firstReading header frame, frame.drop (Header.size + 1 + announced frame))
      else none := by
  rcases Header.exists_of_parse parsed with ⟨first, payload, rfl, _⟩
  cases payload with
  | nil =>
      have broken : ¬OpensWhole [first, header.station, header.uid] := by
        simp only [OpensWhole, Header.size, List.length_cons, List.length_nil]
        omega
      rw [if_neg broken]
      rfl
  | cons length data =>
      have drop_eq : (first :: header.station :: header.uid :: length :: data).drop
          (3 + 1 + length.toNat) = data.drop length.toNat := by
        rw [Nat.add_comm (3 + 1)]
        rfl
      have whole_iff : OpensWhole (first :: header.station :: header.uid :: length :: data) ↔
          length.toNat ≤ data.length := by
        simp only [OpensWhole, announced, Header.size, List.length_cons, List.getElem?_cons_succ,
          List.getElem?_cons_zero, Option.getD_some]
        omega
      simp only [whole_iff]
      simp [Reading.parse, firstReading, announced, Header.size, drop_eq]

theorem firstReading_mem_of_opensWhole (parsed : Header.parse frame = .ok header)
    (whole : OpensWhole frame) :
    firstReading header frame ∈ (Reading.parseAll (frame.drop 1)).1 := by
  apply Reading.mem_parseAll_of_parse
  rw [parse_drop_one parsed, if_pos whole]

theorem parseAll_of_broken (parsed : Header.parse frame = .ok header) (broken : ¬OpensWhole frame) :
    (Reading.parseAll (frame.drop 1)).1 = [] := by
  apply Reading.parseAll_of_parse_eq_none
  rw [parse_drop_one parsed, if_neg broken]

end Weather

namespace Relay.Hub

open Weather

variable {κ φ : Type} {logSize : Nat} [Config.Store κ] [FirmwareUpdater φ]
  {hub : Hub κ φ logSize} {header : Header} {frame : Bytes}

theorem relayed_process (parsed : Header.parse frame = .ok header) (report : Channel.Report)
    (now : Nat) (hub : Hub κ φ logSize) :
    (hub.process frame report now).2.engine.relayed =
      if (hub.process frame report now).1.relayed then hub.engine.relayed.record header.identity
      else hub.engine.relayed := by
  let event : Event κ φ logSize := ⟨hub, .process frame report now⟩
  have recorded? : event.recorded? =
      if (hub.process frame report now).1.relayed then some header.identity else none :=
    Event.relayed?_process parsed report now hub
  have recorded := relayed_next event
  rw [recorded?] at recorded
  refine recorded.trans ?_
  split
  · rfl
  · rfl

/-- Weather whose first reading breaks off is relayed whenever it is to be, though nothing is sent
and nothing waits for it. -/
theorem process_of_broken (parsed : Header.parse frame = .ok header)
    (isWeather : header.kind = .weather) (broken : ¬OpensWhole frame) (report : Channel.Report)
    (now : Nat) :
    ((hub.process frame report now).1.relayed = true ↔ hub.MustRelay header) ∧
      (hub.process frame report now).2.outbox = hub.outbox ∧
      (hub.process frame report now).2.engine.batch = hub.engine.batch := by
  by_cases must : hub.MustRelay header
  · rcases exists_settles parsed isWeather must report now with ⟨heard, settles⟩
    rw [parseAll_of_broken parsed broken] at settles
    refine ⟨iff_of_true (settles.relayed_iff.mpr rfl) must, ?_, ?_⟩
    · exact settles.outbox.trans settles.observes.outbox
    · exact settles.batch.trans settles.hears.batch
  · rcases process_of_unwanted parsed isWeather (mt (mustRelay_iff header hub).mpr must) report now
      with ⟨refused, outbox_eq, batch_eq⟩
    refine ⟨iff_of_false ?_ must, outbox_eq, batch_eq⟩
    rw [refused]
    exact Bool.false_ne_true

/-- Weather is remembered if and only if it is reported as relayed. If its first reading is whole,
then that reading is taken over. If it breaks off, then nothing is taken over of a message that is
remembered like any other, and whose copies are suppressed, be they whole. -/
theorem takenOver_or_broken (sound : hub.HasSoundBatch) (parsed : Header.parse frame = .ok header)
    (isWeather : header.kind = .weather) (report : Channel.Report) (now : Nat) :
    let processed := hub.process frame report now
    processed.2.engine.relayed =
        (if processed.1.relayed then hub.engine.relayed.record header.identity
        else hub.engine.relayed) ∧
      (OpensWhole frame → processed.1.relayed = true →
        TakesOver (firstReading header frame) hub processed.2) ∧
      (¬OpensWhole frame → (processed.1.relayed = true ↔ hub.MustRelay header) ∧
        processed.2.outbox = hub.outbox ∧ processed.2.engine.batch = hub.engine.batch) ∧
      (processed.1.relayed = true → processed.2.Suppresses header.identity) := by
  intro processed
  have recorded := relayed_process parsed report now hub
  refine ⟨recorded, ?_, ?_, ?_⟩
  · intro whole relayed
    exact takesOver_of_relayed sound parsed isWeather relayed
      (firstReading_mem_of_opensWhole parsed whole) (foreign_of_relayed parsed relayed)
  · intro broken
    exact process_of_broken parsed isWeather broken report now
  · intro relayed
    rw [if_pos relayed] at recorded
    exact suppresses_of_recorded recorded

/-- The second reading of a message breaks off, and the first one is taken over. The first reading
of another one breaks off, and the intact copy that demands relay is not relayed. -/
theorem takenOver_or_broken_secondAndFirst :
    let hub := ofSettings { weatherRelays := .padded [6] }
    let later : Bytes := [0x57, 6, 1, 2, 10, 20, 7, 2, 9, 1]
    let early : Bytes := [0x57, 6, 1, 2, 10]
    let header : Header := { kind := .weather, forced := false, station := 6, uid := 1 }
    (hub.HasSoundBatch ∧ Header.parse later = .ok header ∧ Header.parse early = .ok header) ∧
      TakesOver ⟨6, 1, [10, 20]⟩ hub (hub.process later {} 0).2 ∧
      (hub.process early {} 0).1.relayed = true ∧
      (hub.process early {} 0).2.outbox = hub.outbox ∧
      ((hub.process early {} 0).2.process [0xD7, 6, 1, 2, 10, 20] {} 9).1.relayed = false := by
  intro hub later early header
  have sound : hub.HasSoundBatch := hasSoundBatch_of_readings_eq_nil rfl
  have must : hub.MustRelay header := by decide +kernel
  have laterRelayed : (hub.process later {} 0).1.relayed = true := by decide +kernel
  have laterParsed : Header.parse later = .ok header := rfl
  have earlyParsed : Header.parse early = .ok header := rfl
  have laterSettled := takenOver_or_broken sound laterParsed rfl {} 0
  have earlySettled := takenOver_or_broken sound earlyParsed rfl {} 0
  have broken := earlySettled.2.2.1 (by decide)
  have earlyRelayed := broken.1.mpr must
  have suppresses := earlySettled.2.2.2 earlyRelayed
  let copy : Header := { kind := .weather, forced := true, station := 6, uid := 1 }
  exact ⟨⟨sound, laterParsed, earlyParsed⟩, laterSettled.2.1 (by decide) laterRelayed, earlyRelayed,
    broken.2.1, suppresses [] (by decide) [0xD7, 6, 1, 2, 10, 20] copy {} 9 rfl rfl⟩

/-- A message whose reading breaks off is relayed, and its reading is nowhere. The intact message is
not relayed behind it, though it would be without it. -/
theorem broken_reported_as_relayed :
    let hub := ofSettings { weatherRelays := .padded [6] }
    let broken := hub.process [0x57, 6, 1, 2, 10] {} 0
    let intact : Bytes := [0x57, 6, 1, 2, 10, 20]
    broken.1.relayed = true ∧
      broken.2.engine.relayed.contains { kind := .weather, station := 6, uid := 1 } = true ∧
      broken.2.outbox.frames = [] ∧ broken.2.engine.batch.readings = [] ∧
      (hub.process intact {} 0).1.relayed = true ∧
      (broken.2.process intact {} 9).1.relayed = false := by
  decide +kernel

end Relay.Hub

end StationMesh
