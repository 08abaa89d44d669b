import StationMesh.Proofs.Relay.Replay

/-!
# Copies of a message

A message that is no weather is relayed as a copy that differs from it in one bit at most: commands
and pings go on demanding relay, all others do not. So a copy of a copy is the same frame again,
however many stations it passes. Whether a station makes one is settled by the id under which the
message goes, the relay bit, the list for its kind and the history.
-/

namespace StationMesh

theorem MessageKind.code_of_ofCode? {byte : UInt8} {kind : MessageKind}
    (known : ofCode? byte = some kind) : kind.code = byte := by
  cases kind <;> grind [ofCode?, code]

namespace TypeByte

theorem clear_or_forcedBit (byte : UInt8) : byte &&& 0x7F ||| forcedBit = byte ||| forcedBit := by
  cases byte with
  | ofBitVec bits =>
      revert bits
      decide

theorem encode_of_decode {byte : UInt8} {type : TypeByte} (decoded : decode byte = .ok type)
    (forced : Bool) :
    encode { type with forced } = if forced then byte ||| forcedBit else byte &&& 0x7F := by
  simp only [decode] at decoded
  cases known : MessageKind.ofCode? (byte &&& 0x7F) with
  | none => simp [known] at decoded
  | some kind =>
      simp only [known, Except.ok.injEq] at decoded
      subst decoded
      simp only [encode, MessageKind.code_of_ofCode? known]
      cases forced
      · simp
      · simp [clear_or_forcedBit]

end TypeByte

theorem Header.exists_of_parse {header : Header} {frame : Bytes}
    (parsed : parse frame = .ok header) :
    ∃ first payload, frame = first :: header.station :: header.uid :: payload ∧
      TypeByte.decode first = .ok header.toTypeByte := by
  rcases frame with _ | ⟨first, _ | ⟨station, _ | ⟨uid, payload⟩⟩⟩
  · simp [parse] at parsed
  · simp [parse] at parsed
  · simp [parse] at parsed
  · simp only [parse] at parsed
    cases decoded : TypeByte.decode first with
    | error cause => simp [decoded] at parsed
    | ok type =>
        simp only [decoded, Except.ok.injEq] at parsed
        subst parsed
        exact ⟨first, payload, rfl, decoded⟩

/-! ### Whom a station relays -/

namespace Config.Store

variable {κ : Type} [Store κ]

/-- The bytes of the list that decides on messages of a kind. -/
def listed (kind : MessageKind) (store : κ) : Bytes :=
  (get (if kind = .weather then .weatherRelayList else .messageRelayList) store).take RelayList.size

/-- Messages of a kind under a station id are to be relayed: the list names the station, or, if the
id is that of every station, it names anyone. Free places are 0 and name nobody. -/
def CallsFor (kind : MessageKind) (station : UInt8) (store : κ) : Prop :=
  ∃ id ∈ listed kind store, id ≠ everyStation ∧ (station = id ∨ station = everyStation)

instance (kind : MessageKind) (station : UInt8) (store : κ) :
    Decidable (CallsFor kind station store) :=
  inferInstanceAs (Decidable (∃ id ∈ listed kind store, _))

theorem mem_padded_iff {id : UInt8} (id_ne : id ≠ everyStation) (ids : Bytes) :
    id ∈ (RelayList.padded ids).ids ↔ id ∈ ids.take RelayList.size := by
  simp only [RelayList.padded, List.take_append, List.mem_append]
  apply or_iff_left
  intro free
  exact id_ne (List.eq_of_mem_replicate (List.mem_of_mem_take free))

theorem shouldRelay_relayList_iff (kind : MessageKind) (station : UInt8) (store : κ) :
    (relayList kind store).shouldRelay station = true ↔ CallsFor kind station store := by
  have list_eq : relayList kind store =
      .padded (get (if kind = .weather then .weatherRelayList else .messageRelayList) store) := by
    simp [relayList, MessageKind.usesWeatherList]
  simp only [list_eq, CallsFor, listed, RelayList.shouldRelay, RelayList.isActive]
  by_cases everyone : station = everyStation
  · simp only [everyone, ↓reduceIte, List.any_eq_true, bne_iff_ne, or_true, and_true]
    constructor
    · rintro ⟨id, mem, id_ne⟩
      exact ⟨id, (mem_padded_iff id_ne _).mp mem, id_ne⟩
    · rintro ⟨id, mem, id_ne⟩
      exact ⟨id, (mem_padded_iff id_ne _).mpr mem, id_ne⟩
  · simp only [everyone, ↓reduceIte, List.contains_iff_mem, or_false]
    constructor
    · intro mem
      exact ⟨station, (mem_padded_iff everyone _).mp mem, everyone, rfl⟩
    · rintro ⟨id, mem, id_ne, rfl⟩
      exact (mem_padded_iff id_ne _).mpr mem

end Config.Store

namespace Relay

/-- The frame with its relay bit set for commands and pings, and cleared for all other kinds. -/
def copyOf (kind : MessageKind) : Bytes → Bytes
  | [] => []
  | first :: rest =>
      (if kind = .command ∨ kind = .ping then first ||| 0x80 else first &&& 0x7F) :: rest

theorem length_copyOf (kind : MessageKind) (frame : Bytes) :
    (copyOf kind frame).length = frame.length := by
  cases frame <;> rfl

theorem copyOf_copyOf (kind : MessageKind) (frame : Bytes) :
    copyOf kind (copyOf kind frame) = copyOf kind frame := by
  cases frame with
  | nil => rfl
  | cons first rest =>
      simp only [copyOf]
      split
      · rw [UInt8.or_assoc, UInt8.or_self]
      · rw [UInt8.and_assoc, UInt8.and_self]

/-- The header of a copy. It demands relay or not as its kind does. -/
def copyHeader (header : Header) : Header :=
  { header with forced := header.kind == .command || header.kind == .ping }

theorem encode_copyHeader_append {header : Header} {frame : Bytes}
    (parsed : Header.parse frame = .ok header) :
    (copyHeader header).encode ++ frame.drop Header.size = copyOf header.kind frame := by
  rcases Header.exists_of_parse parsed with ⟨first, payload, rfl, decoded⟩
  simp [copyHeader, Header.encode, Header.size, copyOf, TypeByte.encode_of_decode decoded,
    TypeByte.forcedBit]

theorem parse_copyOf {header : Header} {frame : Bytes} (parsed : Header.parse frame = .ok header) :
    Header.parse (copyOf header.kind frame) = .ok (copyHeader header) := by
  rw [← encode_copyHeader_append parsed]
  exact Header.parse_encode_append _ _

namespace Hub

variable {κ φ : Type} {logSize : Nat} [Config.Store κ]

/-- A message that the station has to relay: it is one of another station, it demands relay or the
list for its kind calls for it, and it was not relayed lately. -/
structure MustRelay (header : Header) (hub : Hub κ φ logSize) : Prop where
  foreign : header.station ≠ hub.stationId
  called : header.forced = true ∨
    Config.Store.CallsFor header.kind header.station hub.services.config
  fresh : header.identity ∉ hub.engine.relayed.recent

theorem wantsRelay_iff (header : Header) (own : UInt8) (hub : Hub κ φ logSize) :
    hub.wantsRelay header own = true ↔ header.station ≠ own ∧ (header.forced = true ∨
      Config.Store.CallsFor header.kind header.station hub.services.config) := by
  simp only [wantsRelay, Bool.and_eq_true, bne_iff_ne, Bool.or_eq_true,
    Config.Store.shouldRelay_relayList_iff]

omit [Config.Store κ] in
theorem not_remembered_iff (header : Header) (hub : Hub κ φ logSize) :
    hub.engine.relayed.contains header.identity = false ↔
      header.identity ∉ hub.engine.relayed.recent := by
  simp [History.Ring.contains]

theorem mustRelay_iff (header : Header) (hub : Hub κ φ logSize) :
    hub.MustRelay header ↔ hub.wantsRelay header hub.stationId = true ∧
      hub.engine.relayed.contains header.identity = false := by
  rw [wantsRelay_iff, not_remembered_iff]
  constructor
  · intro must
    exact ⟨⟨must.foreign, must.called⟩, must.fresh⟩
  · rintro ⟨⟨foreign, called⟩, fresh⟩
    exact ⟨foreign, called, fresh⟩

instance (header : Header) (hub : Hub κ φ logSize) : Decidable (hub.MustRelay header) :=
  decidable_of_iff _ (mustRelay_iff header hub).symm

theorem MustRelay.of_eq {header : Header} {hub next : Hub κ φ logSize}
    (must : hub.MustRelay header) (config_eq : next.services.config = hub.services.config)
    (relayed_eq : next.engine.relayed = hub.engine.relayed) : next.MustRelay header := by
  rcases must with ⟨foreign, called, fresh⟩
  constructor
  · simpa only [stationId, config_eq] using foreign
  · simpa only [config_eq] using called
  · simpa only [relayed_eq] using fresh

/-! ### One station -/

/-- A copy of the frame was put behind the other frames, and the message is remembered. -/
def Copies (header : Header) (frame : Bytes) (hub next : Hub κ φ logSize) : Prop :=
  (∃ copy : OutFrame, next.outbox.frames = hub.outbox.frames ++ [copy] ∧
    copy.data = copyOf header.kind frame ∧
    copy.preamble = if header.kind = .acknowledge then .short else .long) ∧
  next.engine.relayed = hub.engine.relayed.record header.identity

theorem run_relayFrame_of_other {header : Header} (other : header.kind ≠ .weather) {frame : Bytes}
    (parsed : Header.parse frame = .ok header) (hub : Hub κ φ logSize) :
    (relayFrame header frame).run hub =
      hub.enqueue (copyOf header.kind frame) (preambleFor header.kind) := by
  rw [relayFrame, if_neg other, ← encode_copyHeader_append parsed]
  rfl

/-- What relaying a message comes to that is to be relayed: it is settled by what becomes of its
copy or, if it is weather, of its readings. -/
theorem relay_settled {header : Header} {own : UInt8} {hub : Hub κ φ logSize}
    (wanted : hub.wantsRelay header own = true)
    (fresh : hub.engine.relayed.contains header.identity = false) (frame : Bytes) :
    let ended := (relayFrame header frame).run hub
    let relayed := hub.relay header own frame
    (relayed.1 = true ↔ ended.1 = .ok ()) ∧ relayed.2.outbox = ended.2.outbox ∧
      relayed.2.engine.batch = ended.2.engine.batch ∧
      (relayed.1 = true →
        relayed.2.engine.relayed = hub.engine.relayed.record header.identity) ∧
      (relayed.1 = false → relayed.2.engine.relayed = hub.engine.relayed) := by
  have sends := moves_relayFrame header frame hub
  rcases hub.relay_cases header own frame with
    ⟨unwanted | known, _⟩ | ⟨_, _, ⟨cause, left, run_eq, relay_eq⟩ | ⟨left, run_eq, relay_eq⟩⟩
  · simp [wanted] at unwanted
  · simp [fresh] at known
  · rw [run_eq] at sends
    simp only [run_eq, relay_eq]
    exact ⟨by simp, trivial, trivial, by simp, fun _ => sends.relayed⟩
  · rw [run_eq] at sends
    simp only [run_eq, relay_eq]
    refine ⟨by simp, rfl, rfl, fun _ => ?_, by simp⟩
    exact congrArg (History.Ring.record header.identity) sends.relayed

/-- A copy that is due is made if there is a slot for it, and only then. -/
theorem relay_of_wanted {header : Header} (other : header.kind ≠ .weather) {frame : Bytes}
    (parsed : Header.parse frame = .ok header) (length_le : frame.length ≤ OutFrame.maxSize)
    {own : UInt8} {hub : Hub κ φ logSize} (wanted : hub.wantsRelay header own = true)
    (fresh : hub.engine.relayed.contains header.identity = false) :
    ((hub.relay header own frame).1 = true ↔ 0 < hub.outbox.free) ∧
      (0 < hub.outbox.free → Copies header frame hub (hub.relay header own frame).2) := by
  rcases relay_settled wanted fresh frame with ⟨relayed_iff, outbox_eq, _, recorded, _⟩
  rw [run_relayFrame_of_other other parsed] at relayed_iff outbox_eq
  rcases hub.enqueue_cases (copyOf header.kind frame) (preambleFor header.kind) with
    ⟨copy, outbox, data_eq, preamble_eq, frames_eq, run_eq⟩ | ⟨full, run_eq⟩ | ⟨long, _⟩
  · have room : 0 < hub.outbox.free := by
      have slots := outbox.length_le
      simp only [frames_eq, List.length_append, List.length_singleton] at slots
      simp only [Outbox.free, Outbox.length, Outbox.slots]
      omega
    rw [run_eq] at relayed_iff outbox_eq
    have relayed := relayed_iff.mpr rfl
    refine ⟨iff_of_true relayed room, fun _ => ⟨⟨copy, ?_, data_eq, preamble_eq⟩, recorded relayed⟩⟩
    rw [outbox_eq]
    exact frames_eq
  · have noRoom : ¬0 < hub.outbox.free := by
      simp only [Outbox.free]
      omega
    rw [run_eq] at relayed_iff
    simp only [reduceCtorEq, iff_false] at relayed_iff
    exact ⟨iff_of_false relayed_iff noRoom, fun room => absurd room noRoom⟩
  · rw [length_copyOf] at long
    omega

variable [FirmwareUpdater φ]

omit [Config.Store κ] [FirmwareUpdater φ] in
theorem Copies.of_eq {header : Header} {frame : Bytes} {hub heard left next : Hub κ φ logSize}
    (copies : Copies header frame heard left) (before_eq : heard.outbox = hub.outbox)
    (remembered_eq : heard.engine.relayed = hub.engine.relayed)
    (after_eq : next.outbox = left.outbox)
    (recorded_eq : next.engine.relayed = left.engine.relayed) :
    Copies header frame hub next := by
  simpa only [Copies, before_eq, remembered_eq, after_eq, recorded_eq] using copies

/-- A message that is not for the station to carry out is passed on to the host at most. -/
theorem hear_of_unaddressed {header : Header} (other : header.kind ≠ .weather)
    {hub : Hub κ φ logSize} (unaddressed : ¬hub.IsAddressed header) (frame : Bytes)
    (report : Channel.Report) (now : Nat) :
    ∃ host, hub.hear header frame report now = (false, { hub with host }) := by
  rcases hub.hear_cases header frame report now with
    ⟨host, ⟨isCommand, forUs, _⟩ | ⟨isWeather, _⟩ | ⟨_, hear_eq⟩⟩
  · exact absurd ⟨isCommand, forUs⟩ unaddressed
  · exact absurd isWeather other
  · exact ⟨host, hear_eq⟩

/-- What one station does with a message that is no weather and that it does not carry out. -/
theorem process_of_unaddressed {header : Header} {frame : Bytes} {hub : Hub κ φ logSize}
    (parsed : Header.parse frame = .ok header) (other : header.kind ≠ .weather)
    (unaddressed : ¬hub.IsAddressed header) (length_le : frame.length ≤ OutFrame.maxSize)
    (report : Channel.Report) (now : Nat) :
    let processed := hub.process frame report now
    (processed.1.relayed = true ↔ hub.MustRelay header ∧ 0 < hub.outbox.free) ∧
      (processed.1.relayed = true → Copies header frame hub processed.2) ∧
      (¬hub.MustRelay header → processed.2.outbox = hub.outbox ∧
        processed.2.engine.relayed = hub.engine.relayed) := by
  by_cases own : hub.IsOwn header
  · have notDue : ¬hub.MustRelay header := fun must => must.foreign own.2
    rw [process_of_own parsed own]
    refine ⟨iff_of_false Bool.false_ne_true fun due => notDue due.1, ?_, fun _ => ⟨rfl, rfl⟩⟩
    intro relayed
    contradiction
  · rcases hear_of_unaddressed other unaddressed frame report now with ⟨host, hear_eq⟩
    rcases hub.process_cases frame report now with
      process_eq | ⟨known, services, knownParsed, _, relayed_eq, process_eq, _⟩
    · simp [process_of_accepted parsed own, hear_eq] at process_eq
    · simp only [parsed, Except.ok.injEq] at knownParsed
      subst knownParsed
      simp only [hear_eq] at relayed_eq process_eq
      simp only [relayed_eq, process_eq, mustRelay_iff]
      by_cases due : hub.wantsRelay header hub.stationId = true ∧
          hub.engine.relayed.contains header.identity = false
      · have heardWants : ({ hub with host } : Hub κ φ logSize).wantsRelay header hub.stationId =
            true := due.1
        rcases relay_of_wanted other parsed length_le heardWants due.2 with ⟨relayed_iff, copies⟩
        refine ⟨?_, ?_, fun notDue => absurd due notDue⟩
        · simpa only [due, and_self, true_and] using relayed_iff
        · intro relayed
          exact (copies (relayed_iff.mp relayed)).of_eq rfl rfl rfl rfl
      · have heardDue : ¬(({ hub with host } : Hub κ φ logSize).wantsRelay header hub.stationId =
            true ∧ hub.engine.relayed.contains header.identity = false) := due
        have relay_eq := relay_of_unwanted heardDue frame
        rw [relay_eq]
        refine ⟨iff_of_false Bool.false_ne_true fun both => due both.1, ?_, fun _ => ⟨rfl, rfl⟩⟩
        intro relayed
        contradiction

/-! ### From station to station -/

/-- A message is never relayed under the station's own id. -/
theorem foreign_of_relayed {header : Header} {frame : Bytes} {report : Channel.Report} {now : Nat}
    {hub : Hub κ φ logSize} (parsed : Header.parse frame = .ok header)
    (relayed : (hub.process frame report now).1.relayed = true) :
    header.station ≠ hub.stationId := by
  rcases hub.process_cases frame report now with
    process_eq | ⟨known, services, knownParsed, _, relayed_eq, _, _⟩
  · simp [process_eq] at relayed
  · simp only [parsed, Except.ok.injEq] at knownParsed
    subst knownParsed
    rw [relayed_eq] at relayed
    rcases (hub.hear header frame report now).2.relay_cases header hub.stationId frame with
      ⟨_, relay_eq⟩ | ⟨wanted, _, _⟩
    · simp [relay_eq] at relayed
    · exact ((wantsRelay_iff header hub.stationId _).mp wanted).1

/-- A station that relays a copy queues the same frame once more. -/
theorem eq_of_relayed {header : Header} {copy outgoing : OutFrame} {hub : Hub κ φ logSize}
    {report : Channel.Report} {now : Nat} (parsed : Header.parse copy.data = .ok header)
    (other : header.kind ≠ .weather)
    (particular : header.kind = .command → header.station ≠ everyStation)
    (data_eq : copyOf header.kind copy.data = copy.data)
    (preamble_eq : copy.preamble = if header.kind = .acknowledge then .short else .long)
    (relayed : (hub.process copy.data report now).1.relayed = true)
    (queued : outgoing ∈
      (hub.process copy.data report now).2.outbox.frames.drop hub.outbox.frames.length) :
    outgoing = copy := by
  have unaddressed : ¬hub.IsAddressed header := by
    rintro ⟨isCommand, forUs | forAll⟩
    · exact foreign_of_relayed parsed relayed forUs
    · exact particular isCommand forAll
  rcases process_of_unaddressed parsed other unaddressed copy.size_le report now with
    ⟨_, copies, _⟩
  rcases copies relayed with ⟨⟨again, frames_eq, again_data, again_preamble⟩, _⟩
  simp only [frames_eq, List.drop_left, List.mem_singleton] at queued
  subst queued
  rcases outgoing with ⟨data, preamble, size_le⟩
  rcases copy with ⟨_, _, _⟩
  simp_all

/-- The frames that come of a frame when stations relay it one after the other. -/
inductive Passed (first : OutFrame) : OutFrame → Prop where
  | sent : Passed first first
  | relayed {κ φ : Type} {logSize : Nat} [Config.Store κ] [FirmwareUpdater φ]
      {frame outgoing : OutFrame} (hub : Hub κ φ logSize) (report : Channel.Report) (now : Nat)
      (before : Passed first frame)
      (relayed : (hub.process frame.data report now).1.relayed = true)
      (queued : outgoing ∈
        (hub.process frame.data report now).2.outbox.frames.drop hub.outbox.frames.length) :
      Passed first outgoing

theorem Passed.eq {header : Header} {copy last : OutFrame} (passed : Passed copy last)
    (parsed : Header.parse copy.data = .ok header) (other : header.kind ≠ .weather)
    (particular : header.kind = .command → header.station ≠ everyStation)
    (data_eq : copyOf header.kind copy.data = copy.data)
    (preamble_eq : copy.preamble = if header.kind = .acknowledge then .short else .long) :
    last = copy := by
  induction passed with
  | sent => rfl
  | relayed hub report now before relayed queued ih =>
      subst ih
      exact eq_of_relayed parsed other particular data_eq preamble_eq relayed queued

/-- A message that is no weather and that the station does not carry out is reported as relayed if
and only if the station has to relay it, as long as a slot is free. Then one frame is queued, which
is the same but for its relay bit, and the message is remembered; otherwise nothing is queued and
nothing remembered. However many stations relay that frame after it, they all queue the same one. -/
theorem copied_iff_mustRelay {header : Header} {frame : Bytes} {hub : Hub κ φ logSize}
    (parsed : Header.parse frame = .ok header) (other : header.kind ≠ .weather)
    (unaddressed : header.kind = .command →
      header.station ≠ hub.stationId ∧ header.station ≠ everyStation)
    (length_le : frame.length ≤ OutFrame.maxSize) (room : 0 < hub.outbox.free)
    (report : Channel.Report) (now : Nat) :
    let processed := hub.process frame report now
    (processed.1.relayed = true ↔ hub.MustRelay header) ∧
      (hub.MustRelay header → ∃ copy : OutFrame,
        processed.2.outbox.frames = hub.outbox.frames ++ [copy] ∧
          copy.data = copyOf header.kind frame ∧
          (copy.preamble = if header.kind = .acknowledge then .short else .long) ∧
          processed.2.engine.relayed = hub.engine.relayed.record header.identity ∧
          processed.2.engine.relayed.contains header.identity = true ∧
          ∀ last, Passed copy last → last = copy) ∧
      (¬hub.MustRelay header → processed.2.outbox = hub.outbox ∧
        processed.2.engine.relayed = hub.engine.relayed) := by
  intro processed
  have notAddressed : ¬hub.IsAddressed header := by
    rintro ⟨isCommand, forUs | forAll⟩
    · exact (unaddressed isCommand).1 forUs
    · exact (unaddressed isCommand).2 forAll
  rcases process_of_unaddressed parsed other notAddressed length_le report now with
    ⟨relayed_iff, copies, untouched⟩
  simp only [room, and_true] at relayed_iff
  refine ⟨relayed_iff, ?_, untouched⟩
  intro must
  rcases copies (relayed_iff.mpr must) with ⟨⟨copy, frames_eq, data_eq, preamble_eq⟩, recorded⟩
  have known : processed.2.engine.relayed.contains header.identity = true := by
    rw [recorded]
    exact History.Ring.contains_record_self _ _
  refine ⟨copy, frames_eq, data_eq, preamble_eq, recorded, known, ?_⟩
  intro last passed
  have copyParsed : Header.parse copy.data = .ok (copyHeader header) := by
    rw [data_eq]
    exact parse_copyOf parsed
  apply passed.eq copyParsed other (fun isCommand => (unaddressed isCommand).2)
  · rw [data_eq]
    exact copyOf_copyOf header.kind frame
  · exact preamble_eq

/-- A command for another station on its way past two that relay it, with the longest payload. -/
theorem copied_iff_mustRelay_longCommand :
    let first := ofSettings { stationId := 1, messageRelays := .padded [9] }
    let second := ofSettings { stationId := 2, messageRelays := .padded [0, 7, 9] }
    let frame : Bytes := [0x43, 9, 44] ++ List.replicate 251 0xC0
    let header : Header := { kind := .command, forced := false, station := 9, uid := 44 }
    (Header.parse frame = .ok header ∧ frame.length = OutFrame.maxSize ∧ 0 < first.outbox.free ∧
      first.MustRelay header) ∧
    ∃ copy : OutFrame, (first.process frame {} 0).2.outbox.frames = [copy] ∧
      copy.data = [0xC3, 9, 44] ++ List.replicate 251 0xC0 ∧ copy.preamble = .long ∧
      (second.process copy.data {} 5).1.relayed = true ∧
      ∀ outgoing ∈ (second.process copy.data {} 5).2.outbox.frames, outgoing = copy := by
  intro first second frame header
  have must : first.MustRelay header := by decide +kernel
  have length_eq : frame.length = OutFrame.maxSize := by decide +kernel
  have parsed : Header.parse frame = .ok header := rfl
  have room : 0 < first.outbox.free := by decide
  have copied := copied_iff_mustRelay parsed (by decide) (by decide) (Nat.le_of_eq length_eq) room
    {} 0
  rcases copied.2.1 must with
    ⟨copy, frames_eq, data_eq, preamble_eq, _, _, same⟩
  have relayed : (second.process copy.data {} 5).1.relayed = true := by
    rw [data_eq]
    decide +kernel
  refine ⟨⟨parsed, length_eq, room, must⟩, copy, frames_eq, data_eq, preamble_eq, relayed, ?_⟩
  intro outgoing queued
  exact same outgoing (.relayed second {} 5 .sent relayed queued)

end Hub

end Relay

end StationMesh
