import StationMesh.Proofs.Relay.Refusal

/-!
# Frames of the host that are not sent

A frame of the host is remembered before it is handed on, and it stays remembered when it is not
handed on. It leaves no trace in the outbox then. But its copies, should the message come by over
the radio, are taken for messages that were relayed, until as many others were recorded as the
history holds, and the oldest message that was remembered may have been given up for it. Only a
frame without a header is not remembered.
-/

namespace StationMesh

namespace History.Ring

variable {α : Type} {capacity : Nat}

/-- The value is remembered already, and recording it once more pushes nothing out. -/
def Absorbs (value : α) (ring : Ring α capacity) : Prop :=
  value ∈ ring.recent ∧
    ∀ old ∈ ring.recent.drop (capacity - 1), old = value ∨ old ∈ ring.recent.take (capacity - 1)

theorem mem_record_iff (room : 0 < capacity) {value other : α} {ring : Ring α capacity} :
    other ∈ (ring.record value).recent ↔
      other = value ∨ other ∈ ring.recent.take (capacity - 1) := by
  rw [record, List.take_cons room, List.mem_cons]

theorem contains_record_iff_absorbs [DecidableEq α] (room : 0 < capacity) {value : α}
    {ring : Ring α capacity} :
    (∀ other, (ring.record value).contains other = ring.contains other) ↔ ring.Absorbs value := by
  simp only [contains, decide_eq_decide, mem_record_iff room]
  constructor
  · intro same
    refine ⟨(same value).mp (.inl rfl), ?_⟩
    intro old mem
    exact (same old).mpr (List.mem_of_mem_drop mem)
  · rintro ⟨known, kept⟩ other
    constructor
    · rintro (rfl | mem)
      · exact known
      · exact List.mem_of_mem_take mem
    · intro mem
      rw [← List.take_append_drop (capacity - 1) ring.recent, List.mem_append] at mem
      rcases mem with front | back
      · exact .inr front
      · exact kept other back

end History.Ring

namespace Relay.Hub

variable {κ φ : Type} {logSize : Nat} {hub next : Hub κ φ logSize} {frame : Bytes}

/-- All that a frame of the host leaves behind when it is not handed on is that it is remembered. -/
theorem unsent_eq {cause : TransportError}
    (unsent : (sendHostFrame frame).run hub = (.error cause, next)) :
    next.outbox = hub.outbox ∧ next.engine = (hub.remember frame).engine := by
  rcases hub.run_sendHostFrame frame with ⟨preamble, run_eq⟩
  rw [run_eq] at unsent
  have outbox_eq := outbox_enqueue_of_error (congrArg Prod.fst unsent)
  have engine_eq := engine_enqueue frame preamble (hub.remember frame)
  rw [unsent] at outbox_eq engine_eq
  refine ⟨?_, engine_eq⟩
  rw [outbox_eq, remember]
  split
  · rfl
  · rfl

theorem relayed_remember {header : Header} (parsed : Header.parse frame = .ok header)
    (hub : Hub κ φ logSize) :
    (hub.remember frame).engine.relayed = hub.engine.relayed.record header.identity := by
  rw [remember, parsed]
  rfl

variable [Config.Store κ] [FirmwareUpdater φ]

/-- What is remembered is not relayed. -/
theorem not_relayed_of_remembered {header : Header} (parsed : Header.parse frame = .ok header)
    (remembered : hub.engine.relayed.contains header.identity = true) (report : Channel.Report)
    (now : Nat) : (hub.process frame report now).1.relayed = false := by
  rw [← Bool.not_eq_true]
  intro reported
  let event : Event κ φ logSize := ⟨hub, .process frame report now⟩
  have relayed : event.relayed? = some header.identity := by
    rw [Event.relayed?_process parsed, if_pos reported]
  have fresh := (recorded_of_relayed relayed).1
  rw [remembered] at fresh
  contradiction

/-- No copy of the message is relayed before as many others were recorded as the history holds. -/
def Suppresses (identity : Identity) (hub : Hub κ φ logSize) : Prop :=
  ∀ between : List (Call κ φ logSize),
    (recordings between hub).countP (fun other => other ≠ identity) < historySize →
      ∀ (copy : Bytes) (header : Header) (report : Channel.Report) (now : Nat),
        Header.parse copy = .ok header → header.identity = identity →
          ((run between hub).process copy report now).1.relayed = false

theorem suppresses_of_recorded {identity : Identity}
    (recorded : next.engine.relayed = hub.engine.relayed.record identity) :
    next.Suppresses identity := by
  intro between few copy header report now parsed same
  have remembered := remembered_of_few recorded few
  rw [← same] at remembered
  exact not_relayed_of_remembered parsed remembered report now

/-- A frame of the host that is not handed on leaves the outbox as it is. If it has no header, it
leaves nothing at all behind in the engine. If it has one, the message is recorded as relayed: the
history holds the same messages as before only if it absorbs that one, and copies of the message are
suppressed. -/
theorem suppressed_of_unsent {cause : TransportError}
    (unsent : (sendHostFrame frame).run hub = (.error cause, next)) :
    next.outbox = hub.outbox ∧
      ((∀ identity, next.engine.relayed.contains identity = hub.engine.relayed.contains identity) ↔
        ∀ header, Header.parse frame = .ok header → hub.engine.relayed.Absorbs header.identity) ∧
      (∀ malformed, Header.parse frame = .error malformed → next.engine = hub.engine) ∧
      ∀ header, Header.parse frame = .ok header → next.Suppresses header.identity := by
  rcases unsent_eq unsent with ⟨outbox_eq, engine_eq⟩
  refine ⟨outbox_eq, ?_, ?_, ?_⟩
  · cases parsed : Header.parse frame with
    | error malformed =>
        rw [engine_eq, remember, parsed]
        refine iff_of_true (fun _ => rfl) ?_
        intro header known
        contradiction
    | ok header =>
        rw [engine_eq, relayed_remember parsed,
          History.Ring.contains_record_iff_absorbs (by decide)]
        simp
  · intro malformed parsed
    rw [engine_eq, remember, parsed]
  · intro header parsed
    have recorded : next.engine.relayed = hub.engine.relayed.record header.identity := by
      rw [engine_eq, relayed_remember parsed]
    exact suppresses_of_recorded recorded

/-- A frame that is too long, under a header that was remembered before: the history stays the same,
and a copy that demands relay is not relayed, not even behind another message. -/
theorem suppressed_of_unsent_overlong :
    let hub := (ofSettings {}).perform (.sendHostFrame [0xC3, 9, 60, 0x4E])
    let frame : Bytes := [0xC3, 9, 60] ++ List.replicate 252 0xA5
    let between : List (Call Config.Settings RuleUpdater 0) := [.process [0xD3, 7, 1] {} 0]
    ∃ cause next, (sendHostFrame frame).run hub = (.error cause, next) ∧
      next.outbox = hub.outbox ∧
      (∀ identity,
        next.engine.relayed.contains identity = hub.engine.relayed.contains identity) ∧
      (recordings between next).countP
        (fun other => other ≠ { kind := .command, station := 9, uid := 60 }) = 1 ∧
      ((run between next).process [0xC3, 9, 60, 0x4E] {} 0).1.relayed = false := by
  intro hub frame between
  let header : Header := { kind := .command, forced := true, station := 9, uid := 60 }
  have parsed : Header.parse frame = .ok header := rfl
  rcases unsent : (sendHostFrame frame).run hub with ⟨cause | _, next⟩
  · have suppressed := suppressed_of_unsent unsent
    have next_eq : ((sendHostFrame frame).run hub).2 = next := congrArg Prod.snd unsent
    have one : (recordings between ((sendHostFrame frame).run hub).2).countP
        (fun other => other ≠ header.identity) = 1 := by
      decide +kernel
    rw [next_eq] at one
    refine ⟨cause, next, rfl, suppressed.1, suppressed.2.1.mpr ?_, one, ?_⟩
    · intro known knownParsed
      rw [parsed, Except.ok.injEq] at knownParsed
      subst knownParsed
      exact ⟨by decide +kernel, by decide +kernel⟩
    · have few : (recordings between next).countP (fun other => other ≠ header.identity) <
          historySize := by
        rw [one]
        decide
      exact suppressed.2.2.2 header parsed between few [0xC3, 9, 60, 0x4E] header {} 0 rfl rfl
  · have failed : ((sendHostFrame frame).run hub).1.toOption = none := by decide +kernel
    simp [unsent, Except.toOption] at failed

/-- A frame that finds no slot is remembered, and the copy that comes by later is not relayed,
though it demands relay and there is room for it. -/
theorem remembered_of_unsent :
    let hub := ({ ofSettings {} with outbox := crowded } : Hub Config.Settings RuleUpdater 0)
    let frame : Bytes := [0xC3, 9, 60, 0x4E]
    let identity : Identity := { kind := .command, station := 9, uid := 60 }
    let sent := (sendHostFrame frame).run hub
    sent.1.toOption = none ∧ sent.2.outbox.frames = hub.outbox.frames ∧
      hub.engine.relayed.contains identity = false ∧
      sent.2.engine.relayed.contains identity = true ∧
      ({ hub with outbox := .empty }.process frame {} 0).1.relayed = true ∧
      ({ sent.2 with outbox := .empty }.process frame {} 0).1.relayed = false := by
  decide +kernel

end Relay.Hub

end StationMesh
