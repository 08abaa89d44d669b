import Mathlib.Data.List.Nodup
import Mathlib.Data.List.Perm.Subperm
import StationMesh.Proofs.Relay.Processing

/-!
# Status messages on their way

A status message that a station originates goes out again at each station that relays it, under the
same header and with the same bytes. A station knows its own messages by the header and discards
them, and keeps those of others from going out twice by the history, as long as no more status
messages are around than the history holds.
-/

namespace StationMesh.Relay

open StationMesh.Action

structure Status where
  station : UInt8
  uid : UInt8
  payload : Bytes

namespace Status

def header (status : Status) : Header where
  kind := .status
  forced := false
  station := status.station
  uid := status.uid

def identity (status : Status) : Identity := status.header.identity

/-- The frame that its station sends. -/
def data (status : Status) : Bytes := status.header.encode ++ status.payload

theorem parse_data (status : Status) : Header.parse status.data = .ok status.header :=
  Header.parse_encode_append status.header status.payload

theorem identity_eq_of_data_eq {status other : Status} (data_eq : status.data = other.data) :
    status.identity = other.identity := by
  have header_eq := status.parse_data
  rw [data_eq, other.parse_data, Except.ok.injEq] at header_eq
  exact congrArg Header.identity header_eq.symm

end Status

namespace Hub

variable {κ φ : Type} {logSize : Nat}

def waiting (hub : Hub κ φ logSize) : List Bytes := hub.outbox.frames.map OutFrame.data

theorem enqueue_waiting_cases (data : Bytes) (preamble : Preamble) (hub : Hub κ φ logSize) :
    let ended := hub.enqueue data preamble
    ended.2.services = hub.services ∧ ended.2.engine = hub.engine ∧
      ((ended.1 = .ok () ∧ ended.2.waiting = hub.waiting ++ [data]) ∨
        ((∃ cause, ended.1 = .error cause) ∧ ended.2.waiting = hub.waiting)) := by
  rcases hub.enqueue_cases data preamble with
    ⟨frame, outbox, rfl, _, frames_eq, run_eq⟩ | ⟨_, run_eq⟩ | ⟨_, run_eq⟩
  · rw [run_eq]
    refine ⟨rfl, rfl, .inl ⟨rfl, ?_⟩⟩
    simp only [waiting, frames_eq, List.map_append, List.map_singleton]
  · rw [run_eq]
    exact ⟨rfl, rfl, .inr ⟨⟨_, rfl⟩, rfl⟩⟩
  · rw [run_eq]
    exact ⟨rfl, rfl, .inr ⟨⟨_, rfl⟩, rfl⟩⟩

variable [Config.Store κ]

/-- The status message that the station originates next. -/
def nextStatus (report : Channel.Report) (hub : Hub κ φ logSize) : Status where
  station := hub.stationId
  uid := hub.engine.nextUid
  payload :=
    report.encode ++ [UInt8.ofNat hub.engine.seen.length, UInt8.ofNat hub.engine.batch.size]

/-- A status message is put into the outbox or turned away, and its id is used up. -/
theorem sendStatus_cases (report : Channel.Report) (hub : Hub κ φ logSize) :
    let left := ((sendStatus report).run hub).2
    left.services = hub.services ∧ left.engine = hub.engine.takeUid.2 ∧
      (left.waiting = hub.waiting ++ [(hub.nextStatus report).data] ∨
        left.waiting = hub.waiting) := by
  have data_eq : (hub.nextStatus report).data = hub.statusData hub.engine.nextUid report :=
    (List.append_assoc _ _ _).symm
  rw [run_sendStatus, ← data_eq]
  rcases hub.afterUid.enqueue_waiting_cases (hub.nextStatus report).data .long with
    ⟨services_eq, engine_eq, ⟨_, waiting_eq⟩ | ⟨_, waiting_eq⟩⟩
  · exact ⟨services_eq, engine_eq, .inl waiting_eq⟩
  · exact ⟨services_eq, engine_eq, .inr waiting_eq⟩

theorem run_relayFrame_status (status : Status) (hub : Hub κ φ logSize) :
    (relayFrame status.header status.data).run hub = hub.enqueue status.data .long := rfl

/-- What relaying a status message comes to: nothing, or it goes out again and is remembered. -/
theorem relay_status_cases (status : Status) (own : UInt8) (hub : Hub κ φ logSize) :
    let left := (hub.relay status.header own status.data).2
    left.services = hub.services ∧ left.engine.nextUid = hub.engine.nextUid ∧
      ((left.waiting = hub.waiting ∧ left.engine.relayed = hub.engine.relayed) ∨
        (hub.engine.relayed.contains status.identity = false ∧
          left.waiting = hub.waiting ++ [status.data] ∧
          left.engine.relayed = hub.engine.relayed.record status.identity)) := by
  have queued := hub.enqueue_waiting_cases status.data .long
  rw [← run_relayFrame_status] at queued
  rcases hub.relay_cases status.header own status.data with
    ⟨_, relay_eq⟩ | ⟨_, fresh, ⟨cause, left, run_eq, relay_eq⟩ | ⟨left, run_eq, relay_eq⟩⟩
  · rw [relay_eq]
    exact ⟨rfl, rfl, .inl ⟨rfl, rfl⟩⟩
  · rw [run_eq] at queued
    rw [relay_eq]
    rcases queued with ⟨services_eq, engine_eq, ⟨answer_eq, _⟩ | ⟨_, waiting_eq⟩⟩
    · contradiction
    · dsimp only at engine_eq ⊢
      rw [engine_eq]
      exact ⟨services_eq, rfl, .inl ⟨waiting_eq, rfl⟩⟩
  · rw [run_eq] at queued
    rw [relay_eq]
    rcases queued with ⟨services_eq, engine_eq, ⟨_, waiting_eq⟩ | ⟨⟨cause, answer_eq⟩, _⟩⟩
    · dsimp only [withEngine] at engine_eq ⊢
      rw [engine_eq]
      exact ⟨services_eq, rfl, .inr ⟨fresh, waiting_eq, rfl⟩⟩
    · contradiction

/-- A status message is let pass, or it is one of another station and new, goes out again as it is
and is remembered. -/
theorem process_status_cases [FirmwareUpdater φ] (status : Status) (report : Channel.Report)
    (now : Nat)
    (hub : Hub κ φ logSize) :
    let left := (hub.process status.data report now).2
    left.stationId = hub.stationId ∧ left.engine.nextUid = hub.engine.nextUid ∧
      ((left.waiting = hub.waiting ∧ left.engine.relayed = hub.engine.relayed) ∨
        (status.station ≠ hub.stationId ∧
          hub.engine.relayed.contains status.identity = false ∧
          left.waiting = hub.waiting ++ [status.data] ∧
          left.engine.relayed = hub.engine.relayed.record status.identity)) := by
  rcases hub.process_cases status.data report now with
    process_eq | ⟨header, services, parsed, foreign, _, process_eq, stationId_eq⟩
  · rw [process_eq]
    exact ⟨rfl, rfl, .inl ⟨rfl, rfl⟩⟩
  · rw [status.parse_data, Except.ok.injEq] at parsed
    subst parsed
    have apart : status.station ≠ hub.stationId :=
      fun own => foreign ⟨MessageKind.noConfusion, own⟩
    have heard : ∃ host, (hub.hear status.header status.data report now).2 = { hub with host } := by
      rcases hub.hear_cases status.header status.data report now with
        ⟨host, ⟨isCommand, _⟩ | ⟨isWeather, _⟩ | ⟨_, hear_eq⟩⟩
      · contradiction
      · contradiction
      · exact ⟨host, congrArg Prod.snd hear_eq⟩
    rcases heard with ⟨host, heard_eq⟩
    rw [heard_eq] at process_eq stationId_eq
    rcases { hub with host }.relay_status_cases status hub.stationId with
      ⟨services_eq, nextUid_eq, relayed⟩
    rw [process_eq]
    have heardId_eq :
        ({ hub with host }.relay status.header hub.stationId status.data).2.stationId =
          hub.stationId := by
      rw [stationId, services_eq]
      rfl
    refine ⟨stationId_eq.trans heardId_eq, nextUid_eq, ?_⟩
    rcases relayed with ⟨waiting_eq, relayed_eq⟩ | ⟨fresh, waiting_eq, relayed_eq⟩
    · exact .inl ⟨waiting_eq, relayed_eq⟩
    · exact .inr ⟨apart, fresh, waiting_eq, relayed_eq⟩

/-! ### What a station has taken over -/

/-- What a station that sent some frames, or is about to, knows of the status messages that are
around. Of its own it took over none but those it had before. -/
structure Floods (statuses : List Status) (before emitted : List Bytes) (hub : Hub κ φ logSize) :
    Prop where
  nodup : emitted.Nodup
  original : ∀ frame ∈ emitted, ∃ status ∈ statuses, frame = status.data
  own : ∀ status ∈ statuses, status.station = hub.stationId → status.data ∈ emitted →
    status.data ∈ before
  foreign : ∀ status ∈ statuses, status.station ≠ hub.stationId → status.data ∈ emitted →
    status.identity ∈ hub.engine.relayed.recent
  recent_nodup : hub.engine.relayed.recent.Nodup
  recent_subset : hub.engine.relayed.recent ⊆ statuses.map Status.identity
  /-- The ids of its own messages lie right before the next one. -/
  uid : ∀ status ∈ statuses, status.station = hub.stationId →
    0 < (hub.engine.nextUid - status.uid).toNat ∧
      (hub.engine.nextUid - status.uid).toNat ≤ statuses.length

namespace Floods

variable {statuses : List Status} {before emitted : List Bytes} {hub next : Hub κ φ logSize}

theorem nil (forgotten : hub.engine.relayed.recent = []) : Floods [] [] [] hub where
  nodup := .nil
  original _ mem := by contradiction
  own _ mem := by contradiction
  foreign _ mem := by contradiction
  recent_nodup := by rw [forgotten]; exact .nil
  recent_subset := by rw [forgotten]; exact List.nil_subset _
  uid _ mem := by contradiction

theorem subperm (floods : Floods statuses before emitted hub) {fewer : List Bytes}
    (subperm : fewer.Subperm emitted) : Floods statuses before fewer hub where
  nodup := by
    rcases subperm with ⟨same, perm, sublist⟩
    exact perm.nodup_iff.mp (floods.nodup.sublist sublist)
  original frame mem := floods.original frame (subperm.subset mem)
  own status mem isOwn emits := floods.own status mem isOwn (subperm.subset emits)
  foreign status mem apart emits := floods.foreign status mem apart (subperm.subset emits)
  recent_nodup := floods.recent_nodup
  recent_subset := floods.recent_subset
  uid := floods.uid

theorem of_eq (floods : Floods statuses before emitted hub)
    (stationId_eq : next.stationId = hub.stationId)
    (relayed_eq : next.engine.relayed = hub.engine.relayed)
    (nextUid_eq : next.engine.nextUid = hub.engine.nextUid) :
    Floods statuses before emitted next := by
  constructor
  · exact floods.nodup
  · exact floods.original
  · rw [stationId_eq]
    exact floods.own
  · rw [stationId_eq, relayed_eq]
    exact floods.foreign
  · rw [relayed_eq]
    exact floods.recent_nodup
  · rw [relayed_eq]
    exact floods.recent_subset
  · rw [stationId_eq, nextUid_eq]
    exact floods.uid

/-- The history has room for one more of the status messages that are around. -/
theorem recent_record (floods : Floods statuses before emitted hub)
    (few : statuses.length ≤ historySize) {status : Status} (mem : status ∈ statuses)
    (fresh : status.identity ∉ hub.engine.relayed.recent) :
    (hub.engine.relayed.record status.identity).recent =
      status.identity :: hub.engine.relayed.recent := by
  -- What is remembered are different messages, none of which is lost as long as all find a place.
  have nodup : (status.identity :: hub.engine.relayed.recent).Nodup :=
    List.nodup_cons.mpr ⟨fresh, floods.recent_nodup⟩
  have subset : status.identity :: hub.engine.relayed.recent ⊆ statuses.map Status.identity :=
    List.cons_subset.mpr ⟨List.mem_map_of_mem mem, floods.recent_subset⟩
  have length_le := (nodup.subperm subset).length_le
  rw [List.length_map] at length_le
  exact List.take_of_length_le (Nat.le_trans length_le few)

theorem relay (floods : Floods statuses before emitted hub)
    (few : statuses.length ≤ historySize) {status : Status} (mem : status ∈ statuses)
    (apart : status.station ≠ hub.stationId)
    (fresh : hub.engine.relayed.contains status.identity = false)
    (stationId_eq : next.stationId = hub.stationId)
    (relayed_eq : next.engine.relayed = hub.engine.relayed.record status.identity)
    (nextUid_eq : next.engine.nextUid = hub.engine.nextUid) :
    Floods statuses before (emitted ++ [status.data]) next := by
  have missing : status.identity ∉ hub.engine.relayed.recent := by
    simpa [History.Ring.contains] using fresh
  have recent_eq := floods.recent_record few mem missing
  -- Had the message gone out before, it would be remembered.
  have unsent : status.data ∉ emitted :=
    fun emits => missing (floods.foreign status mem apart emits)
  constructor
  · exact List.nodup_append_comm.mp (List.nodup_cons.mpr ⟨unsent, floods.nodup⟩)
  · intro frame frame_mem
    rcases List.mem_append.mp frame_mem with frame_mem | frame_mem
    · exact floods.original frame frame_mem
    · exact ⟨status, mem, List.mem_singleton.mp frame_mem⟩
  · rw [stationId_eq]
    intro other other_mem isOwn emits
    rcases List.mem_append.mp emits with emits | emits
    · exact floods.own other other_mem isOwn emits
    · have identity_eq := Status.identity_eq_of_data_eq (List.mem_singleton.mp emits)
      exact absurd ((congrArg Identity.station identity_eq).symm.trans isOwn) apart
  · rw [stationId_eq, relayed_eq, recent_eq]
    intro other other_mem otherApart emits
    rcases List.mem_append.mp emits with emits | emits
    · exact List.mem_cons_of_mem _ (floods.foreign other other_mem otherApart emits)
    · rw [Status.identity_eq_of_data_eq (List.mem_singleton.mp emits)]
      exact List.mem_cons_self
  · rw [relayed_eq, recent_eq]
    exact List.nodup_cons.mpr ⟨missing, floods.recent_nodup⟩
  · rw [relayed_eq, recent_eq]
    exact List.cons_subset.mpr ⟨List.mem_map_of_mem mem, floods.recent_subset⟩
  · rw [stationId_eq, nextUid_eq]
    exact floods.uid

/-- A status message that was received is taken over at most once. -/
theorem process [FirmwareUpdater φ] {sent : List Bytes}
    (floods : Floods statuses before (sent ++ hub.waiting) hub)
    (few : statuses.length ≤ historySize) {status : Status} (mem : status ∈ statuses)
    (report : Channel.Report) (now : Nat) :
    let left := (hub.process status.data report now).2
    left.stationId = hub.stationId ∧ Floods statuses before (sent ++ left.waiting) left := by
  rcases hub.process_status_cases status report now with
    ⟨stationId_eq, nextUid_eq,
      ⟨waiting_eq, relayed_eq⟩ | ⟨apart, fresh, waiting_eq, relayed_eq⟩⟩
  · refine ⟨stationId_eq, ?_⟩
    rw [waiting_eq]
    exact floods.of_eq stationId_eq relayed_eq nextUid_eq
  · refine ⟨stationId_eq, ?_⟩
    rw [waiting_eq, ← List.append_assoc]
    exact floods.relay few mem apart fresh stationId_eq relayed_eq nextUid_eq

/-! ### One more status message -/

theorem toNat_succ_sub {next uid : UInt8} (lt : (next - uid).toNat < 255) :
    (next + 1 - uid).toNat = (next - uid).toNat + 1 := by
  have sub_eq : next + 1 - uid = (next - uid) + 1 := by
    rw [UInt8.sub_eq_add_neg, UInt8.sub_eq_add_neg, UInt8.add_assoc, UInt8.add_comm 1,
      ← UInt8.add_assoc]
  rw [sub_eq, UInt8.toNat_add]
  exact Nat.mod_eq_of_lt (Nat.succ_lt_succ lt)

/-- The next message of the station is unlike all that are around. -/
theorem nextStatus_fresh (floods : Floods statuses before emitted hub) (report : Channel.Report) :
    (hub.nextStatus report).identity ∉ statuses.map Status.identity := by
  intro mem
  rcases List.mem_map.mp mem with ⟨status, mem, identity_eq⟩
  have station_eq : status.station = hub.stationId := congrArg Identity.station identity_eq
  have uid_eq : status.uid = hub.engine.nextUid := congrArg Identity.uid identity_eq
  have positive := (floods.uid status mem station_eq).1
  simp [uid_eq] at positive

theorem distinct_append (floods : Floods statuses before emitted hub)
    (distinct : (statuses.map Status.identity).Nodup) (report : Channel.Report) :
    ((statuses ++ [hub.nextStatus report]).map Status.identity).Nodup := by
  rw [List.map_append, List.map_singleton, List.nodup_append_comm]
  exact List.nodup_cons.mpr ⟨floods.nextStatus_fresh report, distinct⟩

theorem unsent (floods : Floods statuses before emitted hub) {status : Status}
    (new : status.identity ∉ statuses.map Status.identity) : status.data ∉ emitted := by
  intro emits
  rcases floods.original status.data emits with ⟨other, mem, data_eq⟩
  rw [Status.identity_eq_of_data_eq data_eq] at new
  exact new (List.mem_map_of_mem mem)

/-- A message that another station originates does not concern the station yet. -/
theorem elsewhere (floods : Floods statuses before emitted hub) {status : Status}
    (apart : status.station ≠ hub.stationId)
    (new : status.identity ∉ statuses.map Status.identity) :
    Floods (statuses ++ [status]) before emitted hub where
  nodup := floods.nodup
  original frame mem := by
    rcases floods.original frame mem with ⟨other, other_mem, frame_eq⟩
    exact ⟨other, List.mem_append_left _ other_mem, frame_eq⟩
  own other mem isOwn emits := by
    rcases List.mem_append.mp mem with mem | mem
    · exact floods.own other mem isOwn emits
    · rw [List.mem_singleton.mp mem] at isOwn
      contradiction
  foreign other mem otherApart emits := by
    rcases List.mem_append.mp mem with mem | mem
    · exact floods.foreign other mem otherApart emits
    · rw [List.mem_singleton.mp mem] at emits
      exact absurd emits (floods.unsent new)
  recent_nodup := floods.recent_nodup
  recent_subset := by
    rw [List.map_append]
    exact List.subset_append_of_subset_left _ floods.recent_subset
  uid other mem isOwn := by
    rcases List.mem_append.mp mem with mem | mem
    · rcases floods.uid other mem isOwn with ⟨positive, le⟩
      exact ⟨positive, Nat.le_trans le (by simp)⟩
    · rw [List.mem_singleton.mp mem] at isOwn
      contradiction

/-- With the message that the station itself originates it goes on from there. -/
theorem originate (floods : Floods statuses before emitted hub)
    (few : statuses.length < historySize) (report : Channel.Report)
    (stationId_eq : next.stationId = hub.stationId)
    (engine_eq : next.engine = hub.engine.takeUid.2) :
    Floods (statuses ++ [hub.nextStatus report]) (emitted ++ [(hub.nextStatus report).data])
      (emitted ++ [(hub.nextStatus report).data]) next := by
  have new := floods.nextStatus_fresh report
  have unsent := floods.unsent new
  have relayed_eq : next.engine.relayed = hub.engine.relayed := by rw [engine_eq]; rfl
  have nextUid_eq : next.engine.nextUid = hub.engine.nextUid + 1 := by rw [engine_eq]; rfl
  constructor
  · exact List.nodup_append_comm.mp (List.nodup_cons.mpr ⟨unsent, floods.nodup⟩)
  · intro frame frame_mem
    rcases List.mem_append.mp frame_mem with frame_mem | frame_mem
    · rcases floods.original frame frame_mem with ⟨status, mem, frame_eq⟩
      exact ⟨status, List.mem_append_left _ mem, frame_eq⟩
    · exact ⟨_, List.mem_append_right _ (List.mem_singleton_self _),
        List.mem_singleton.mp frame_mem⟩
  · exact fun _ _ _ => id
  · rw [stationId_eq, relayed_eq]
    intro status mem apart emits
    have known : status ∈ statuses := by
      rcases List.mem_append.mp mem with mem | mem
      · exact mem
      · rw [List.mem_singleton.mp mem] at apart
        contradiction
    rcases List.mem_append.mp emits with emits | emits
    · exact floods.foreign status known apart emits
    · have identity_eq := Status.identity_eq_of_data_eq (List.mem_singleton.mp emits)
      exact absurd (congrArg Identity.station identity_eq) apart
  · rw [relayed_eq]
    exact floods.recent_nodup
  · rw [relayed_eq, List.map_append]
    exact List.subset_append_of_subset_left _ floods.recent_subset
  · rw [stationId_eq, nextUid_eq]
    intro status mem isOwn
    rw [List.length_append, List.length_singleton]
    rcases List.mem_append.mp mem with mem | mem
    · rcases floods.uid status mem isOwn with ⟨positive, le⟩
      rw [toNat_succ_sub (by simp only [historySize] at few; omega)]
      omega
    · have uid_eq : status.uid = hub.engine.nextUid :=
        congrArg Status.uid (List.mem_singleton.mp mem)
      rw [uid_eq, toNat_succ_sub (by simp), UInt8.sub_self]
      exact ⟨Nat.succ_pos _, by simp⟩

end Floods

end Hub

end StationMesh.Relay
