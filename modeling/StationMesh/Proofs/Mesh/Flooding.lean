import StationMesh.Config.Settings
import StationMesh.Proofs.Mesh.Run
import StationMesh.Proofs.Station.Flooding

/-!
# Flooding

Status messages that stations originate spread over the mesh, from each station that relays them to
those that hear it, whatever the links are and however they change. A station takes each of them
over at most once, so the spreading comes to an end.
-/

namespace StationMesh.Mesh

open StationMesh.Action Channel Radio Relay

variable {κ φ ε α : Type} {logSize : Nat} {mesh : Mesh κ φ logSize} {statuses : List Status}
  {station : MeshStation κ φ logSize}

theorem emitted_lend (mesh : Mesh κ φ logSize) (station : MeshStation κ φ logSize) :
    (mesh.lend station).emitted = station.emitted := rfl

variable [Config.Store κ]

/-- Nothing was sent yet, the stations are new, and no two of them have the same id. -/
structure IsNew (mesh : Mesh κ φ logSize) : Prop where
  quiet : ∀ node ∈ mesh.medium.nodes, node.buffer = none
  new : ∀ station ∈ mesh.stations, ∃ (radio : Bench Endpoint) (services : Services κ φ logSize)
    (base : Settings) (hostSettings : HostSettings) (host : HostLine) (seed : UInt64)
    (generator : Generator),
    radio.calls = [] ∧ station = Station.new radio services base hostSettings host seed generator
  apart : (mesh.stations.map Station.stationId).Nodup

/-- Nothing but these status messages is around on the mesh, and no two of them have the same
header. -/
structure Floods (statuses : List Status) (mesh : Mesh κ φ logSize) : Prop where
  distinct : (statuses.map Status.identity).Nodup
  apart : (mesh.stations.map Station.stationId).Nodup
  station : ∀ (index : Nat) (station : MeshStation κ φ logSize),
    mesh.stations[index]? = some station →
    (mesh.lend station).Floods station.stationId statuses station.sent station.emitted

theorem IsNew.floods (new : mesh.IsNew) : mesh.Floods [] where
  distinct := .nil
  apart := new.apart
  station index station mem := by
    rcases new.new station (List.mem_of_getElem? mem) with
      ⟨radio, services, base, hostSettings, host, seed, generator, calls_eq, rfl⟩
    have sent_eq :
        (Station.new radio services base hostSettings host seed generator).sent = [] := by
      change radio.calls.flatMap CallRun.sent = []
      rw [calls_eq, List.flatMap_nil]
    have emitted_eq :
        (Station.new radio services base hostSettings host seed generator).emitted = [] := by
      rw [Station.emitted, sent_eq]
      rfl
    rw [sent_eq, emitted_eq]
    refine ⟨rfl, ⟨⟨?_, rfl⟩, ReceiveQueue.sound_empty, fun frame mem => by contradiction⟩, ?_,
      List.nil_suffix⟩
    · exact fun node mem => Node.holdsOnly_of_buffer_eq_none (new.quiet node mem)
    · rw [emitted_lend, emitted_eq]
      exact .nil rfl

/-- A station that is lent another medium, on which no other messages wait, goes on as it was. -/
theorem floods_lend {own : UInt8} {earlier before : List Bytes} {other : Mesh κ φ logSize}
    (floods : (mesh.lend station).Floods own statuses earlier before)
    (holds : other.medium.HoldsOnly (statuses.map Status.data)) :
    (other.lend station).Floods own statuses earlier before :=
  floods.withController
    ⟨⟨holds, floods.carries.radio.sent_eq⟩, floods.carries.sound, floods.carries.frames⟩

theorem stationIds_takeBack {index : Nat} {left : MeshStation κ φ logSize}
    (found : mesh.stations[index]? = some station) (same : left.stationId = station.stationId) :
    (mesh.takeBack index left).stations.map Station.stationId =
      mesh.stations.map Station.stationId := by
  have id_eq : (mesh.stations.map Station.stationId)[index]? = some station.stationId := by
    rw [List.getElem?_map, found, Option.map_some]
  rcases List.getElem?_eq_some_iff.mp id_eq with ⟨inside, id_eq⟩
  rw [takeBack, List.map_set, same, ← id_eq, List.set_getElem_self]

/-- A station has acted, and the other ones find the mesh as it left it. -/
theorem floods_takeBack {index : Nat} {earlier before : List Bytes}
    {left : MeshStation κ φ logSize} (found : mesh.stations[index]? = some station)
    (distinct : (statuses.map Status.identity).Nodup)
    (apart : (mesh.stations.map Station.stationId).Nodup)
    (floods : left.Floods station.stationId statuses earlier before)
    (others : ∀ (place : Nat) (other : MeshStation κ φ logSize), place ≠ index →
      mesh.stations[place]? = some other →
      (mesh.lend other).Floods other.stationId statuses other.sent other.emitted) :
    (mesh.takeBack index left).Floods statuses where
  distinct := distinct
  apart := by
    rw [stationIds_takeBack found floods.stationId_eq]
    exact apart
  station place other other_eq := by
    by_cases same : place = index
    · subst same
      have left_eq : other = left := by
        simp only [takeBack, List.getElem?_set_self', found] at other_eq
        exact (Option.some.inj other_eq).symm
      subst left_eq
      rw [floods.stationId_eq]
      exact floods.rebase
    · have other_eq : mesh.stations[place]? = some other := by
        simp only [takeBack] at other_eq
        rwa [List.getElem?_set_ne (Ne.symm same)] at other_eq
      exact floods_lend (others place other same other_eq) floods.carries.radio.holds

/-- What a station does but originating messages brings no more of them on the mesh. -/
theorem Floods.carryOut (floods : mesh.Floods statuses)
    {operation : Station.Operation (Bench Endpoint) κ φ logSize ε α}
    (keeps : ∀ own earlier before, operation.Keeps (Station.Floods own statuses earlier before))
    (index : Nat) : (mesh.carryOut index operation).Floods statuses := by
  simp only [Mesh.carryOut, act]
  cases found : mesh.stations[index]? with
  | none => exact floods
  | some station =>
      exact floods_takeBack found floods.distinct floods.apart
        (keeps _ _ _ _ (floods.station index station found))
        fun place other _ other_eq => floods.station place other other_eq

theorem Floods.around (floods : mesh.Floods statuses) {other : Mesh κ φ logSize}
    (stations_eq : other.stations = mesh.stations)
    (holds : mesh.medium.HoldsOnly (statuses.map Status.data) →
      other.medium.HoldsOnly (statuses.map Status.data)) : other.Floods statuses where
  distinct := floods.distinct
  apart := by
    rw [stations_eq]
    exact floods.apart
  station index station found := by
    rw [stations_eq] at found
    have floods := floods.station index station found
    exact floods_lend floods (holds floods.carries.radio.holds)

theorem Floods.place_eq (floods : mesh.Floods statuses) {index place : Nat}
    {other : MeshStation κ φ logSize} (found : mesh.stations[index]? = some station)
    (other_eq : mesh.stations[place]? = some other) (same : station.stationId = other.stationId) :
    index = place := by
  have inside : index < (mesh.stations.map Station.stationId).length := by
    rw [List.length_map]
    exact (List.getElem?_eq_some_iff.mp found).1
  apply (List.getElem?_inj inside floods.apart).mp
  rw [List.getElem?_map, List.getElem?_map, found, other_eq, Option.map_some, Option.map_some, same]

variable [FirmwareUpdater φ]

/-- A station brings one more status message on the mesh, and no other station has the same id. -/
theorem Floods.sendStatus (floods : mesh.Floods statuses) (few : statuses.length < historySize)
    {index : Nat} (found : mesh.stations[index]? = some station) :
    (mesh.carryOut index Station.sendStatus).Floods
      (statuses ++ [station.hub.nextStatus station.controller.statistics.report]) := by
  have acts := floods.station index station found
  have left := acts.sendStatus few
  simp only [Mesh.carryOut, act, found]
  apply floods_takeBack found (acts.hub.distinct_append floods.distinct _) floods.apart left
  intro place other ne other_eq
  have idles := floods.station place other other_eq
  have apart : station.stationId ≠ other.stationId :=
    fun same => ne (floods.place_eq found other_eq same).symm
  exact ⟨idles.stationId_eq, Station.Carries.mono idles.carries (List.subset_append_left _ _),
    idles.hub.elsewhere apart (acts.hub.nextStatus_fresh _), idles.grown⟩

/-- As long as no more status messages are around than the history holds, whatever happens adds no
more to them than the one that a station originates. -/
theorem Floods.perform (floods : mesh.Floods statuses) {act : Act}
    (few : (statuses ++ (mesh.original? act).toList).length ≤ historySize) :
    (mesh.perform act).Floods (statuses ++ (mesh.original? act).toList) := by
  cases act with
  | start index =>
      simp only [original?, Option.toList_none, List.append_nil] at few ⊢
      exact floods.carryOut (fun _ _ _ => (Station.upholds_floods few).start) index
  | poll index =>
      simp only [original?, Option.toList_none, List.append_nil] at few ⊢
      exact floods.carryOut (fun _ _ _ => (Station.upholds_floods few).poll) index
  | sendStatus index =>
      cases found : mesh.stations[index]? with
      | none =>
          have idle : mesh.perform (.sendStatus index) = mesh := by
            simp only [Mesh.perform, Mesh.carryOut, Mesh.act, found]
          simp only [original?, found, Option.map_none, Option.toList_none, List.append_nil, idle]
          exact floods
      | some station =>
          simp only [original?, found, Option.map_some, Option.toList_some, List.length_append,
            List.length_singleton] at few ⊢
          exact floods.sendStatus few found
  | setLink source target state =>
      simp only [original?, Option.toList_none, List.append_nil]
      exact floods.around rfl fun holds => holds.setLink source target state
  | pass time =>
      simp only [original?, Option.toList_none, List.append_nil]
      exact floods.around rfl id

theorem Floods.run (floods : mesh.Floods statuses) {acts : List Act}
    (few : (statuses ++ originals acts mesh).length ≤ historySize) :
    (mesh.run acts).Floods (statuses ++ originals acts mesh) := by
  induction acts generalizing mesh statuses with
  | nil =>
      rw [originals, List.append_nil]
      exact floods
  | cons act acts ih =>
      rw [originals, ← List.append_assoc] at few ⊢
      apply ih (floods.perform _) few
      rw [List.length_append] at few
      omega

theorem Floods.poll (floods : mesh.Floods statuses) (few : statuses.length ≤ historySize)
    {index : Nat} {before after : MeshStation κ φ logSize}
    (found : mesh.stations[index]? = some before)
    (left : (mesh.perform (.poll index)).stations[index]? = some after) :
    ∃ news, after.sent = news ++ before.sent ∧ ∀ frame ∈ news ++ after.hub.waiting, ∀ header,
      Header.parse frame = .ok header → header.station = before.stationId →
        frame ∈ before.hub.waiting := by
  have polled := (Station.upholds_floods few).poll _ (floods.station index before found)
  have after_eq : after = (Station.poll.run (mesh.lend before)).2 := by
    simp only [Mesh.perform, Mesh.carryOut, act, found, takeBack, List.getElem?_set_self'] at left
    exact (Option.some.inj left).symm
  rw [← after_eq] at polled
  exact polled.own_waited

/-! ### From a new mesh on -/

theorem originals_append (acts more : List Act) (mesh : Mesh κ φ logSize) :
    originals (acts ++ more) mesh = originals acts mesh ++ originals more (mesh.run acts) := by
  induction acts generalizing mesh with
  | nil => rfl
  | cons act acts ih =>
      rw [List.cons_append, originals, originals, ih, List.append_assoc]
      rfl

theorem nodup_map_parse {frames : List Bytes} (nodup : frames.Nodup)
    (original : ∀ frame ∈ frames, ∃ status ∈ statuses, frame = status.data)
    (distinct : (statuses.map Status.identity).Nodup) : (frames.map Header.parse).Nodup := by
  apply List.Nodup.map_on _ nodup
  intro frame mem other other_mem parse_eq
  rcases original frame mem with ⟨first, first_mem, rfl⟩
  rcases original other other_mem with ⟨second, second_mem, rfl⟩
  rw [first.parse_data, second.parse_data, Except.ok.injEq] at parse_eq
  have identity_eq : first.identity = second.identity := congrArg Header.identity parse_eq
  rw [List.inj_on_of_nodup_map distinct first_mem second_mem identity_eq]

/-- In a run in which no more status messages are originated than the history of a station holds,
these have different headers, a station sends each of them at most once and as it was sent first,
and when it polls it takes none of its own over again. -/
theorem sent_once (new : mesh.IsNew) {acts : List Act}
    (few : (originals acts mesh).length ≤ historySize) :
    ((originals acts mesh).map Status.identity).Nodup ∧
    (∀ station ∈ (mesh.run acts).stations, (station.sent.map Header.parse).Nodup ∧
      ∀ frame ∈ station.sent, ∃ status ∈ originals acts mesh, frame = status.data) ∧
    ∀ (former latter : List Act) (index : Nat), acts = former ++ .poll index :: latter →
      ∀ before after : MeshStation κ φ logSize, (mesh.run former).stations[index]? = some before →
        (mesh.run (former ++ [.poll index])).stations[index]? = some after →
          ∃ news, after.sent = news ++ before.sent ∧ ∀ frame ∈ news ++ after.hub.waiting, ∀ header,
            Header.parse frame = .ok header → header.station = before.stationId →
              frame ∈ before.hub.waiting := by
  have floods : (mesh.run acts).Floods (originals acts mesh) := new.floods.run few
  refine ⟨floods.distinct, ?_, ?_⟩
  · intro station mem
    rcases List.mem_iff_getElem?.mp mem with ⟨index, found⟩
    have taken := (floods.station index station found).hub
    have original : ∀ frame ∈ station.sent, ∃ status ∈ originals acts mesh, frame = status.data :=
      fun frame mem => taken.original frame (List.mem_append_left _ mem)
    exact ⟨nodup_map_parse (List.nodup_append.mp taken.nodup).1 original floods.distinct, original⟩
  · intro former latter index acts_eq before after found left
    rw [acts_eq, originals_append, List.length_append] at few
    have fewer : ([] ++ originals former mesh).length ≤ historySize := by
      rw [List.nil_append]
      omega
    have run_eq : mesh.run (former ++ [.poll index]) = (mesh.run former).perform (.poll index) := by
      rw [Mesh.run, List.foldl_append]
      rfl
    rw [run_eq] at left
    exact (new.floods.run fewer).poll fewer found left

/-- A station that relays for the other two of three. -/
def relayStation (index : Nat) (id : UInt8) : MeshStation Config.Settings RuleUpdater 0 :=
  .new { device := { medium := .new 3, index } }
    { config := { Config.Settings.withStationId id with messageRelays := .padded [1, 2, 3] }
      firmware := .declines }
    {} {} {} id.toUInt64

/-- Three stations that relay for each other and hear each other, but for one link. -/
def triangle : Mesh Config.Settings RuleUpdater 0 where
  medium := (Medium.fullyConnected 3).setLink 2 0 .corrupting
  stations := [relayStation 0 1, relayStation 1 2, relayStation 2 3]

/-- One message goes round, a link fails, and another message follows. -/
def triangleActs : List Act :=
  [.start 0, .start 1, .start 2, .sendStatus 0, .poll 1, .poll 2, .poll 0, .poll 1,
    .setLink 0 1 .down, .sendStatus 2, .poll 1, .poll 0, .poll 2]

theorem isNew_triangle : triangle.IsNew where
  quiet := by decide
  new := by
    intro station mem
    simp only [triangle, List.mem_cons, List.not_mem_nil, or_false] at mem
    rcases mem with rfl | rfl | rfl <;> exact ⟨_, _, _, _, _, _, .wyRand, rfl, rfl⟩
  apart := by decide +kernel

/-- All three send both messages, and the one that comes around to where it started is let pass. -/
theorem sent_once_triangle :
    (triangle.IsNew ∧ (originals triangleActs triangle).length ≤ historySize) ∧
    (∀ station ∈ (triangle.run triangleActs).stations, station.sent.length = 2) ∧
    ((originals triangleActs triangle).map Status.identity).Nodup ∧
    ∀ station ∈ (triangle.run triangleActs).stations, (station.sent.map Header.parse).Nodup ∧
      ∀ frame ∈ station.sent, ∃ status ∈ originals triangleActs triangle, frame = status.data := by
  have few : (originals triangleActs triangle).length ≤ historySize := by decide +kernel
  have once := sent_once isNew_triangle few
  exact ⟨⟨isNew_triangle, few⟩, by decide +kernel, once.1, once.2.1⟩

end StationMesh.Mesh
