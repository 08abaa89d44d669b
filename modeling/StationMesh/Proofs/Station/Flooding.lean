import StationMesh.Mesh
import StationMesh.Proofs.Channel.Supplying
import StationMesh.Proofs.Relay.Flooding
import StationMesh.Proofs.Relay.OutboxGrowth
import StationMesh.Proofs.Station.Upholding

/-!
# Status messages at a station on a mesh

Nothing comes in over the radio of a station but what the stations on the medium sent, and nothing
goes out but what the station put into its outbox. So if only status messages are around, a station
sends nothing but these, and each at most once.
-/

namespace StationMesh.Station

open StationMesh.Action Channel Radio Relay

variable {κ φ ε α : Type} {logSize : Nat} {own : UInt8} {statuses : List Status}
  {earlier before : List Bytes}

/-- The frames that the station handed to its radio to be sent, the newest first. -/
def sent (station : MeshStation κ φ logSize) : List Bytes := station.controller.radio.sent

/-- The frames that the station handed to its radio or is about to. -/
def emitted (station : MeshStation κ φ logSize) : List Bytes := station.sent ++ station.hub.waiting

/-- Nothing but these messages comes in over the radio of the controller, which sent so much. -/
abbrev Carries (statuses : List Status) (sent : List Bytes)
    (controller : Controller (Bench Endpoint)) : Prop :=
  controller.Supplied (Bench.Overhears (statuses.map Status.data) sent)
    (· ∈ statuses.map Status.data)

/-- A station on a mesh on which nothing but these status messages is around. Beside what it had
sent earlier, it took over none of its own but those it had before. -/
structure Floods [Config.Store κ] (own : UInt8) (statuses : List Status)
    (earlier before : List Bytes) (station : MeshStation κ φ logSize) : Prop where
  stationId_eq : station.stationId = own
  carries : Carries statuses station.sent station.controller
  hub : station.hub.Floods statuses before station.emitted
  grown : earlier <:+ station.sent

variable [Config.Store κ]

theorem Floods.withController {station : MeshStation κ φ logSize}
    (floods : Floods own statuses earlier before station) {controller : Controller (Bench Endpoint)}
    (carries : Carries statuses station.sent controller) :
    Floods own statuses earlier before { station with controller } := by
  have sent_eq : controller.radio.sent = station.sent := carries.radio.sent_eq
  refine ⟨floods.stationId_eq, ?_, ?_, ?_⟩
  · rw [sent, sent_eq]
    exact carries
  · rw [emitted, sent, sent_eq]
    exact floods.hub
  · rw [sent, sent_eq]
    exact floods.grown

theorem keeps_floods_onController {operation : Controller.Operation (Bench Endpoint) α}
    (carries : ∀ sent, operation.Keeps (Carries statuses sent)) :
    (onController operation : Operation (Bench Endpoint) κ φ logSize ChannelError α).Keeps
      (Floods own statuses earlier before) :=
  fun station floods => floods.withController (carries station.sent _ floods.carries)

/-- A frame is taken out of the outbox, and is handed to the radio or is lost. -/
theorem Floods.send {station : MeshStation κ φ logSize} {frame : OutFrame} {outbox : Outbox}
    (floods : Floods own statuses earlier before station)
    (taken : station.hub.outbox.take? = some (frame, outbox)) :
    Floods own statuses earlier before
      ((onController (Controller.transmit frame.data frame.preamble) :
        Operation (Bench Endpoint) κ φ logSize ChannelError Unit).run
          { station with hub := { station.hub with outbox } }).2 := by
  have waiting_eq : station.hub.waiting = frame.data :: outbox.frames.map OutFrame.data := by
    rw [Hub.waiting, Outbox.frames_of_take? taken, List.map_cons]
  have emitted_eq : station.emitted =
      station.sent ++ frame.data :: outbox.frames.map OutFrame.data := by
    rw [emitted, waiting_eq]
  have mem : frame.data ∈ statuses.map Status.data := by
    rcases floods.hub.original frame.data (by simp [emitted_eq]) with ⟨status, mem, data_eq⟩
    rw [data_eq]
    exact List.mem_map_of_mem mem
  have left {sent : List Bytes} {controller : Controller (Bench Endpoint)}
      (carries : Carries statuses sent controller) (grown : earlier <:+ sent)
      (fewer : (sent ++ outbox.frames.map OutFrame.data).Subperm station.emitted) :
      Floods own statuses earlier before
        { station with controller, hub := { station.hub with outbox } } := by
    have sent_eq : controller.radio.sent = sent := carries.radio.sent_eq
    subst sent_eq
    refine ⟨floods.stationId_eq, carries, ?_, grown⟩
    exact (floods.hub.subperm fewer).of_eq rfl rfl rfl
  rcases Controller.supplied_transmit Bench.supplies_overhears Bench.supplies_overhears
    (fun radio overhears => Bench.overhears_transmit mem overhears) frame.preamble floods.carries
    with carries | carries
  · apply left carries floods.grown
    rw [emitted_eq]
    exact ((List.sublist_cons_self _ _).append_left _).subperm
  · apply left carries (floods.grown.trans (List.suffix_cons _ _))
    rw [emitted_eq]
    exact List.perm_middle.symm.subperm

theorem keeps_floods_applyPending :
    (applyPending : Operation (Bench Endpoint) κ φ logSize ChannelError Unit).Keeps
      (Floods own statuses earlier before) := by
  intro station floods
  apply kept_applyPending
  · exact keeps_floods_onController fun sent =>
      Controller.Enters.reinitialize (Controller.enters_supplied Bench.supplies_overhears)
  · have taken : Floods own statuses earlier before
        { station with hub := { station.hub with engine := station.hub.engine.takePending.2 } } :=
      ⟨floods.stationId_eq, floods.carries, floods.hub.of_eq rfl rfl rfl, floods.grown⟩
    unfold reloaded
    split
    · exact taken.withController ⟨taken.carries.radio, taken.carries.sound, taken.carries.frames⟩
    · exact taken

/-- What a station has taken over so far counts as what it had before. -/
theorem Floods.rebase {station : MeshStation κ φ logSize}
    (floods : Floods own statuses earlier before station) :
    Floods own statuses station.sent station.emitted station where
  stationId_eq := floods.stationId_eq
  carries := floods.carries
  hub := { floods.hub with own := fun _ _ _ => id }
  grown := List.suffix_rfl

/-- What the station took over in between is not its own: all of its own that it sent then, or that
still waits, waited before. -/
theorem Floods.own_waited {former latter : MeshStation κ φ logSize}
    (floods : Floods own statuses former.sent former.emitted latter) :
    ∃ news, latter.sent = news ++ former.sent ∧ ∀ frame ∈ news ++ latter.hub.waiting, ∀ header,
      Header.parse frame = .ok header → header.station = own → frame ∈ former.hub.waiting := by
  rcases floods.grown with ⟨news, sent_eq⟩
  refine ⟨news, sent_eq.symm, ?_⟩
  intro frame taken header parsed isOwn
  have emitted_eq : latter.emitted = news ++ former.sent ++ latter.hub.waiting := by
    rw [emitted, ← sent_eq]
  have nodup := floods.hub.nodup
  rw [emitted_eq] at nodup
  -- No frame is taken over twice, so none of those taken over now was sent before.
  have emits : frame ∈ latter.emitted ∧ frame ∉ former.sent := by
    rw [emitted_eq]
    rcases List.mem_append.mp taken with sends | waits
    · refine ⟨List.mem_append_left _ (List.mem_append_left _ sends), ?_⟩
      exact List.disjoint_of_nodup_append (List.nodup_append.mp nodup).1 sends
    · refine ⟨List.mem_append_right _ waits, ?_⟩
      intro sent
      exact List.disjoint_of_nodup_append nodup (List.mem_append_right _ sent) waits
  rcases floods.hub.original frame emits.1 with ⟨status, mem, rfl⟩
  rw [status.parse_data, Except.ok.injEq] at parsed
  subst parsed
  have known := floods.hub.own status mem (isOwn.trans floods.stationId_eq.symm) emits.1
  exact (List.mem_append.mp known).resolve_left emits.2

omit [Config.Store κ] in
theorem Carries.mono {sent : List Bytes} {controller : Controller (Bench Endpoint)}
    (carries : Carries statuses sent controller) {more : List Status} (subset : statuses ⊆ more) :
    Carries more sent controller := by
  have frames_subset := List.map_subset Status.data subset
  exact ⟨⟨carries.radio.holds.mono frames_subset, carries.radio.sent_eq⟩, carries.sound,
    fun frame mem => frames_subset (carries.frames frame mem)⟩

theorem Floods.queueStatus {station : MeshStation κ φ logSize}
    (floods : Floods own statuses earlier before station) (few : statuses.length < historySize)
    (report : Report) :
    Floods own (statuses ++ [station.hub.nextStatus report]) earlier
      (station.emitted ++ [(station.hub.nextStatus report).data])
      { station with hub := ((Hub.sendStatus report).run station.hub).2 } := by
  rcases station.hub.sendStatus_cases report with ⟨services_eq, engine_eq, waiting⟩
  have stationId_eq :
      ((Hub.sendStatus report).run station.hub).2.stationId = station.stationId := by
    rw [Hub.stationId, services_eq]
    rfl
  refine ⟨stationId_eq.trans floods.stationId_eq,
    Carries.mono floods.carries (List.subset_append_left _ _), ?_, floods.grown⟩
  have originated := floods.hub.originate few report stationId_eq engine_eq
  apply originated.subperm
  rw [emitted, sent, emitted, sent]
  rcases waiting with waiting_eq | waiting_eq
  · rw [waiting_eq, List.append_assoc]
  · rw [waiting_eq]
    exact (List.sublist_append_left _ _).subperm

variable [FirmwareUpdater φ]

theorem Floods.intakeUpTo (few : statuses.length ≤ historySize) (report : Report)
    (now fuel processed : Nat) {station : MeshStation κ φ logSize}
    (floods : Floods own statuses earlier before station) :
    let taken := Relay.intakeUpTo report now fuel processed station.controller station.hub
    Floods own statuses earlier before
      { station with controller := taken.2.1, hub := taken.2.2 } := by
  induction fuel generalizing processed station with
  | zero => exact floods
  | succ fuel ih =>
      simp only [Relay.intakeUpTo]
      split
      · exact floods
      · rcases floods.carries.dequeue with ⟨carries, received⟩
        rcases dequeued : station.controller.dequeue with ⟨_ | frame, left⟩
        · rw [dequeued] at carries
          exact floods.withController carries
        · rw [dequeued] at carries received
          -- What is taken out of the receive queue is one of the status messages.
          have left_floods := floods.withController carries
          rcases List.mem_map.mp (received frame rfl) with ⟨status, mem, rfl⟩
          rcases left_floods.hub.process few mem report now with ⟨stationId_eq, hub⟩
          exact @ih (processed + 1)
            { station with
              controller := left, hub := (station.hub.process status.data report now).2 }
            ⟨stationId_eq.trans floods.stationId_eq, left_floods.carries, hub, left_floods.grown⟩

/-- As long as no more status messages are around than the history holds, all that a station does
but originate messages of its own keeps it from taking one over twice. -/
theorem upholds_floods (few : statuses.length ≤ historySize) :
    Upholds (Floods own statuses earlier before : MeshStation κ φ logSize → Prop) where
  count _ _ _ floods := ⟨floods.stationId_eq, floods.carries, floods.hub, floods.grown⟩
  reinitialize := keeps_floods_onController fun sent =>
    Controller.Enters.reinitialize (Controller.enters_supplied Bench.supplies_overhears)
  setIdle idle := keeps_floods_onController fun sent =>
    (Controller.enters_supplied Bench.supplies_overhears).setIdle idle
  service := keeps_floods_onController fun sent =>
    Controller.supplied_serviceReceiver Bench.supplies_overhears
  send taken floods := floods.send taken
  process := by
    have processed : (processQueued : Operation (Bench Endpoint) κ φ logSize ChannelError Nat).Keeps
        (Floods own statuses earlier before) :=
      fun station floods => floods.intakeUpTo few station.controller.statistics.report
        (Timed.now station.controller.radio) (station.controller.queued + 1) 0
    exact processed.bind fun _ => keeps_floods_applyPending

/-- A station that originates a status message takes over nothing else with it. -/
theorem Floods.sendStatus {station : MeshStation κ φ logSize}
    (floods : Floods own statuses earlier before station) (few : statuses.length < historySize) :
    let status := station.hub.nextStatus station.controller.statistics.report
    Floods own (statuses ++ [status]) earlier (station.emitted ++ [status.data])
      (Station.sendStatus.run station).2 := by
  intro status
  have queued := floods.queueStatus few station.controller.statistics.report
  have more : (statuses ++ [status]).length ≤ historySize := by
    rw [List.length_append]
    exact few
  have flushed (uid : UInt8) : (do
      overChannel flushAll
      pure uid : Operation (Bench Endpoint) κ φ logSize StationError UInt8).Keeps
        (Floods own (statuses ++ [status]) earlier (station.emitted ++ [status.data])) :=
    (keeps_overChannel (upholds_floods more).flushAll).bind fun _ => keeps_pure uid
  rw [Station.sendStatus, run_bind, run_get]
  dsimp only
  rw [run_bind, onHub, run_zoom]
  generalize (Hub.sendStatus station.controller.statistics.report).run station.hub = ended
    at queued ⊢
  rcases ended with ⟨cause | uid, left⟩
  · exact queued
  · exact flushed uid _ queued

end StationMesh.Station
