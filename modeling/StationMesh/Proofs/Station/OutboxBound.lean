import StationMesh.Proofs.Channel.Laying
import StationMesh.Proofs.Relay.OutboxGrowth
import StationMesh.Proofs.Station.Upholding

/-!
# The outbox of a station is never full

Between two operations of a station one slot is always left, counting the slot that the waiting
readings will take. A message of the station itself takes that slot, and sending what is queued
frees it again: the oldest frame is taken out before anything can go wrong with the radio. Received
messages are only processed while there is room for all their frames.
-/

namespace StationMesh.Station

open StationMesh.Action Channel Radio Relay

variable {ρ κ φ α : Type} {logSize : Nat}

/-- So many slots of the outbox are spare, no frame was ever turned away, and what was received is
no longer than a frame. -/
structure Fits (spare : Nat) (station : Station ρ κ φ logSize) : Prop where
  within : station.controller.Within
  sound : station.hub.HasSoundBatch
  turnedAway_eq : station.hub.turnedAway = 0
  load_le : station.hub.load + spare ≤ Outbox.slots

namespace Fits

variable {spare less : Nat} {station : Station ρ κ φ logSize}

theorem mono (fits : Fits spare station) (less_le : less ≤ spare) : Fits less station where
  within := fits.within
  sound := fits.sound
  turnedAway_eq := fits.turnedAway_eq
  load_le := Nat.le_trans (Nat.add_le_add_left less_le _) fits.load_le

/-- What the outbox and the batch hold is all that matters of a hub. -/
theorem of_hub_eq {next : Station ρ κ φ logSize} (fits : Fits spare station)
    (within : next.controller.Within) (batch_eq : next.hub.engine.batch = station.hub.engine.batch)
    (outbox_eq : next.hub.outbox = station.hub.outbox)
    (turnedAway_eq : next.hub.turnedAway = station.hub.turnedAway) : Fits spare next where
  within := within
  sound := by
    simp only [Hub.HasSoundBatch]
    rw [batch_eq]
    exact fits.sound
  turnedAway_eq := turnedAway_eq.trans fits.turnedAway_eq
  load_le := by
    rw [Hub.load, batch_eq, outbox_eq]
    exact fits.load_le

end Fits

theorem keeps_fits_onController {spare : Nat} {operation : Controller.Operation ρ α}
    (lays : operation.Moves Controller.Lays) :
    (onController operation : Operation ρ κ φ logSize ChannelError α).Keeps (Fits spare) :=
  fun station fits => fits.of_hub_eq ((lays station.controller).within fits.within) rfl rfl rfl

variable [Timed ρ] {spare : Nat}

/-! ### Processing what was received -/

variable [Config.Store κ] [FirmwareUpdater φ]

omit [Timed ρ] in
/-- A message is only taken while there is room for all frames it can bring, so at least one slot
stays spare. -/
theorem fits_intakeUpTo (report : Report) (now fuel processed : Nat)
    {station : Station ρ κ φ logSize} (fits : Fits 1 station) :
    let taken := intakeUpTo report now fuel processed station.controller station.hub
    Fits 1 { station with controller := taken.2.1, hub := taken.2.2 } := by
  induction fuel generalizing processed station with
  | zero => exact fits
  | succ fuel ih =>
      dsimp only at ih ⊢
      simp only [intakeUpTo]
      split
      · exact fits
      · rename_i room
        have withinLeft : station.controller.dequeue.2.Within :=
          ReceiveQueue.within_dequeue fits.within
        rcases dequeued : station.controller.dequeue with ⟨_ | frame, controller⟩
        · rw [dequeued] at withinLeft
          exact ⟨withinLeft, fits.sound, fits.turnedAway_eq, fits.load_le⟩
        · rw [dequeued] at withinLeft
          have frame_eq : station.controller.queue.dequeue.1 = some frame :=
            congrArg Prod.fst dequeued
          have length_le : frame.length ≤ 255 :=
            ReceiveQueue.length_le_of_dequeue fits.within frame_eq
          have queues := Hub.queues_process length_le report now fits.sound
          have sound := Hub.keeps_sound_process frame report now fits.sound
          have load_le := (station.hub.process frame report now).2.load_le_length_succ
          have queued_le := queues.length_le
          simp only [Outbox.free, Outbox.slots, messageReserve] at room
          have processedFits : Fits 1 { station with
              controller, hub := (station.hub.process frame report now).2 } := by
            refine ⟨withinLeft, sound, ?_, ?_⟩
            · refine (queues.turnedAway_eq ?_).trans fits.turnedAway_eq
              simp only [Outbox.slots]
              omega
            · simp only [Outbox.slots]
              omega
          exact ih (processed + 1) processedFits

theorem keeps_fits_processQueued {ε : Type} :
    (processQueued : Operation ρ κ φ logSize ε Nat).Keeps (Fits 1) := by
  apply keeps_get_bind
  intro station fits
  have taken := fits_intakeUpTo station.controller.statistics.report
    (Timed.now station.controller.radio) (station.controller.queued + 1) 0 fits
  simp only [intake]
  generalize intakeUpTo _ _ _ _ station.controller station.hub = ended at taken ⊢
  exact taken

omit [FirmwareUpdater φ] in
theorem keeps_fits_applyPending :
    (applyPending : Operation ρ κ φ logSize ChannelError Unit).Keeps (Fits spare) := by
  intro station fits
  apply kept_applyPending (keeps_fits_onController Controller.enters_lays.reinitialize)
  simp only [reloaded]
  split
  · exact fits.of_hub_eq fits.within rfl rfl rfl
  · exact fits.of_hub_eq fits.within rfl rfl rfl

/-! ### Sending what is queued -/

omit [Timed ρ] [Config.Store κ] [FirmwareUpdater φ] in
/-- Taking a frame out makes its slot a spare one. -/
theorem fits_of_take {station : Station ρ κ φ logSize} {frame : OutFrame} {outbox : Outbox}
    (fits : Fits spare station) (taken : station.hub.outbox.take? = some (frame, outbox)) :
    Fits (spare + 1) { station with hub := { station.hub with outbox } } where
  within := fits.within
  sound := fits.sound
  turnedAway_eq := fits.turnedAway_eq
  load_le := by
    have length_eq := Outbox.length_of_take? taken
    have load_le := fits.load_le
    simp only [Hub.load] at load_le ⊢
    omega

/-- The steps of a round leave the spare slot alone. -/
theorem upholds_fits : Upholds (Fits 1 : Station ρ κ φ logSize → Prop) where
  count _ _ _ fits := fits.of_hub_eq fits.within rfl rfl rfl
  reinitialize := keeps_fits_onController Controller.enters_lays.reinitialize
  setIdle idle := keeps_fits_onController (Controller.enters_lays.setIdle idle)
  service := keeps_fits_onController Controller.lays_serviceReceiver
  send taken fits :=
    (keeps_fits_onController (Controller.lays_transmit _ _) _ (fits_of_take fits taken)).mono
      (Nat.le_succ 1)
  process := keeps_fits_processQueued.bind fun _ => keeps_fits_applyPending

/-- The oldest frame is out of the outbox before the radio is asked for anything. -/
theorem fits_flushUpTo_succ {station : Station ρ κ φ logSize} {frame : OutFrame} {outbox : Outbox}
    (fits : Fits 0 station) (taken : station.hub.outbox.take? = some (frame, outbox)) (fuel : Nat)
    (report : FlushReport) : Fits 1 ((flushUpTo (fuel + 1) report).run station).2 := by
  have transmitted : (onController (Controller.transmit frame.data frame.preamble) :
      Operation ρ κ φ logSize ChannelError Unit).Keeps (Fits 1) :=
    keeps_fits_onController (Controller.lays_transmit _ _)
  rw [flushUpTo, run_bind, run_takeFrame, taken]
  refine (transmitted.attempt.bind fun ended => ?_) _ (fits_of_take fits taken)
  rcases ended with error | _
  · exact (upholds_fits.absorb error).bind fun _ => upholds_fits.flushUpTo _ _
  · apply Keeps.bind
    · intro station fits
      exact upholds_fits.count _ _ station fits
    · intro _
      exact upholds_fits.flushUpTo _ _

/-- Sending what is queued leaves a spare slot, however it ends. -/
theorem fits_flush {station : Station ρ κ φ logSize} (fits : Fits 0 station) :
    Fits 1 (flush.run station).2 := by
  simp only [flush, run_bind, run_get]
  cases taken : station.hub.outbox.take? with
  | none =>
      have length_eq := Outbox.length_eq_zero_of_take? taken
      rw [length_eq]
      refine ⟨fits.within, fits.sound, fits.turnedAway_eq, ?_⟩
      have load_le := station.hub.load_le_length_succ
      rw [length_eq] at load_le
      simp only [Outbox.slots]
      exact Nat.le_trans (Nat.add_le_add_right load_le 1) (by decide)
  | some pair =>
      rw [Outbox.length_of_take? taken]
      exact fits_flushUpTo_succ fits taken _ {}

theorem fits_flushAll {station : Station ρ κ φ logSize} (fits : Fits 0 station) :
    Fits 1 (flushAll.run station).2 := by
  have flushed := fits_flush fits
  simp only [flushAll]
  rw [run_bind]
  generalize flush.run station = ended at flushed ⊢
  rcases ended with ⟨cause | report, left⟩
  · exact flushed
  · dsimp only at flushed ⊢
    cases report.result with
    | error error => exact flushed
    | ok sent => exact flushed

/-! ### All operations -/

omit [Timed ρ] [FirmwareUpdater φ] in
theorem keeps_fits_weatherDue (now : Nat) :
    (weatherDue now : Operation ρ κ φ logSize StationError _).Keeps (Fits spare) := by
  apply keeps_get_bind
  intro station fits
  rcases station.schedule.poll station.hub.services.config now with ⟨due, schedule⟩
  exact fits.of_hub_eq fits.within rfl rfl rfl

omit [FirmwareUpdater φ] in
theorem keeps_fits_withRadioSilence (operation : Services κ φ logSize → α × Services κ φ logSize) :
    (withRadioSilence operation : Operation ρ κ φ logSize ChannelError α).Keeps (Fits spare) := by
  simp only [withRadioSilence]
  apply Keeps.get_bind
  intro station
  apply (keeps_fits_onController (Controller.enters_lays.setIdle _)).bind
  intro _
  apply keeps_get_bind
  intro asleep fits
  rcases operation asleep.hub.services with ⟨answer, services⟩
  dsimp only
  rw [run_bind, run_set]
  dsimp only
  refine (Keeps.bind ?_ fun _ => keeps_pure answer) _ (fits.of_hub_eq fits.within rfl rfl rfl)
  exact keeps_fits_onController (Controller.enters_lays.setIdle _)

omit [Timed ρ] [Config.Store κ] [FirmwareUpdater φ] in
/-- A message of the station takes the spare slot, and what follows has to free it again. -/
theorem keeps_fits_originate {β : Type} {operation : Hub.Operation κ φ logSize α}
    (originates : ∀ hub : Hub κ φ logSize, hub.Originates (operation.run hub))
    (soundKept : operation.Keeps Hub.HasSoundBatch)
    {next : α → Operation ρ κ φ logSize StationError β}
    (nextFits : ∀ value station, Fits 0 station → Fits 1 ((next value).run station).2) :
    (onHub operation >>= next).Keeps (Fits 1) := by
  intro station fits
  have originated := originates station.hub
  have sound := soundKept station.hub fits.sound
  have load_le := fits.load_le
  rw [run_bind, onHub, run_zoom]
  generalize operation.run station.hub = ended at originated sound ⊢
  have turnedAway_eq := (originated.turnedAway_eq load_le).trans fits.turnedAway_eq
  rcases ended with ⟨cause | value, hub⟩
  · have left_le := originated.load_le_of_error cause rfl
    exact ⟨fits.within, sound, turnedAway_eq, Nat.le_trans (Nat.add_le_add_right left_le 1) load_le⟩
  · have left_le := originated.load_le
    exact nextFits value _ ⟨fits.within, sound, turnedAway_eq, Nat.le_trans left_le load_le⟩

theorem fits_flushAll_pure (value : α) {station : Station ρ κ φ logSize}
    (fits : Fits 0 station) :
    Fits 1 ((do overChannel flushAll; pure value :
      Operation ρ κ φ logSize StationError α).run station).2 := by
  have flushed := fits_flushAll fits
  rw [run_bind, overChannel, run_zoom, id]
  generalize flushAll.run station = ended at flushed ⊢
  rcases ended with ⟨cause | _, left⟩
  · exact flushed
  · exact flushed

theorem keeps_fits_sendWeather (reading : Bytes) :
    (sendWeather reading : Operation ρ κ φ logSize StationError UInt8).Keeps (Fits 1) :=
  keeps_fits_originate (Hub.originates_sendWeather reading) (Hub.keeps_sound_sendWeather reading)
    fun uid _ => fits_flushAll_pure uid

theorem keeps_fits_sendStatus :
    (sendStatus : Operation ρ κ φ logSize StationError UInt8).Keeps (Fits 1) := by
  simp only [sendStatus]
  apply Keeps.get_bind
  intro station
  refine keeps_fits_originate (Hub.originates_sendStatus _) (Hub.keeps_sound_sendStatus _) ?_
  intro uid _
  exact fits_flushAll_pure uid

omit [Timed ρ] in
/-- Carrying out a command of the host sends nothing over the radio. -/
theorem fits_executeLocal (command : Bytes) (report : Report) (now : Nat)
    {station : Station ρ κ φ logSize} (fits : Fits spare station) :
    Fits spare { station with hub := (station.hub.executeLocal command report now).2 } := by
  have executes := Hub.onlyExecutes_executeBytes command report now station.hub
  simp only [Hub.executeLocal]
  generalize station.hub.executeBytes command report now = ended at executes ⊢
  rcases ended with ⟨answer, hub⟩
  dsimp only at executes ⊢
  split
  · exact fits.of_hub_eq fits.within executes.batch executes.outbox executes.turnedAway
  · exact fits.of_hub_eq fits.within executes.batch executes.outbox executes.turnedAway

theorem keeps_fits_handleHostFrame (frame : Host.Frame) :
    (handleHostFrame frame : Operation ρ κ φ logSize StationError Unit).Keeps (Fits 1) := by
  unfold handleHostFrame
  split
  · refine keeps_fits_originate (Hub.originates_sendHostFrame _)
      (Hub.keeps_sound_sendHostFrame _) ?_
    intro _ _
    exact fits_flushAll
  · apply keeps_get_bind
    intro station fits
    have executed := fits_executeLocal frame.payload station.controller.statistics.report
      (Timed.now station.controller.radio) fits
    dsimp only
    rw [run_bind, run_set]
    exact keeps_fits_applyPending _ executed
  · exact keeps_pure ()

theorem fits_serveHost (reader : Host.Reader) {station : Station ρ κ φ logSize}
    (fits : Fits 1 station) : Fits 1 (station.serveHost reader).2.2 := by
  have waited (time : Nat) : Fits 1 { station with
      controller := { station.controller with
        radio := Timed.waitUntil time station.controller.radio } } :=
    fits.of_hub_eq fits.within rfl rfl rfl
  simp only [serveHost]
  split
  · exact waited _
  · exact waited _
  · exact waited _
  · exact waited _
  · exact keeps_fits_handleHostFrame _ _ (waited _)

theorem fits_perform {station : Station ρ κ φ logSize} (fits : Fits 1 station)
    (call : Call ρ κ φ logSize) : Fits 1 (station.perform call) := by
  cases call with
  | start => exact upholds_fits.start station fits
  | poll => exact upholds_fits.poll station fits
  | weatherDue now => exact keeps_fits_weatherDue now station fits
  | sendWeather reading => exact keeps_fits_sendWeather reading station fits
  | sendStatus => exact keeps_fits_sendStatus station fits
  | flush => exact upholds_fits.flush station fits
  | handleHostFrame frame => exact keeps_fits_handleHostFrame frame station fits
  | serveHost reader => exact fits_serveHost reader fits
  | withRadioSilence operation => exact keeps_fits_withRadioSilence _ station fits
  | outside radio services host => exact fits.of_hub_eq fits.within rfl rfl rfl

theorem fits_run (calls : List (Call ρ κ φ logSize)) {station : Station ρ κ φ logSize}
    (fits : Fits 1 station) : Fits 1 (station.run calls) := by
  induction calls generalizing station with
  | nil => exact fits
  | cons call calls ih => exact ih (fits_perform fits call)

omit [FirmwareUpdater φ] in
theorem fits_new (radio : ρ) (services : Services κ φ logSize) (base : Settings)
    (hostSettings : HostSettings) (host : HostLine) (seed : UInt64) (generator : Generator) :
    Fits 1 (new radio services base hostSettings host seed generator) := by
  have batch_eq : (Engine.new (engineSeed seed) generator).batch = {} := by
    rw [Engine.new]
  refine ⟨ReceiveQueue.within_empty, ?_, rfl, ?_⟩
  · change (Engine.new (engineSeed seed) generator).batch.Sound
    rw [batch_eq]
    exact Weather.Batch.sound_empty
  · have load_le :=
      (new radio services base hostSettings host seed generator).hub.load_le_length_succ
    have length_eq :
        (new radio services base hostSettings host seed generator).hub.outbox.length = 0 := rfl
    simp only [Outbox.slots]
    omega

/-- Whatever a station does and receives, and however its radio fails, the outbox has never turned
a frame away. -/
theorem turnedAway_run_new (radio : ρ) (services : Services κ φ logSize) (base : Settings)
    (hostSettings : HostSettings) (host : HostLine) (seed : UInt64) (generator : Generator)
    (calls : List (Call ρ κ φ logSize)) :
    ((new radio services base hostSettings host seed generator).run calls).hub.turnedAway = 0 := by
  have fits := fits_new radio services base hostSettings host seed generator
  have fitsAfter := fits_run calls fits
  exact fitsAfter.turnedAway_eq

end StationMesh.Station
