import StationMesh.Proofs.Station.Handover
import StationMesh.Proofs.Station.Listening

/-!
# When radio silence ends

While something else needs the bus, the radio is put to sleep and made to listen again afterwards.
The idle state is noted before the radio follows, on the way in as on the way out. So a radio that
fails to listen again leaves the right note behind, and one that fails to fall asleep leaves the
wrong one: the operation is given up, and the note says that the radio is to sleep.
-/

namespace StationMesh.Station

open StationMesh.Action Channel ChannelError Radio Relay

variable {ρ κ φ α : Type} {logSize : Nat} [Timed ρ]
  {station : Station ρ κ φ logSize} {radio : ρ} {error : DeviceError}

/-- The idle state is one in which the radio listens, all the time or now and then. -/
def IsListening (station : Station ρ κ φ logSize) : Prop :=
  station.controller.idle = .continuousReceive ∨ station.controller.idle = .intermittentReceive

omit [Timed ρ] in
theorem IsListening.idle_ne (listening : station.IsListening) :
    station.controller.idle ≠ .uninitialized ∧ station.controller.idle ≠ .sleep := by
  rcases listening with idle_eq | idle_eq
  · simp [idle_eq]
  · simp [idle_eq]

/-- What the radio answers when it is told to sleep. -/
def askToSleep (station : Station ρ κ φ logSize) : Except DeviceError Unit × ρ :=
  (Device.sleep : Radio.Operation ρ Unit).run station.controller.radio

/-- The station with a radio that is to sleep. -/
def silenced (radio : ρ) (station : Station ρ κ φ logSize) : Station ρ κ φ logSize :=
  { station with controller := { station.controller with radio, idle := .sleep } }

theorem run_setIdle_sleep (station : Station ρ κ φ logSize) :
    (onController (Controller.setIdle .sleep)).run station =
      (station.askToSleep.1.mapError .driverFault, station.silenced station.askToSleep.2) := by
  rw [run_onController]
  simp [askToSleep, silenced, Controller.setIdle, run_bind, Controller.enterIdle,
    Controller.onRadio]

variable [Config.Store κ] {operation : Services κ φ logSize → α × Services κ φ logSize}

/-- If the radio does not fall asleep, nothing else is done. -/
theorem withRadioSilence_of_awake (failed : station.askToSleep = (.error error, radio)) :
    (withRadioSilence operation).run station = (.error (.driverFault error),
      station.silenced radio) := by
  have slept := station.run_setIdle_sleep
  rw [failed] at slept
  rw [withRadioSilence, run_bind, run_get]
  exact run_bind_error slept

omit [Timed ρ] [Config.Store κ] in
theorem run_bind_pure {β : Type} (action : Operation ρ κ φ logSize ChannelError β) (answer : α)
    (station : Station ρ κ φ logSize) :
    (action >>= fun _ => pure answer).run station =
      ((action.run station).1.map fun _ => answer, (action.run station).2) := by
  rw [run_bind]
  rcases action.run station with ⟨cause | _, left⟩
  · rfl
  · rfl

/-- If the radio falls asleep, the operation is carried out, and the radio is made to listen in the
way it did before, whatever the relay lists call for by then. -/
theorem withRadioSilence_of_asleep (slept : station.askToSleep = (.ok (), radio))
    (listening : station.IsListening) :
    let changed : Station ρ κ φ logSize :=
      { station.silenced radio with
        hub := { station.hub with services := (operation station.hub.services).2 } }
    let ended := (onController (Controller.setIdle station.controller.idle)).run changed
    (withRadioSilence operation).run station =
      (ended.1.map fun _ => (operation station.hub.services).1, ended.2) := by
  intro changed ended
  have fell := station.run_setIdle_sleep
  rw [slept] at fell
  rw [withRadioSilence, run_bind, run_get]
  simp only
  rw [run_bind_ok fell, run_bind, run_get]
  simp only
  rw [run_bind, run_set]
  simp only
  rw [run_bind_pure]
  rcases listening with idle_eq | idle_eq
  · simp only [ended, idle_eq]
    rfl
  · simp only [ended, idle_eq]
    rfl

/-- A station that listened has its idle state back after radio silence, whatever was done and
however it ended, exactly if the radio fell asleep. If it did not, the operation was not carried
out, the caller learns why, and the idle state is to sleep. -/
theorem silence_lifted_iff_asleep (listening : station.IsListening)
    (operation : Services κ φ logSize → α × Services κ φ logSize) :
    let ended := (withRadioSilence operation).run station
    (ended.2.controller.idle = station.controller.idle ↔ station.askToSleep.1 = .ok ()) ∧
      (station.askToSleep.1 = .ok () → ended.2.hub =
        { station.hub with services := (operation station.hub.services).2 }) ∧
      ∀ error, station.askToSleep.1 = .error error →
        ended = (.error (.driverFault error), station.silenced station.askToSleep.2) := by
  rcases listening.idle_ne with ⟨up, awake⟩
  rcases asked : station.askToSleep with ⟨error | _, radio⟩
  · simp only [withRadioSilence_of_awake asked]
    refine ⟨iff_of_false awake.symm nofun, nofun, ?_⟩
    rintro _ ⟨⟩
    rfl
  · simp only [withRadioSilence_of_asleep asked listening]
    refine ⟨iff_of_true ?_ trivial, fun _ => ?_, nofun⟩
    · exact Controller.idle_setIdle up _
    · exact sameHub_onController _ _

/-- A station that listens, with a radio that answers the next call of a kind with a fault. -/
def unsteady (kind : CallKind) : Station (Bench Echo) Config.Settings RuleUpdater 0 :=
  { awake with
    controller := { awake.controller with
      radio := awake.controller.radio.addFaults kind .hardwareFault 0 1 } }

/-- The log is erased while the radio is asleep, and the radio does not listen again. -/
theorem silence_lifted_iff_asleep_unableToListen :
    let station := unsteady .dutyCycle
    let erase := fun services : Services Config.Settings RuleUpdater 0 =>
      ((), { services with log := services.log.erase })
    let ended := (withRadioSilence erase).run station
    station.IsListening ∧ ended.1 = .error (.driverFault .hardwareFault) ∧
      ended.2.hub.services.log.erased = 1 ∧ ended.2.controller.idle = .intermittentReceive := by
  intro station erase ended
  have listening : station.IsListening := .inr rfl
  have lifted := silence_lifted_iff_asleep listening erase
  have asleep : station.askToSleep.1 = .ok () := by decide +kernel
  have hub_eq : ended.2.hub = _ := lifted.2.1 asleep
  refine ⟨listening, by decide +kernel, ?_, lifted.1.mpr asleep⟩
  rw [hub_eq]
  rfl

/-- After a radio that failed to fall asleep, the idle state is to sleep, though nothing was done
for which the radio had to. -/
theorem not_lifted_of_sleepless :
    let station := unsteady .sleep
    let ended := (withRadioSilence fun services => ((), services)).run station
    station.controller.idle = .intermittentReceive ∧
      ended.1 = .error (.driverFault .hardwareFault) ∧ ended.2.controller.idle = .sleep := by
  decide +kernel

end StationMesh.Station
