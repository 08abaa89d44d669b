import StationMesh.Proofs.Relay.Reload
import StationMesh.Proofs.Station.Listening
import StationMesh.Proofs.Station.Upholding

/-!
# Channel settings are those of the store

A controller works with channel settings that were taken over from the store. A command that changes
them in the store notes that they have to be taken over, and before a round or a host command can
fail for any other reason, they are. So however an operation ends, the settings of the controller
are those that the store calls for, as long as nothing but commands writes the store.
-/

namespace StationMesh.Station

open StationMesh.Action Channel Radio Relay

variable {ρ φ α : Type} {logSize : Nat}

def SameSettings (before after : Controller ρ) : Prop := after.settings = before.settings

theorem overlooks_sameSettings :
    Controller.Overlooks (SameSettings : Controller ρ → Controller ρ → Prop) where
  refl _ := rfl
  trans former latter := Eq.trans latter former
  idle _ _ := rfl
  radio _ _ := rfl
  random _ _ := rfl
  note _ _ _ := rfl
  lay _ _ := rfl

/-- The controller works with the settings that the store calls for. -/
structure Tuned (base : Settings) (station : Station ρ Config.Settings φ logSize) : Prop where
  base_eq : station.base = base
  settings_eq : station.controller.settings = station.channelSettings

/-- The controller works with the settings that the store calls for, or is about to take them
over. -/
structure TunedOrDue (base : Settings) (station : Station ρ Config.Settings φ logSize) : Prop where
  base_eq : station.base = base
  settings_eq : station.hub.engine.pending.reload = true ∨
    station.controller.settings = station.channelSettings

variable {base : Settings} {before after : Station ρ Config.Settings φ logSize}

theorem Tuned.of_eq (tuned : Tuned base before) (base_eq : after.base = before.base)
    (settings_eq : after.controller.settings = before.controller.settings)
    (config_eq : after.hub.services.config = before.hub.services.config) : Tuned base after where
  base_eq := base_eq.trans tuned.base_eq
  settings_eq := by
    rw [settings_eq, tuned.settings_eq, channelSettings, channelSettings, config_eq, base_eq]

theorem Tuned.orDue (tuned : Tuned base before) : TunedOrDue base before :=
  ⟨tuned.base_eq, .inr tuned.settings_eq⟩

theorem TunedOrDue.of_notes (tuned : TunedOrDue base before) (notes : before.hub.Notes after.hub)
    (base_eq : after.base = before.base)
    (settings_eq : after.controller.settings = before.controller.settings) :
    TunedOrDue base after where
  base_eq := base_eq.trans tuned.base_eq
  settings_eq := by
    rcases notes.settings with reload | same
    · exact .inl reload
    · rcases tuned.settings_eq with reload | tuned_eq
      · exact .inl (notes.stays reload)
      · right
        rw [settings_eq, tuned_eq, channelSettings, channelSettings, same, base_eq]

theorem keeps_tuned_onController {operation : Controller.Operation ρ α}
    (same : operation.Moves SameSettings) :
    (onController operation : Operation ρ Config.Settings φ logSize ChannelError α).Keeps
      (Tuned base) :=
  fun station tuned => tuned.of_eq rfl (same station.controller) rfl

/-- A message of the station itself writes nothing to the store. -/
theorem keeps_tuned_onHub {operation : Hub.Operation Config.Settings φ logSize α}
    (same : ∀ hub, (operation.run hub).2.services = hub.services) :
    (onHub operation : Operation ρ Config.Settings φ logSize StationError α).Keeps (Tuned base) :=
  fun station tuned => tuned.of_eq rfl rfl (congrArg Services.config (same station.hub))

variable [Timed ρ]

/-- What is noted is acted on before the radio is asked for anything. -/
theorem tuned_applyPending {station : Station ρ Config.Settings φ logSize}
    (tuned : TunedOrDue base station) : Tuned base (applyPending.run station).2 := by
  apply kept_applyPending (keeps_tuned_onController overlooks_sameSettings.enters.reinitialize)
  unfold reloaded
  split
  · exact ⟨tuned.base_eq, rfl⟩
  · rename_i settled
    exact ⟨tuned.base_eq, tuned.settings_eq.resolve_left settled⟩

variable [FirmwareUpdater φ]

omit [Timed ρ] in
theorem notes_intakeUpTo (report : Report) (now fuel processed : Nat) (controller : Controller ρ)
    (hub : Hub Config.Settings φ logSize) :
    let taken := intakeUpTo report now fuel processed controller hub
    taken.2.1.settings = controller.settings ∧ hub.Notes taken.2.2 := by
  induction fuel generalizing processed controller hub with
  | zero => exact ⟨rfl, .refl hub⟩
  | succ fuel ih =>
      simp only [intakeUpTo]
      split
      · exact ⟨rfl, .refl hub⟩
      · have dequeued_eq : controller.dequeue.2.settings = controller.settings := rfl
        rcases dequeued : controller.dequeue with ⟨_ | frame, left⟩
        · rw [dequeued] at dequeued_eq
          exact ⟨dequeued_eq, .refl hub⟩
        · rw [dequeued] at dequeued_eq
          rcases ih (processed + 1) left (hub.process frame report now).2 with
            ⟨settings_eq, notes⟩
          exact ⟨settings_eq.trans dequeued_eq, (hub.notes_process frame report now).trans notes⟩

theorem upholdsAll_tuned :
    UpholdsAll (Tuned base : Station ρ Config.Settings φ logSize → Prop) where
  count _ _ _ tuned := tuned.of_eq rfl rfl rfl
  reinitialize := keeps_tuned_onController overlooks_sameSettings.enters.reinitialize
  setIdle idle := keeps_tuned_onController (overlooks_sameSettings.enters.setIdle idle)
  service := keeps_tuned_onController overlooks_sameSettings.serviceReceiver
  send _ tuned :=
    keeps_tuned_onController (overlooks_sameSettings.transmit _ _) _ (tuned.of_eq rfl rfl rfl)
  process := by
    intro station tuned
    rcases notes_intakeUpTo station.controller.statistics.report
      (Timed.now station.controller.radio) (station.controller.queued + 1) 0 station.controller
      station.hub with ⟨settings_eq, notes⟩
    exact tuned_applyPending (tuned.orDue.of_notes notes rfl settings_eq)
  schedule _ _ tuned := tuned.of_eq rfl rfl rfl
  wait _ _ tuned := tuned.of_eq rfl rfl rfl
  sendWeather reading := keeps_tuned_onHub fun hub => (Hub.moves_sendWeather reading hub).services
  sendStatus report := keeps_tuned_onHub fun hub => (Hub.moves_sendStatus report hub).services
  sendHostFrame frame := keeps_tuned_onHub (Hub.services_sendHostFrame frame)
  obey command report now station tuned :=
    tuned_applyPending (tuned.orDue.of_notes (Hub.notes_executeLocal command report now _) rfl rfl)

/-- What happens while the radio is off, and outside of the station, does not write the store. -/
def SparesStore (station : Station ρ Config.Settings φ logSize) :
    Call ρ Config.Settings φ logSize → Prop
  | .withRadioSilence operation => ∀ services, (operation services).config = services.config
  | .outside _ services _ => services.config = station.hub.services.config
  | _ => True

/-- Nothing but commands writes the store in the course of a run. -/
def OnlyCommanded : List (Call ρ Config.Settings φ logSize) →
    Station ρ Config.Settings φ logSize → Prop
  | [], _ => True
  | call :: calls, station =>
      station.SparesStore call ∧ OnlyCommanded calls (station.perform call)

theorem tuned_perform {call : Call ρ Config.Settings φ logSize}
    {station : Station ρ Config.Settings φ logSize} (tuned : Tuned base station)
    (spares : station.SparesStore call) : Tuned base (station.perform call) := by
  apply upholdsAll_tuned.perform tuned
  · rintro operation rfl station tuned
    exact tuned.of_eq rfl rfl (spares station.hub.services)
  · rintro radio services host rfl
    exact tuned.of_eq rfl rfl spares

theorem tuned_run {calls : List (Call ρ Config.Settings φ logSize)}
    {station : Station ρ Config.Settings φ logSize} (tuned : Tuned base station)
    (commanded : OnlyCommanded calls station) : Tuned base (station.run calls) := by
  induction calls generalizing station with
  | nil => exact tuned
  | cons call calls ih => exact ih (tuned_perform tuned commanded.1) commanded.2

/-- Whatever commands a station receives and however its radio fails, after each of its operations
the controller works with the settings that the store calls for. -/
theorem settings_eq_ofStore_run (radio : ρ) (services : Services Config.Settings φ logSize)
    (base : Settings) (hostSettings : HostSettings) (host : HostLine) (seed : UInt64)
    (generator : Generator) {calls : List (Call ρ Config.Settings φ logSize)}
    (commanded : OnlyCommanded calls (new radio services base hostSettings host seed generator)) :
    let left := (new radio services base hostSettings host seed generator).run calls
    left.controller.settings = Settings.ofStore left.hub.services.config base := by
  have tuned : Tuned base ((new radio services base hostSettings host seed generator).run calls) :=
    tuned_run ⟨rfl, rfl⟩ commanded
  have settings_eq := tuned.settings_eq
  rwa [channelSettings, tuned.base_eq] at settings_eq

/-! ### A run with two commands -/

def hostCommand : Host.Frame where
  kind := Kiss.FrameKind.localCommand.code
  payload := [0x4D, 9, 8]

def commandedSettings : Config.Settings :=
  { Config.Settings.withStationId 3 with csmaPersistence := 9, csmaSlotTime := 8 }

/-- The radio has received a command that sets the long preamble, and then neither sends nor can be
brought up. -/
def commandedRadio : Bench Echo :=
  let command : Header := { kind := .command, forced := false, station := 3, uid := 1 }
  let radio := awake.controller.radio
  let heard := Pokeable.poke (.inject (command.encode ++ [0x46, 6, 0x00, 0x01]) true) radio.device
  ({ radio with device := heard }.addFaults .transmit .hardwareFault 0 1).addFaults
    .bringUp .hardwareFault 0 1

def commandedCalls : List (Call (Bench Echo) Config.Settings RuleUpdater 0) :=
  [.start, .handleHostFrame hostCommand,
    .outside commandedRadio { config := commandedSettings, firmware := .declines } {}, .poll]

theorem settings_eq_ofStore_run_commanded :
    OnlyCommanded commandedCalls asleep ∧
    (poll.run (asleep.run (commandedCalls.take 3))).1 = .error (.driverFault .hardwareFault) ∧
    (asleep.run commandedCalls).controller.settings =
      Settings.ofStore (asleep.run commandedCalls).hub.services.config {} ∧
    (asleep.run commandedCalls).controller.settings =
      { persistence := 9, slotTime := 8000, longPreamble := 256 } := by
  have spared : ((asleep.run (commandedCalls.take 2)).hub.services.config) = commandedSettings := by
    decide +kernel
  have commanded : OnlyCommanded commandedCalls asleep :=
    ⟨trivial, trivial, spared.symm, trivial, trivial⟩
  refine ⟨commanded, ?_, settings_eq_ofStore_run _ _ _ _ _ _ _ commanded, ?_⟩
  · decide +kernel
  · decide +kernel

end StationMesh.Station
