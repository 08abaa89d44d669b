import StationMesh.Channel.Settings
import StationMesh.Config.Settings
import StationMesh.Proofs.Relay.Processing

/-!
# Commands that change the channel settings

Three commands write fields that the channel settings are made of, and each of them notes that the
settings have to be taken over. A command that is turned down leaves all fields as they were, and
nothing but commands writes them. The note stays until it is acted on.
-/

namespace StationMesh.Relay

open StationMesh.Action

variable {φ : Type} {logSize : Nat}

theorem ofStore_of_set {field : Config.Field} {value : Bytes} {before after : Config.Settings}
    (taken : Config.Store.set field value before = .ok after)
    (unaffected : field.affectsChannel = false) (base : Channel.Settings) :
    Channel.Settings.ofStore after base = Channel.Settings.ofStore before base := by
  have written : after = before.write field value := by
    change Config.Settings.set field value before = .ok after at taken
    simp only [Config.Settings.set] at taken
    split at taken
    · contradiction
    · split at taken
      · contradiction
      · exact (Except.ok.inj taken).symm
  subst written
  cases field with
  | stationId | flags | weatherInterval | complexWeatherEvery => rfl
  | csmaPersistence | csmaSlotTime | shortPreamble | longPreamble | messageRelayList
  | weatherRelayList => contradiction

namespace Hub

/-- If the channel settings that the configuration calls for changed, it is noted. -/
structure Notes (before after : Hub Config.Settings φ logSize) : Prop where
  stays : before.engine.pending.reload = true → after.engine.pending.reload = true
  settings : after.engine.pending.reload = true ∨ ∀ base,
    Channel.Settings.ofStore after.services.config base =
      Channel.Settings.ofStore before.services.config base

namespace Notes

variable {first second third : Hub Config.Settings φ logSize}

theorem of_eq (pending_eq : second.engine.pending.reload = first.engine.pending.reload)
    (config_eq : second.services.config = first.services.config) : Notes first second where
  stays := by rw [pending_eq]; exact id
  settings := .inr fun base => by rw [config_eq]

theorem refl (hub : Hub Config.Settings φ logSize) : Notes hub hub := of_eq rfl rfl

theorem of_reload (reload : second.engine.pending.reload = true) : Notes first second :=
  ⟨fun _ => reload, .inl reload⟩

theorem trans (former : Notes first second) (latter : Notes second third) :
    Notes first third where
  stays := latter.stays ∘ former.stays
  settings := by
    rcases latter.settings with reload | latter_eq
    · exact .inl reload
    · rcases former.settings with reload | former_eq
      · exact .inl (latter.stays reload)
      · exact .inr fun base => (latter_eq base).trans (former_eq base)

end Notes

theorem OnlySends.notes {hub next : Hub Config.Settings φ logSize} (sends : hub.OnlySends next) :
    Notes hub next :=
  .of_eq (by rw [sends.pending]) (by rw [sends.services])

theorem services_sendHostFrame (frame : Bytes) (hub : Hub Config.Settings φ logSize) :
    ((sendHostFrame frame).run hub).2.services = hub.services := by
  rcases hub.run_sendHostFrame frame with ⟨preamble, run_eq⟩
  rw [run_eq, (onlySends_enqueue _ _ _).services, remember]
  split
  · rfl
  · rfl

/-! ### Carrying out a command -/

/-- The bytes of a field of one byte are always taken. -/
theorem exists_set_csmaSlotTime (value : UInt8) (config : Config.Settings) :
    ∃ changed, Config.Store.set .csmaSlotTime [value] config = .ok changed :=
  ⟨_, rfl⟩

variable [FirmwareUpdater φ]

theorem notes_execute (command : Command) (report : Channel.Report) (now : Nat)
    (hub : Hub Config.Settings φ logSize) : Notes hub (hub.execute command report now).2 := by
  have ends := hub.ends_execute command report now
  generalize hub.execute command report now = ended at ends ⊢
  cases ends with
  | fieldSet accepted quiet => exact ⟨id, .inr fun base => ofStore_of_set accepted quiet base⟩
  | idTaken picked accepted => exact ⟨id, .inr fun base => ofStore_of_set accepted rfl base⟩
  | channelFieldSet | listSet | csmaSet => exact .of_reload rfl
  | @csmaHalfSet persistence slotTime between _ accepted refused =>
      -- Any slot time is taken, so the persistence is never changed alone.
      rcases exists_set_csmaSlotTime slotTime between with ⟨changed, taken⟩
      rw [taken] at refused
      contradiction
  | _ => exact .of_eq rfl rfl

theorem notes_executeBytes (command : Bytes) (report : Channel.Report) (now : Nat)
    (hub : Hub Config.Settings φ logSize) :
    Notes hub (hub.executeBytes command report now).2 := by
  rw [executeBytes]
  cases Command.parse command with
  | none => exact .refl hub
  | some command => exact notes_execute command report now hub

theorem notes_executeLocal (command : Bytes) (report : Channel.Report) (now : Nat)
    (hub : Hub Config.Settings φ logSize) :
    Notes hub (hub.executeLocal command report now).2 := by
  have executed := notes_executeBytes command report now hub
  simp only [executeLocal]
  generalize hub.executeBytes command report now = ended at executed ⊢
  rcases ended with ⟨answer, left⟩
  dsimp only at executed ⊢
  split
  · exact executed
  · exact executed.trans (.of_eq rfl rfl)

/-! ### Processing a message -/

theorem notes_obey (header : Header) (own : UInt8) (command : Bytes) (report : Channel.Report)
    (now : Nat) (hub : Hub Config.Settings φ logSize) :
    Notes hub (hub.obey header own command report now).2 := by
  have executed := notes_executeBytes command report now hub
  have recorded : Notes hub
      ((hub.executeBytes command report now).2.afterCommand header.uid) :=
    executed.trans (.of_eq rfl rfl)
  rcases hub.obey_cases header own command report now with
    ⟨_, obey_eq⟩ | ⟨_, _, left_eq | ⟨payload, left_eq⟩⟩
  · rw [obey_eq]
    exact .refl hub
  · rw [left_eq]
    exact recorded
  · rw [left_eq]
    exact recorded.trans (onlySends_enqueue _ _ _).notes

theorem notes_hear (header : Header) (frame : Bytes) (report : Channel.Report) (now : Nat)
    (hub : Hub Config.Settings φ logSize) : Notes hub (hub.hear header frame report now).2 := by
  rcases hub.hear_cases header frame report now with
    ⟨host, ⟨_, _, hear_eq⟩ | ⟨_, hear_eq⟩ | ⟨_, hear_eq⟩⟩
  · have told : Notes hub { hub with host } := .of_eq rfl rfl
    rw [hear_eq]
    exact told.trans (notes_obey _ _ _ report now { hub with host })
  · rw [hear_eq]
    exact .of_eq rfl rfl
  · rw [hear_eq]
    exact .of_eq rfl rfl

omit [FirmwareUpdater φ] in
theorem notes_relay (header : Header) (own : UInt8) (frame : Bytes)
    (hub : Hub Config.Settings φ logSize) : Notes hub (hub.relay header own frame).2 := by
  rcases hub.exists_onlySends_relay header own frame with ⟨left, sends, relay_eq | relay_eq⟩
  · rw [relay_eq]
    exact sends.notes
  · rw [relay_eq]
    exact sends.notes.trans (.of_eq rfl rfl)

theorem notes_process (frame : Bytes) (report : Channel.Report) (now : Nat)
    (hub : Hub Config.Settings φ logSize) : Notes hub (hub.process frame report now).2 := by
  cases parsed : Header.parse frame with
  | error error =>
      rw [process_of_malformed parsed]
      exact .refl hub
  | ok header =>
      by_cases own : hub.IsOwn header
      · rw [process_of_own parsed own]
        exact .refl hub
      · rw [process_of_accepted parsed own]
        have handled := (hub.notes_hear header frame report now).trans
          (notes_relay header hub.stationId frame _)
        dsimp only
        split
        · exact handled.trans (.of_eq rfl rfl)
        · exact handled

end Hub

end StationMesh.Relay
