import StationMesh.Proofs.Relay.Queueing

/-!
# How a command ends

A command is carried out or turned down in one of a few ways. They are listed here once, each with
the answer and with what is left behind. What holds of every command goes through this list and
does not look at how commands are carried out.
-/

namespace StationMesh.Relay

open Config

namespace Engine

/-- Only random numbers were drawn. -/
def OnlyDraws (engine next : Engine) : Prop := ∃ random, next = { engine with random }

theorem onlyDraws_drawUsableId (own : UInt8) (draws : Nat) (engine : Engine) :
    engine.OnlyDraws (engine.drawUsableId own draws).2 := by
  induction draws generalizing engine with
  | zero => exact ⟨engine.random, rfl⟩
  | succ draws ih =>
      rw [drawUsableId]
      generalize engine.random.nextByte = drawn
      rcases drawn with ⟨candidate, random⟩
      dsimp only
      split
      · exact ⟨random, rfl⟩
      · obtain ⟨last, drawn⟩ := ih { engine with random }
        exact ⟨last, drawn⟩

theorem onlyDraws_pickId (own : UInt8) (draws : Nat) (engine : Engine) :
    engine.OnlyDraws (engine.pickId own draws).2 := by
  have drawn := engine.onlyDraws_drawUsableId own draws
  rw [pickId]
  generalize engine.drawUsableId own draws = ended at drawn ⊢
  rcases ended with ⟨_ | id, left⟩
  · exact drawn
  · exact drawn

end Engine

namespace Hub

variable {κ φ : Type} {logSize : Nat}

/-- The hub after random numbers were drawn. -/
def afterDraws (random : Random) (hub : Hub κ φ logSize) : Hub κ φ logSize :=
  hub.withEngine fun engine => { engine with random }

/-- The hub with another state of the updater. -/
def withFirmware (firmware : φ) (hub : Hub κ φ logSize) : Hub κ φ logSize :=
  { hub with services := { hub.services with firmware } }

theorem answerWith_of_le {reply : Bytes} (fits : reply.length ≤ replyCapacity)
    (hub : Hub κ φ logSize) : hub.answerWith reply = (.answered reply, hub) := if_pos fits

theorem answerWith_of_lt {reply : Bytes} (long : replyCapacity < reply.length)
    (hub : Hub κ φ logSize) : hub.answerWith reply = (.ignored, hub) :=
  if_neg (Nat.not_le_of_lt long)

variable [Store κ] [FirmwareUpdater φ]

/-- The ways in which a command ends: the answer, and the hub afterwards. -/
inductive Ends (report : Channel.Report) (now : Nat) (hub : Hub κ φ logSize) :
    Command → CommandAnswer × Hub κ φ logSize → Prop where
  | noOp : Ends report now hub .noOp (.done, hub)
  | fieldRefused {field : Field} {value : Bytes} {cause : ConfigError}
      (refused : Store.set field value hub.services.config = .error cause) :
      Ends report now hub (.setField field value) (.ignored, hub)
  | fieldSet {field : Field} {value : Bytes} {config : κ}
      (accepted : Store.set field value hub.services.config = .ok config)
      (quiet : field.affectsChannel = false) :
      Ends report now hub (.setField field value) (.done, hub.withConfig config)
  | channelFieldSet {field : Field} {value : Bytes} {config : κ}
      (accepted : Store.set field value hub.services.config = .ok config)
      (affects : field.affectsChannel = true) :
      Ends report now hub (.setField field value) (.done, (hub.withConfig config).requestReload)
  | listRefused {field : Field} {list : RelayList} {cause : ConfigError}
      (refused : Store.set field list.ids hub.services.config = .error cause) :
      Ends report now hub (.setRelayList field list) (.ignored, hub)
  | listSet {field : Field} {list : RelayList} {config : κ}
      (accepted : Store.set field list.ids hub.services.config = .ok config) :
      Ends report now hub (.setRelayList field list) (.done, (hub.withConfig config).requestReload)
  | configurationTold (fits : (Store.image hub.services.config).length ≤ replyCapacity) :
      Ends report now hub .queryConfiguration (.answered (Store.image hub.services.config), hub)
  | configurationTooLong (long : replyCapacity < (Store.image hub.services.config).length) :
      Ends report now hub .queryConfiguration (.ignored, hub)
  | stateTold (fits : (hub.engine.stateReply report now).length ≤ replyCapacity) :
      Ends report now hub .queryState (.answered (hub.engine.stateReply report now), hub)
  | stateTooLong (long : replyCapacity < (hub.engine.stateReply report now).length) :
      Ends report now hub .queryState (.ignored, hub)
  | csmaRefused {persistence slotTime : UInt8} {cause : ConfigError}
      (refused : Store.set .csmaPersistence [persistence] hub.services.config = .error cause) :
      Ends report now hub (.setCsma persistence slotTime) (.ignored, hub)
  /-- The persistence is kept although the slot time is refused. -/
  | csmaHalfSet {persistence slotTime : UInt8} {config : κ} {cause : ConfigError}
      (accepted : Store.set .csmaPersistence [persistence] hub.services.config = .ok config)
      (refused : Store.set .csmaSlotTime [slotTime] config = .error cause) :
      Ends report now hub (.setCsma persistence slotTime) (.ignored, hub.withConfig config)
  | csmaSet {persistence slotTime : UInt8} {between config : κ}
      (accepted : Store.set .csmaPersistence [persistence] hub.services.config = .ok between)
      (acceptedToo : Store.set .csmaSlotTime [slotTime] between = .ok config) :
      Ends report now hub (.setCsma persistence slotTime)
        (.done, (hub.withConfig config).requestReload)
  | reinitializing :
      Ends report now hub .reinitializeRadio (.done, hub.withEngine fun engine =>
        { engine with pending := { engine.pending with reinitialize := true } })
  | logErased :
      Ends report now hub .eraseLog
        (.done, { hub with services := { hub.services with log := hub.services.log.erase } })
  | stepDeclined {arguments : Bytes} {firmware : φ}
      (declined : FirmwareUpdater.step arguments hub.services.firmware = (none, firmware)) :
      Ends report now hub (.updateFirmware arguments) (.ignored, hub.withFirmware firmware)
  | stepTaken {arguments reply : Bytes} {firmware : φ}
      (taken : FirmwareUpdater.step arguments hub.services.firmware = (some reply, firmware)) :
      Ends report now hub (.updateFirmware arguments)
        (.done (reply.take replyCapacity), hub.withFirmware firmware)
  | idMissing {random : Random}
      (missing : hub.engine.pickId hub.stationId = (none, { hub.engine with random })) :
      Ends report now hub .pickStationId (.ignored, hub.afterDraws random)
  | idRefused {id : UInt8} {random : Random} {cause : ConfigError}
      (picked : hub.engine.pickId hub.stationId = (some id, { hub.engine with random }))
      (refused : Store.set .stationId [id] hub.services.config = .error cause) :
      Ends report now hub .pickStationId (.ignored, hub.afterDraws random)
  | idTaken {id : UInt8} {random : Random} {config : κ}
      (picked : hub.engine.pickId hub.stationId = (some id, { hub.engine with random }))
      (accepted : Store.set .stationId [id] hub.services.config = .ok config) :
      Ends report now hub .pickStationId
        (.answered [id], (hub.afterDraws random).withConfig config)

/-- Every command ends in one of these ways. -/
theorem ends_execute (command : Command) (report : Channel.Report) (now : Nat)
    (hub : Hub κ φ logSize) : Ends report now hub command (hub.execute command report now) := by
  cases command with
  | noOp => exact .noOp
  | setField field value =>
      simp only [execute.eq_def]
      cases written : Store.set field value hub.services.config with
      | error cause => exact .fieldRefused written
      | ok config =>
          dsimp only
          by_cases affects : field.affectsChannel = true
          · rw [if_pos affects]
            exact .channelFieldSet written affects
          · rw [if_neg affects]
            exact .fieldSet written (Bool.eq_false_iff.mpr affects)
  | setRelayList field list =>
      simp only [execute.eq_def]
      cases written : Store.set field list.ids hub.services.config with
      | error cause => exact .listRefused written
      | ok config => exact .listSet written
  | queryConfiguration =>
      simp only [execute.eq_def]
      rcases Nat.lt_or_ge replyCapacity (Store.image hub.services.config).length with long | fits
      · rw [answerWith_of_lt long]
        exact .configurationTooLong long
      · rw [answerWith_of_le fits]
        exact .configurationTold fits
  | queryState =>
      simp only [execute.eq_def]
      rcases Nat.lt_or_ge replyCapacity (hub.engine.stateReply report now).length with long | fits
      · rw [answerWith_of_lt long]
        exact .stateTooLong long
      · rw [answerWith_of_le fits]
        exact .stateTold fits
  | setCsma persistence slotTime =>
      simp only [execute.eq_def]
      cases written : Store.set .csmaPersistence [persistence] hub.services.config with
      | error cause => exact .csmaRefused written
      | ok between =>
          dsimp only
          cases writtenToo : Store.set .csmaSlotTime [slotTime] between with
          | error cause => exact .csmaHalfSet written writtenToo
          | ok config => exact .csmaSet written writtenToo
  | reinitializeRadio => exact .reinitializing
  | eraseLog => exact .logErased
  | updateFirmware arguments =>
      simp only [execute.eq_def]
      cases stepped : FirmwareUpdater.step arguments hub.services.firmware with
      | mk reply firmware =>
          cases reply with
          | none => exact .stepDeclined stepped
          | some reply => exact .stepTaken stepped
  | pickStationId =>
      have drawn := hub.engine.onlyDraws_pickId hub.stationId Engine.idDraws
      rw [execute.eq_def]
      -- Nothing is to be drawn here, however many draws there are.
      generalize picked_eq : hub.engine.pickId hub.stationId Engine.idDraws = ended at drawn ⊢
      rcases ended with ⟨picked, left⟩
      obtain ⟨random, rfl⟩ := drawn
      cases picked with
      | none => exact .idMissing picked_eq
      | some id =>
          dsimp only
          cases written : Store.set .stationId [id] hub.services.config with
          | error cause => exact .idRefused picked_eq written
          | ok config => exact .idTaken picked_eq written

end Hub

end StationMesh.Relay
