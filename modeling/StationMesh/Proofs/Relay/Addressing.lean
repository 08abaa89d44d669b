import StationMesh.Proofs.Relay.Rejection

/-!
# The id of a station

Messages under the id of all stations are meant for everyone, so no station may go by it. Neither a
call nor a command puts it into the settings: all they do is set fields, and the field of the
station id does not take it. Settings that were built with it hold it until another id is set, and
no check is made when they are built. A station that is told to take another id always finds one
that nobody else was heard under, and takes it without touching anything else that is configured.
-/

namespace StationMesh

namespace Config

/-! ### Where settings come from -/

namespace Origin

/-- The station id that the settings are built with. -/
def stationId : Origin → UInt8
  | delivered => 1
  | withStationId id => id
  | ofImage image => image.headD everyStation

theorem stationId_settings {origin : Origin} {built : Settings}
    (succeeded : origin.settings = .ok built) : Store.stationId built = origin.stationId := by
  cases origin with
  | delivered =>
      cases succeeded
      rfl
  | withStationId id =>
      cases succeeded
      rfl
  | ofImage image =>
      rw [Settings.ofImage_eq_ok_iff.mp succeeded]
      rfl

end Origin

/-! ### Setting fields -/

variable {κ : Type} [Store κ] {first second third : κ}

/-- One store comes from the other by setting fields. -/
inductive Sets : κ → κ → Prop where
  | refl (store : κ) : Sets store store
  | set {first second third : κ} {field : Field} {value : Bytes} (sets : Sets first second)
      (accepted : Store.set field value second = .ok third) : Sets first third

theorem Sets.single {field : Field} {value : Bytes}
    (accepted : Store.set field value first = .ok second) : Sets first second :=
  .set (.refl first) accepted

theorem Sets.trans (former : Sets first second) (latter : Sets second third) :
    Sets first third := by
  induction latter with
  | refl => exact former
  | set _ accepted ih => exact .set ih accepted

/-- Whatever fields are set, a station that does not go by the id of all stations never will. -/
theorem Sets.stationId_ne {before after : Settings} (sets : Sets before after)
    (addressed : Store.stationId before ≠ everyStation) :
    Store.stationId after ≠ everyStation := by
  induction sets with
  | refl => exact addressed
  | @set between _ field value _ accepted ih =>
      rcases Settings.set_eq_ok_iff.mp accepted with ⟨fits, rfl⟩
      by_cases named : field = .stationId
      · subst named
        exact fits.addressable rfl
      · have kept := Settings.get_write_of_ne (Ne.symm named) between value
        change ((between.write field value).get .stationId).headD 0 ≠ everyStation
        rw [kept]
        exact ih

theorem sets_perform (change : Change) (settings : Settings) :
    Sets settings (settings.perform change) := by
  rw [Settings.perform]
  cases attempted : change.attempt settings with
  | error _ => exact .refl settings
  | ok changed =>
      rcases changed with ⟨field, left⟩
      rcases Change.attempt_eq_ok_iff.mp attempted with ⟨_, fits, written⟩
      exact .single (Settings.set_eq_ok_iff.mpr ⟨fits, written⟩)

end Config

namespace Relay

open Config

namespace Hub

variable {κ φ : Type} {logSize : Nat} [FirmwareUpdater φ]

/-- All that a command does to the configuration is to set fields. -/
theorem sets_execute [Store κ] (command : Command) (report : Channel.Report) (now : Nat)
    (hub : Hub κ φ logSize) :
    Sets hub.services.config (hub.execute command report now).2.services.config := by
  have ends := hub.ends_execute command report now
  generalize hub.execute command report now = ended at ends ⊢
  cases ends with
  | fieldSet accepted => exact .single accepted
  | channelFieldSet accepted => exact .single accepted
  | listSet accepted => exact .single accepted
  | csmaHalfSet accepted => exact .single accepted
  | csmaSet accepted acceptedToo => exact .set (.single accepted) acceptedToo
  | idTaken picked accepted => exact .single accepted
  | _ => exact .refl _

theorem sets_executeBytes [Store κ] (command : Bytes) (report : Channel.Report) (now : Nat)
    (hub : Hub κ φ logSize) :
    Sets hub.services.config (hub.executeBytes command report now).2.services.config := by
  rw [executeBytes]
  cases Command.parse command with
  | none => exact .refl _
  | some command => exact sets_execute command report now hub

/-! ### Runs of changes and commands -/

/-- What can be done to the configuration of a hub. -/
inductive Adjustment where
  | change (change : Change)
  | execute (command : Bytes) (report : Channel.Report) (now : Nat)

variable {hub : Hub Settings φ logSize}

def adjust (hub : Hub Settings φ logSize) : Adjustment → Hub Settings φ logSize
  | .change change => hub.withConfig (hub.services.config.perform change)
  | .execute command report now => (hub.executeBytes command report now).2

def adjustAll (adjustments : List Adjustment) (hub : Hub Settings φ logSize) :
    Hub Settings φ logSize :=
  adjustments.foldl adjust hub

theorem sets_adjust (hub : Hub Settings φ logSize) (adjustment : Adjustment) :
    Sets hub.services.config (hub.adjust adjustment).services.config := by
  cases adjustment with
  | change change => exact sets_perform change hub.services.config
  | execute command report now => exact sets_executeBytes command report now hub

theorem sets_adjustAll (adjustments : List Adjustment) (hub : Hub Settings φ logSize) :
    Sets hub.services.config (hub.adjustAll adjustments).services.config := by
  induction adjustments generalizing hub with
  | nil => exact .refl _
  | cons adjustment adjustments ih => exact (hub.sets_adjust adjustment).trans (ih _)

/-- A station goes by the id of all stations at no time, whatever calls and commands came, exactly
if its settings were not built with that id. If they were, it no longer does from the first time on
that it has any other id. -/
theorem stationId_ne_everyStation_iff {origin : Origin} {built : Settings}
    (succeeded : origin.settings = .ok built) (configured : hub.services.config = built) :
    ((∀ adjustments, (hub.adjustAll adjustments).stationId ≠ everyStation) ↔
        origin.stationId ≠ everyStation) ∧
      ∀ former latter, (hub.adjustAll former).stationId ≠ everyStation →
        (hub.adjustAll (former ++ latter)).stationId ≠ everyStation := by
  have built_eq : hub.stationId = origin.stationId := by
    rw [stationId, configured]
    exact Origin.stationId_settings succeeded
  have stays (former latter : List Adjustment)
      (addressed : (hub.adjustAll former).stationId ≠ everyStation) :
      (hub.adjustAll (former ++ latter)).stationId ≠ everyStation := by
    rw [adjustAll, List.foldl_append]
    exact (sets_adjustAll latter _).stationId_ne addressed
  refine ⟨⟨?_, ?_⟩, stays⟩
  · intro never
    rw [← built_eq]
    exact never []
  · intro origin_ne adjustments
    rw [← built_eq] at origin_ne
    exact stays [] adjustments origin_ne

/-- A station whose settings were read back is told to go by the id of all stations, by calls and by
a command, and then to take another id. -/
theorem stationId_ne_everyStation_iff_commanded :
    let image := (Settings.withStationId 7).image
    let hub := ofSettings (.withStationId 7)
    let adjustments : List Adjustment := [.change (.set .stationId [0]),
      .change (.setByCode 1 [0]), .execute [0x46, 1, 0] {} 0, .execute [0x49] {} 0]
    (Origin.ofImage image).settings = .ok hub.services.config ∧
      (Origin.ofImage image).stationId ≠ everyStation ∧
      (hub.adjustAll adjustments).stationId ≠ everyStation ∧
      (hub.adjustAll adjustments).stationId ≠ 7 := by
  intro image hub adjustments
  have readBack : (Origin.ofImage image).settings = .ok hub.services.config :=
    Settings.ofImage_eq_ok_iff.mpr rfl
  have origin_ne : (Origin.ofImage image).stationId ≠ everyStation := by decide
  refine ⟨readBack, origin_ne, ?_, by decide +kernel⟩
  exact (stationId_ne_everyStation_iff readBack rfl).1.mpr origin_ne adjustments

/-- Settings can be built with the id of all stations, and be read back with it. -/
theorem everyStation_of_unchecked :
    let image : Bytes := [0x00, 0x00, 0x3F, 0x64, 0x08, 0x00, 0x00, 0x02, 0x2C, 0x01, 0x06, 0, 0, 0,
      0, 0, 0, 0, 0, 0, 0, 0, 0, 0, 0, 0, 0, 0xAC, 0x85]
    (∃ built, (Origin.withStationId 0).settings = .ok built ∧
        Store.stationId built = everyStation) ∧
      ∃ built, (Origin.ofImage image).settings = .ok built ∧
        Store.stationId built = everyStation := by
  intro image
  have readBack : (Origin.ofImage image).settings = .ok (.withStationId 0) :=
    Settings.ofImage_eq_ok_iff.mpr (by decide +kernel)
  exact ⟨⟨_, rfl, rfl⟩, _, readBack, rfl⟩

/-! ### Another id -/

theorem parse_pickStationId (arguments : Bytes) :
    Command.parse (CommandCode.pickStationId.letter :: arguments) = some .pickStationId := by
  rw [Command.parse, CommandCode.ofLetter?_letter]

/-- The station under another id, after random numbers were drawn. -/
def renamed (id : UInt8) (random : Random) (hub : Hub Settings φ logSize) :
    Hub Settings φ logSize :=
  { hub with
    engine := { hub.engine with random }
    services := { hub.services with config := { hub.services.config with stationId := id } } }

omit [FirmwareUpdater φ] in
theorem get_renamed (id : UInt8) (random : Random) (field : Field) :
    Store.get field (hub.renamed id random).services.config =
      if field = .stationId then [id] else Store.get field hub.services.config := by
  cases field <;> rfl

theorem execute_pickStationId {id : UInt8} {random : Random}
    (picked : hub.engine.pickId hub.stationId = (some id, { hub.engine with random }))
    (addressable : id ≠ everyStation) (report : Channel.Report) (now : Nat) :
    hub.execute .pickStationId report now = (.answered [id], hub.renamed id random) := by
  have accepted : Store.set .stationId [id] hub.services.config =
      .ok { hub.services.config with stationId := id } :=
    Settings.set_eq_ok_iff.mpr ⟨⟨rfl, fun _ => addressable⟩, rfl⟩
  rw [execute.eq_def]
  -- Nothing is to be drawn here, however many draws there are.
  generalize hub.engine.pickId hub.stationId Engine.idDraws = ended at picked ⊢
  subst picked
  dsimp only
  rw [accepted]
  rfl

/-- Whatever stations were heard when, and whatever random numbers are drawn, an id is found that is
not the id of all, not the own one, and not one of a station that is remembered. So the command to
take another id is always carried out: its answer is the id that is found, and this is all that is
configured otherwise afterwards. -/
theorem unheard_id_taken (sightings : List History.Sighting) (hub : Hub Settings φ logSize)
    (arguments : Bytes) (report : Channel.Report) (now : Nat) :
    let hub := hub.withEngine fun engine =>
      { engine with seen := History.Seen.observeAll sightings {} }
    let ended := hub.executeBytes (CommandCode.pickStationId.letter :: arguments) report now
    (∀ own, ∃ id, (hub.engine.pickId own).1 = some id ∧
      id ≠ everyStation ∧ id ≠ own ∧ hub.engine.seen.contains id = false) ∧
    ∃ id random, hub.engine.pickId hub.stationId = (some id, { hub.engine with random }) ∧
      ended = (.answered [id], hub.renamed id random) ∧
      (∀ flags, ended.1.handled = true ∧ ended.1.payload flags = some [id]) ∧
      ∀ field, Store.get field ended.2.services.config =
        if field = .stationId then [id] else Store.get field hub.services.config := by
  intro hub ended
  have within : hub.engine.seen.Within :=
    (History.Seen.sound_observeAll (by decide) History.Seen.sound_empty sightings).within
  have found (own : UInt8) :
      ∃ id random, hub.engine.pickId own = (some id, { hub.engine with random }) ∧
        id ≠ everyStation ∧ id ≠ own ∧ hub.engine.seen.contains id = false := by
    rcases Engine.exists_pickId within own Engine.idDraws with ⟨id, random, picked, usable⟩
    refine ⟨id, random, picked, ?_⟩
    simpa [Engine.isUsableId, and_assoc] using usable
  constructor
  · intro own
    rcases found own with ⟨id, random, picked, unheard⟩
    exact ⟨id, by rw [picked], unheard⟩
  · rcases found hub.stationId with ⟨id, random, picked, addressable, _, _⟩
    have ended_eq : ended = (.answered [id], hub.renamed id random) := by
      simp only [ended, executeBytes, parse_pickStationId]
      exact execute_pickStationId picked addressable report now
    rw [ended_eq]
    exact ⟨id, random, picked, rfl, fun _ => ⟨rfl, rfl⟩, get_renamed id random⟩

end Hub

end Relay

end StationMesh
