import Mathlib.Algebra.BigOperators.Group.List.Basic
import Mathlib.Data.List.Nodup
import Mathlib.Data.List.Perm.Subperm
import StationMesh.Proofs.Config.Image
import StationMesh.Proofs.History.Seen
import StationMesh.Proofs.Relay.Run

/-!
# Commands that are turned down

A command is turned down if it cannot be read, if its value has no place in the field it names, or
if the updater declines it. All of that is found out before anything is changed, so nothing is
changed then. Any other command is carried out. In particular a station that is told to take
another id always finds one: it remembers far fewer stations than there are ids.
-/

namespace StationMesh

/-- An updater that is as it was when it declines a step. -/
class SteadyUpdater (φ : Type) [FirmwareUpdater φ] : Prop where
  eq_of_declined {arguments : Bytes} {firmware : φ} :
    (FirmwareUpdater.step arguments firmware).1 = none →
      (FirmwareUpdater.step arguments firmware).2 = firmware

instance : SteadyUpdater RuleUpdater where
  eq_of_declined := by
    intro arguments firmware _
    cases firmware <;> rfl

namespace Relay

/-! ### Another id -/

namespace Engine

variable {engine : Engine} {own id : UInt8}

theorem isUsableId_of_mem_drawUsableId (draws : Nat) (engine : Engine)
    (mem : id ∈ (engine.drawUsableId own draws).1) : engine.isUsableId own id = true := by
  induction draws generalizing engine with
  | zero => simp [drawUsableId] at mem
  | succ draws ih =>
      revert mem
      rw [drawUsableId]
      generalize engine.random.nextByte = drawn
      rcases drawn with ⟨candidate, random⟩
      dsimp only
      split
      · rename_i usable
        intro mem
        rw [← Option.some.inj mem]
        exact usable
      · intro mem
        exact ih { engine with random } mem

/-- An id that a station could not take is that of all, its own, or that of a station it heard. -/
theorem mem_taken_of_not_isUsableId (addressable : id ≠ everyStation)
    (unusable : ¬engine.isUsableId own id = true) :
    id ∈ own :: engine.seen.sightings.map History.Sighting.station := by
  rw [isUsableId, History.Seen.contains] at unusable
  simp only [List.mem_cons, List.mem_map]
  by_cases same : id = own
  · exact .inl same
  · right
    simpa [addressable, same] using unusable

theorem toNat_ofNat_succ {index : Nat} (lt : index < 255) :
    (UInt8.ofNat (index + 1)).toNat = index + 1 := by
  rw [UInt8.toNat_ofNat']
  exact Nat.mod_eq_of_lt (Nat.succ_lt_succ lt)

theorem ofNat_succ_ne_everyStation {index : Nat} (lt : index < 255) :
    UInt8.ofNat (index + 1) ≠ everyStation := by
  intro same
  have toNat_eq := toNat_ofNat_succ lt
  rw [same] at toNat_eq
  exact absurd toNat_eq (Nat.zero_ne_add_one index)

theorem nodup_ids : ((List.range 255).map fun index => UInt8.ofNat (index + 1)).Nodup := by
  apply List.Nodup.map_on
  · intro first firstMem second secondMem same
    have same_toNat := congrArg UInt8.toNat same
    rw [toNat_ofNat_succ (List.mem_range.mp firstMem),
      toNat_ofNat_succ (List.mem_range.mp secondMem)] at same_toNat
    exact Nat.succ_inj.mp same_toNat
  · exact List.nodup_range

/-- There are more ids than stations that are remembered. -/
theorem exists_leastUsableId (within : engine.seen.Within) (own : UInt8) :
    ∃ id, engine.leastUsableId own = some id := by
  rw [← Option.isSome_iff_exists, leastUsableId, List.find?_isSome]
  by_contra unusable
  have taken : (List.range 255).map (fun index => UInt8.ofNat (index + 1)) ⊆
      own :: engine.seen.sightings.map History.Sighting.station := by
    intro id mem
    refine mem_taken_of_not_isUsableId ?_ fun usable => unusable ⟨id, mem, usable⟩
    rcases List.mem_map.mp mem with ⟨index, lt, rfl⟩
    exact ofNat_succ_ne_everyStation (List.mem_range.mp lt)
  have count := (nodup_ids.subperm taken).length_le
  simp only [List.length_map, List.length_range, List.length_cons] at count
  simp only [History.Seen.Within, History.Seen.length, seenSize] at within
  omega

/-- A station that looks for an id it could take finds one, and nothing but random numbers is drawn
for it. -/
theorem exists_pickId (within : engine.seen.Within) (own : UInt8) (draws : Nat) :
    ∃ id random, engine.pickId own draws = (some id, { engine with random }) ∧
      engine.isUsableId own id = true := by
  have drawn := engine.onlyDraws_drawUsableId own draws
  rw [pickId]
  rcases ended : engine.drawUsableId own draws with ⟨_ | id, left⟩
  · rw [ended] at drawn
    rcases drawn with ⟨random, rfl⟩
    rcases exists_leastUsableId within own with ⟨id, least⟩
    refine ⟨id, random, Prod.ext least rfl, ?_⟩
    exact List.find?_some (p := (engine.isUsableId own ·)) least
  · rw [ended] at drawn
    rcases drawn with ⟨random, rfl⟩
    refine ⟨id, random, rfl, isUsableId_of_mem_drawUsableId draws engine ?_⟩
    rw [ended]
    rfl

end Engine

/-! ### What is turned down -/

open Config

/-- The field does not take the value, or the updater does not take the step. -/
def Command.Declined {φ : Type} [FirmwareUpdater φ] (firmware : φ) : Command → Prop
  | .setField field value => ¬Settings.Fits field value
  | .setRelayList field list => ¬Settings.Fits field list.ids
  | .updateFirmware arguments => (FirmwareUpdater.step arguments firmware).1 = none
  | _ => False

/-- The bytes are no command, or a command that is declined. -/
def Rejected {φ : Type} [FirmwareUpdater φ] (firmware : φ) (bytes : Bytes) : Prop :=
  ∀ command, Command.parse bytes = some command → command.Declined firmware

namespace Hub

variable {φ : Type} {logSize : Nat} {hub : Hub Settings φ logSize}

theorem fits_of_set {field : Field} {value : Bytes} {settings left : Settings}
    (accepted : Store.set field value settings = .ok left) : Settings.Fits field value :=
  (Settings.set_eq_ok_iff.mp accepted).1

theorem not_fits_of_set {field : Field} {value : Bytes} {settings : Settings} {cause : ConfigError}
    (refused : Store.set field value settings = .error cause) : ¬Settings.Fits field value := by
  intro fits
  have accepted : Store.set field value settings = .ok (settings.write field value) :=
    Settings.set_eq_ok_iff.mpr ⟨fits, rfl⟩
  rw [accepted] at refused
  contradiction

theorem length_stateReply_le (within : hub.engine.seen.Within) (report : Channel.Report)
    (now : Nat) : (hub.engine.stateReply report now).length ≤ replyCapacity := by
  simp only [History.Seen.Within, History.Seen.length, seenSize] at within
  simp only [Engine.stateReply, Channel.Report.encode, List.length_append, List.length_flatMap,
    List.length_cons, Bytes.length_ofWord, List.length_nil, List.map_const', List.sum_replicate,
    replyCapacity, Nat.nsmul_eq_mul]
  omega

variable [FirmwareUpdater φ] [SteadyUpdater φ]

theorem execute_cases (within : hub.engine.seen.Within) (command : Command)
    (report : Channel.Report) (now : Nat) :
    (command.Declined hub.services.firmware ∧ hub.execute command report now = (.ignored, hub)) ∨
      (¬command.Declined hub.services.firmware ∧
        (hub.execute command report now).1.handled = true) := by
  have ends := hub.ends_execute command report now
  generalize hub.execute command report now = ended at ends ⊢
  cases ends with
  | fieldRefused refused => exact .inl ⟨not_fits_of_set refused, rfl⟩
  | listRefused refused => exact .inl ⟨not_fits_of_set refused, rfl⟩
  | fieldSet accepted => exact .inr ⟨not_not.mpr (fits_of_set accepted), rfl⟩
  | channelFieldSet accepted => exact .inr ⟨not_not.mpr (fits_of_set accepted), rfl⟩
  | listSet accepted => exact .inr ⟨not_not.mpr (fits_of_set accepted), rfl⟩
  | configurationTooLong long =>
      have fits : (Store.image hub.services.config).length ≤ replyCapacity := by
        change hub.services.config.image.length ≤ replyCapacity
        rw [Settings.length_image]
        decide
      exact absurd long (Nat.not_lt_of_le fits)
  | stateTooLong long =>
      exact absurd long (Nat.not_lt_of_le (length_stateReply_le within report now))
  -- Both fields take any byte, so the second change never fails behind the first one.
  | csmaRefused refused => exact absurd ⟨rfl, nofun⟩ (not_fits_of_set refused)
  | csmaHalfSet _ refused => exact absurd ⟨rfl, nofun⟩ (not_fits_of_set refused)
  | stepDeclined declined =>
      have answer : (FirmwareUpdater.step _ hub.services.firmware).1 = none :=
        congrArg Prod.fst declined
      have unchanged := SteadyUpdater.eq_of_declined answer
      rw [declined] at unchanged
      subst unchanged
      exact .inl ⟨answer, rfl⟩
  | stepTaken taken =>
      right
      simp only [Command.Declined, taken]
      exact ⟨Option.some_ne_none _, rfl⟩
  | idMissing missing =>
      rcases Engine.exists_pickId within hub.stationId Engine.idDraws with ⟨id, _, found, _⟩
      rw [missing] at found
      cases found
  | @idRefused id _ _ picked refused =>
      rcases Engine.exists_pickId within hub.stationId Engine.idDraws with ⟨_, _, found, usable⟩
      rw [picked] at found
      cases found
      have addressable : id ≠ everyStation := by
        simp only [Engine.isUsableId, Bool.and_eq_true, bne_iff_ne] at usable
        exact usable.1.1
      exact absurd ⟨rfl, fun _ => addressable⟩ (not_fits_of_set refused)
  | _ => exact .inr ⟨id, rfl⟩

/-- A command that is turned down changes nothing and has no answer of its own, and those that are
turned down are the ones that cannot be read, whose value does not fit in the field, or which the
updater declines. -/
theorem unchanged_of_rejected (within : hub.engine.seen.Within) (bytes : Bytes)
    (report : Channel.Report) (now : Nat) :
    ((hub.executeBytes bytes report now).1.handled = false ↔
        Rejected hub.services.firmware bytes) ∧
      ((hub.executeBytes bytes report now).1.handled = false →
        hub.executeBytes bytes report now = (.ignored, hub)) := by
  cases parsed : Command.parse bytes with
  | none =>
      have ignored : hub.executeBytes bytes report now = (.ignored, hub) := by
        simp only [executeBytes, parsed]
      have rejected : Rejected hub.services.firmware bytes := by
        simp [Rejected, parsed]
      rw [ignored]
      exact ⟨iff_of_true rfl rejected, fun _ => rfl⟩
  | some command =>
      have rejected_iff : Rejected hub.services.firmware bytes ↔
          command.Declined hub.services.firmware := by
        simp [Rejected, parsed]
      have execute_eq : hub.executeBytes bytes report now = hub.execute command report now := by
        simp only [executeBytes, parsed]
      rw [rejected_iff, execute_eq]
      rcases execute_cases within command report now with ⟨declined, ignored⟩ | ⟨taken, handled⟩
      · rw [ignored]
        exact ⟨iff_of_true rfl declined, fun _ => rfl⟩
      · rw [handled]
        refine ⟨iff_of_false Bool.noConfusion taken, ?_⟩
        intro refused
        contradiction

/-- No command at all, one that breaks off behind its first value, an id that no station carries,
and a step that the updater declines. -/
theorem unchanged_of_rejected_fourWays :
    let hub := (ofSettings {}).observe 6 0
    hub.engine.seen.Within ∧
      ∀ bytes ∈ [[], [0x4D, 200], [0x46, 1, 0], [0x55, 7]],
        (hub.executeBytes bytes {} 0).1.handled = false ∧
          hub.executeBytes bytes {} 0 = (.ignored, hub) := by
  intro hub
  have within : hub.engine.seen.Within := History.Seen.within_observe History.Seen.within_empty 6 0
  have unhandled : ∀ bytes ∈ [[], [0x4D, 200], [0x46, 1, 0], [0x55, 7]],
      (hub.executeBytes bytes {} 0).1.handled = false := by
    decide
  refine ⟨within, ?_⟩
  intro bytes mem
  exact ⟨unhandled bytes mem, (unchanged_of_rejected within bytes {} 0).2 (unhandled bytes mem)⟩

end Hub

end Relay

end StationMesh
