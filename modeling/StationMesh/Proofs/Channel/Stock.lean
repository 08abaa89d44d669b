import StationMesh.Proofs.Channel.Servicing
import StationMesh.Proofs.Radio.Arrivals

/-!
# What a controller may still hand out

The frames that a controller may still hand out are those in its receive queue, and those that the
radio may still hand over and that pass their check. Serving the radio adds none to them, and
sending only what the radio hears of it. A frame that is announced is there when it is read, so none
is found missing.
-/

namespace StationMesh.Radio

/-- The frames that passed their check. -/
def goods (receptions : Multiset Reception) : Multiset Bytes :=
  (receptions.filter (·.intact)).map (·.data)

theorem goods_add (former latter : Multiset Reception) :
    goods (former + latter) = goods former + goods latter := by
  rw [goods, Multiset.filter_add, Multiset.map_add]
  rfl

theorem goods_mono {fewer more : Multiset Reception} (le : fewer ≤ more) :
    goods fewer ≤ goods more :=
  Multiset.map_le_map (Multiset.filter_le_filter _ le)

theorem goods_cons_of_intact {reception : Reception} (intact : reception.intact = true)
    (receptions : Multiset Reception) :
    goods (reception ::ₘ receptions) = reception.data ::ₘ goods receptions := by
  simp [goods, intact]

end StationMesh.Radio

namespace StationMesh.Channel

open Radio StationMesh.Action
open Radio.Bench (Dwindles Scripted)

theorem ReceiveQueue.frames_lay_le {slots arena : Nat} {queue : ReceiveQueue slots arena}
    (sound : queue.Sound) (data : Bytes) :
    ((queue.lay data).frames : Multiset Bytes) ≤ data ::ₘ queue.frames := by
  by_cases room : queue.HasRoom data.length
  · rw [frames_lay sound room, ← Multiset.coe_add, Multiset.coe_singleton, add_comm,
      Multiset.singleton_add]
  · rw [frames_lay_of_not_hasRoom sound room]
    exact Multiset.le_cons_self _ _

namespace Controller

variable {δ α : Type} [Hearing δ] {controller before after : Controller (Bench δ)} {data : Bytes}

/-- The queue is sound, and a frame that the radio announces is there. -/
structure Sound (controller : Controller (Bench δ)) : Prop where
  radio : Hearing.Sound controller.radio.device
  queue : controller.queue.Sound

/-- The frames that may still be handed out. -/
def stock (controller : Controller (Bench δ)) : Multiset Bytes :=
  controller.queue.frames + goods controller.radio.upcoming

/-- Only such frames were added to those that may still come. -/
structure Gains (added : Multiset Reception) (before after : Controller (Bench δ)) : Prop where
  sound : after.Sound
  upcoming_le : after.radio.upcoming ≤ before.radio.upcoming + added
  stock_le : after.stock ≤ before.stock + goods added

/-- No frame was added, and no fault was queued. -/
structure Spent (before after : Controller (Bench δ)) : Prop extends Gains 0 before after where
  toCome_le : after.radio.toCome ≤ before.radio.toCome
  echoed_eq : Hearing.echoed after.radio.device = Hearing.echoed before.radio.device
  scripted : ∀ {error}, after.radio.Scripted error → before.radio.Scripted error

def Spends (before after : Controller (Bench δ)) : Prop := before.Sound → Spent before after

theorem Gains.trans {former latter : Multiset Reception} {first second third : Controller (Bench δ)}
    (gained : Gains former first second) (others : Gains latter second third) :
    Gains (former + latter) first third where
  sound := others.sound
  upcoming_le := by
    calc third.radio.upcoming ≤ second.radio.upcoming + latter := others.upcoming_le
      _ ≤ first.radio.upcoming + former + latter := add_le_add_left gained.upcoming_le latter
      _ = first.radio.upcoming + (former + latter) := add_assoc _ _ _
  stock_le := by
    calc third.stock ≤ second.stock + goods latter := others.stock_le
      _ ≤ first.stock + goods former + goods latter := add_le_add_left gained.stock_le _
      _ = first.stock + goods (former + latter) := by rw [goods_add, add_assoc]

theorem Spends.refl (controller : Controller (Bench δ)) : Spends controller controller :=
  fun sound => ⟨⟨sound, Multiset.le_add_right _ _, Multiset.le_add_right _ _⟩, le_rfl, rfl, id⟩

theorem Spent.trans {first second third : Controller (Bench δ)} (former : Spent first second)
    (latter : Spent second third) : Spent first third where
  toGains := former.toGains.trans latter.toGains
  toCome_le := latter.toCome_le.trans former.toCome_le
  echoed_eq := latter.echoed_eq.trans former.echoed_eq
  scripted := former.scripted ∘ latter.scripted

theorem Spends.trans {first second third : Controller (Bench δ)} (former : Spends first second)
    (latter : Spends second third) : Spends first third :=
  fun sound => (former sound).trans (latter (former sound).sound)

/-- What the radio may hand over less, the controller may hand out less. -/
theorem gains_of_radio {added : Multiset Reception} {radio : Bench δ} (sound : controller.Sound)
    (radioSound : Hearing.Sound radio.device)
    (upcoming_le : radio.upcoming ≤ controller.radio.upcoming + added) :
    Gains added controller { controller with radio } where
  sound := ⟨radioSound, sound.queue⟩
  upcoming_le := upcoming_le
  stock_le := by
    have goods_le := goods_mono upcoming_le
    rw [goods_add] at goods_le
    rw [stock, stock, add_assoc]
    exact add_le_add_right goods_le _

theorem spends_of_dwindles {radio : Bench δ} (dwindles : Dwindles controller.radio radio) :
    Spends controller { controller with radio } := by
  intro sound
  have upcoming_le := dwindles.upcoming_le.trans (Multiset.le_add_right _ 0)
  exact ⟨gains_of_radio sound (dwindles.sound sound.radio) upcoming_le, dwindles.toCome_le,
    dwindles.echoed_eq, dwindles.scripted⟩

theorem spends_of_eq (radio_eq : after.radio = before.radio)
    (queue_eq : after.queue = before.queue) : Spends before after := by
  intro sound
  refine ⟨⟨⟨?_, ?_⟩, ?_, ?_⟩, ?_, ?_, ?_⟩
  · exact radio_eq ▸ sound.radio
  · exact queue_eq ▸ sound.queue
  · exact radio_eq ▸ Multiset.le_add_right _ _
  · rw [stock, stock, radio_eq, queue_eq]
    exact Multiset.le_add_right _ _
  · exact radio_eq ▸ le_rfl
  · rw [radio_eq]
  · rw [radio_eq]
    exact id

theorem spends_onRadio {operation : Radio.Operation (Bench δ) α}
    (dwindles : operation.Moves Dwindles) : (onRadio operation).Moves Spends :=
  fun controller => spends_of_dwindles (dwindles controller.radio)

/-! ### Taking frames off the radio -/

variable [Device δ] [Pokeable δ] [LawfulHearing δ]

theorem rearms_spends : Rearms (Spends : Controller (Bench δ) → Controller (Bench δ) → Prop) where
  refl := Spends.refl
  trans := Spends.trans
  note _ _ := spends_of_eq rfl rfl
  preset length _ := spends_of_dwindles (Bench.dwindles_setPreamble .receive length _)
  listen := spends_onRadio Bench.dwindles_listen
  dutyCycle := spends_onRadio Bench.dwindles_dutyCycle
  sleep := spends_onRadio Bench.dwindles_sleep

theorem Sound.attend (sound : controller.Sound) :
    { controller with radio := Device.attend controller.radio }.Sound :=
  ⟨(Bench.dwindles_attend controller.radio).sound sound.radio, sound.queue⟩

/-- A radio whose announcement was taken note of announces nothing. -/
theorem upcoming_heeded_le (radio : Bench δ) :
    Hearing.Sound (heeded radio).device ∧ (heeded radio).upcoming ≤ radio.toCome := by
  have silent : (Device.signal (heeded radio).device).waiting = false := by
    rw [heeded, Bench.attend_eq_settle]
    split
    · exact (LawfulHearing.acknowledge radio.settle.device).1
    · rename_i silent
      exact Bool.eq_false_iff.mpr silent
  have toCome_eq : (heeded radio).toCome = radio.settle.toCome := by
    rw [heeded, Bench.attend_eq_settle]
    split <;> rfl
  rcases LawfulHearing.silent silent with ⟨sound, announced_eq⟩
  refine ⟨sound, ?_⟩
  rw [Bench.upcoming, announced_eq, toCome_eq]
  simpa using (Bench.dwindles_settle radio).toCome_le

theorem dwindles_heeded (radio : Bench δ) : Dwindles radio (heeded radio) := by
  have settled := Bench.dwindles_settle radio
  rcases upcoming_heeded_le radio with ⟨sound, upcoming_le⟩
  have le_upcoming : radio.toCome ≤ radio.upcoming := Multiset.le_add_left _ _
  have upcoming_le := upcoming_le.trans le_upcoming
  rw [heeded, Bench.attend_eq_settle] at sound upcoming_le ⊢
  split at sound
  · rename_i waiting
    rw [if_pos waiting] at upcoming_le ⊢
    exact ⟨fun _ => sound, settled.toCome_le, upcoming_le,
      (LawfulHearing.acknowledge radio.settle.device).2.trans settled.echoed_eq, settled.scripted⟩
  · rename_i silent
    rw [if_neg silent] at upcoming_le ⊢
    exact settled

/-- A frame that is taken off the radio is not handed over again. -/
theorem spends_taken {room : Nat} {reception : Reception} {radio : Bench δ}
    (announces : Announces controller.radio)
    (answered : (Device.read room : Radio.Operation (Bench δ) _).run
      (Device.attend controller.radio) = (.ok reception, radio))
    (statistics : Statistics) (lastCounter : UInt16) :
    Spends controller
      { controller with
        radio := heeded radio
        queue := if reception.intact then controller.queue.lay reception.data else controller.queue
        statistics
        lastCounter } := by
  intro sound
  have attended := Bench.dwindles_attend controller.radio
  have heeds := dwindles_heeded radio
  rcases Bench.upcoming_of_read_ok sound.attend.radio announces answered with
    ⟨read_le, toCome_le, echoed_eq, scripted⟩
  rcases upcoming_heeded_le radio with ⟨radioSound, heeded_le⟩
  have upcoming_le : reception ::ₘ (heeded radio).upcoming ≤ controller.radio.upcoming :=
    calc reception ::ₘ (heeded radio).upcoming
        ≤ reception ::ₘ radio.toCome := Multiset.cons_le_cons _ heeded_le
      _ ≤ (Device.attend controller.radio).upcoming := read_le
      _ ≤ controller.radio.upcoming := attended.upcoming_le
  have goods_le := goods_mono upcoming_le
  refine ⟨⟨⟨radioSound, ?_⟩, ?_, ?_⟩, ?_, ?_, ?_⟩
  · dsimp only
    split
    · exact ReceiveQueue.sound_lay sound.queue _
    · exact sound.queue
  · rw [add_zero]
    exact (Multiset.le_cons_self _ _).trans upcoming_le
  · rw [stock, stock]
    refine le_trans ?_ (Multiset.le_add_right _ _)
    dsimp only
    split
    · rename_i intact
      rw [goods_cons_of_intact intact] at goods_le
      calc _ ≤ reception.data ::ₘ controller.queue.frames + goods (heeded radio).upcoming :=
            add_le_add_left (ReceiveQueue.frames_lay_le sound.queue _) _
        _ = controller.queue.frames + reception.data ::ₘ goods (heeded radio).upcoming := by
            rw [Multiset.cons_add, Multiset.add_cons]
        _ ≤ _ := add_le_add_right goods_le _
    · exact add_le_add_right ((goods_mono (Multiset.le_cons_self _ _)).trans goods_le) _
  · exact heeds.toCome_le.trans (toCome_le.trans attended.toCome_le)
  · exact heeds.echoed_eq.trans (echoed_eq.trans attended.echoed_eq)
  · exact attended.scripted ∘ scripted ∘ heeds.scripted

theorem takes_spends :
    Takes (fun _ => False) (Spends : Controller (Bench δ) → Controller (Bench δ) → Prop) where
  refl := Spends.refl
  trans := Spends.trans
  isFault := False.elim
  enterIdle := rearms_spends.enterIdle.unless
  attend controller := spends_of_dwindles (Bench.dwindles_attend controller.radio)
  refused {controller _ _} announces read sound := by
    have attended := Bench.dwindles_attend controller.radio
    have refused := (Bench.dwindles_of_read_error sound.attend.radio announces read).1
    exact spends_of_dwindles (attended.trans refused) sound
  failed {controller _ _ radio} announces read _ _ sound := by
    have attended := Bench.dwindles_attend controller.radio
    have failed := (Bench.dwindles_of_read_error sound.attend.radio announces read).1
    have heeded := attended.trans (failed.trans (dwindles_heeded radio))
    exact (spends_of_dwindles heeded).trans (spends_of_eq rfl rfl) sound
  taken := spends_taken

theorem waits_spends :
    Waits (fun _ => False) (Spends : Controller (Bench δ) → Controller (Bench δ) → Prop) where
  toServes := takes_spends.serves
  wait time controller := spends_of_dwindles (Bench.dwindles_waitUntil time controller.radio)
  draw _ _ := spends_of_eq rfl rfl
  record _ _ := spends_of_eq rfl rfl
  probe := (spends_onRadio Bench.dwindles_probe).unless

/-- The radio announces nothing while it is brought up. -/
theorem spends_reinitialize (silent : ¬Announces controller.radio) :
    Spends { controller with radio := Device.attend controller.radio }
      ((Controller.reinitialize : Operation (Bench δ) Unit).run controller).2 := by
  let attended : Controller (Bench δ) :=
    { controller with radio := Device.attend controller.radio }
  have dwindles : Dwindles attended.radio
      ((Device.bringUp : Radio.Operation (Bench δ) Unit).run controller.radio).2 :=
    Bench.dwindles_bringUp (Bool.eq_false_iff.mpr silent)
  have broughtUp := spends_of_dwindles dwindles
  unfold Controller.reinitialize
  rw [run_bind, onRadio, run_zoom]
  generalize (Device.bringUp : Radio.Operation (Bench δ) Unit).run controller.radio = ended
    at broughtUp
  rcases ended with ⟨error | _, radio⟩
  · exact broughtUp
  · exact broughtUp.trans (rearms_spends.enterIdle { controller with radio })

/-! ### Sending -/

/-- Only the frame that is sent was added, each time the radio heard itself. -/
structure Echoed (data : Bytes) (before after : Controller (Bench δ)) : Prop extends
    Gains (Multiset.replicate
      (Hearing.echoed after.radio.device - Hearing.echoed before.radio.device)
      { data, intact := true }) before after where
  echoed_le : Hearing.echoed before.radio.device ≤ Hearing.echoed after.radio.device

def Echoes (data : Bytes) (before after : Controller (Bench δ)) : Prop :=
  before.Sound → Echoed data before after

omit [Device δ] [Pokeable δ] [LawfulHearing δ] in
theorem Spends.echoes (spends : Spends before after) : Echoes data before after := by
  intro sound
  have spent := spends sound
  have gains := spent.toGains
  refine ⟨?_, spent.echoed_eq.ge⟩
  rwa [spent.echoed_eq, Nat.sub_self, Multiset.replicate_zero]

omit [Device δ] [Pokeable δ] [LawfulHearing δ] in
theorem Echoes.trans {first second third : Controller (Bench δ)} (former : Echoes data first second)
    (latter : Echoes data second third) : Echoes data first third := by
  intro sound
  have gained := former sound
  have others := latter gained.sound
  refine ⟨?_, gained.echoed_le.trans others.echoed_le⟩
  have gains := gained.toGains.trans others.toGains
  rwa [← Multiset.replicate_add, add_comm,
    Nat.sub_add_sub_cancel others.echoed_le gained.echoed_le] at gains

theorem echoes_onRadio_transmit (data : Bytes) :
    (onRadio (Device.transmit data) : Operation (Bench δ) Unit).Moves (Echoes data) := by
  intro controller sound
  rcases Bench.upcoming_of_transmit data controller.radio with
    ⟨radioSound, _, echoed_le, upcoming_le⟩
  exact ⟨gains_of_radio sound (radioSound sound.radio) upcoming_le, echoed_le⟩

theorem echoes_transmit (data : Bytes) (preamble : Preamble) :
    (transmit data preamble : Operation (Bench δ) Unit).Moves (Echoes data) := by
  have follows : Follows (fun _ => False) (Echoes data : Controller (Bench δ) → _ → Prop) :=
    ⟨fun controller => (Spends.refl controller).echoes, Echoes.trans, False.elim⟩
  apply MovesUnless.moves
  apply follows.transmit
  · exact (waits_spends.senseCarrier.moves.imp Spends.echoes).unless
  · intro length
    have preset : (adjust (Device.setPreamble .transmit length) :
        Operation (Bench δ) Unit).Moves (Echoes data) := fun controller =>
      (spends_of_dwindles (Bench.dwindles_setPreamble .transmit length controller.radio)).echoes
    apply Moves.unless
    apply preset.bind Echoes.trans
    intro _
    apply (echoes_onRadio_transmit data).bind Echoes.trans
    intro _
    exact rearms_spends.enterIdle.imp Spends.echoes

/-! ### Missing frames -/

omit [Hearing δ] [Device δ] [Pokeable δ] [LawfulHearing δ] in
theorem scripted_onRadio {operation : Radio.Operation (Bench δ) Unit} {error : DeviceError}
    (scripted : ∀ bench, (operation.run bench).1 = .error error → bench.Scripted error)
    (failed : ((onRadio operation).run controller).1 = .error (.driverFault error)) :
    controller.radio.Scripted error := by
  apply scripted
  rw [onRadio, run_zoom] at failed
  dsimp only at failed
  generalize (operation.run controller.radio).1 = answer at failed ⊢
  cases answer with
  | ok value => simp [Except.mapError] at failed
  | error cause => simpa [Except.mapError] using failed

theorem scripted_preset_onRadio {operation : Radio.Operation (Bench δ) Unit} {error : DeviceError}
    (scripted : ∀ bench, (operation.run bench).1 = .error error → bench.Scripted error)
    {length : UInt16} (failed : ((do
      adjust (Device.setPreamble .receive length)
      onRadio operation : Operation (Bench δ) Unit).run controller).1 =
        .error (.driverFault error)) : controller.radio.Scripted error := by
  rw [run_bind, adjust, run_modify] at failed
  apply (Bench.dwindles_setPreamble .receive length controller.radio).scripted
  exact scripted_onRadio scripted failed

/-- No frame is read while the radio is put into the idle state, so none is missing. -/
theorem scripted_of_enterIdle
    (failed : ((enterIdle : Operation (Bench δ) Unit).run controller).1 =
      .error (.driverFault .receiveFailed)) : controller.radio.Scripted .receiveFailed := by
  rw [enterIdle, run_bind, run_get] at failed
  dsimp only at failed
  cases idle_eq : controller.idle with
  | uninitialized =>
      rw [idle_eq] at failed
      contradiction
  | continuousReceive =>
      rw [idle_eq] at failed
      exact scripted_preset_onRadio (fun _ => Bench.scripted_listen) failed
  | intermittentReceive =>
      rw [idle_eq] at failed
      exact scripted_preset_onRadio (fun _ => Bench.scripted_dutyCycle) failed
  | sleep =>
      rw [idle_eq] at failed
      exact scripted_onRadio (fun _ => Bench.scripted_sleep) failed

/-- A frame that is announced is there when it is read. -/
theorem scripted_of_readIfPossible (sound : controller.Sound)
    (failed : ((readIfPossible : Operation (Bench δ) _).run controller).1 =
      .error (.driverFault .receiveFailed)) : controller.radio.Scripted .receiveFailed := by
  have attended := Bench.dwindles_attend controller.radio
  rcases readIfPossible_cases controller with
    ⟨_, run_eq⟩ | ⟨_, run_eq⟩ | ⟨_, _, _, _, run_eq⟩ |
    ⟨room, error, radio, statistics, lastCounter, _, announces, read, run_eq⟩ |
    ⟨room, reception, radio, statistics, lastCounter, _, announces, read, run_eq⟩
  · rw [run_eq] at failed
    cases failed
  · rw [run_eq] at failed
    cases failed
  · rw [run_eq] at failed
    cases failed
  · rcases Bench.dwindles_of_read_error sound.attend.radio announces read with
      ⟨dwindles, missing⟩
    have heeded := attended.trans (dwindles.trans (dwindles_heeded radio))
    rw [run_eq] at failed
    rcases error_of_run_bind failed with entering | ⟨_, _, thrown⟩
    · exact heeded.scripted (scripted_of_enterIdle entering)
    · cases thrown
      exact attended.scripted (missing rfl)
  · rcases Bench.upcoming_of_read_ok sound.attend.radio announces read with
      ⟨_, _, _, scripted⟩
    have heeded (queued : (heeded radio).Scripted .receiveFailed) :=
      attended.scripted (scripted ((dwindles_heeded radio).scripted queued))
    rw [run_eq] at failed
    split at failed
    · rcases error_of_run_bind failed with entering | ⟨_, _, thrown⟩
      · exact heeded (scripted_of_enterIdle entering)
      · cases thrown
    · rcases error_of_run_bind failed with entering | ⟨_, _, thrown⟩
      · exact heeded (scripted_of_enterIdle entering)
      · cases thrown

theorem scripted_of_serviceUpTo {fuel received : Nat} (sound : controller.Sound)
    (failed : ((serviceUpTo fuel received : Operation (Bench δ) Nat).run controller).1 =
      .error (.driverFault .receiveFailed)) : controller.radio.Scripted .receiveFailed := by
  induction fuel generalizing controller received with
  | zero => cases failed
  | succ fuel ih =>
      have spent := takes_spends.readIfPossible.moves controller sound
      have missing := scripted_of_readIfPossible sound
      rw [serviceUpTo, run_bind, run_attempt] at failed
      generalize (readIfPossible : Operation (Bench δ) _).run controller = ended
        at spent missing failed
      rcases ended with
        ⟨(_ | _ | _ | _ | error) | (_ | length), left⟩
      · cases failed
      · cases failed
      · exact spent.scripted (ih spent.sound failed)
      · cases failed
      · cases failed
        exact missing rfl
      · cases failed
      · exact spent.scripted (ih spent.sound failed)

theorem scripted_of_serviceReceiver (sound : controller.Sound)
    (failed : ((serviceReceiver : Operation (Bench δ) Nat).run controller).1 =
      .error (.driverFault .receiveFailed)) : controller.radio.Scripted .receiveFailed := by
  rw [serviceReceiver, run_bind, run_get] at failed
  exact scripted_of_serviceUpTo sound failed

end Controller

end StationMesh.Channel
