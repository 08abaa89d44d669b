import StationMesh.Proofs.Channel.Laying
import StationMesh.Proofs.Radio.Horizon

/-!
# The backlog does not grow

The backlog of a controller is what is queued, and what the radio may still bring. Taking frames off
the radio moves what is outstanding into the queue, which can add the announced frame to the
backlog. But a controller that sends takes frames off the radio only after it found the channel
busy, and that makes up for it: sending never lets the backlog grow.
-/

namespace StationMesh.Channel

open Radio StationMesh.Action

theorem ReceiveQueue.length_lay_le {slots arena : Nat} (queue : ReceiveQueue slots arena)
    (data : Bytes) : (queue.lay data).length ≤ queue.length + 1 := by
  by_cases room : queue.HasRoom data.length
  · rw [lay_of_hasRoom room, length, length]
    dsimp only [fill]
    omega
  · rw [lay_of_not_hasRoom room]
    exact Nat.le_succ _

namespace Controller

variable {ρ α : Type} [Timed ρ]

/-- The frames in the queue, and all that the radio may still bring. -/
def backlog (controller : Controller ρ) : Nat := controller.queued + Timed.horizon controller.radio

/-- The queue stays as it is, and the radio brings no more than before. -/
structure Rests (before after : Controller ρ) : Prop where
  queue_eq : after.queue = before.queue
  calms : Calms before.radio after.radio

/-- The radio brings no more than before, and what it brought is in the queue at most once. -/
structure Settles (before after : Controller ρ) : Prop where
  horizon_le : Timed.horizon after.radio ≤ Timed.horizon before.radio
  queued_le : after.queued + outstanding after.radio ≤ before.queued + outstanding before.radio

/-- The backlog has not grown. -/
def Lightens (before after : Controller ρ) : Prop := after.backlog ≤ before.backlog

theorem Rests.refl (controller : Controller ρ) : Rests controller controller :=
  ⟨rfl, Calms.refl _⟩

theorem Rests.trans {first second third : Controller ρ} (former : Rests first second)
    (latter : Rests second third) : Rests first third :=
  ⟨latter.queue_eq.trans former.queue_eq, former.calms.trans latter.calms⟩

theorem Settles.trans {first second third : Controller ρ} (former : Settles first second)
    (latter : Settles second third) : Settles first third :=
  ⟨Nat.le_trans latter.horizon_le former.horizon_le,
    Nat.le_trans latter.queued_le former.queued_le⟩

theorem Lightens.trans {first second third : Controller ρ} (former : Lightens first second)
    (latter : Lightens second third) : Lightens first third :=
  Nat.le_trans latter former

theorem Rests.settles {before after : Controller ρ} (rests : Rests before after) :
    Settles before after where
  horizon_le := rests.calms.horizon_le
  queued_le := by
    rw [queued, rests.queue_eq]
    exact Nat.add_le_add_left rests.calms.outstanding_le _

theorem Rests.lightens {before after : Controller ρ} (rests : Rests before after) :
    Lightens before after := by
  rw [Lightens, backlog, queued, rests.queue_eq]
  exact Nat.add_le_add_left rests.calms.horizon_le _

theorem horizon_le_outstanding (radio : ρ) : Timed.horizon radio ≤ outstanding radio :=
  Nat.le_add_right _ _

theorem outstanding_le_horizon_succ (radio : ρ) : outstanding radio ≤ Timed.horizon radio + 1 := by
  rw [outstanding]
  split <;> omega

theorem rests_onRadio {operation : Radio.Operation ρ α} (calms : operation.Moves Calms) :
    (onRadio operation).Moves Rests :=
  fun controller => ⟨rfl, calms controller.radio⟩

theorem rests_adjust {change : ρ → ρ} (calms : ∀ radio, Calms radio (change radio)) :
    (adjust change : Operation ρ Unit).Moves Rests :=
  fun controller => ⟨rfl, calms controller.radio⟩

variable [Foreseen ρ]

theorem enters_rests : Enters (Rests : Controller ρ → Controller ρ → Prop) where
  refl := Rests.refl
  trans := Rests.trans
  note _ controller := ⟨rfl, Calms.refl controller.radio⟩
  preset length := rests_adjust (Foreseen.setPreamble .receive length)
  bringUp := rests_onRadio Foreseen.bringUp
  listen := rests_onRadio Foreseen.listen
  dutyCycle := rests_onRadio Foreseen.dutyCycle
  sleep := rests_onRadio Foreseen.sleep

/-! ### Taking frames off the radio -/

/-- An announced frame is not outstanding any longer once it was taken note of. -/
theorem outstanding_heeded_le (radio : ρ) : outstanding (heeded radio) ≤ Timed.horizon radio := by
  have attended := (Foreseen.attend radio).horizon_le
  rw [heeded]
  split
  · exact Nat.le_trans (Foreseen.acknowledge (Device.attend radio)) attended
  · rename_i silent
    rw [outstanding, if_neg silent]
    exact attended

/-- The announced frame makes room for the one that may have come into the queue. -/
theorem settles_of_heeded {before after : Controller ρ} {radio : ρ}
    (announces : Announces before.radio) (calms : Calms (Device.attend before.radio) radio)
    (radio_eq : after.radio = heeded radio) (queued_le : after.queued ≤ before.queued + 1) :
    Settles before after := by
  have announced : outstanding (Device.attend before.radio) =
      Timed.horizon (Device.attend before.radio) + 1 :=
    congrArg (Timed.horizon (Device.attend before.radio) + ·) (if_pos announces)
  have attended := Foreseen.attend before.radio
  have attended_le := attended.outstanding_le
  have horizon_le := attended.horizon_le
  have radio_le := calms.horizon_le
  have heeded_le := outstanding_heeded_le radio
  have le_heeded := horizon_le_outstanding (heeded radio)
  rw [← radio_eq] at heeded_le le_heeded
  constructor <;> omega

theorem calms_read {room : Nat} {radio left : ρ} {answer : Except DeviceError Reception}
    (read : (Device.read room : Radio.Operation ρ Reception).run (Device.attend radio) =
      (answer, left)) : Calms (Device.attend radio) left := by
  have calms := Foreseen.read room (Device.attend radio)
  rwa [read] at calms

theorem takes_settles :
    Takes (fun _ => False) (Settles : Controller ρ → Controller ρ → Prop) where
  refl controller := (Rests.refl controller).settles
  trans := Settles.trans
  isFault := False.elim
  enterIdle := (enters_rests.enterIdle.imp Rests.settles).unless
  attend controller := Rests.settles ⟨rfl, Foreseen.attend controller.radio⟩
  refused {controller _ _} _ read :=
    Rests.settles ⟨rfl, (Foreseen.attend controller.radio).trans (calms_read read)⟩
  failed announces read _ _ :=
    settles_of_heeded announces (calms_read read) rfl (Nat.le_succ _)
  taken {controller _ reception _} announces read _ _ := by
    apply settles_of_heeded announces (calms_read read) rfl
    split
    · exact controller.queue.length_lay_le reception.data
    · exact Nat.le_succ _

theorem waits_settles :
    Waits (fun _ => False) (Settles : Controller ρ → Controller ρ → Prop) where
  toServes := takes_settles.serves
  wait time controller := Rests.settles ⟨rfl, Foreseen.wait time controller.radio⟩
  draw _ controller := Rests.settles ⟨rfl, Calms.refl controller.radio⟩
  record _ controller := Rests.settles ⟨rfl, Calms.refl controller.radio⟩
  probe controller := .inr (rests_onRadio Foreseen.probe controller).settles

/-! ### Sending -/

theorem outstanding_probe_lt_of_busy (controller : Controller ρ)
    (busy : ((probe : Operation ρ Activity).run controller).1 = .ok .busy) :
    outstanding ((probe : Operation ρ Activity).run controller).2.radio <
      outstanding controller.radio := by
  apply Foreseen.busy
  rw [probe, onRadio, run_zoom] at busy
  generalize (Device.probe : Radio.Operation ρ Activity).run controller.radio = ended at busy ⊢
  rcases ended with ⟨error | activity, left⟩
  · contradiction
  · simpa [Except.mapError] using busy

omit [Foreseen ρ] in
/-- Less outstanding makes up for the frame that was announced before. -/
theorem lightens_of_settles {before middle after : Controller ρ} (rests : Rests before middle)
    (outstanding_lt : outstanding middle.radio < outstanding before.radio)
    (settles : Settles middle after) : Lightens before after := by
  have queued_eq : middle.queued = before.queued := by rw [queued, queued, rests.queue_eq]
  have queued_le := settles.queued_le
  have after_le := horizon_le_outstanding after.radio
  have before_le := outstanding_le_horizon_succ before.radio
  rw [Lightens, backlog, backlog]
  omega

/-- Frames are only taken off the radio after a probe found the channel busy. -/
theorem lightens_contend (deadline fuel : Nat) :
    (contend deadline fuel false : Operation ρ Unit).Moves Lightens := by
  intro controller
  cases fuel with
  | zero => exact Nat.le_refl _
  | succ fuel =>
      have waits : Waits (fun _ => False) (Settles : Controller ρ → Controller ρ → Prop) :=
        waits_settles
      have again : (do
          awaitFree deadline (deadline - (← now) + 1)
          contend deadline fuel true : Operation ρ Unit).Moves Settles := by
        apply MovesUnless.moves
        apply waits.now.bind waits.trans
        intro time
        apply (waits.awaitFree _ _).bind waits.trans
        intro _
        exact waits.contend deadline fuel true
      -- The probe that finds the channel busy pays for the frame that is announced by then.
      have probed : (probe : Operation ρ Activity).Moves Rests := rests_onRadio Foreseen.probe
      have rests := probed controller
      have busy_lt := outstanding_probe_lt_of_busy controller
      simp only [contend, Bool.false_eq_true, if_false, run_bind]
      generalize (probe : Operation ρ Activity).run controller = ended at rests busy_lt ⊢
      rcases ended with ⟨cause | activity, left⟩
      · exact rests.lightens
      · cases activity with
        | free => exact rests.lightens
        | busy => exact lightens_of_settles rests (busy_lt rfl) (again left)

omit [Foreseen ρ] in
theorem follows_lightens :
    Follows (fun _ => False) (Lightens : Controller ρ → Controller ρ → Prop) where
  refl _ := Nat.le_refl _
  trans := Lightens.trans
  isFault := False.elim

theorem lightens_transmit (data : Bytes) (preamble : Preamble) :
    (transmit data preamble : Operation ρ Unit).Moves Lightens := by
  have follows : Follows (fun _ => False) (Lightens : Controller ρ → Controller ρ → Prop) :=
    follows_lightens
  have senses : (senseCarrier : Operation ρ Nat).MovesUnless (fun _ => False) Lightens :=
    follows.senseCarrier (fun _ _ => Nat.le_refl _) fun deadline fuel =>
      (lightens_contend deadline fuel).unless
  apply MovesUnless.moves
  apply follows.transmit senses
  intro length
  have set : (adjust (Device.setPreamble .transmit length) : Operation ρ Unit).Moves Lightens :=
    fun controller => (rests_adjust (Foreseen.setPreamble .transmit length) controller).lightens
  have sent : (onRadio (Device.transmit data) : Operation ρ Unit).Moves Lightens :=
    fun controller => Nat.add_le_add_left (Foreseen.transmit data controller.radio) _
  apply Moves.unless
  apply set.bind Lightens.trans
  intro _
  apply sent.bind Lightens.trans
  intro _ controller
  exact (enters_rests.enterIdle controller).lightens

end Controller

end StationMesh.Channel
