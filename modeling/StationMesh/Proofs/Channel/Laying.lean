import StationMesh.Proofs.Channel.Servicing

/-!
# The controller only lays frames down

Whatever the controller does and however it ends, all that happens to the receive queue is that
frames are laid down in it. So the frames in the queue stay where they are, and others come behind
them, until the station takes them out.
-/

namespace StationMesh.Channel

open Radio StationMesh.Action

namespace ReceiveQueue

variable {slots arena : Nat} {before after : ReceiveQueue slots arena}

/-- Frames were laid down, and nothing else was done. -/
def Extends (before after : ReceiveQueue slots arena) : Prop :=
  Relation.ReflTransGen (fun queue left => ∃ data, left = queue.lay data) before after

theorem extends_lay (data : Bytes) (queue : ReceiveQueue slots arena) :
    queue.Extends (queue.lay data) :=
  .single ⟨data, rfl⟩

theorem Extends.sound (laid : before.Extends after) (sound : before.Sound) : after.Sound := by
  induction laid with
  | refl => exact sound
  | tail _ last ih =>
      rcases last with ⟨data, rfl⟩
      exact sound_lay ih data

/-- A frame that does not fit is left out. -/
theorem Extends.within (laid : before.Extends after) (within : before.Within) : after.Within := by
  induction laid with
  | refl => exact within
  | tail _ last ih =>
      rcases last with ⟨data, rfl⟩
      exact within_commit (within_fill ih data) data.length

/-- The frames in the queue stay, and others come behind them. -/
theorem Extends.prefix_frames (laid : before.Extends after) (sound : before.Sound) :
    before.frames <+: after.frames := by
  induction laid with
  | refl => exact List.prefix_rfl
  | @tail queue _ laid last ih =>
      rcases last with ⟨data, rfl⟩
      have queueSound : queue.Sound := Extends.sound laid sound
      by_cases room : queue.HasRoom data.length
      · rw [frames_lay queueSound room]
        exact ih.trans (List.prefix_append _ _)
      · rw [frames_lay_of_not_hasRoom queueSound room]
        exact ih

end ReceiveQueue

namespace Controller

variable {ρ α : Type}

/-- The received frames of a controller fit in the arena of its queue. -/
def Within (controller : Controller ρ) : Prop := controller.queue.Within

/-- Frames were laid down in the receive queue, and nothing else was done to it. -/
def Lays (before after : Controller ρ) : Prop := before.queue.Extends after.queue

theorem Lays.trans {first second third : Controller ρ} (former : Lays first second)
    (latter : Lays second third) : Lays first third :=
  Relation.ReflTransGen.trans former latter

/-- Only with a frame that is read something is done to the queue. -/
theorem overlooks_lays : Overlooks (Lays : Controller ρ → Controller ρ → Prop) where
  refl _ := .refl
  trans := Lays.trans
  idle _ _ := .refl
  radio _ _ := .refl
  random _ _ := .refl
  note _ _ _ := .refl
  lay data controller := ReceiveQueue.extends_lay data controller.queue

variable [Timed ρ]

theorem enters_lays : Enters (Lays : Controller ρ → Controller ρ → Prop) := overlooks_lays.enters

theorem lays_serviceReceiver : (serviceReceiver : Operation ρ Nat).Moves Lays :=
  overlooks_lays.serviceReceiver

theorem lays_transmit (data : Bytes) (preamble : Preamble) :
    (transmit data preamble : Operation ρ Unit).Moves Lays :=
  overlooks_lays.transmit data preamble

end Controller

end StationMesh.Channel
