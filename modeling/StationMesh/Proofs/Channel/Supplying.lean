import StationMesh.Proofs.Channel.Servicing
import StationMesh.Proofs.Radio.Overhearing

/-!
# What the controller takes off a radio it knows

The controller does not make up frames: all that is in its receive queue was read from the radio. So
if all that the radio receives has a property, the frames in the queue have it.
-/

namespace StationMesh.Channel

open Radio StationMesh.Action

/-- A frame that is laid down comes behind the others, or is left out. -/
theorem ReceiveQueue.mem_frames_lay {slots arena : Nat} {queue : ReceiveQueue slots arena}
    (sound : queue.Sound) {data frame : Bytes} (mem : frame ∈ (queue.lay data).frames) :
    frame ∈ queue.frames ∨ frame = data := by
  by_cases room : queue.HasRoom data.length
  · rw [frames_lay sound room, List.mem_append, List.mem_singleton] at mem
    exact mem
  · rw [frames_lay_of_not_hasRoom sound room] at mem
    exact .inl mem

namespace Controller

variable {ρ α : Type} {kept sent : ρ → Prop} {received : Bytes → Prop}
  {controller : Controller ρ}

/-- The radio has its property, and the frames in the receive queue have theirs. -/
structure Supplied (kept : ρ → Prop) (received : Bytes → Prop) (controller : Controller ρ) :
    Prop where
  radio : kept controller.radio
  sound : controller.queue.Sound
  frames : ∀ frame ∈ controller.queue.frames, received frame

abbrev StaysSupplied (kept : ρ → Prop) (received : Bytes → Prop)
    (before after : Controller ρ) : Prop :=
  Supplied kept received before → Supplied kept received after

theorem Supplied.withRadio (supplied : Supplied kept received controller) {radio : ρ}
    (holds : sent radio) : Supplied sent received { controller with radio } :=
  ⟨holds, supplied.sound, supplied.frames⟩

theorem Supplied.lay (supplied : Supplied kept received controller) {data : Bytes}
    (isReceived : received data) :
    Supplied kept received { controller with queue := controller.queue.lay data } := by
  refine ⟨supplied.radio, ReceiveQueue.sound_lay supplied.sound data, ?_⟩
  intro frame mem
  rcases ReceiveQueue.mem_frames_lay supplied.sound mem with mem | rfl
  · exact supplied.frames frame mem
  · exact isReceived

/-- A frame that is taken out was received. -/
theorem Supplied.dequeue (supplied : Supplied kept received controller) :
    Supplied kept received controller.dequeue.2 ∧
      ∀ frame, controller.dequeue.1 = some frame → received frame := by
  cases frames_eq : controller.queue.frames with
  | nil =>
      have dequeue_eq := ReceiveQueue.dequeue_of_frames_eq_nil supplied.sound frames_eq
      simp only [Controller.dequeue, dequeue_eq]
      exact ⟨supplied, fun frame taken => by contradiction⟩
  | cons first rest =>
      rcases ReceiveQueue.dequeue_of_frames_eq_cons supplied.sound frames_eq with
        ⟨taken, rest_eq, sound⟩
      have frames := supplied.frames
      simp only [frames_eq, List.mem_cons, forall_eq_or_imp] at frames
      refine ⟨⟨supplied.radio, sound, ?_⟩, ?_⟩
      · simp only [Controller.dequeue, rest_eq]
        exact frames.2
      · intro frame frame_eq
        simp only [Controller.dequeue, taken, Option.some.injEq] at frame_eq
        exact frame_eq ▸ frames.1

theorem supplied_onRadio {operation : Radio.Operation ρ α} (keeps : operation.Keeps kept) :
    (onRadio operation).Moves (StaysSupplied kept received) :=
  fun controller supplied => supplied.withRadio (keeps controller.radio supplied.radio)

variable [Timed ρ]

theorem enters_supplied (supplies : Supplies kept received) :
    Enters (StaysSupplied kept received) where
  refl _ := id
  trans former latter := latter ∘ former
  note _ _ supplied := ⟨supplied.radio, supplied.sound, supplied.frames⟩
  preset length controller supplied :=
    supplied.withRadio (supplies.setPreamble .receive length controller.radio supplied.radio)
  bringUp := supplied_onRadio supplies.bringUp
  listen := supplied_onRadio supplies.listen
  dutyCycle := supplied_onRadio supplies.dutyCycle
  sleep := supplied_onRadio supplies.sleep

theorem keeps_heeded (supplies : Supplies kept received) {radio : ρ} (holds : kept radio) :
    kept (heeded radio) := by
  simp only [heeded]
  split
  · exact supplies.acknowledge _ (supplies.attend _ holds)
  · exact supplies.attend _ holds

theorem keeps_read (supplies : Supplies kept received) {room : Nat} {radio left : ρ}
    {answer : Except DeviceError Reception} (holds : kept radio)
    (read : (Device.read room : Radio.Operation ρ _).run (Device.attend radio) = (answer, left)) :
    kept left := by
  have held := supplies.read room _ (supplies.attend radio holds)
  rwa [read] at held

theorem takes_supplied (supplies : Supplies kept received) :
    Takes (fun _ => False) (StaysSupplied kept received) where
  refl _ := id
  trans former latter := latter ∘ former
  isFault := False.elim
  enterIdle := (enters_supplied supplies).enterIdle.unless
  attend controller supplied := supplied.withRadio (supplies.attend controller.radio supplied.radio)
  refused _ read supplied := supplied.withRadio (keeps_read supplies supplied.radio read)
  failed _ read _ _ supplied := by
    have heeds := keeps_heeded supplies (keeps_read supplies supplied.radio read)
    exact ⟨heeds, supplied.sound, supplied.frames⟩
  taken {controller room reception _} _ read _ _ supplied := by
    have attended := supplies.attend controller.radio supplied.radio
    have heeds := supplied.withRadio
      (keeps_heeded supplies (keeps_read supplies supplied.radio read))
    split
    · have laid := heeds.lay (supplies.received room _ reception attended (congrArg Prod.fst read))
      exact ⟨laid.radio, laid.sound, laid.frames⟩
    · exact ⟨heeds.radio, heeds.sound, heeds.frames⟩

theorem waits_supplied (supplies : Supplies kept received) :
    Waits (fun _ => False) (StaysSupplied kept received) where
  toServes := (takes_supplied supplies).serves
  wait time controller supplied :=
    supplied.withRadio (supplies.wait time controller.radio supplied.radio)
  draw _ _ supplied := ⟨supplied.radio, supplied.sound, supplied.frames⟩
  record _ _ supplied := ⟨supplied.radio, supplied.sound, supplied.frames⟩
  probe := (supplied_onRadio supplies.probe).unless

theorem supplied_serviceReceiver (supplies : Supplies kept received) :
    (serviceReceiver : Operation ρ Nat).Moves (StaysSupplied kept received) :=
  (waits_supplied supplies).serviceReceiver.moves

/-- With a transmission the radio is handed the frame once, or not at all. -/
theorem supplied_transmit (supplies : Supplies kept received) (others : Supplies sent received)
    {data : Bytes} (sends : ∀ radio, kept radio →
      sent ((Device.transmit data : Radio.Operation ρ Unit).run radio).2)
    (preamble : Preamble) (supplied : Supplied kept received controller) :
    Supplied kept received ((transmit data preamble).run controller).2 ∨
      Supplied sent received ((transmit data preamble).run controller).2 := by
  have sensed := (waits_supplied supplies).senseCarrier.moves controller supplied
  rw [transmit, run_bind]
  generalize (senseCarrier : Operation ρ Nat).run controller = ended at sensed ⊢
  rcases ended with ⟨cause | delay, left⟩
  · exact .inl sensed
  · right
    have preset := supplies.setPreamble .transmit (left.settings.preambleLength preamble) _
      sensed.radio
    have sending := sensed.withRadio (sends _ preset)
    simp only [run_bind, run_get, adjust, run_modify, onRadio, run_zoom]
    generalize (Device.transmit data : Radio.Operation ρ Unit).run _ = ended at sending ⊢
    rcases ended with ⟨cause | _, radio⟩
    · exact sending
    · exact (enters_supplied others).enterIdle _ sending

end Controller

end StationMesh.Channel
