import StationMesh.Config.Settings
import StationMesh.Proofs.Station.Loop

/-!
# The reserve of the outbox is enough

A message is taken off the receive queue only while the outbox has its reserve free, and one message
never brings more frames than that, however its readings are divided and however many others wait.
So nothing that comes of the messages that were taken is turned away, and the others stay queued.
-/

namespace StationMesh.Station

open Channel Radio Relay

variable {ρ κ φ : Type} {logSize : Nat} [Config.Store κ] [FirmwareUpdater φ]

theorem queues_reserve {frame : Bytes} (length_le : frame.length ≤ 255) (report : Report)
    (now : Nat) {hub : Hub κ φ logSize} (sound : hub.HasSoundBatch) :
    Hub.Queues messageReserve hub (hub.process frame report now).2 :=
  (Hub.queues_process length_le report now sound).mono (by decide)

/-- While the reserve is free before each message, no frame is turned away. -/
theorem turnedAway_processAll {report : Report} {now : Nat} {taken : List Bytes}
    {hub : Hub κ φ logSize} (sound : hub.HasSoundBatch)
    (fits : ∀ frame ∈ taken, frame.length ≤ 255)
    (room : ∀ count < taken.length,
      messageReserve ≤ (processAll report now (taken.take count) hub).outbox.free) :
    (processAll report now taken hub).turnedAway = hub.turnedAway := by
  induction taken generalizing hub with
  | nil => rfl
  | cons frame rest ih =>
      have queues := queues_reserve (fits frame (by simp)) report now sound
      have free : messageReserve ≤ hub.outbox.free := room 0 (by simp)
      have left : hub.outbox.length + messageReserve ≤ Outbox.slots := by
        simp only [Outbox.free, messageReserve, Outbox.slots] at free ⊢
        omega
      have others := ih (Hub.keeps_sound_process frame report now sound)
        (fun other mem => fits other (by simp [mem]))
        fun count count_lt => room (count + 1) (Nat.succ_lt_succ count_lt)
      exact others.trans (queues.turnedAway_eq left)

variable [Timed ρ]

/-- One message never puts more frames into the outbox than are kept free for it. So of the messages
that are taken off the queue, in order and only while so many slots are free, no frame is turned
away, and the others stay queued as they are, for want of room. -/
theorem taken_within_reserve :
    (∀ (hub : Hub κ φ logSize) (frame : Bytes) (report : Report) (now : Nat),
      frame.length ≤ 255 → hub.HasSoundBatch →
        Hub.Queues messageReserve hub (hub.process frame report now).2) ∧
    ∀ (controller : Controller ρ) (hub : Hub κ φ logSize), controller.queue.Sound →
      (∀ frame ∈ controller.queue.frames, frame.length ≤ 255) → hub.HasSoundBatch →
      let report := controller.statistics.report
      let now := Timed.now controller.radio
      ∃ taken queue, intake controller hub =
          (taken.length, { controller with queue }, processAll report now taken hub) ∧
        TakesIn report now hub taken controller.queue queue ∧
        (processAll report now taken hub).turnedAway = hub.turnedAway := by
  constructor
  · intro hub frame report now length_le sound
    exact queues_reserve length_le report now sound
  · intro controller hub queueSound fits sound report now
    rcases intake_takes hub queueSound with ⟨taken, queue, taken_eq, takesIn⟩
    have takenFits : ∀ frame ∈ taken, frame.length ≤ 255 := fun frame mem =>
      fits frame (by simp [takesIn.frames_eq, mem])
    exact ⟨taken, queue, taken_eq, takesIn, turnedAway_processAll sound takenFits takesIn.room⟩

/-- The data of a reading that fills the batch. -/
def padding : Bytes := List.replicate 97 0

/-- A hub with nine slots left and as many readings waiting as there is room for. -/
def nearlyFull : Hub Config.Settings RuleUpdater 0 where
  engine :=
    { nextUid := 0, random := .ofSeed .wyRand 0, batch := { readings := [⟨6, 1, padding⟩] } }
  outbox := { frames := List.replicate 15 ⟨[0x53, 1, 0], .long, by decide⟩ }
  services := { config := {}, firmware := .declines }

/-- A controller with two commands for all stations in its queue. -/
def commanded : Controller (Bench Echo) :=
  let queue : ReceiveQueue queueSlots queueArena := {}
  { Controller.new { device := {} } {} 0 with
    queue := (queue.lay [0xC3, 0, 5, 0x4E]).lay [0xC3, 0, 6, 0x4E] }

/-- A reading that is too long for the batch goes out alone, behind those that waited. One command
takes two slots, so the other one stays queued. -/
theorem taken_within_reserve_nearlyFull :
    let next := (nearlyFull.process ([0xD7, 7, 1, 98] ++ 0 :: padding) {} 0).2
    (Hub.Queues messageReserve nearlyFull next ∧ next.outbox.length = 17) ∧
    ∃ (queue : ReceiveQueue queueSlots queueArena) (hub : Hub Config.Settings RuleUpdater 0),
      intake commanded nearlyFull = (1, { commanded with queue }, hub) ∧
      queue.frames = [[0xC3, 0, 6, 0x4E]] ∧ hub.outbox.length = 17 ∧ hub.turnedAway = 0 := by
  intro next
  have sound : nearlyFull.HasSoundBatch :=
    ⟨by decide +kernel, by simp [nearlyFull, padding, Weather.Reading.Writable,
      Weather.Reading.maxData]⟩
  have queueSound : commanded.queue.Sound := by
    simp only [commanded]
    exact ReceiveQueue.sound_lay (ReceiveQueue.sound_lay ReceiveQueue.sound_empty _) _
  have frames_eq : commanded.queue.frames = [[0xC3, 0, 5, 0x4E], [0xC3, 0, 6, 0x4E]] := by
    decide +kernel
  have within := @taken_within_reserve (Bench Echo) Config.Settings RuleUpdater 0 _ _ _
  have queues := within.1 nearlyFull ([0xD7, 7, 1, 98] ++ 0 :: padding) {} 0 (by decide) sound
  refine ⟨⟨queues, by decide +kernel⟩, ?_⟩
  rcases within.2 commanded nearlyFull queueSound (by rw [frames_eq]; decide) sound with
    ⟨taken, queue, taken_eq, takesIn, turnedAway_eq⟩
  have answered : (intake commanded nearlyFull).1 = 1 := by decide +kernel
  have length_eq : (intake commanded nearlyFull).2.2.outbox.length = 17 := by decide +kernel
  rw [taken_eq] at answered length_eq
  have split_eq : [[0xC3, 0, 5, 0x4E]] ++ [[0xC3, 0, 6, 0x4E]] = taken ++ queue.frames :=
    frames_eq.symm.trans takesIn.frames_eq
  obtain ⟨rfl, left_eq⟩ := List.append_inj split_eq answered.symm
  exact ⟨queue, _, taken_eq, left_eq.symm, length_eq, turnedAway_eq⟩

end StationMesh.Station
