import StationMesh.Proofs.Channel.Backlog
import StationMesh.Proofs.Station.OutboxBound
import StationMesh.Proofs.Station.Steering

/-!
# What the parts of the main loop do

Taking messages in removes them from the front of the queue and shows them to the hub one after the
other. Sending empties the outbox if it succeeds, and touches nothing else of the hub; the
controller may lay new frames down in its queue meanwhile, but its backlog does not grow. At the end
the idle state is the one the relay lists call for, however putting the radio into it went.
-/

namespace StationMesh.Station

open StationMesh.Action Channel Radio Relay

variable {ρ κ φ α : Type} {logSize : Nat} [Timed ρ]

/-- The messages in the receive queue. -/
def queuedFrames (station : Station ρ κ φ logSize) : List Bytes := station.controller.queue.frames

/-! ### What sending and listening do to the controller -/

section Relations

theorem idles_lays :
    Idles (fun _ => False) (Controller.Lays : Controller ρ → Controller ρ → Prop) where
  refl _ := .refl
  trans := Controller.Lays.trans
  isFault := False.elim
  reinitialize := Controller.enters_lays.reinitialize.unless
  restores := False.elim
  setIdle idle := (Controller.enters_lays.setIdle idle).unless

theorem sends_lays :
    Sends (fun _ => False) (Controller.Lays : Controller ρ → Controller ρ → Prop) where
  toRecovers := idles_lays.toRecovers
  transmit data preamble := (Controller.lays_transmit data preamble).unless
  configure _ _ := .refl

/-- If the receive queue was sound, it is. -/
def StaysSound (before after : Controller ρ) : Prop := before.queue.Sound → after.queue.Sound

omit [Timed ρ] in
theorem staysSound_of_lays {before after : Controller ρ} (lays : before.Lays after) :
    StaysSound before after :=
  lays.sound

omit [Timed ρ] in
theorem staysSound_dequeue (controller : Controller ρ) :
    StaysSound controller controller.dequeue.2 := by
  intro sound
  cases frames_eq : controller.queue.frames with
  | nil =>
      rw [Controller.dequeue, ReceiveQueue.dequeue_of_frames_eq_nil sound frames_eq]
      exact sound
  | cons frame rest => exact (ReceiveQueue.dequeue_of_frames_eq_cons sound frames_eq).2.2

theorem operates_staysSound :
    Operates (fun _ => False) (StaysSound : Controller ρ → Controller ρ → Prop) where
  refl _ := id
  trans former latter sound := latter (former sound)
  isFault := False.elim
  reinitialize := (Controller.enters_lays.reinitialize.imp staysSound_of_lays).unless
  restores := False.elim
  transmit data preamble := ((Controller.lays_transmit data preamble).imp staysSound_of_lays).unless
  configure _ _ := id
  setIdle idle := ((Controller.enters_lays.setIdle idle).imp staysSound_of_lays).unless
  service := (Controller.lays_serviceReceiver.imp staysSound_of_lays).unless
  dequeue := staysSound_dequeue
  wait _ _ := id

/-- The receive queue of a station is sound at all times. -/
theorem sound_run_new [Config.Store κ] [FirmwareUpdater φ] (radio : ρ)
    (services : Services κ φ logSize) (base : Settings) (hostSettings : HostSettings)
    (host : HostLine) (seed : UInt64) (generator : Generator) (calls : List (Call ρ κ φ logSize)) :
    ((new radio services base hostSettings host seed generator).run
      calls).controller.queue.Sound := by
  have kept (station : Station ρ κ φ logSize) (call : Call ρ κ φ logSize) :
      StaysSound station.controller (station.perform call).controller := by
    rcases operates_staysSound.perform station call (fun _ _ _ _ => id) with
      ⟨_, _, _, _, isExcused⟩ | kept
    · exact isExcused.elim
    · exact kept
  suffices ∀ station : Station ρ κ φ logSize, station.controller.queue.Sound →
      (station.run calls).controller.queue.Sound from this _ ReceiveQueue.sound_empty
  induction calls with
  | nil => exact fun _ => id
  | cons call calls ih =>
      intro station sound
      exact ih (station.perform call) (kept station call sound)

variable [Foreseen ρ]

theorem sends_lightens :
    Sends (fun _ => False) (Controller.Lightens : Controller ρ → Controller ρ → Prop) where
  toFollows := Controller.follows_lightens
  reinitialize controller := .inr (Controller.enters_rests.reinitialize controller).lightens
  restores := False.elim
  transmit data preamble := (Controller.lightens_transmit data preamble).unless
  configure _ _ := Nat.le_refl _

theorem idles_rests :
    Idles (fun _ => False) (Controller.Rests : Controller ρ → Controller ρ → Prop) where
  refl := Controller.Rests.refl
  trans := Controller.Rests.trans
  isFault := False.elim
  reinitialize := Controller.enters_rests.reinitialize.unless
  restores := False.elim
  setIdle idle := (Controller.enters_rests.setIdle idle).unless

end Relations

/-! ### Taking messages out of the queue -/

section Intake

variable [Config.Store κ] [FirmwareUpdater φ]

/-- The hub after some messages were processed, one after the other. -/
def processAll (report : Report) (now : Nat) (frames : List Bytes) (hub : Hub κ φ logSize) :
    Hub κ φ logSize :=
  frames.foldl (fun hub frame => (hub.process frame report now).2) hub

/-- These messages were taken off the front of the queue and processed: there was room in the outbox
before each of them, and then either none was left or the room was gone. -/
structure TakesIn (report : Report) (now : Nat) (hub : Hub κ φ logSize) (taken : List Bytes)
    (before after : ReceiveQueue queueSlots queueArena) : Prop where
  frames_eq : before.frames = taken ++ after.frames
  sound : after.Sound
  room : ∀ count < taken.length,
    messageReserve ≤ (processAll report now (taken.take count) hub).outbox.free
  stops : after.frames = [] ∨ (processAll report now taken hub).outbox.free < messageReserve

theorem TakesIn.nonempty {report : Report} {now : Nat} {hub : Hub κ φ logSize}
    {taken : List Bytes} {before after : ReceiveQueue queueSlots queueArena}
    (takesIn : TakesIn report now hub taken before after)
    (room : messageReserve ≤ hub.outbox.free) (nonempty : before.frames ≠ []) : taken ≠ [] := by
  rintro rfl
  rcases takesIn.stops with empty | crowded
  · exact nonempty (takesIn.frames_eq.trans empty)
  · exact absurd room (Nat.not_le_of_lt crowded)

omit [Timed ρ] in
/-- Messages are taken off the front of the queue, and nothing else happens to the controller. -/
theorem intakeUpTo_takes (report : Report) (now : Nat) {fuel : Nat} (processed : Nat)
    {controller : Controller ρ} (hub : Hub κ φ logSize) (sound : controller.queue.Sound)
    (enough : controller.queue.frames.length < fuel) :
    ∃ taken queue, intakeUpTo report now fuel processed controller hub =
        (processed + taken.length, { controller with queue }, processAll report now taken hub) ∧
      TakesIn report now hub taken controller.queue queue := by
  induction fuel generalizing processed controller hub with
  | zero => contradiction
  | succ fuel ih =>
      simp only [intakeUpTo]
      by_cases crowded : hub.outbox.free < messageReserve
      · rw [if_pos crowded]
        exact ⟨[], controller.queue, rfl, rfl, sound, by simp, .inr crowded⟩
      · rw [if_neg crowded]
        cases frames_eq : controller.queue.frames with
        | nil =>
            have dequeue_eq : controller.dequeue = (none, controller) := by
              rw [Controller.dequeue, ReceiveQueue.dequeue_of_frames_eq_nil sound frames_eq]
            rw [dequeue_eq]
            exact ⟨[], controller.queue, rfl, rfl, sound, by simp, .inl frames_eq⟩
        | cons frame rest =>
            rcases ReceiveQueue.dequeue_of_frames_eq_cons sound frames_eq with
              ⟨frame_eq, rest_eq, restSound⟩
            have dequeue_eq : controller.dequeue =
                (some frame, { controller with queue := controller.queue.dequeue.2 }) := by
              rw [Controller.dequeue, ← frame_eq]
            have fewer : controller.queue.dequeue.2.frames.length < fuel := by
              rw [frames_eq, List.length_cons] at enough
              rw [rest_eq]
              omega
            rw [dequeue_eq]
            rcases @ih (processed + 1) { controller with queue := controller.queue.dequeue.2 }
              (hub.process frame report now).2 restSound fewer with
              ⟨taken, queue, taken_eq, others⟩
            refine ⟨frame :: taken, queue, ?_, ?_, others.sound, ?_, others.stops⟩
            · rw [List.length_cons, Nat.add_comm taken.length, ← Nat.add_assoc]
              exact taken_eq
            · rw [List.cons_append, ← others.frames_eq, rest_eq, frames_eq]
            · rintro (_ | count) count_lt
              · exact Nat.le_of_not_lt crowded
              · exact others.room count (Nat.lt_of_succ_lt_succ count_lt)

theorem intake_takes {controller : Controller ρ} (hub : Hub κ φ logSize)
    (sound : controller.queue.Sound) :
    let report := controller.statistics.report
    let now := Timed.now controller.radio
    ∃ taken queue, intake controller hub =
        (taken.length, { controller with queue }, processAll report now taken hub) ∧
      TakesIn report now hub taken controller.queue queue := by
  intro report now
  have enough : controller.queue.frames.length < controller.queued + 1 := by
    rw [ReceiveQueue.length_frames]
    exact Nat.lt_succ_self _
  rcases intakeUpTo_takes report now 0 hub sound enough with ⟨taken, queue, taken_eq, takesIn⟩
  rw [Nat.zero_add] at taken_eq
  exact ⟨taken, queue, taken_eq, takesIn⟩

/-- The station after messages were taken off its queue, which is left as given, and processed. -/
def afterIntake (taken : List Bytes) (queue : ReceiveQueue queueSlots queueArena)
    (station : Station ρ κ φ logSize) : Station ρ κ φ logSize :=
  let controller := station.controller
  { station with
    controller := { controller with queue }
    hub := processAll controller.statistics.report (Timed.now controller.radio) taken station.hub }

theorem processQueued_takes {ε : Type} {station : Station ρ κ φ logSize}
    (sound : station.controller.queue.Sound) :
    ∃ taken queue, (processQueued : Operation ρ κ φ logSize ε Nat).run station =
        (.ok taken.length, station.afterIntake taken queue) ∧
      station.queuedFrames = taken ++ queue.frames ∧ queue.Sound ∧
      (messageReserve ≤ station.hub.outbox.free → station.queuedFrames ≠ [] → taken ≠ []) := by
  rcases intake_takes station.hub sound with ⟨taken, queue, taken_eq, takesIn⟩
  refine ⟨taken, queue, ?_, takesIn.frames_eq, takesIn.sound, takesIn.nonempty⟩
  simp only [processQueued, run_bind, run_get, taken_eq]
  rfl

end Intake

/-! ### What sending and listening do to the hub -/

/-- The hub is as it was. -/
def SameHub (before after : Station ρ κ φ logSize) : Prop := after.hub = before.hub

omit [Timed ρ] in
theorem SameHub.trans {first second third : Station ρ κ φ logSize} (former : SameHub first second)
    (latter : SameHub second third) : SameHub first third :=
  Eq.trans latter former

omit [Timed ρ] in
theorem sameHub_onController (operation : Controller.Operation ρ α) :
    (onController operation : Operation ρ κ φ logSize ChannelError α).Moves SameHub :=
  fun _ => rfl

theorem sameHub_absorb (error : ChannelError) :
    (absorb error : Operation ρ κ φ logSize ChannelError Unit).Moves SameHub := by
  cases error with
  | driverFault fault =>
      have counted : (modify countFault : Operation ρ κ φ logSize ChannelError _).Moves SameHub :=
        fun _ => rfl
      exact counted.bind SameHub.trans fun _ => sameHub_onController _
  | timeout => exact fun _ => rfl
  | queueFull => exact fun _ => rfl
  | crcMismatch => exact fun _ => rfl
  | invalidState => exact fun _ => rfl

/-- Sending takes frames out of the outbox, and nothing else happens to the hub. If it succeeds, it
has taken out all that it was allowed to. -/
theorem flushUpTo_hub (fuel : Nat) (report : FlushReport) (station : Station ρ κ φ logSize) :
    ∃ outbox, ((flushUpTo fuel report).run station).2.hub = { station.hub with outbox } ∧
      ((∃ sent, ((flushUpTo fuel report).run station).1 = .ok sent) →
        station.hub.outbox.length ≤ fuel → outbox.length = 0) := by
  induction fuel generalizing report station with
  | zero => exact ⟨station.hub.outbox, rfl, fun _ => Nat.eq_zero_of_le_zero⟩
  | succ fuel ih =>
      rw [flushUpTo, run_bind, run_takeFrame]
      cases taken : station.hub.outbox.take? with
      | none =>
          exact ⟨station.hub.outbox, rfl, fun _ _ => Outbox.length_eq_zero_of_take? taken⟩
      | some pair =>
          rcases pair with ⟨frame, shorter⟩
          have length_eq := Outbox.length_of_take? taken
          -- Sent or dropped, the frame is gone, and the ones behind it are sent in the same way.
          have others (report : FlushReport) {left : Station ρ κ φ logSize}
              (hub_eq : left.hub = { station.hub with outbox := shorter }) :
              ∃ outbox, ((flushUpTo fuel report).run left).2.hub = { station.hub with outbox } ∧
                ((∃ sent, ((flushUpTo fuel report).run left).1 = .ok sent) →
                  station.hub.outbox.length ≤ fuel + 1 → outbox.length = 0) := by
            rcases ih report left with ⟨outbox, left_eq, emptied⟩
            rw [hub_eq] at left_eq emptied
            refine ⟨outbox, left_eq, ?_⟩
            intro succeeded le
            have shorter_le : shorter.length ≤ fuel := by omega
            exact emptied succeeded shorter_le
          have sent := sameHub_onController (Controller.transmit frame.data frame.preamble)
            { station with hub := { station.hub with outbox := shorter } }
          dsimp only
          rw [run_bind, run_attempt]
          generalize (onController (Controller.transmit frame.data frame.preamble)).run
            { station with hub := { station.hub with outbox := shorter } } = ended at sent ⊢
          rcases ended with ⟨error | _, left⟩
          · have absorbed := sameHub_absorb error left
            dsimp only
            rw [run_bind]
            generalize (absorb error).run left = recovered at absorbed ⊢
            rcases recovered with ⟨cause | _, recovered⟩
            · refine ⟨shorter, sent.trans absorbed, ?_⟩
              rintro ⟨_, stopped⟩
              contradiction
            · exact others _ (sent.trans absorbed)
          · dsimp only
            rw [run_bind, run_modify]
            exact others _ sent

theorem flush_hub (station : Station ρ κ φ logSize) :
    ∃ outbox, (flush.run station).2.hub = { station.hub with outbox } ∧
      ((∃ report, (flush.run station).1 = .ok report) → outbox.length = 0) := by
  rcases flushUpTo_hub station.hub.outbox.length {} station with ⟨outbox, hub_eq, emptied⟩
  have run_eq : flush.run station =
      (flushUpTo station.hub.outbox.length {}).run station := by
    rw [flush, run_bind, run_get]
  rw [run_eq]
  exact ⟨outbox, hub_eq, fun succeeded => emptied succeeded (Nat.le_refl _)⟩

section Policy

variable [Config.Store κ]

/-- What is pending is forgotten before anything is done for it. -/
theorem applyPending_hub (station : Station ρ κ φ logSize) :
    (applyPending.run station).2.hub =
      { station.hub with engine := station.hub.engine.takePending.2 } := by
  have restarted (condition : Bool) : (if condition then onController Controller.reinitialize
      else pure () : Operation ρ κ φ logSize ChannelError Unit).Moves SameHub := by
    split
    · exact sameHub_onController _
    · exact fun _ => rfl
  simp only [applyPending, run_bind, run_get, run_set]
  split
  · simp only [run_bind, run_modify]
    exact restarted _ _
  · exact restarted _ _

theorem recovers_sameIdle : Recovers (fun _ => False)
    (Controller.SameIdle : Controller ρ → Controller ρ → Prop) where
  refl _ := rfl
  trans := Controller.SameIdle.trans
  isFault := False.elim
  reinitialize := Controller.sameIdle_reinitialize.unless
  restores := False.elim

omit [Timed ρ] in
theorem idlePolicy_ne_uninitialized (station : Station ρ κ φ logSize) :
    station.idlePolicy ≠ .uninitialized := by
  unfold idlePolicy
  split <;> simp

/-- However it ends, the idle state is the one the relay lists call for. -/
theorem followPolicy_idle (station : Station ρ κ φ logSize) :
    (followPolicy.run station).2.hub = station.hub ∧
      (followPolicy.run station).2.controller.idle = station.idlePolicy := by
  simp only [followPolicy, run_bind, run_get]
  split
  · rename_i idle_eq
    exact ⟨rfl, idle_eq⟩
  · rw [run_bind, run_attempt]
    have hub_eq := sameHub_onController (Controller.setIdle station.idlePolicy) station
    have idle_eq :
        ((onController (Controller.setIdle station.idlePolicy)).run station).2.controller.idle =
          station.idlePolicy :=
      Controller.idle_setIdle (idlePolicy_ne_uninitialized station) station.controller
    generalize (onController (Controller.setIdle station.idlePolicy)).run station = ended
      at hub_eq idle_eq ⊢
    rcases ended with ⟨error | _, left⟩
    · have absorbed_hub := sameHub_absorb error left
      have absorbed_idle := (recovers_sameIdle.absorb error).moves left
      exact ⟨hub_eq.trans absorbed_hub, Eq.trans absorbed_idle idle_eq⟩
    · exact ⟨hub_eq, idle_eq⟩

/-- What a round is made of. -/
theorem poll_parts [FirmwareUpdater φ] {before after : Station ρ κ φ logSize} {processed : Nat}
    (polled : poll.run before = (.ok processed, after)) :
    ∃ received drained, receive.run before = (.ok (), received) ∧
      (drainUpTo (received.controller.queued + Timed.horizon received.controller.radio + 2) 0).run
        received = (.ok processed, drained) ∧
      followPolicy.run drained = (.ok (), after) := by
  rcases exists_of_run_bind_eq_ok polled with ⟨_, received, receive_eq, polled⟩
  rw [run_bind, run_get] at polled
  rcases exists_of_run_bind_eq_ok polled with ⟨answer, drained, drain_eq, polled⟩
  rcases exists_of_run_bind_eq_ok polled with ⟨_, followed, follow_eq, polled⟩
  rw [run_pure, Prod.mk.injEq, Except.ok.injEq] at polled
  rcases polled with ⟨answer_eq, followed_eq⟩
  rw [followed_eq] at follow_eq
  rw [answer_eq] at drain_eq
  exact ⟨received, drained, receive_eq, drain_eq, follow_eq⟩

end Policy

end StationMesh.Station
