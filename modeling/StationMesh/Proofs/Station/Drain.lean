import StationMesh.Config.Settings
import StationMesh.Proofs.Radio.Medium
import StationMesh.Proofs.Station.Loop
import StationMesh.Radio.Echo

/-!
# A round of the main loop drains the station

A round that succeeds leaves no message in the receive queue and none in the outbox. It goes through
the queue in passes. Each pass takes messages off the front and processes them, does what commands
asked for, and sends what is in the outbox, while new messages may come behind those that are left.
After the first pass the outbox is empty at the start of each pass, so that each takes at least one
message and the backlog shrinks. This is so for every radio whose horizon is what it is said to be,
such as the echo radio and a radio on a medium.
-/

namespace StationMesh.Station

open StationMesh.Action Channel Radio Relay

variable {ρ κ φ : Type} {logSize : Nat} [Timed ρ] [Config.Store κ] [FirmwareUpdater φ]
variable {before after : Station ρ κ φ logSize}

/-! ### Passes -/

/-- The messages that were taken out of the queue in a pass, and those that came into it
meanwhile. -/
structure Turnover where
  taken : List Bytes
  arrived : List Bytes

/-- One pass, in which every step succeeds: messages are taken off the front of the queue and
processed in order, the station does what commands asked for, and sends what is in the outbox. New
messages come behind those that are left. -/
def Pass (before : Station ρ κ φ logSize) (turnover : Turnover) (after : Station ρ κ φ logSize) :
    Prop :=
  ∃ queue applied report,
    before.queuedFrames = turnover.taken ++ queue.frames ∧
    (processQueued : Operation ρ κ φ logSize ChannelError Nat).run before =
      (.ok turnover.taken.length, before.afterIntake turnover.taken queue) ∧
    applyPending.run (before.afterIntake turnover.taken queue) = (.ok (), applied) ∧
    flush.run applied = (.ok report, after) ∧
    after.queuedFrames = queue.frames ++ turnover.arrived

/-- Passes, one after the other, until no message is queued. -/
inductive Drains : Station ρ κ φ logSize → List Turnover → Station ρ κ φ logSize → Prop
  | last {before after turnover} (pass : Pass before turnover after)
      (empty : after.queuedFrames = []) : Drains before [turnover] after
  | again {before middle after turnover turnovers} (pass : Pass before turnover middle)
      (nonempty : middle.queuedFrames ≠ []) (rest : Drains middle turnovers after) :
      Drains before (turnover :: turnovers) after

/-- The outbox is empty, and nothing that commands asked for is left to be done. -/
structure Cleared (station : Station ρ κ φ logSize) : Prop where
  outbox : station.hub.outbox.length = 0
  pending : station.hub.engine.pending = {}

namespace Pass

variable {turnover : Turnover}

theorem cleared (pass : Pass before turnover after) : Cleared after := by
  rcases pass with ⟨queue, applied, report, _, _, apply_eq, flush_eq, _⟩
  have applied_hub := applyPending_hub (before.afterIntake turnover.taken queue)
  rcases flush_hub applied with ⟨outbox, hub_eq, emptied⟩
  rw [apply_eq] at applied_hub
  rw [flush_eq] at hub_eq emptied
  constructor
  · rw [hub_eq]
    exact emptied ⟨report, rfl⟩
  · rw [hub_eq, applied_hub]
    rfl

/-- Every message taken out makes the backlog smaller, and sending does not make it larger. -/
theorem backlog_le [Foreseen ρ] (pass : Pass before turnover after) :
    after.controller.backlog + turnover.taken.length ≤ before.controller.backlog := by
  rcases pass with ⟨queue, applied, report, frames_eq, _, apply_eq, flush_eq, _⟩
  have applied_le := sends_lightens.applyPending.moves (before.afterIntake turnover.taken queue)
  have flushed_le := sends_lightens.flush.moves applied
  rw [apply_eq] at applied_le
  rw [flush_eq] at flushed_le
  have backlog_eq : (before.afterIntake turnover.taken queue).controller.backlog +
      turnover.taken.length = before.controller.backlog := by
    have length_eq := congrArg List.length frames_eq
    rw [List.length_append, queuedFrames, ReceiveQueue.length_frames,
      ReceiveQueue.length_frames] at length_eq
    change queue.length + Timed.horizon before.controller.radio + _ =
      before.controller.queue.length + Timed.horizon before.controller.radio
    omega
  have le : after.controller.backlog ≤
      (before.afterIntake turnover.taken queue).controller.backlog :=
    Nat.le_trans flushed_le applied_le
  omega

/-- With an empty outbox there is room for what a message can bring, so one is taken. -/
theorem taken_ne_nil (pass : Pass before turnover after) (sound : before.controller.queue.Sound)
    (cleared : Cleared before) (nonempty : before.queuedFrames ≠ []) : turnover.taken ≠ [] := by
  rcases pass with ⟨queue, applied, report, _, process_eq, _⟩
  rcases processQueued_takes (ε := ChannelError) sound with ⟨taken, _, taken_eq, _, _, progress⟩
  have room : messageReserve ≤ before.hub.outbox.free := by
    rw [Outbox.free, cleared.outbox]
    decide
  have taken_pos := List.length_pos_of_ne_nil (progress room nonempty)
  have length_eq : turnover.taken.length = taken.length :=
    Except.ok.inj (congrArg Prod.fst (process_eq.symm.trans taken_eq))
  exact List.ne_nil_of_length_pos (length_eq ▸ taken_pos)

theorem sound (pass : Pass before turnover after) (sound : before.controller.queue.Sound) :
    after.controller.queue.Sound := by
  rcases pass with ⟨queue, applied, report, _, process_eq, apply_eq, flush_eq, _⟩
  rcases processQueued_takes (ε := ChannelError) sound with ⟨_, left, taken_eq, _, leftSound, _⟩
  have queue_eq : queue = left :=
    congrArg (fun ended => ended.2.controller.queue) (process_eq.symm.trans taken_eq)
  have applied_lays := sends_lays.applyPending.moves (before.afterIntake turnover.taken queue)
  have flushed_lays := sends_lays.flush.moves applied
  rw [apply_eq] at applied_lays
  rw [flush_eq] at flushed_lays
  exact flushed_lays.sound (applied_lays.sound (queue_eq ▸ leftSound))

end Pass

/-- The three steps of a pass, if they succeed, make one. -/
theorem exists_pass (sound : before.controller.queue.Sound)
    {processed applied : Station ρ κ φ logSize} {more : Nat} {report : FlushReport}
    (process_eq : (processQueued : Operation ρ κ φ logSize ChannelError Nat).run before =
      (.ok more, processed))
    (apply_eq : applyPending.run processed = (.ok (), applied))
    (flush_eq : flush.run applied = (.ok report, after)) :
    ∃ turnover, Pass before turnover after ∧ more = turnover.taken.length := by
  rcases processQueued_takes (ε := ChannelError) sound with
    ⟨taken, queue, taken_eq, frames_eq, queueSound, _⟩
  rw [taken_eq, Prod.mk.injEq, Except.ok.injEq] at process_eq
  rcases process_eq with ⟨more_eq, processed_eq⟩
  rw [← processed_eq] at apply_eq
  have applied_lays := sends_lays.applyPending.moves (before.afterIntake taken queue)
  have flushed_lays := sends_lays.flush.moves applied
  rw [apply_eq] at applied_lays
  rw [flush_eq] at flushed_lays
  have lays : queue.Extends after.controller.queue := applied_lays.trans flushed_lays
  rcases lays.prefix_frames queueSound with ⟨arrived, arrived_eq⟩
  refine ⟨⟨taken, arrived⟩, ⟨queue, applied, report, frames_eq, taken_eq, apply_eq, flush_eq, ?_⟩,
    more_eq.symm⟩
  exact arrived_eq.symm

/-! ### Rounds -/

/-- All messages that were taken out of the queue, in order. -/
def allTaken (turnovers : List Turnover) : List Bytes := turnovers.flatMap Turnover.taken

/-- All messages that came into the queue, in order. -/
def allArrived (turnovers : List Turnover) : List Bytes := turnovers.flatMap Turnover.arrived

namespace Drains

variable {turnovers : List Turnover}

theorem queuedFrames_eq_nil (drains : Drains before turnovers after) : after.queuedFrames = [] := by
  induction drains with
  | last _ empty => exact empty
  | again _ _ _ ih => exact ih

theorem cleared (drains : Drains before turnovers after) : Cleared after := by
  induction drains with
  | last pass _ => exact pass.cleared
  | again _ _ _ ih => exact ih

/-- What was queued and what came in is what was taken out, in that order. -/
theorem allTaken_eq (drains : Drains before turnovers after) :
    allTaken turnovers = before.queuedFrames ++ allArrived turnovers := by
  induction drains with
  | last pass empty =>
      rcases pass with ⟨queue, _, _, frames_eq, _, _, _, left_eq⟩
      rw [empty, eq_comm, List.append_eq_nil_iff] at left_eq
      simp [allTaken, allArrived, frames_eq, left_eq]
  | again pass _ _ ih =>
      rcases pass with ⟨queue, _, _, frames_eq, _, _, _, left_eq⟩
      rw [allTaken, List.flatMap_cons]
      change _ ++ allTaken _ = _
      rw [ih, left_eq, frames_eq]
      simp [allArrived]

theorem taken_ne_nil (drains : Drains before turnovers after)
    (sound : before.controller.queue.Sound) (cleared : Cleared before)
    (nonempty : before.queuedFrames ≠ []) : ∀ turnover ∈ turnovers, turnover.taken ≠ [] := by
  induction drains with
  | last pass _ => simpa using pass.taken_ne_nil sound cleared nonempty
  | again pass left _ ih =>
      intro turnover mem
      rcases List.mem_cons.mp mem with rfl | mem
      · exact pass.taken_ne_nil sound cleared nonempty
      · exact ih (pass.sound sound) pass.cleared left turnover mem

/-- Every pass after the first takes at least one message out. -/
theorem taken_ne_nil_of_mem_tail (drains : Drains before turnovers after)
    (sound : before.controller.queue.Sound) :
    ∀ turnover ∈ turnovers.tail, turnover.taken ≠ [] := by
  cases drains with
  | last _ _ =>
      intro turnover mem
      contradiction
  | again pass nonempty rest => exact rest.taken_ne_nil (pass.sound sound) pass.cleared nonempty

end Drains

/-- The fuel bounds the passes. After the first, each needs one unit of the backlog. -/
def Enough (fuel : Nat) (station : Station ρ κ φ logSize) : Prop :=
  station.controller.backlog + 1 < fuel ∨
    Cleared station ∧ station.queuedFrames ≠ [] ∧ station.controller.backlog < fuel

variable [Foreseen ρ]

theorem Enough.next {fuel : Nat} {turnover : Turnover} (enough : Enough (fuel + 1) before)
    (pass : Pass before turnover after) (sound : before.controller.queue.Sound)
    (nonempty : after.queuedFrames ≠ []) : Enough fuel after := by
  have backlog_le := pass.backlog_le
  refine .inr ⟨pass.cleared, nonempty, ?_⟩
  rcases enough with enough | ⟨cleared, queued, enough⟩
  · omega
  · have taken_pos := List.length_pos_of_ne_nil (pass.taken_ne_nil sound cleared queued)
    omega

theorem exists_drains (fuel processed : Nat) {answer : Nat}
    (sound : before.controller.queue.Sound) (enough : Enough fuel before)
    (drained : (drainUpTo fuel processed).run before = (.ok answer, after)) :
    ∃ turnovers, Drains before turnovers after ∧
      answer = processed + (allTaken turnovers).length := by
  -- Every pass leaves enough fuel for the next one, so the loop never ends for want of it.
  induction fuel generalizing processed before with
  | zero =>
      rcases enough with enough | ⟨_, _, enough⟩
      · omega
      · omega
  | succ fuel ih =>
      rcases exists_of_run_bind_eq_ok drained with ⟨more, processedLeft, process_eq, drained⟩
      rcases exists_of_run_bind_eq_ok drained with ⟨_, applied, apply_eq, drained⟩
      rcases exists_of_run_bind_eq_ok drained with ⟨report, middle, flush_eq, drained⟩
      rcases exists_pass sound process_eq apply_eq flush_eq with ⟨turnover, pass, more_eq⟩
      have decided : (if middle.controller.queued = 0 then pure (processed + more)
          else drainUpTo fuel (processed + more) : Operation ρ κ φ logSize ChannelError Nat).run
            middle = (.ok answer, after) := drained
      split at decided
      · rename_i queued_eq
        simp only [run_pure, Prod.mk.injEq, Except.ok.injEq] at decided
        rcases decided with ⟨answer_eq, rfl⟩
        refine ⟨[turnover], .last pass (ReceiveQueue.length_eq_zero_iff.mp queued_eq), ?_⟩
        simp [← answer_eq, more_eq, allTaken]
      · rename_i queued_ne
        have nonempty : middle.queuedFrames ≠ [] :=
          fun empty => queued_ne (ReceiveQueue.length_eq_zero_iff.mpr empty)
        rcases ih (processed + more) (pass.sound sound) (enough.next pass sound nonempty) decided
          with ⟨turnovers, drains, answer_eq⟩
        refine ⟨turnover :: turnovers, .again pass nonempty drains, ?_⟩
        rw [answer_eq, more_eq, allTaken, allTaken, List.flatMap_cons, List.length_append]
        omega

/-- A round: the station takes off the radio what was received, while the messages `arrived` come
into the queue, goes through passes until no message is queued, and listens as the relay lists call
for. -/
def Round (before : Station ρ κ φ logSize) (arrived : List Bytes) (turnovers : List Turnover)
    (after : Station ρ κ φ logSize) : Prop :=
  ∃ received drained, receive.run before = (.ok (), received) ∧
    received.queuedFrames = before.queuedFrames ++ arrived ∧ Drains received turnovers drained ∧
    followPolicy.run drained = (.ok (), after)

theorem exists_round {processed : Nat} (sound : before.controller.queue.Sound)
    (polled : poll.run before = (.ok processed, after)) :
    ∃ arrived turnovers, Round before arrived turnovers after ∧
      processed = (allTaken turnovers).length ∧
      ∀ turnover ∈ turnovers.tail, turnover.taken ≠ [] := by
  rcases poll_parts polled with ⟨received, drained, receive_eq, drain_eq, follow_eq⟩
  have received_lays := (idles_lays.toRecovers.receive
    Controller.lays_serviceReceiver.unless).of_ok receive_eq
  rcases received_lays.prefix_frames sound with ⟨arrived, arrived_eq⟩
  have receivedSound : received.controller.queue.Sound := received_lays.sound sound
  have enough : Enough (received.controller.queued + Timed.horizon received.controller.radio + 2)
      received := .inl (Nat.lt_succ_self _)
  rcases exists_drains _ 0 receivedSound enough drain_eq with ⟨turnovers, drains, drained_eq⟩
  refine ⟨arrived, turnovers, ⟨received, drained, receive_eq, arrived_eq.symm, drains, follow_eq⟩,
    ?_, drains.taken_ne_nil_of_mem_tail receivedSound⟩
  rw [drained_eq, Nat.zero_add]

omit [Foreseen ρ] in
/-- What was queued, what came off the radio at the start and what came in meanwhile is what was
taken out, in that order. -/
theorem Round.allTaken_eq {arrived : List Bytes} {turnovers : List Turnover}
    (round : Round before arrived turnovers after) :
    allTaken turnovers = before.queuedFrames ++ arrived ++ allArrived turnovers := by
  rcases round with ⟨received, drained, _, frames_eq, drains, _⟩
  rw [drains.allTaken_eq, frames_eq]

theorem Round.drained {arrived : List Bytes} {turnovers : List Turnover}
    (round : Round before arrived turnovers after) :
    after.controller.queued = 0 ∧ Cleared after ∧ after.controller.idle = after.idlePolicy := by
  rcases round with ⟨received, drained, _, _, drains, follow_eq⟩
  rcases followPolicy_idle drained with ⟨hub_eq, idle_eq⟩
  have rests := idles_rests.followPolicy.moves drained
  rw [follow_eq] at hub_eq idle_eq rests
  have queue_eq : after.controller.queue = drained.controller.queue := rests.queue_eq
  have cleared := drains.cleared
  refine ⟨?_, ⟨?_, ?_⟩, ?_⟩
  · rw [Controller.queued, queue_eq]
    exact ReceiveQueue.length_eq_zero_iff.mpr drains.queuedFrames_eq_nil
  · rw [hub_eq]
    exact cleared.outbox
  · rw [hub_eq]
    exact cleared.pending
  · rw [idle_eq, idlePolicy, idlePolicy, hub_eq]

/-- A round that succeeds drains the station. Nothing is queued or pending any longer, and the idle
state is the one the relay lists call for. The messages that were queued, those that came off the
radio at the start and those that came in meanwhile were processed in this order, each of them once
and none besides, and the answer is their number. Every pass after the first took out at least one
of them. -/
theorem poll_drains (radio : ρ) (services : Services κ φ logSize) (base : Settings)
    (hostSettings : HostSettings) (host : HostLine) (seed : UInt64) (generator : Generator)
    (calls : List (Call ρ κ φ logSize)) {processed : Nat} {left : Station ρ κ φ logSize}
    (polled : poll.run ((new radio services base hostSettings host seed generator).run calls) =
      (.ok processed, left)) :
    let station := (new radio services base hostSettings host seed generator).run calls
    (left.controller.queued = 0 ∧ left.hub.outbox.length = 0 ∧ left.hub.engine.pending = {} ∧
      left.controller.idle = left.idlePolicy) ∧
    ∃ arrived turnovers, Round station arrived turnovers left ∧
      allTaken turnovers = station.queuedFrames ++ arrived ++ allArrived turnovers ∧
      processed = (allTaken turnovers).length ∧
      ∀ turnover ∈ turnovers.tail, turnover.taken ≠ [] := by
  have sound := sound_run_new radio services base hostSettings host seed generator calls
  rcases exists_round sound polled with ⟨arrived, turnovers, round, processed_eq, progress⟩
  rcases round.drained with ⟨queued_eq, cleared, idle_eq⟩
  exact ⟨⟨queued_eq, cleared.outbox, cleared.pending, idle_eq⟩,
    arrived, turnovers, round, round.allTaken_eq, processed_eq, progress⟩

/-- Services of a station that does not hold back after a busy channel. -/
def eagerServices : Services Config.Settings RuleUpdater 0 where
  config := { csmaPersistence := 255 }
  firmware := .declines

/-- A radio that announces a message to be relayed. When the station probes the channel it is busy,
and another such message arrives. -/
def busyRadio : Bench Echo where
  device :=
    { up := true, signal := { waiting := true, counter := 1 }, buffer := [0xD0, 9, 1] }
  planned := [⟨1000, .busy 1⟩, ⟨1000, .inject [0xD0, 8, 2] true⟩]

/-- A station that was started and has that radio now. -/
def interrupted : Station (Bench Echo) Config.Settings RuleUpdater 0 :=
  (new busyRadio eagerServices {} {} {} 1).run [.start, .outside busyRadio eagerServices {}]

theorem poll_drains_interrupted :
    ∃ left arrived turnovers, poll.run interrupted = (.ok 2, left) ∧ left.controller.queued = 0 ∧
      Round interrupted arrived turnovers left ∧
      allTaken turnovers = arrived ++ allArrived turnovers ∧ (allTaken turnovers).length = 2 := by
  have answered : (poll.run interrupted).1.toOption = some 2 := by decide +kernel
  have none_queued : interrupted.queuedFrames = [] := by decide +kernel
  rcases polled : poll.run interrupted with ⟨cause | processed, left⟩
  · rw [polled] at answered
    contradiction
  · rw [polled] at answered
    have processed_eq : processed = 2 := Option.some.inj answered
    subst processed_eq
    have drains := poll_drains busyRadio eagerServices {} {} {} 1 .wyRand
      [.start, .outside busyRadio eagerServices {}] polled
    rcases drains with ⟨⟨queued_eq, _⟩, arrived, turnovers, round, taken_eq, length_eq, _⟩
    change allTaken turnovers = interrupted.queuedFrames ++ arrived ++ allArrived turnovers
      at taken_eq
    rw [none_queued, List.nil_append] at taken_eq
    exact ⟨left, arrived, turnovers, rfl, queued_eq, round, taken_eq, length_eq.symm⟩

end StationMesh.Station
