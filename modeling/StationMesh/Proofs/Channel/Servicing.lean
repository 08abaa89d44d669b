import StationMesh.Channel.CarrierSense
import StationMesh.Proofs.Channel.Fifo
import StationMesh.Proofs.Invariant

/-!
# Following the controller through its operations

Taking a frame off the radio ends in one of a few ways, and each has its equation here. All that is
made of it, from a slot that passes to a transmission, is a matter of putting steps together:
whatever relates the state before and after each basic step also relates the state before and after
the whole.
-/

namespace StationMesh.Channel

theorem Statistics.accessDelay_recordLost (count : Nat) (statistics : Statistics) :
    (statistics.recordLost count).accessDelay = statistics.accessDelay := by
  induction count generalizing statistics with
  | zero => rfl
  | succ count ih => exact ih _

namespace Controller

open Radio StationMesh.Action

variable {ρ α : Type} [Timed ρ] {controller : Controller ρ} {room : Nat}

/-! ### Taking one frame off the radio -/

/-- The radio after what it announces was taken note of. -/
def heeded (radio : ρ) : ρ :=
  let radio := Device.attend radio
  if (Device.signal radio).waiting then Device.acknowledge radio else radio

/-- A frame is announced once the radio was attended to. -/
def Announces (radio : ρ) : Prop := (Device.signal (Device.attend radio)).waiting = true

instance (radio : ρ) : Decidable (Announces radio) := inferInstanceAs (Decidable (_ = _))

/-- The packet counter that was taken note of last, once the radio was attended to. -/
def counted (controller : Controller ρ) : UInt16 :=
  (Device.signal (Device.attend controller.radio)).announced.getD controller.lastCounter

theorem run_takeAnnounced (controller : Controller ρ) :
    (takeAnnounced : Operation ρ UInt16).run controller =
      (.ok (controller.counted - controller.lastCounter),
        { controller with
          radio := heeded controller.radio
          lastCounter := controller.counted }) := by
  simp only [takeAnnounced, adjust, run_bind, run_modify, run_get, heeded, counted,
    Signal.announced]
  by_cases waiting : (Device.signal (Device.attend controller.radio)).waiting
  · simp only [if_pos waiting, Option.getD_some]
    rfl
  · simp only [if_neg waiting, Option.getD_none, UInt16.sub_self]
    rfl

theorem run_readIfPossible_of_silent (silent : ¬Announces controller.radio) :
    (readIfPossible : Operation ρ _).run controller =
      (.ok none, { controller with radio := Device.attend controller.radio }) := by
  rw [Announces, Bool.not_eq_true] at silent
  simp [readIfPossible, adjust, run_bind, silent]

theorem run_readIfPossible_of_full (announces : Announces controller.radio)
    (full : controller.queue.writable = none) :
    (readIfPossible : Operation ρ _).run controller =
      (.error .queueFull, { controller with radio := Device.attend controller.radio }) := by
  rw [Announces] at announces
  simp [readIfPossible, adjust, run_bind, announces, full]

theorem run_readIfPossible_of_tooSmall (announces : Announces controller.radio)
    (writable : controller.queue.writable = some room) {radio : ρ}
    (refused : (Device.read room : Radio.Operation ρ _).run (Device.attend controller.radio) =
      (.error .bufferTooSmall, radio)) :
    (readIfPossible : Operation ρ _).run controller =
      (.error .queueFull, { controller with radio }) := by
  rw [Announces] at announces
  simp [readIfPossible, adjust, run_bind, announces, writable, onRadio, refused, Except.mapError]

/-- After a read that failed, all frames that were announced are lost. -/
theorem run_readIfPossible_of_failed (announces : Announces controller.radio)
    (writable : controller.queue.writable = some room) {error : DeviceError} {radio : ρ}
    (failed : (Device.read room : Radio.Operation ρ _).run (Device.attend controller.radio) =
      (.error error, radio))
    (error_ne : error ≠ .bufferTooSmall) :
    let counted := { controller with radio }.counted
    (readIfPossible : Operation ρ _).run controller =
      (enterIdle >>= fun _ => throw (.driverFault error)).run
        { controller with
          radio := heeded radio
          statistics := controller.statistics.recordLost (counted - controller.lastCounter).toNat
          lastCounter := counted } := by
  rw [Announces] at announces
  simp [readIfPossible, adjust, run_bind, announces, writable, onRadio, failed, Except.mapError,
    run_takeAnnounced, tally, error_ne]

/-- Of the frames that were announced, all but the one that was read are lost. That one is lost if
it failed its check, and laid down otherwise. -/
theorem run_readIfPossible_of_received (announces : Announces controller.radio)
    (writable : controller.queue.writable = some room) {reception : Reception} {radio : ρ}
    (answered : (Device.read room : Radio.Operation ρ _).run (Device.attend controller.radio) =
      (.ok reception, radio)) :
    let counted := { controller with radio }.counted
    let lost := (counted - controller.lastCounter).toNat - 1
    let statistics :=
      ((controller.statistics.recordLost lost).recordReceived).recordCheck reception.intact
    (readIfPossible : Operation ρ _).run controller =
      if reception.intact then
        (enterIdle >>= fun _ => pure (some reception.data.length)).run
          { controller with
            radio := heeded radio
            queue := controller.queue.lay reception.data
            statistics
            lastCounter := counted }
      else
        (enterIdle >>= fun _ => throw .crcMismatch).run
          { controller with radio := heeded radio, statistics, lastCounter := counted } := by
  rw [Announces] at announces
  cases intact : reception.intact with
  | true =>
      simp [readIfPossible, adjust, run_bind, announces, writable, onRadio, answered,
        Except.mapError, run_takeAnnounced, tally, ReceiveQueue.lay, intact, -bind_pure_comp]
  | false =>
      simp [readIfPossible, adjust, run_bind, announces, writable, onRadio, answered,
        Except.mapError, run_takeAnnounced, tally, intact, -bind_pure_comp]

theorem run_readIfPossible_of_error (announces : Announces controller.radio)
    (writable : controller.queue.writable = some room) {error : DeviceError} {radio : ρ}
    (failed : (Device.read room : Radio.Operation ρ _).run (Device.attend controller.radio) =
      (.error error, radio))
    (error_ne : error ≠ .bufferTooSmall) :
    ∃ statistics lastCounter, (readIfPossible : Operation ρ _).run controller =
      (enterIdle >>= fun _ => throw (.driverFault error)).run
        { controller with radio := heeded radio, statistics, lastCounter } :=
  ⟨_, _, run_readIfPossible_of_failed announces writable failed error_ne⟩

theorem run_readIfPossible_of_ok (announces : Announces controller.radio)
    (writable : controller.queue.writable = some room) {reception : Reception} {radio : ρ}
    (answered : (Device.read room : Radio.Operation ρ _).run (Device.attend controller.radio) =
      (.ok reception, radio)) :
    ∃ statistics lastCounter, statistics.accessDelay = controller.statistics.accessDelay ∧
      (readIfPossible : Operation ρ _).run controller =
        if reception.intact then
          (enterIdle >>= fun _ => pure (some reception.data.length)).run
            { controller with
              radio := heeded radio
              queue := controller.queue.lay reception.data
              statistics
              lastCounter }
        else
          (enterIdle >>= fun _ => throw .crcMismatch).run
            { controller with radio := heeded radio, statistics, lastCounter } := by
  refine ⟨_, _, ?_, run_readIfPossible_of_received announces writable answered⟩
  exact Statistics.accessDelay_recordLost _ _

/-- All that a try to take a frame off the radio can come to. -/
theorem readIfPossible_cases (controller : Controller ρ) :
    (¬Announces controller.radio ∧ (readIfPossible : Operation ρ _).run controller =
      (.ok none, { controller with radio := Device.attend controller.radio })) ∨
    (Announces controller.radio ∧ (readIfPossible : Operation ρ _).run controller =
      (.error .queueFull, { controller with radio := Device.attend controller.radio })) ∨
    (∃ room radio, Announces controller.radio ∧
      (Device.read room : Radio.Operation ρ _).run (Device.attend controller.radio) =
        (.error .bufferTooSmall, radio) ∧
      (readIfPossible : Operation ρ _).run controller =
        (.error .queueFull, { controller with radio })) ∨
    (∃ room error radio statistics lastCounter,
      error ≠ .bufferTooSmall ∧ Announces controller.radio ∧
      (Device.read room : Radio.Operation ρ _).run (Device.attend controller.radio) =
        (.error error, radio) ∧
      (readIfPossible : Operation ρ _).run controller =
        (enterIdle >>= fun _ => throw (.driverFault error)).run
          { controller with radio := heeded radio, statistics, lastCounter }) ∨
    ∃ room reception radio statistics lastCounter,
      statistics.accessDelay = controller.statistics.accessDelay ∧ Announces controller.radio ∧
      (Device.read room : Radio.Operation ρ _).run (Device.attend controller.radio) =
        (.ok reception, radio) ∧
      (readIfPossible : Operation ρ _).run controller =
        if reception.intact then
          (enterIdle >>= fun _ => pure (some reception.data.length)).run
            { controller with
              radio := heeded radio
              queue := controller.queue.lay reception.data
              statistics
              lastCounter }
        else
          (enterIdle >>= fun _ => throw .crcMismatch).run
            { controller with radio := heeded radio, statistics, lastCounter } := by
  by_cases announces : Announces controller.radio
  · right
    cases writable : controller.queue.writable with
    | none => exact .inl ⟨announces, run_readIfPossible_of_full announces writable⟩
    | some room =>
        right
        rcases read : (Device.read room : Radio.Operation ρ _).run
          (Device.attend controller.radio) with ⟨error | reception, radio⟩
        · by_cases tooSmall : error = .bufferTooSmall
          · subst tooSmall
            left
            exact ⟨room, radio, announces, read,
              run_readIfPossible_of_tooSmall announces writable read⟩
          · rcases run_readIfPossible_of_error announces writable read tooSmall with
              ⟨statistics, lastCounter, run_eq⟩
            right
            left
            exact ⟨room, error, radio, statistics, lastCounter, tooSmall, announces, read, run_eq⟩
        · rcases run_readIfPossible_of_ok announces writable read with
            ⟨statistics, lastCounter, delay_eq, run_eq⟩
          right
          right
          exact
            ⟨room, reception, radio, statistics, lastCounter, delay_eq, announces, read, run_eq⟩
  · left
    exact ⟨announces, run_readIfPossible_of_silent announces⟩

/-! ### Putting the radio into the idle state -/

/-- Enough about a relation to follow the controller while it puts the radio into an idle state. -/
structure Rearms (step : Controller ρ → Controller ρ → Prop) : Prop where
  refl : ∀ controller, step controller controller
  trans : ∀ {first second third}, step first second → step second third → step first third
  note : ∀ idle controller, step controller { controller with idle }
  preset : ∀ length, (adjust (Device.setPreamble .receive length) : Operation ρ Unit).Moves step
  listen : (onRadio Device.listen : Operation ρ Unit).Moves step
  dutyCycle : (onRadio Device.dutyCycle : Operation ρ Unit).Moves step
  sleep : (onRadio Device.sleep : Operation ρ Unit).Moves step

/-- Enough to follow the controller while it also brings the radio up. -/
structure Enters (step : Controller ρ → Controller ρ → Prop) : Prop extends Rearms step where
  bringUp : (onRadio Device.bringUp : Operation ρ Unit).Moves step

section

variable {step : Controller ρ → Controller ρ → Prop}

theorem Rearms.enterIdle (rearms : Rearms step) : (enterIdle : Operation ρ Unit).Moves step := by
  simp only [Controller.enterIdle]
  apply (moves_get rearms.refl).bind rearms.trans
  intro controller
  cases controller.idle with
  | uninitialized => exact moves_pure rearms.refl ()
  | continuousReceive => exact (rearms.preset _).bind rearms.trans fun _ => rearms.listen
  | intermittentReceive => exact (rearms.preset _).bind rearms.trans fun _ => rearms.dutyCycle
  | sleep => exact rearms.sleep

theorem Rearms.setIdle (rearms : Rearms step) (idle : IdleState) :
    (setIdle idle : Operation ρ Unit).Moves step := by
  have noted : (do
      modify fun controller => { controller with idle }
      Controller.enterIdle : Operation ρ Unit).Moves step :=
    (moves_modify (rearms.note idle)).bind rearms.trans fun _ => rearms.enterIdle
  simp only [Controller.setIdle]
  split
  · exact (moves_throw rearms.refl _).bind rearms.trans fun _ => noted
  · exact noted

theorem Enters.reinitialize (enters : Enters step) :
    (Controller.reinitialize : Operation ρ Unit).Moves step :=
  enters.bringUp.bind enters.trans fun _ => enters.enterIdle

end

/-! ### From the steps to the whole -/

section Steps

variable {excused : ChannelError → Prop} {step : Controller ρ → Controller ρ → Prop}

/-- Enough about a relation to follow an operation from step to step. Nothing but driver faults is
excused, because all other errors are let pass. -/
structure Follows (excused : ChannelError → Prop) (step : Controller ρ → Controller ρ → Prop) :
    Prop where
  refl : ∀ controller, step controller controller
  trans : ∀ {first second third}, step first second → step second third → step first third
  isFault : ∀ {cause}, excused cause → ∃ error, cause = .driverFault error

/-- Enough to follow the controller while it takes one frame off the radio. -/
structure Takes (excused : ChannelError → Prop) (step : Controller ρ → Controller ρ → Prop) :
    Prop extends Follows excused step where
  enterIdle : (enterIdle : Operation ρ Unit).MovesUnless excused step
  attend : ∀ controller, step controller { controller with radio := Device.attend controller.radio }
  refused : ∀ {controller room radio}, Announces controller.radio →
    (Device.read room : Radio.Operation ρ _).run (Device.attend controller.radio) =
      (.error .bufferTooSmall, radio) →
    step controller { controller with radio }
  failed : ∀ {controller room error radio}, Announces controller.radio →
    (Device.read room : Radio.Operation ρ _).run (Device.attend controller.radio) =
      (.error error, radio) →
    ∀ statistics lastCounter,
      step controller { controller with radio := heeded radio, statistics, lastCounter }
  taken : ∀ {controller room reception radio}, Announces controller.radio →
    (Device.read room : Radio.Operation ρ _).run (Device.attend controller.radio) =
      (.ok reception, radio) →
    ∀ statistics lastCounter, step controller
      { controller with
        radio := heeded radio
        queue := if reception.intact then controller.queue.lay reception.data else controller.queue
        statistics
        lastCounter }

/-- Enough to follow the controller while it takes frames off the radio. -/
structure Serves (excused : ChannelError → Prop) (step : Controller ρ → Controller ρ → Prop) :
    Prop extends Follows excused step where
  read : (readIfPossible : Operation ρ (Option Nat)).MovesUnless excused step

/-- Enough to follow the controller while it waits for the channel. -/
structure Waits (excused : ChannelError → Prop) (step : Controller ρ → Controller ρ → Prop) :
    Prop extends Serves excused step where
  wait : ∀ time controller,
    step controller { controller with radio := Timed.waitUntil time controller.radio }
  draw : ∀ random controller, step controller { controller with random }
  record : ∀ statistics controller, step controller { controller with statistics }
  probe : (probe : Operation ρ Activity).MovesUnless excused step

namespace Follows

omit [Timed ρ] in
theorem get (follows : Follows excused step) :
    (get : Operation ρ (Controller ρ)).MovesUnless excused step :=
  (moves_get follows.refl).unless

omit [Timed ρ] in
theorem pure (follows : Follows excused step) (value : α) :
    (pure value : Operation ρ α).MovesUnless excused step :=
  (moves_pure follows.refl value).unless

omit [Timed ρ] in
theorem throw (follows : Follows excused step) (cause : ChannelError) :
    (throw cause : Operation ρ α).MovesUnless excused step :=
  (moves_throw follows.refl cause).unless

theorem now (follows : Follows excused step) :
    (now : Operation ρ Nat).MovesUnless excused step := by
  apply follows.get.bind follows.trans
  intro controller
  exact follows.pure _

theorem senseCarrier (follows : Follows excused step)
    (record : ∀ statistics controller, step controller { controller with statistics })
    (contends : ∀ deadline fuel,
      (contend deadline fuel false : Operation ρ Unit).MovesUnless excused step) :
    (senseCarrier : Operation ρ Nat).MovesUnless excused step := by
  apply follows.now.bind follows.trans
  intro start
  apply follows.get.bind follows.trans
  intro controller
  apply (contends _ _).bind follows.trans
  intro _
  apply follows.now.bind follows.trans
  intro time
  have tallied :
      (tally (.recordDelay (time - start)) : Operation ρ Unit).MovesUnless excused step :=
    (moves_modify fun _ => record _ _).unless
  exact tallied.bind follows.trans fun _ => follows.pure _

theorem transmit (follows : Follows excused step)
    (senses : (Controller.senseCarrier : Operation ρ Nat).MovesUnless excused step)
    {data : Bytes} (sends : ∀ length, (do
      adjust (Device.setPreamble .transmit length)
      onRadio (Device.transmit data)
      enterIdle : Operation ρ Unit).MovesUnless excused step)
    (preamble : Preamble) :
    (transmit data preamble : Operation ρ Unit).MovesUnless excused step := by
  apply senses.bind follows.trans
  intro _
  apply follows.get.bind follows.trans
  intro controller
  exact sends _

end Follows

namespace Takes

/-- Once a frame was taken note of, the radio is put back into the idle state. -/
theorem enterIdle_bind (takes : Takes excused step) {before : Controller ρ}
    (moved : step before controller) {next : Operation ρ α}
    (ends : next.MovesUnless excused step) :
    (Controller.enterIdle >>= fun _ => next).StopsExcused excused controller ∨
      step before ((Controller.enterIdle >>= fun _ => next).run controller).2 :=
  (takes.enterIdle.bind takes.trans (fun _ => ends) controller).imp id (takes.trans moved)

theorem readIfPossible (takes : Takes excused step) :
    (readIfPossible : Operation ρ (Option Nat)).MovesUnless excused step := by
  intro controller
  rw [StopsExcused]
  rcases readIfPossible_cases controller with
    ⟨_, run_eq⟩ | ⟨_, run_eq⟩ | ⟨room, radio, announces, read, run_eq⟩ |
    ⟨room, error, radio, statistics, lastCounter, _, announces, read, run_eq⟩ |
    ⟨room, reception, radio, statistics, lastCounter, _, announces, read, run_eq⟩
  · rw [run_eq]
    exact .inr (takes.attend controller)
  · rw [run_eq]
    exact .inr (takes.attend controller)
  · rw [run_eq]
    exact .inr (takes.refused announces read)
  · rw [run_eq]
    exact takes.enterIdle_bind (takes.failed announces read statistics lastCounter) (takes.throw _)
  · rw [run_eq]
    have taken := takes.taken announces read statistics lastCounter
    split
    · rename_i intact
      rw [if_pos intact] at taken
      exact takes.enterIdle_bind taken (takes.pure _)
    · rename_i broken
      rw [if_neg broken] at taken
      exact takes.enterIdle_bind taken (takes.throw _)

theorem serves (takes : Takes excused step) : Serves excused step where
  toFollows := takes.toFollows
  read := takes.readIfPossible

end Takes

namespace Serves

theorem serviceUpTo (serves : Serves excused step) (fuel received : Nat) :
    (serviceUpTo fuel received : Operation ρ Nat).MovesUnless excused step := by
  induction fuel generalizing received with
  | zero => exact serves.pure received
  | succ fuel ih =>
      simp only [Controller.serviceUpTo]
      apply serves.read.attempt_bind serves.trans
      · intro value
        cases value with
        | none => exact serves.pure received
        | some length => exact ih (received + 1)
      · intro cause _
        cases cause with
        | queueFull => exact serves.pure received
        | crcMismatch => exact ih received
        | timeout => exact serves.throw _
        | invalidState => exact serves.throw _
        | driverFault error => exact serves.throw _
      · -- The loop passes a driver fault on, so nothing has to be made good.
        intro cause isExcused
        rcases serves.isFault isExcused with ⟨error, rfl⟩
        exact restores_throw isExcused

theorem serviceReceiver (serves : Serves excused step) :
    (serviceReceiver : Operation ρ Nat).MovesUnless excused step := by
  apply serves.get.bind serves.trans
  intro controller
  exact serves.serviceUpTo _ 0

end Serves

namespace Waits

theorem waitSlotUpTo (waits : Waits excused step) (slotEnd fuel : Nat) :
    (waitSlotUpTo slotEnd fuel : Operation ρ Unit).MovesUnless excused step := by
  induction fuel with
  | zero => exact waits.pure ()
  | succ fuel ih =>
      simp only [Controller.waitSlotUpTo]
      apply waits.serviceReceiver.bind waits.trans
      intro _
      apply waits.now.bind waits.trans
      intro time
      have waited : (adjust (Timed.waitUntil (time + min (slotEnd - time) serviceInterval)) :
          Operation ρ Unit).MovesUnless excused step := (moves_modify (waits.wait _)).unless
      exact (waits.pure ()).ite (waited.bind waits.trans fun _ => ih)

theorem waitSlot (waits : Waits excused step) :
    (waitSlot : Operation ρ Unit).MovesUnless excused step := by
  apply waits.get.bind waits.trans
  intro controller
  apply waits.now.bind waits.trans
  intro time
  exact waits.waitSlotUpTo _ _

theorem drawByte (waits : Waits excused step) :
    (drawByte : Operation ρ UInt8).MovesUnless excused step := by
  intro controller
  exact .inr (waits.draw _ controller)

theorem probe_bind (waits : Waits excused step) {next : Activity → Operation ρ α}
    (free : (next .free).MovesUnless excused step) (busy : (next .busy).MovesUnless excused step) :
    (Controller.probe >>= next).MovesUnless excused step := by
  apply waits.probe.bind waits.trans
  intro activity
  cases activity with
  | free => exact free
  | busy => exact busy

theorem awaitFree (waits : Waits excused step) (deadline fuel : Nat) :
    (awaitFree deadline fuel : Operation ρ Unit).MovesUnless excused step := by
  induction fuel with
  | zero => exact waits.throw _
  | succ fuel ih =>
      simp only [Controller.awaitFree]
      apply waits.serviceReceiver.bind waits.trans
      intro _
      apply waits.now.bind waits.trans
      intro time
      apply MovesUnless.ite
      · apply (waits.throw _).bind waits.trans
        intro _
        exact waits.probe_bind (waits.pure ()) ih
      · exact waits.probe_bind (waits.pure ()) ih

/-- A round may begin with a slot, and ends when the first probe finds the channel free. -/
theorem contend (waits : Waits excused step) (deadline fuel : Nat) (heardBusy : Bool) :
    (contend deadline fuel heardBusy : Operation ρ Unit).MovesUnless excused step := by
  induction fuel generalizing heardBusy with
  | zero => exact waits.throw _
  | succ fuel ih =>
      have again : (do
          Controller.awaitFree deadline (deadline - (← Controller.now) + 1)
          Controller.contend deadline fuel true : Operation ρ Unit).MovesUnless excused step := by
        apply waits.now.bind waits.trans
        intro time
        exact (waits.awaitFree _ _).bind waits.trans fun _ => ih true
      simp only [Controller.contend]
      apply MovesUnless.ite
      · apply waits.get.bind waits.trans
        intro controller
        apply waits.drawByte.bind waits.trans
        intro byte
        apply MovesUnless.ite
        · apply waits.waitSlot.bind waits.trans
          intro _
          exact waits.probe_bind (waits.pure ()) again
        · exact waits.probe_bind (waits.pure ()) again
      · exact waits.probe_bind (waits.pure ()) again

theorem senseCarrier (waits : Waits excused step) :
    (senseCarrier : Operation ρ Nat).MovesUnless excused step :=
  waits.toFollows.senseCarrier waits.record fun deadline fuel => waits.contend deadline fuel false

end Waits

end Steps

/-! ### Relations that do not look at the radio -/

/-- Enough about a relation that holds however the radio changes. -/
structure Overlooks (step : Controller ρ → Controller ρ → Prop) : Prop where
  refl : ∀ controller, step controller controller
  trans : ∀ {first second third}, step first second → step second third → step first third
  idle : ∀ idle controller, step controller { controller with idle }
  radio : ∀ radio controller, step controller { controller with radio }
  random : ∀ random controller, step controller { controller with random }
  note : ∀ statistics lastCounter controller,
    step controller { controller with statistics, lastCounter }
  lay : ∀ data controller, step controller { controller with queue := controller.queue.lay data }

namespace Overlooks

variable {step : Controller ρ → Controller ρ → Prop}

omit [Timed ρ] in
theorem onRadio (overlooks : Overlooks step) (operation : Radio.Operation ρ α) :
    (onRadio operation).Moves step :=
  fun controller => overlooks.radio _ controller

theorem enters (overlooks : Overlooks step) : Enters step where
  refl := overlooks.refl
  trans := overlooks.trans
  note := overlooks.idle
  preset _ controller := overlooks.radio _ controller
  bringUp := overlooks.onRadio _
  listen := overlooks.onRadio _
  dutyCycle := overlooks.onRadio _
  sleep := overlooks.onRadio _

omit [Timed ρ] in
theorem noted (overlooks : Overlooks step) (radio : ρ) (statistics : Statistics)
    (lastCounter : UInt16) (controller : Controller ρ) :
    step controller { controller with radio, statistics, lastCounter } :=
  overlooks.trans (overlooks.radio radio controller) (overlooks.note statistics lastCounter _)

theorem takes (overlooks : Overlooks step) : Takes (fun _ => False) step where
  refl := overlooks.refl
  trans := overlooks.trans
  isFault := False.elim
  enterIdle := overlooks.enters.enterIdle.unless
  attend controller := overlooks.radio _ controller
  refused _ _ := overlooks.radio _ _
  failed _ _ statistics lastCounter := overlooks.noted _ statistics lastCounter _
  taken {controller _ reception radio} _ _ statistics lastCounter := by
    have noted := overlooks.noted (heeded radio) statistics lastCounter controller
    split
    · exact overlooks.trans noted (overlooks.lay reception.data _)
    · exact noted

theorem waits (overlooks : Overlooks step) : Waits (fun _ => False) step where
  toServes := overlooks.takes.serves
  wait _ controller := overlooks.radio _ controller
  draw := overlooks.random
  record statistics controller := overlooks.note statistics controller.lastCounter controller
  probe := (overlooks.onRadio _).unless

theorem serviceReceiver (overlooks : Overlooks step) :
    (serviceReceiver : Operation ρ Nat).Moves step :=
  overlooks.waits.serviceReceiver.moves

theorem transmit (overlooks : Overlooks step) (data : Bytes) (preamble : Preamble) :
    (transmit data preamble : Operation ρ Unit).Moves step := by
  apply MovesUnless.moves
  apply overlooks.waits.transmit overlooks.waits.senseCarrier
  intro length
  have preset : (adjust (Device.setPreamble .transmit length) : Operation ρ Unit).Moves step :=
    fun controller => overlooks.radio _ controller
  apply Moves.unless
  apply preset.bind overlooks.trans
  intro _
  exact (overlooks.onRadio _).bind overlooks.trans fun _ => overlooks.enters.enterIdle

end Overlooks

/-! ### The idle state -/

/-- The idle state is as it was. -/
def SameIdle (before after : Controller ρ) : Prop := after.idle = before.idle

omit [Timed ρ] in
theorem SameIdle.trans {first second third : Controller ρ} (former : SameIdle first second)
    (latter : SameIdle second third) : SameIdle first third :=
  Eq.trans latter former

theorem sameIdle_enterIdle : (enterIdle : Operation ρ Unit).Moves SameIdle := by
  intro controller
  simp only [enterIdle, run_bind, run_get]
  split <;> rfl

theorem sameIdle_reinitialize : (Controller.reinitialize : Operation ρ Unit).Moves SameIdle := by
  have broughtUp : (onRadio Device.bringUp : Operation ρ Unit).Moves SameIdle := fun _ => rfl
  exact broughtUp.bind SameIdle.trans fun _ => sameIdle_enterIdle

/-- The change of the idle state is noted before the radio follows. -/
theorem idle_setIdle {idle : IdleState} (idle_ne : idle ≠ .uninitialized)
    (controller : Controller ρ) :
    ((setIdle idle : Operation ρ Unit).run controller).2.idle = idle := by
  rw [setIdle, if_neg idle_ne, run_bind, run_modify]
  exact sameIdle_enterIdle { controller with idle }

theorem takes_sameIdle :
    Takes (fun _ => False) (SameIdle : Controller ρ → Controller ρ → Prop) where
  refl _ := rfl
  trans := SameIdle.trans
  isFault := False.elim
  enterIdle := sameIdle_enterIdle.unless
  attend _ := rfl
  refused _ _ := rfl
  failed _ _ _ _ := rfl
  taken _ _ _ _ := rfl

theorem waits_sameIdle :
    Waits (fun _ => False) (SameIdle : Controller ρ → Controller ρ → Prop) where
  toServes := takes_sameIdle.serves
  wait _ _ := rfl
  draw _ _ := rfl
  record _ _ := rfl
  probe := Moves.unless fun _ => rfl

theorem sameIdle_transmit (data : Bytes) (preamble : Preamble) :
    (transmit data preamble : Operation ρ Unit).Moves SameIdle := by
  apply MovesUnless.moves
  apply waits_sameIdle.transmit waits_sameIdle.senseCarrier
  intro length
  have sent : (onRadio (Device.transmit data) : Operation ρ Unit).Moves SameIdle := fun _ => rfl
  apply Moves.unless
  intro controller
  exact (sent.bind SameIdle.trans fun _ => sameIdle_enterIdle) _

end Controller

end StationMesh.Channel
