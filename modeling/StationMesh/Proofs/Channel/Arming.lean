import StationMesh.Proofs.Channel.Servicing
import StationMesh.Proofs.Channel.Session
import StationMesh.Proofs.Radio.Readiness

/-!
# The radio and the idle state

The controller notes its idle state, and the radio is put into it. The two drift apart when the
radio fails, since the note stays as it was made. Short of a driver fault they stay together: a
controller whose radio was in the idle state leaves it so, and bringing the radio up puts it there
from any state. So in a session the radio is only ever out of the idle state from a fault until it
is brought up again.
-/

namespace StationMesh.Channel

open Radio StationMesh.Action

/-- What the receiver does in an idle state. -/
def IdleState.mode : IdleState → Mode
  | .uninitialized => .standby
  | .continuousReceive => .continuous
  | .intermittentReceive => .dutyCycle
  | .sleep => .sleep

/-- The radio failed. -/
def ChannelError.IsFault (cause : ChannelError) : Prop := ∃ error, cause = .driverFault error

namespace Controller

open ChannelError (IsFault)
open Echo (Untouched)

variable {before after controller : Controller (Bench Echo)} {idle : IdleState}

/-- The radio is up and in the idle state. -/
def Armed (controller : Controller (Bench Echo)) : Prop :=
  controller.radio.device.Ready controller.idle.mode

/-- If the radio was in the idle state, it is. -/
def StaysArmed (before after : Controller (Bench Echo)) : Prop := before.Armed → after.Armed

/-- The radio is in the idle state once it was put there without a fault. Only a receiver that is
started reports that the device is down. -/
def Poised (controller : Controller (Bench Echo)) : Prop :=
  match controller.idle with
  | .uninitialized => controller.radio.device.Ready .standby
  | .continuousReceive | .intermittentReceive => True
  | .sleep => controller.radio.device.up = true

theorem poised_of_up (up : controller.radio.device.up = true)
    (idle_ne : controller.idle ≠ .uninitialized) : controller.Poised := by
  unfold Poised
  split
  · contradiction
  · trivial
  · trivial
  · exact up

theorem poised_of_standby (ready : controller.radio.device.Ready .standby) : controller.Poised := by
  unfold Poised
  split
  · exact ready
  · trivial
  · trivial
  · exact ready.up_eq

theorem Armed.poised (armed : controller.Armed) : controller.Poised := by
  by_cases idle_eq : controller.idle = .uninitialized
  · rw [Armed, idle_eq] at armed
    exact poised_of_standby armed
  · exact poised_of_up armed.up_eq idle_eq

theorem staysArmed_of_untouched (idle_eq : after.idle = before.idle)
    (untouched : Untouched before.radio.device after.radio.device) : StaysArmed before after := by
  intro armed
  rw [Armed, idle_eq]
  exact untouched.ready armed

theorem StaysArmed.trans {first second third : Controller (Bench Echo)}
    (former : StaysArmed first second) (latter : StaysArmed second third) :
    StaysArmed first third :=
  latter ∘ former

/-! ### Putting the radio into the idle state -/

theorem isFault_driverFault (error : DeviceError) : IsFault (.driverFault error) := ⟨error, rfl⟩

/-- A radio that does what the idle state asks for is in the idle state. -/
theorem armed_onRadio {operation : Radio.Operation (Bench Echo) Unit} {mode : Mode}
    (ready : operation.MovesUnless (fun _ => True) fun _ after => after.device.Ready mode) :
    (onRadio operation).MovesUnless IsFault fun before after =>
      before.idle.mode = mode → after.Armed := by
  apply ready.zoom (fun error _ => isFault_driverFault error)
  intro controller radio ready mode_eq
  rw [Armed, mode_eq]
  exact ready

theorem armed_preset_onRadio {operation : Radio.Operation (Bench Echo) Unit} {mode : Mode}
    (ready : operation.MovesUnless (fun _ => True) fun _ after => after.device.Ready mode)
    (length : UInt16) :
    (do
      adjust (Device.setPreamble .receive length)
      onRadio operation : Operation (Bench Echo) Unit).MovesUnless IsFault fun before after =>
        before.idle.mode = mode → after.Armed := by
  intro controller
  exact armed_onRadio ready
    { controller with radio := Device.setPreamble .receive length controller.radio }

theorem armed_sleep : (onRadio Device.sleep : Operation (Bench Echo) Unit).MovesUnless IsFault
    fun before after => before.radio.device.up = true → before.idle.mode = .sleep →
      after.Armed := by
  apply Bench.ready_sleep.zoom (fun error _ => isFault_driverFault error)
  intro controller radio ready up mode_eq
  rw [Armed, mode_eq]
  exact ready up

theorem armed_enterIdle :
    (enterIdle : Operation (Bench Echo) Unit).MovesUnless IsFault fun before after =>
      before.Poised → after.Armed := by
  apply movesUnless_get_bind
  intro controller
  rw [Poised]
  cases idle_eq : controller.idle with
  | uninitialized =>
      -- Nothing is asked of the radio, so it has to be in standby before.
      right
      intro ready
      change controller.radio.device.Ready controller.idle.mode
      rw [idle_eq]
      exact ready
  | continuousReceive =>
      have entered := armed_preset_onRadio Bench.ready_listen
        controller.settings.continuousPreamble controller
      exact entered.imp id fun armed _ => armed (congrArg IdleState.mode idle_eq)
  | intermittentReceive =>
      have entered := armed_preset_onRadio Bench.ready_dutyCycle
        controller.settings.intermittentPreamble controller
      exact entered.imp id fun armed _ => armed (congrArg IdleState.mode idle_eq)
  | sleep =>
      -- The radio does not say whether it is up, so that has to be known.
      exact (armed_sleep controller).imp id fun armed up =>
        armed up (congrArg IdleState.mode idle_eq)

theorem staysArmed_enterIdle :
    (enterIdle : Operation (Bench Echo) Unit).MovesUnless IsFault StaysArmed := by
  intro controller
  exact (armed_enterIdle controller).imp id fun armed before => armed before.poised

/-- From standby the radio can be put into any idle state. -/
theorem armed_of_standby {operation : Radio.Operation (Bench Echo) Unit}
    (standby : operation.MovesUnless (fun _ => True) fun _ after => after.device.Ready .standby) :
    (do
      onRadio operation
      enterIdle : Operation (Bench Echo) Unit).MovesUnless IsFault fun _ after => after.Armed := by
  intro controller
  have ready := standby controller.radio
  rw [StopsExcused] at ready ⊢
  rw [run_bind, onRadio, run_zoom]
  generalize operation.run controller.radio = ended at ready ⊢
  rcases ended with ⟨error | _, radio⟩
  · -- All that the radio can fail with is a driver fault.
    left
    exact ⟨_, rfl, isFault_driverFault error⟩
  · rcases ready with ⟨_, stopped, _⟩ | ready
    · contradiction
    · exact (armed_enterIdle { controller with radio }).imp id fun armed =>
        armed (poised_of_standby ready)

/-- Bringing the radio up puts it into the idle state, from whatever state it is in. -/
theorem armed_reinitialize : (Controller.reinitialize : Operation (Bench Echo) Unit).MovesUnless
    IsFault fun _ after => after.Armed :=
  armed_of_standby Bench.ready_bringUp

theorem armed_setIdle (idle_ne : idle ≠ .uninitialized) :
    (setIdle idle : Operation (Bench Echo) Unit).MovesUnless IsFault fun before after =>
      { before with idle }.Poised → after.Armed := by
  intro controller
  rw [StopsExcused, setIdle, if_neg idle_ne, run_bind, run_modify]
  exact armed_enterIdle { controller with idle }

theorem staysArmed_setIdle (idle : IdleState) :
    (setIdle idle : Operation (Bench Echo) Unit).MovesUnless IsFault StaysArmed := by
  intro controller
  by_cases idle_eq : idle = .uninitialized
  · subst idle_eq
    exact .inr id
  · exact (armed_setIdle idle_eq controller).imp id fun armed before =>
      armed (poised_of_up before.up_eq idle_eq)

/-! ### Taking frames off the radio, and sending -/

theorem untouched_attend (radio : Bench Echo) :
    Untouched radio.device (Device.attend radio).device :=
  Bench.untouched_settle radio

theorem untouched_heeded (radio : Bench Echo) : Untouched radio.device (heeded radio).device := by
  rw [heeded]
  split
  · exact ⟨(untouched_attend radio).up_eq, (untouched_attend radio).mode_eq⟩
  · exact untouched_attend radio

theorem untouched_read {room : Nat} {radio left : Bench Echo}
    {answer : Except DeviceError Reception}
    (read : (Device.read room : Radio.Operation (Bench Echo) Reception).run (Device.attend radio) =
      (answer, left)) : Untouched radio.device left.device := by
  have reads : (Device.read room : Radio.Operation (Bench Echo) Reception).Moves
      fun before after => Untouched before.device after.device :=
    Bench.untouched_perform (Echo.untouched_read room)
  have moved := reads (Device.attend radio)
  rw [read] at moved
  exact (untouched_attend radio).trans moved

theorem takes_staysArmed : Takes IsFault StaysArmed where
  refl _ := id
  trans := StaysArmed.trans
  isFault := id
  enterIdle := staysArmed_enterIdle
  attend controller := staysArmed_of_untouched rfl (untouched_attend controller.radio)
  refused _ read := staysArmed_of_untouched rfl (untouched_read read)
  failed _ read _ _ :=
    staysArmed_of_untouched rfl ((untouched_read read).trans (untouched_heeded _))
  taken _ read _ _ :=
    staysArmed_of_untouched rfl ((untouched_read read).trans (untouched_heeded _))

theorem waits_staysArmed : Waits IsFault StaysArmed where
  toServes := takes_staysArmed.serves
  wait _ _ := id
  draw _ _ := id
  record _ _ := id
  probe controller := .inr (staysArmed_of_untouched rfl (Bench.untouched_probe controller.radio))

theorem staysArmed_transmit (data : Bytes) (preamble : Preamble) :
    (transmit data preamble : Operation (Bench Echo) Unit).MovesUnless IsFault StaysArmed := by
  have waits : Waits IsFault StaysArmed := waits_staysArmed
  apply waits.transmit waits.senseCarrier
  intro length controller
  have sent := armed_of_standby (Bench.ready_transmit data)
    { controller with radio := Device.setPreamble .transmit length controller.radio }
  exact sent.imp id fun armed _ => armed

/-! ### Sessions -/

open Session

/-- An idle state was asked for, and the radio is in it. -/
def InIdle (controller : Controller (Bench Echo)) : Prop :=
  controller.idle ≠ .uninitialized ∧ controller.Armed

/-- If the radio was in an idle state that was asked for, it is. -/
def StaysInIdle (before after : Controller (Bench Echo)) : Prop := before.InIdle → after.InIdle

theorem StaysInIdle.trans {first second third : Controller (Bench Echo)}
    (former : StaysInIdle first second) (latter : StaysInIdle second third) :
    StaysInIdle first third :=
  latter ∘ former

variable {α : Type} {operation : Operation (Bench Echo) α}

theorem staysInIdle_of_staysArmed (same : operation.Moves SameIdle)
    (armed : operation.MovesUnless IsFault StaysArmed) :
    operation.MovesUnless IsFault StaysInIdle := by
  intro controller
  refine (armed controller).imp id ?_
  rintro stays ⟨idle_ne, before⟩
  have idle_eq := same controller
  rw [SameIdle] at idle_eq
  exact ⟨idle_eq ▸ idle_ne, stays before⟩

theorem staysInIdle_setIdle (idle : IdleState) :
    (setIdle idle : Operation (Bench Echo) Unit).MovesUnless IsFault StaysInIdle := by
  intro controller
  by_cases idle_eq : idle = .uninitialized
  · subst idle_eq
    exact .inr id
  · refine (staysArmed_setIdle idle controller).imp id ?_
    rintro stays ⟨_, before⟩
    refine ⟨?_, stays before⟩
    rw [idle_setIdle idle_eq]
    exact idle_eq

theorem staysInIdle_answer {answer : α → Answer}
    (stays : operation.MovesUnless IsFault StaysInIdle) :
    (operation >>= fun value => pure (answer value)).MovesUnless IsFault StaysInIdle :=
  stays.bind StaysInIdle.trans fun value => (moves_pure (fun _ => id) (answer value)).unless

/-- Short of a driver fault, no request takes the radio out of the idle state. -/
theorem staysInIdle_request (request : Request) :
    (request.operation : Operation (Bench Echo) Answer).MovesUnless IsFault StaysInIdle := by
  have serves : Serves IsFault StaysArmed := waits_staysArmed.toServes
  have reinitialized : (Controller.reinitialize : Operation (Bench Echo) Unit).MovesUnless IsFault
      StaysArmed := by
    intro controller
    have armed := armed_reinitialize controller
    exact armed.imp id fun armed _ => armed
  cases request with
  | transmit data preamble =>
      apply staysInIdle_answer
      exact staysInIdle_of_staysArmed (sameIdle_transmit data preamble)
        (staysArmed_transmit data preamble)
  | senseCarrier =>
      apply staysInIdle_answer
      exact staysInIdle_of_staysArmed waits_sameIdle.senseCarrier.moves
        waits_staysArmed.senseCarrier
  | read =>
      apply staysInIdle_answer
      exact staysInIdle_of_staysArmed takes_sameIdle.readIfPossible.moves serves.read
  | service =>
      apply staysInIdle_answer
      exact staysInIdle_of_staysArmed waits_sameIdle.serviceReceiver.moves serves.serviceReceiver
  | dequeue => exact fun controller => .inr id
  | setIdle idle => exact staysInIdle_answer (staysInIdle_setIdle idle)
  | restart =>
      apply staysInIdle_answer
      exact staysInIdle_of_staysArmed sameIdle_reinitialize reinitialized

theorem staysInIdle_act (act : Act) :
    (act.operation : Operation (Bench Echo) Answer).MovesUnless IsFault StaysInIdle := by
  cases act with
  | ask request => exact staysInIdle_request request
  | happen poke =>
      rintro controller
      right
      rintro ⟨idle_ne, armed⟩
      exact ⟨idle_ne, (Echo.untouched_poke poke controller.radio.device).ready armed⟩
  | plan time poke => exact fun controller => .inr id
  | addFaults kind error skip count => exact fun controller => .inr id
  | elapse time => exact fun controller => .inr id

theorem faulted_of_isFault {act : Act} {cause : ChannelError} (isFault : IsFault cause)
    (stopped : (act.operation.run controller).1 = .error cause) :
    (Session.take act controller).faulted = true := by
  rcases isFault with ⟨error, rfl⟩
  simp only [Turn.faulted, Session.take, stopped]

theorem inIdle_take {act : Act} (inIdle : controller.InIdle)
    (unfaulted : ¬(Session.take act controller).faulted) :
    (Session.take act controller).after.InIdle := by
  rcases staysInIdle_act act controller with ⟨cause, stopped, isFault⟩ | stays
  · exact absurd (faulted_of_isFault isFault stopped) unfaulted
  · exact stays inIdle

theorem inIdle_take_restart (idle_ne : controller.idle ≠ .uninitialized)
    (succeeded : (Session.take (.ask .restart) controller).answer = .ok .done) :
    (Session.take (.ask .restart) controller).after.InIdle := by
  have same := sameIdle_reinitialize controller
  have armed := armed_reinitialize controller
  simp only [StopsExcused, SameIdle, Session.take, Act.operation, Request.operation, run_bind]
    at same armed succeeded ⊢
  generalize Controller.reinitialize.run controller = ended at same armed succeeded ⊢
  rcases ended with ⟨cause | _, left⟩
  · contradiction
  · rcases armed with ⟨_, stopped, _⟩ | armed
    · contradiction
    · exact ⟨same ▸ idle_ne, armed⟩

/-- In every session a turn that finds the radio in the idle state leaves it there unless it ends in
a driver fault, and once the radio was brought up it is in the idle state, whatever happened before.
So without a driver fault the radio never leaves the idle state. -/
theorem inIdle_session (start : Controller (Bench Echo)) (acts : List Act) :
    (∀ turn ∈ history acts start,
      (turn.before.InIdle → ¬turn.faulted → turn.after.InIdle) ∧
      (turn.act = .ask .restart → turn.before.idle ≠ .uninitialized →
        turn.answer = .ok .done → turn.after.InIdle)) ∧
    (start.InIdle → (∀ turn ∈ history acts start, ¬turn.faulted) →
      (Session.after acts start).InIdle) := by
  have turns : ∀ turn ∈ history acts start, turn.before.InIdle → ¬turn.faulted →
      turn.after.InIdle := by
    intro turn mem
    rcases mem_history_iff.mp mem with ⟨_, _, _, _, rfl⟩
    exact inIdle_take
  refine ⟨?_, ?_⟩
  · intro turn mem
    refine ⟨turns turn mem, ?_⟩
    rcases mem_history_iff.mp mem with ⟨_, act, _, _, rfl⟩
    rintro (rfl : act = .ask .restart) idle_ne succeeded
    exact inIdle_take_restart idle_ne succeeded
  · intro inIdle unfaulted
    exact kept_after inIdle fun turn mem before => turns turn mem before (unfaulted turn mem)

/-- A controller that listens all the time. -/
def awake : Controller (Bench Echo) :=
  Session.after [.ask .restart, .ask (.setIdle .continuousReceive)] (new { device := {} } {} 7)

/-- A frame arrives that fails its check. -/
def spoiled : List Act := [.happen (.inject [1] false)]

/-- A transmission fails and leaves the radio down. -/
def misfired : List Act := [.happen (.fail .hardwareFault), .ask (.transmit [2] .short)]

theorem inIdle_session_misfired :
    awake.InIdle ∧
      (take (.ask .read) (Session.after spoiled awake)).answer = .error .crcMismatch ∧
      (take (.ask .read) (Session.after spoiled awake)).after.InIdle ∧
      (Session.after (spoiled ++ [.ask .read]) awake).InIdle ∧
      ¬(Session.after misfired awake).InIdle ∧
      (Session.after (misfired ++ [.ask .restart]) awake).InIdle := by
  have inIdle : awake.InIdle := ⟨by decide +kernel, by decide +kernel, by decide +kernel⟩
  have unfaulted : ∀ turn ∈ history (spoiled ++ [.ask .read]) awake, ¬turn.faulted := by
    simp only [spoiled, List.cons_append, List.nil_append, history_cons, history_nil,
      List.forall_mem_cons]
    exact ⟨by decide +kernel, by decide +kernel, by simp⟩
  have read : take (.ask .read) (Session.after spoiled awake) ∈
      history (spoiled ++ [.ask .read]) awake :=
    mem_history_iff.mpr ⟨spoiled, _, [], rfl, rfl⟩
  have down : (Session.after misfired awake).radio.device.up = false := by decide +kernel
  have restarted : take (.ask .restart) (Session.after misfired awake) ∈
      history (misfired ++ [.ask .restart]) awake :=
    mem_history_iff.mpr ⟨misfired, _, [], rfl, rfl⟩
  refine ⟨inIdle, by decide +kernel, ?_, ?_, ?_, ?_⟩
  · exact ((inIdle_session awake _).1 _ read).1
      ⟨by decide +kernel, by decide +kernel, by decide +kernel⟩ (unfaulted _ read)
  · exact (inIdle_session awake _).2 inIdle unfaulted
  · rintro ⟨_, armed⟩
    simp [armed.up_eq] at down
  · exact ((inIdle_session awake _).1 _ restarted).2 rfl (by decide +kernel) (by decide +kernel)

end Controller

end StationMesh.Channel
