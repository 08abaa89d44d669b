import Mathlib.Algebra.Order.Sub.Basic
import Mathlib.Data.Multiset.OrderedMonoid
import StationMesh.Proofs.Channel.Session
import StationMesh.Proofs.Channel.Stock

/-!
# Every frame that is handed out arrived

A session only adds the frames that arrive meanwhile to those that may still be handed out, and
takes one away with each frame that is handed out. So no frame is handed out that did not arrive,
and none more often than it arrived.

The exception is a radio that is brought up while it announces a frame. The frame is dropped, and
it stays announced.
-/

namespace StationMesh.Channel

open Radio StationMesh.Action

namespace Session

open Controller (Sound stock Gains Spends)

section

variable {δ : Type} [Hearing δ]

/-- The frames that arrive at the radio, or are planned to. What the radio hears of itself arrives,
too. -/
def Turn.delivered (turn : Turn δ) : Multiset Reception :=
  match turn.act with
  | .happen poke | .plan _ poke => poke.receptions
  | .ask (.transmit data _) => Multiset.replicate
      (Hearing.echoed turn.after.radio.device - Hearing.echoed turn.before.radio.device)
        { data, intact := true }
  | .ask _ | .addFaults .. | .elapse _ => 0

/-- The frames that reached the radio, of those that were planned to and those that were added. -/
def Turn.arrived (turn : Turn δ) : Multiset Reception :=
  turn.before.radio.toCome + turn.delivered - turn.after.radio.toCome

/-- The frames that were handed out. -/
def handedOut (turns : List (Turn δ)) : Multiset Bytes := turns.flatMap Turn.handedOut

/-- The frames that arrived or are planned to. -/
def delivered (turns : List (Turn δ)) : Multiset Reception := (turns.map Turn.delivered).sum

variable [Device δ] [Pokeable δ]

/-- No frame is announced when the radio is brought up. -/
def Turn.Quiet (turn : Turn δ) : Prop :=
  turn.act = .ask .restart → ¬Controller.Announces turn.before.radio

instance (turn : Turn δ) : Decidable turn.Quiet := inferInstanceAs (Decidable (_ → ¬_))

end

/-! ### Turns -/

variable {δ α : Type} [Hearing δ] [Device δ] [Pokeable δ] [LawfulHearing δ] {turn : Turn δ}
  {controller : Controller (Bench δ)}

/-- A frame is handed out of those that may still come, and only those that arrive are added. -/
structure Turn.Balances (turn : Turn δ) : Prop where
  sound : turn.after.Sound
  upcoming_le : turn.after.radio.upcoming ≤ turn.before.radio.upcoming + turn.delivered
  stock_le : turn.handedOut + turn.after.stock ≤ turn.before.stock + goods turn.delivered

omit [Device δ] [Pokeable δ] [LawfulHearing δ] in
theorem Turn.balances_of_gains (handsOut_none : ∀ frame, turn.answer ≠ .ok (.handedOut frame))
    (gains : Gains turn.delivered turn.before turn.after) : turn.Balances := by
  have handedOut_eq : turn.handedOut = [] := by
    unfold Turn.handedOut
    split
    · rename_i frame answer_eq
      exact absurd answer_eq (handsOut_none (some frame))
    · rfl
    · rfl
  refine ⟨gains.sound, gains.upcoming_le, ?_⟩
  rw [handedOut_eq, Multiset.coe_nil, zero_add]
  exact gains.stock_le

omit [LawfulHearing δ] in
/-- Only asking for a frame hands one out. -/
theorem balances_of_operation {act : Act} {operation : Controller.Operation (Bench δ) α}
    {answer : α → Answer}
    (operation_eq : act.operation = operation >>= fun value => pure (answer value))
    (answer_ne : ∀ value frame, answer value ≠ .handedOut frame)
    (gains : Gains (take act controller).delivered controller (operation.run controller).2) :
    (take act controller).Balances := by
  rcases take_of_operation operation_eq with ⟨answer_eq, after_eq⟩
  apply Turn.balances_of_gains
  · intro frame answered
    rw [answer_eq] at answered
    generalize (operation.run controller).1 = ended at answered
    cases ended with
    | error cause => cases answered
    | ok value => exact answer_ne value frame (Except.ok.inj answered)
  · rw [after_eq]
    exact gains

omit [LawfulHearing δ] in
/-- The frame that is handed out is the first one of the queue. -/
theorem balances_dequeue (sound : controller.Sound) :
    (take (.ask .dequeue) controller).Balances := by
  rcases ReceiveQueue.frames_eq_dequeue sound.queue with ⟨frames_eq, queueSound⟩
  have handedOut_eq : (take (.ask .dequeue) controller).handedOut =
      controller.queue.dequeue.1.toList := by
    have answer_eq : (take (.ask .dequeue) controller).answer =
        .ok (.handedOut controller.queue.dequeue.1) := rfl
    rw [Turn.handedOut, answer_eq]
    cases controller.queue.dequeue.1 <;> rfl
  refine ⟨⟨sound.radio, queueSound⟩, Multiset.le_add_right _ 0, ?_⟩
  calc _ = ↑(controller.queue.dequeue.1.toList ++ controller.queue.dequeue.2.frames) +
        goods controller.radio.upcoming := by
        rw [handedOut_eq, ← Multiset.coe_add, add_assoc]
        rfl
    _ = controller.stock := by rw [← frames_eq, stock]
    _ ≤ _ := Multiset.le_add_right _ _

omit [LawfulHearing δ] in
theorem delivered_take_transmit (data : Bytes) (preamble : Preamble) :
    (take (.ask (.transmit data preamble)) controller).delivered = Multiset.replicate
      (Hearing.echoed ((Controller.transmit data preamble).run controller).2.radio.device -
        Hearing.echoed controller.radio.device) { data, intact := true } := by
  have after_eq : (take (.ask (.transmit data preamble)) controller).after =
      ((Controller.transmit data preamble).run controller).2 := (take_of_operation rfl).2
  rw [← after_eq]
  rfl

theorem balances_take {act : Act} (sound : controller.Sound)
    (quiet : (take act controller).Quiet) : (take act controller).Balances := by
  cases act with
  | ask request =>
      cases request with
      | transmit data preamble =>
          have gains := (Controller.echoes_transmit data preamble controller sound).toGains
          apply balances_of_operation rfl (by simp)
          rw [delivered_take_transmit]
          exact gains
      | senseCarrier =>
          apply balances_of_operation rfl (by simp)
          exact (Controller.waits_spends.senseCarrier.moves controller sound).toGains
      | read =>
          apply balances_of_operation rfl (by simp)
          exact (Controller.takes_spends.readIfPossible.moves controller sound).toGains
      | service =>
          apply balances_of_operation rfl (by simp)
          exact (Controller.waits_spends.serviceReceiver.moves controller sound).toGains
      | dequeue => exact balances_dequeue sound
      | setIdle idle =>
          apply balances_of_operation rfl (by simp)
          exact (Controller.rearms_spends.setIdle idle controller sound).toGains
      | restart =>
          apply balances_of_operation rfl (by simp)
          have attended := Controller.spends_of_dwindles (Bench.dwindles_attend controller.radio)
          exact (attended.trans (Controller.spends_reinitialize (quiet rfl)) sound).toGains
  | happen poke =>
      rcases LawfulHearing.poke poke controller.radio.device with ⟨brings, _, _⟩
      apply balances_of_operation rfl (by simp)
      exact Controller.gains_of_radio sound (brings.sound sound.radio)
        (Bench.upcoming_update_le brings)
  | plan time poke =>
      apply balances_of_operation rfl (by simp)
      exact Controller.gains_of_radio sound sound.radio (Bench.upcoming_plan time poke _).le
  | addFaults kind error skip count =>
      apply balances_of_operation rfl (by simp)
      exact Controller.gains_of_radio sound sound.radio (Multiset.le_add_right _ _)
  | elapse time =>
      apply balances_of_operation rfl (by simp)
      exact Controller.gains_of_radio sound sound.radio (Multiset.le_add_right _ _)

/-! ### Sessions -/

variable {acts : List Act} {start : Controller (Bench δ)}

theorem balances_session (sound : start.Sound)
    (quiet : ∀ turn ∈ history acts start, turn.Quiet) :
    (after acts start).Sound ∧ handedOut (history acts start) + (after acts start).stock ≤
      start.stock + goods (delivered (history acts start)) := by
  induction acts generalizing start with
  | nil => exact ⟨sound, by simp [handedOut, delivered, goods]⟩
  | cons act acts ih =>
      rw [history_cons, List.forall_mem_cons] at quiet
      have balances := balances_take sound quiet.1
      rcases ih balances.sound quiet.2 with ⟨leftSound, stock_le⟩
      refine ⟨leftSound, ?_⟩
      rw [history_cons, after_cons, handedOut, delivered, List.flatMap_cons, ← Multiset.coe_add,
        List.map_cons, List.sum_cons, goods_add, add_assoc]
      calc (take act start).handedOut + (handedOut (history acts (take act start).after) +
            (after acts (take act start).after).stock)
          ≤ (take act start).handedOut + ((take act start).after.stock +
              goods (delivered (history acts (take act start).after))) :=
            add_le_add_right stock_le _
        _ = (take act start).handedOut + (take act start).after.stock +
              goods (delivered (history acts (take act start).after)) := (add_assoc _ _ _).symm
        _ ≤ start.stock + goods (take act start).delivered +
              goods (delivered (history acts (take act start).after)) :=
            add_le_add_left balances.stock_le _
        _ = _ := add_assoc _ _ _

theorem not_announces_of_upcoming_le {bench : Bench δ} (sound : Hearing.Sound bench.device)
    (upcoming_le : (Device.attend bench).upcoming ≤ (Device.attend bench).toCome) :
    ¬Controller.Announces bench := by
  intro announces
  rcases LawfulHearing.waiting ((Bench.dwindles_attend bench).sound sound) announces with
    ⟨reception, announced_eq⟩
  rw [Bench.upcoming, announced_eq, Option.toList_some, Multiset.coe_singleton,
    Multiset.singleton_add] at upcoming_le
  exact absurd upcoming_le (Multiset.lt_cons_self _ reception).not_ge

theorem upcoming_le_of_not_announces {bench : Bench δ} (silent : ¬Controller.Announces bench) :
    (Device.attend bench).upcoming ≤ (Device.attend bench).toCome := by
  have deviceSilent : (Device.signal (Device.attend bench).device).waiting = false :=
    Bool.eq_false_iff.mpr silent
  rw [Bench.upcoming, (LawfulHearing.silent deviceSilent).2]
  exact (zero_add _).le

omit [Device δ] [Pokeable δ] [LawfulHearing δ] in
/-- Nothing is announced as long as no frame reaches the radio. -/
theorem Turn.Balances.upcoming_le_toCome (balances : turn.Balances) (arrived_eq : turn.arrived = 0)
    (upcoming_le : turn.before.radio.upcoming ≤ turn.before.radio.toCome) :
    turn.after.radio.upcoming ≤ turn.after.radio.toCome :=
  calc turn.after.radio.upcoming
      ≤ turn.before.radio.upcoming + turn.delivered := balances.upcoming_le
    _ ≤ turn.before.radio.toCome + turn.delivered := add_le_add_left upcoming_le _
    _ ≤ turn.after.radio.toCome := tsub_eq_zero_iff_le.mp arrived_eq

/-- Bringing the radio up leaves nothing announced. -/
theorem upcoming_le_toCome_of_restart (sound : controller.Sound)
    (silent : ¬Controller.Announces controller.radio)
    (arrived_eq : (take (.ask .restart) controller).arrived = 0) :
    (take (.ask .restart) controller).after.radio.upcoming ≤
      (take (.ask .restart) controller).after.radio.toCome := by
  have attended := Bench.dwindles_attend controller.radio
  have spent := Controller.spends_reinitialize silent sound.attend
  have after_eq : (take (.ask .restart) controller).after =
      ((Controller.reinitialize : Controller.Operation (Bench δ) Unit).run controller).2 :=
    (take_of_operation rfl).2
  rw [← after_eq] at spent
  calc (take (.ask .restart) controller).after.radio.upcoming
      ≤ (Device.attend controller.radio).upcoming + 0 := spent.upcoming_le
    _ = (Device.attend controller.radio).upcoming := add_zero _
    _ ≤ (Device.attend controller.radio).toCome := upcoming_le_of_not_announces silent
    _ ≤ controller.radio.toCome + 0 := attended.toCome_le.trans (add_zero _).ge
    _ ≤ _ := tsub_eq_zero_iff_le.mp arrived_eq

/-- What is due reached the radio before it is looked at. -/
theorem toCome_readIfPossible_le (sound : controller.Sound) :
    ((Controller.readIfPossible : Controller.Operation (Bench δ) _).run
      controller).2.radio.toCome ≤ (Device.attend controller.radio).toCome := by
  have attend_eq : Device.attend (Device.attend controller.radio) =
      Device.attend controller.radio := by
    simp only [Bench.attend_eq_settle, Bench.settle_settle]
  have run_eq : (Controller.readIfPossible : Controller.Operation (Bench δ) _).run
      { controller with radio := Device.attend controller.radio } =
        Controller.readIfPossible.run controller := by
    simp only [Controller.readIfPossible, Controller.adjust, run_bind, run_modify, attend_eq]
  have spent := Controller.takes_spends.readIfPossible.moves _ sound.attend
  rw [run_eq] at spent
  exact spent.toCome_le

theorem answer_read_of_arrived_eq_zero (sound : controller.Sound)
    (arrived_eq : (take (.ask .read) controller).arrived = 0)
    (upcoming_le : controller.radio.upcoming ≤ controller.radio.toCome) :
    (take (.ask .read) controller).answer = .ok (.received none) := by
  have turn_eq : (take (.ask .read) controller).answer =
        ((Controller.readIfPossible : Controller.Operation (Bench δ) _).run controller).1.map
          .received ∧
      (take (.ask .read) controller).after =
        ((Controller.readIfPossible : Controller.Operation (Bench δ) _).run controller).2 :=
    take_of_operation rfl
  rcases turn_eq with ⟨answer_eq, after_eq⟩
  have attended_le : (Device.attend controller.radio).upcoming ≤
      (Device.attend controller.radio).toCome :=
    calc (Device.attend controller.radio).upcoming
        ≤ controller.radio.upcoming := (Bench.dwindles_attend controller.radio).upcoming_le
      _ ≤ controller.radio.toCome := upcoming_le
      _ ≤ controller.radio.toCome + 0 := (add_zero _).ge
      _ ≤ (take (.ask .read) controller).after.radio.toCome := tsub_eq_zero_iff_le.mp arrived_eq
      _ ≤ (Device.attend controller.radio).toCome := by
          rw [after_eq]
          exact toCome_readIfPossible_le sound
  have silent := not_announces_of_upcoming_le sound.radio attended_le
  rw [answer_eq, Controller.run_readIfPossible_of_silent silent]
  rfl

/-- The radio announces nothing, and a frame has to reach it first. -/
structure Calm (controller : Controller (Bench δ)) : Prop where
  sound : controller.Sound
  upcoming_le : controller.radio.upcoming ≤ controller.radio.toCome

theorem calm_session (calm : Calm start) (quiet : ∀ turn ∈ history acts start, turn.Quiet)
    (arrived_eq : ∀ turn ∈ history acts start, turn.arrived = 0) : Calm (after acts start) := by
  apply kept_after calm
  intro turn mem before
  have balances : turn.Balances := by
    have turnQuiet := quiet turn mem
    rcases mem_history_iff.mp mem with ⟨_, _, _, _, rfl⟩
    exact balances_take before.sound turnQuiet
  exact ⟨balances.sound, balances.upcoming_le_toCome (arrived_eq turn mem) before.upcoming_le⟩

omit [Hearing δ] [LawfulHearing δ] in
theorem scripted_of_answer {act : Act} {operation : Controller.Operation (Bench δ) α}
    {answer : α → Answer}
    (operation_eq : act.operation = operation >>= fun value => pure (answer value))
    (scripted : (operation.run controller).1 = .error (.driverFault .receiveFailed) →
      controller.radio.Scripted .receiveFailed)
    (failed : (take act controller).answer = .error (.driverFault .receiveFailed)) :
    controller.radio.Scripted .receiveFailed := by
  apply scripted
  rw [(take_of_operation operation_eq).1] at failed
  generalize (operation.run controller).1 = ended at failed ⊢
  cases ended with
  | error cause => simpa [Except.map] using failed
  | ok value => cases failed

/-- In this session no frame turns up that did not arrive: what is handed out and what may still be
handed out arrived, a frame that is announced is there when it is read, and once the radio was
brought up there is none to be read until one arrives. -/
structure NoPhantoms (start : Controller (Bench δ)) (acts : List Act) : Prop where
  handedOut_le : handedOut (history acts start) + (after acts start).stock ≤
    start.stock + goods (delivered (history acts start))
  scripted : ∀ turn ∈ history acts start, turn.act = .ask .read ∨ turn.act = .ask .service →
    turn.answer = .error (.driverFault .receiveFailed) →
      turn.before.radio.Scripted .receiveFailed
  silent : ∀ former latter, acts = former ++ .ask .restart :: latter →
    (∀ turn ∈ history (.ask .restart :: latter ++ [.ask .read]) (after former start),
      turn.arrived = 0) →
    (take (.ask .read) (after acts start)).answer = .ok (.received none)

theorem noPhantoms_of_quiet (sound : start.Sound)
    (quiet : ∀ turn ∈ history acts start, turn.Quiet) : NoPhantoms start acts where
  handedOut_le := (balances_session sound quiet).2
  scripted := by
    intro turn mem asked failed
    rcases mem_history_iff.mp mem with ⟨former, act, latter, rfl, rfl⟩
    rw [history_append] at quiet
    have soundBefore := (balances_session sound (List.forall_mem_append.mp quiet).1).1
    rcases asked with asked | asked
    · change act = _ at asked
      subst asked
      exact scripted_of_answer rfl (Controller.scripted_of_readIfPossible soundBefore) failed
    · change act = _ at asked
      subst asked
      exact scripted_of_answer rfl (Controller.scripted_of_serviceReceiver soundBefore) failed
  silent := by
    rintro former latter rfl arrived_eq
    rw [history_append, List.forall_mem_append, history_cons, List.forall_mem_cons] at quiet
    rw [history_append, List.forall_mem_append, history_cons, List.forall_mem_cons,
      after_cons] at arrived_eq
    rcases quiet with ⟨formerQuiet, restartQuiet, latterQuiet⟩
    rcases arrived_eq with ⟨⟨restart_eq, latter_eq⟩, read_eq⟩
    have soundBefore := (balances_session sound formerQuiet).1
    have restarted : Calm (take (.ask .restart) (after former start)).after :=
      ⟨(balances_take soundBefore restartQuiet).sound,
        upcoming_le_toCome_of_restart soundBefore (restartQuiet rfl) restart_eq⟩
    have calm := calm_session restarted latterQuiet latter_eq
    rw [after_append, after_cons]
    exact answer_read_of_arrived_eq_zero calm.sound (read_eq _ List.mem_cons_self) calm.upcoming_le

/-- In every session over an echo radio or a radio on a medium in which the radio is only brought up
while it announces nothing, whatever else happens, no frame turns up that did not arrive. -/
theorem noPhantoms_session (acts : List Act) :
    (∀ start : Controller (Bench Echo), start.Sound →
      (∀ turn ∈ history acts start, turn.Quiet) → NoPhantoms start acts) ∧
    (∀ start : Controller (Bench Exposed), start.Sound →
      (∀ turn ∈ history acts start, turn.Quiet) → NoPhantoms start acts) :=
  ⟨fun _ => noPhantoms_of_quiet, fun _ => noPhantoms_of_quiet⟩

/-- A controller for a device that nothing has been done with yet. -/
def fresh (device : δ) : Controller (Bench δ) := Controller.new { device } {} 7

/-- A radio on a medium with one other station. -/
def pair : Exposed := { endpoint := { medium := .fullyConnected 2, index := 0 } }

/-- A transmission fails, and the radio is brought up again before a frame arrives. -/
def restarted : List Act :=
  [.ask .restart, .ask (.setIdle .continuousReceive), .happen (.fail .hardwareFault),
    .ask (.transmit [2] .short), .ask .restart, .happen (.inject [1] true), .ask .read,
    .ask .dequeue]

/-- The radio is brought up while a frame is announced. -/
def overlooked : List Act :=
  [.ask .restart, .ask (.setIdle .continuousReceive), .happen (.inject [1, 2] true),
    .ask .restart]

theorem sound_fresh_echo : (fresh ({} : Echo)).Sound := ⟨trivial, ReceiveQueue.sound_empty⟩

theorem sound_fresh_pair : (fresh pair).Sound := by
  refine ⟨?_, ReceiveQueue.sound_empty⟩
  exact (LawfulHearing.silent (by decide +kernel)).1

theorem noPhantoms_session_restarted :
    handedOut (history restarted (fresh ({} : Echo))) = {[1]} ∧
      NoPhantoms (fresh ({} : Echo)) restarted ∧
      handedOut (history restarted (fresh pair)) = {[1]} ∧ NoPhantoms (fresh pair) restarted := by
  refine ⟨by decide +kernel, ?_, by decide +kernel, ?_⟩
  · apply (noPhantoms_session restarted).1 _ sound_fresh_echo
    decide +kernel
  · apply (noPhantoms_session restarted).2 _ sound_fresh_pair
    decide +kernel

/-- A radio that is brought up while it announces a frame drops the frame, and goes on announcing
it: an echo radio hands over an empty frame then, and a radio on a medium fails to find one. -/
theorem phantom_of_overlooked :
    (fresh ({} : Echo)).Sound ∧
      handedOut (history (overlooked ++ [.ask .read, .ask .dequeue]) (fresh ({} : Echo))) = {[]} ∧
      goods (delivered (history (overlooked ++ [.ask .read, .ask .dequeue])
        (fresh ({} : Echo)))) = {[1, 2]} ∧
      ¬NoPhantoms (fresh ({} : Echo)) (overlooked ++ [.ask .read, .ask .dequeue]) ∧
      (fresh pair).Sound ∧
      (take (.ask .read) (after overlooked (fresh pair))).answer =
        .error (.driverFault .receiveFailed) ∧
      ¬(after overlooked (fresh pair)).radio.Scripted .receiveFailed ∧
      ¬NoPhantoms (fresh pair) (overlooked ++ [.ask .read]) := by
  have unscripted : ¬(after overlooked (fresh pair)).radio.Scripted .receiveFailed := by
    rintro ⟨kind, queued⟩
    cases kind <;> revert queued <;> decide +kernel
  have failed : (take (.ask .read) (after overlooked (fresh pair))).answer =
      .error (.driverFault .receiveFailed) := by
    decide +kernel
  have read : take (.ask .read) (after overlooked (fresh pair)) ∈
      history (overlooked ++ [.ask .read]) (fresh pair) :=
    mem_history_iff.mpr ⟨overlooked, _, [], rfl, rfl⟩
  refine ⟨sound_fresh_echo, by decide +kernel, by decide +kernel, ?_, sound_fresh_pair,
    failed, unscripted, ?_⟩
  · rintro ⟨handedOut_le, _, _⟩
    revert handedOut_le
    decide +kernel
  · intro genuine
    have missing := genuine.scripted _ read
    generalize after overlooked (fresh pair) = controller at missing failed unscripted
    exact unscripted (missing (.inl rfl) failed)

end Session

end StationMesh.Channel
