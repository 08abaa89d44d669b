import StationMesh.Proofs.Channel.Servicing
import StationMesh.Proofs.Radio.Punctual

/-!
# The time that servicing takes

On a radio that keeps to a virtual clock, taking frames off the radio takes no time, and a slot
lasts exactly as long as it is meant to. Both are loops, and neither is cut short: the relations
below follow them without a bound on the number of turns.
-/

namespace StationMesh.Channel.Controller

open Radio StationMesh.Action

variable {ρ : Type} [Timed ρ] {works : ρ → Prop} {due : ρ → Nat} {probeTime : Nat}
variable {controller before after : Controller ρ}

/-- So much time passes. The radio works on, and the controller keeps its settings and what it
recorded of access delays. -/
structure Lasts (works : ρ → Prop) (time : Nat) (before after : Controller ρ) : Prop where
  works : works after.radio
  now_eq : Timed.now after.radio = Timed.now before.radio + time
  settings_eq : after.settings = before.settings
  delay_eq : after.statistics.accessDelay = before.statistics.accessDelay

theorem Lasts.trans {time more : Nat} {first second third : Controller ρ}
    (former : Lasts works time first second) (latter : Lasts works more second third) :
    Lasts works (time + more) first third where
  works := latter.works
  now_eq := by rw [latter.now_eq, former.now_eq, Nat.add_assoc]
  settings_eq := latter.settings_eq.trans former.settings_eq
  delay_eq := latter.delay_eq.trans former.delay_eq

theorem run_now (controller : Controller ρ) :
    (now : Operation ρ Nat).run controller = (.ok (Timed.now controller.radio), controller) := rfl

/-! ### Taking one frame off the radio -/

theorem exists_run_enterIdle (punctual : Punctual works due probeTime)
    (working : works controller.radio) :
    ∃ radio, (enterIdle : Operation ρ Unit).run controller = (.ok (), { controller with radio }) ∧
      Prompt works due controller.radio radio := by
  have starts {operation : Radio.Operation ρ Unit} (instant : Instant works due operation)
      (length : UInt16) :
      ∃ radio, (onRadio operation).run
        { controller with radio := Device.setPreamble .receive length controller.radio } =
          (.ok (), { controller with radio }) ∧ Prompt works due controller.radio radio := by
    have preset := punctual.setPreamble .receive length controller.radio working
    rcases instant _ preset.works with ⟨radio, run_eq, prompt⟩
    refine ⟨radio, ?_, preset.trans prompt⟩
    rw [onRadio, run_zoom, run_eq]
    rfl
  simp only [enterIdle, run_bind, run_get]
  split
  · exact ⟨controller.radio, rfl, .refl working⟩
  · exact starts punctual.listen _
  · exact starts punctual.dutyCycle _
  · rcases punctual.sleep controller.radio working with ⟨radio, run_eq, prompt⟩
    refine ⟨radio, ?_, prompt⟩
    rw [onRadio, run_zoom, run_eq]
    rfl

theorem prompt_read (punctual : Punctual works due probeTime) {room : Nat} {radio left : ρ}
    {answer : Except DeviceError Reception} (working : works radio)
    (read : (Device.read room : Radio.Operation ρ _).run (Device.attend radio) = (answer, left)) :
    Prompt works due radio left := by
  have attended := punctual.attend radio working
  have answered := punctual.read room _ attended.works
  rw [read] at answered
  exact attended.trans answered

/-- Once an announcement was taken note of, there is a frame less to be announced. -/
theorem prompt_heeded (punctual : Punctual works due probeTime) {radio : ρ}
    (working : works radio) :
    Prompt works due radio (heeded radio) ∧ due (heeded radio) ≤ due radio - 1 := by
  have heeded_eq : heeded radio =
      if (Device.signal (Device.attend radio)).waiting then
        Device.acknowledge (Device.attend radio)
      else
        Device.attend radio := rfl
  rw [heeded_eq]
  split
  · rename_i waiting
    rcases punctual.acknowledge radio working waiting with ⟨prompt, lt⟩
    exact ⟨prompt, Nat.le_sub_one_of_lt lt⟩
  · rename_i silent
    have attended := punctual.attend radio working
    have none_due := punctual.due_eq_zero radio working (Bool.eq_false_iff.mpr silent)
    have attended_le := attended.due_le
    exact ⟨attended, by omega⟩

/-- No frame fails the controller or takes time, whether it is taken off the radio or stays there.
Taking one off leaves fewer to be announced. -/
theorem exists_run_readIfPossible (punctual : Punctual works due probeTime)
    (working : works controller.radio) :
    ∃ answer after, (readIfPossible : Operation ρ _).run controller = (answer, after) ∧
      Lasts works 0 controller after ∧
      (answer = .ok none ∨ answer = .error .queueFull ∨
        ((∃ length, answer = .ok (some length)) ∨ answer = .error .crcMismatch) ∧
          due after.radio < due controller.radio) := by
  have attended := punctual.attend controller.radio working
  rcases readIfPossible_cases controller with ⟨_, run_eq⟩ | ⟨_, run_eq⟩ |
    ⟨room, radio, _, read, run_eq⟩ |
    ⟨room, error, radio, statistics, lastCounter, error_ne, _, read, _⟩ |
    ⟨room, reception, radio, statistics, lastCounter, delay_eq, announces, read, run_eq⟩
  · exact ⟨_, _, run_eq, ⟨attended.works, attended.now_eq, rfl, rfl⟩, .inl rfl⟩
  · exact ⟨_, _, run_eq, ⟨attended.works, attended.now_eq, rfl, rfl⟩, .inr (.inl rfl)⟩
  · have refused := prompt_read punctual working read
    exact ⟨_, _, run_eq, ⟨refused.works, refused.now_eq, rfl, rfl⟩, .inr (.inl rfl)⟩
  · have tooSmall := punctual.read_error room _ attended.works error (congrArg Prod.fst read)
    contradiction
  · have answered := prompt_read punctual working read
    rcases prompt_heeded punctual answered.works with ⟨noted, noted_le⟩
    have taken := answered.trans noted
    have lt : due (heeded radio) < due controller.radio := by
      have announced := (punctual.acknowledge _ working announces).2
      have answered_le := answered.due_le
      omega
    have idles (queue : ReceiveQueue queueSlots queueArena) : ∃ after,
        (enterIdle : Operation ρ Unit).run
          { controller with radio := heeded radio, queue, statistics, lastCounter } =
            (.ok (), after) ∧
        Lasts works 0 controller after ∧ due after.radio < due controller.radio := by
      have working : works ({ controller with
        radio := heeded radio, queue, statistics, lastCounter } : Controller ρ).radio := taken.works
      rcases exists_run_enterIdle punctual working with ⟨idling, entered, idled⟩
      refine ⟨_, entered, ?_, Nat.lt_of_le_of_lt idled.due_le lt⟩
      exact ⟨idled.works, idled.now_eq.trans taken.now_eq, rfl, delay_eq⟩
    rw [run_eq]
    split
    · rcases idles (controller.queue.lay reception.data) with ⟨after, entered, lasts, less⟩
      exact ⟨_, _, run_bind_ok entered, lasts, .inr (.inr ⟨.inl ⟨_, rfl⟩, less⟩)⟩
    · rcases idles controller.queue with ⟨after, entered, lasts, less⟩
      exact ⟨_, _, run_bind_ok entered, lasts, .inr (.inr ⟨.inr rfl, less⟩)⟩

/-! ### Taking all frames off the radio -/

/-- Frames are taken off the radio until there is none or no room for it; so many are kept. -/
inductive Empties : Controller ρ → Nat → Controller ρ → Prop
  | silent {before after : Controller ρ} (read : readIfPossible.run before = (.ok none, after)) :
      Empties before 0 after
  | full {before after : Controller ρ}
      (read : readIfPossible.run before = (.error .queueFull, after)) : Empties before 0 after
  | keep {before middle after : Controller ρ} {length more : Nat}
      (read : readIfPossible.run before = (.ok (some length), middle))
      (rest : Empties middle more after) : Empties before (more + 1) after
  | drop {before middle after : Controller ρ} {more : Nat}
      (read : readIfPossible.run before = (.error .crcMismatch, middle))
      (rest : Empties middle more after) : Empties before more after

theorem Empties.lasts (punctual : Punctual works due probeTime) {received : Nat}
    (empties : Empties before received after) (working : works before.radio) :
    Lasts works 0 before after := by
  have reads {controller middle : Controller ρ} {answer : Except ChannelError (Option Nat)}
      (working : works controller.radio)
      (read : (readIfPossible : Operation ρ _).run controller = (answer, middle)) :
      Lasts works 0 controller middle := by
    rcases exists_run_readIfPossible punctual working with ⟨_, left, run_eq, lasts, _⟩
    rw [read, Prod.mk.injEq] at run_eq
    rw [run_eq.2]
    exact lasts
  induction empties with
  | silent read => exact reads working read
  | full read => exact reads working read
  | keep read _ ih => exact (reads working read).trans (ih (reads working read).works)
  | drop read _ ih => exact (reads working read).trans (ih (reads working read).works)

theorem exists_empties (punctual : Punctual works due probeTime) {fuel : Nat} (received : Nat)
    (working : works controller.radio) (enough : due controller.radio < fuel) :
    ∃ more after, Empties controller more after ∧
      (serviceUpTo fuel received).run controller = (.ok (received + more), after) := by
  -- Every frame taken off leaves fewer to be announced, so the loop never ends for want of fuel.
  induction fuel generalizing received controller with
  | zero => omega
  | succ fuel ih =>
      rcases exists_run_readIfPossible punctual working with
        ⟨answer, middle, run_eq, lasts, rfl | rfl | ⟨⟨length, rfl⟩ | rfl, lt⟩⟩
      · refine ⟨0, middle, .silent run_eq, ?_⟩
        simp only [serviceUpTo, run_bind, run_attempt, run_eq]
        rfl
      · refine ⟨0, middle, .full run_eq, ?_⟩
        simp only [serviceUpTo, run_bind, run_attempt, run_eq]
        rfl
      · rcases ih (received + 1) lasts.works (by omega) with ⟨more, after, empties, rest_eq⟩
        refine ⟨more + 1, after, .keep run_eq empties, ?_⟩
        simp only [serviceUpTo, run_bind, run_attempt, run_eq]
        rw [rest_eq, Nat.add_right_comm, Nat.add_assoc]
      · rcases ih received lasts.works (by omega) with ⟨more, after, empties, rest_eq⟩
        refine ⟨more, after, .drop run_eq empties, ?_⟩
        simp only [serviceUpTo, run_bind, run_attempt, run_eq]
        exact rest_eq

theorem exists_run_serviceReceiver (punctual : Punctual works due probeTime)
    (working : works controller.radio) :
    ∃ received after, (serviceReceiver : Operation ρ Nat).run controller = (.ok received, after) ∧
      Empties controller received after ∧ Lasts works 0 controller after := by
  have enough : due controller.radio < Timed.horizon controller.radio + 2 :=
    Nat.lt_succ_of_le (punctual.due_le_horizon _ working)
  rcases exists_empties punctual 0 working enough with ⟨received, after, empties, run_eq⟩
  rw [Nat.zero_add] at run_eq
  refine ⟨received, after, ?_, empties, empties.lasts punctual working⟩
  rw [serviceReceiver, run_bind, run_get]
  exact run_eq

/-! ### A slot passes -/

/-- The controller after its radio waited. -/
def waitFor (time : Nat) (controller : Controller ρ) : Controller ρ :=
  { controller with radio := Timed.waitUntil (Timed.now controller.radio + time) controller.radio }

theorem lasts_waitFor (punctual : Punctual works due probeTime) (time : Nat)
    (working : works controller.radio) : Lasts works time controller (controller.waitFor time) := by
  rcases punctual.waitUntil _ _ working (Nat.le_add_right _ time) with ⟨waited, now_eq⟩
  exact ⟨waited, now_eq, rfl, rfl⟩

/-- The controller waits for the end of a slot and takes frames off the radio now and then. -/
inductive PassesSlot (slotEnd : Nat) : Controller ρ → Controller ρ → Prop
  | last {before after : Controller ρ} {received : Nat} (empties : Empties before received after)
      (late : slotEnd ≤ Timed.now after.radio) : PassesSlot slotEnd before after
  | wait {before middle after : Controller ρ} {received : Nat}
      (empties : Empties before received middle) (early : Timed.now middle.radio < slotEnd)
      (rest : PassesSlot slotEnd
        (middle.waitFor (min (slotEnd - Timed.now middle.radio) serviceInterval)) after) :
      PassesSlot slotEnd before after

theorem PassesSlot.lasts (punctual : Punctual works due probeTime) {slotEnd time : Nat}
    (passes : PassesSlot slotEnd before after) (working : works before.radio)
    (slotEnd_eq : slotEnd = Timed.now before.radio + time) : Lasts works time before after := by
  induction passes generalizing time with
  | last empties late =>
      have lasts := empties.lasts punctual working
      have time_eq : time = 0 := by
        have now_eq := lasts.now_eq
        omega
      rw [time_eq]
      exact lasts
  | @wait _ middle _ _ empties early _ ih =>
      have emptied := empties.lasts punctual working
      have waited := lasts_waitFor punctual
        (min (slotEnd - Timed.now middle.radio) serviceInterval) emptied.works
      have emptied_now := emptied.now_eq
      have waited_now := waited.now_eq
      have pause_le := Nat.min_le_left (slotEnd - Timed.now middle.radio) serviceInterval
      generalize min (slotEnd - Timed.now middle.radio) serviceInterval = pause at *
      have rest : Lasts works (time - pause) _ _ := ih waited.works (by omega)
      have time_eq : 0 + pause + (time - pause) = time := by omega
      rw [← time_eq]
      exact (emptied.trans waited).trans rest

theorem exists_passesSlot (punctual : Punctual works due probeTime) {slotEnd fuel : Nat}
    (working : works controller.radio) (enough : slotEnd - Timed.now controller.radio < fuel) :
    ∃ after, PassesSlot slotEnd controller after ∧
      (waitSlotUpTo slotEnd fuel).run controller = (.ok (), after) := by
  -- Every wait brings the end of the slot closer, so there is fuel left when it comes.
  induction fuel generalizing controller with
  | zero => omega
  | succ fuel ih =>
      rcases exists_run_serviceReceiver punctual working with
        ⟨received, middle, served, empties, emptied⟩
      have emptied_now := emptied.now_eq
      have unrolled : (waitSlotUpTo slotEnd (fuel + 1)).run controller =
          if slotEnd ≤ Timed.now middle.radio then (.ok (), middle)
          else (waitSlotUpTo slotEnd fuel).run
            (middle.waitFor (min (slotEnd - Timed.now middle.radio) serviceInterval)) := by
        rw [waitSlotUpTo, run_bind_ok served, run_bind, run_now]
        dsimp only
        split
        · rfl
        · rfl
      rw [unrolled]
      split
      · rename_i late
        exact ⟨middle, .last empties late, rfl⟩
      · rename_i early
        have waited := lasts_waitFor punctual
          (min (slotEnd - Timed.now middle.radio) serviceInterval) emptied.works
        have waited_now := waited.now_eq
        have pause_pos : 0 < min (slotEnd - Timed.now middle.radio) serviceInterval :=
          Nat.lt_min.mpr ⟨by omega, by decide⟩
        rcases ih waited.works (by omega) with ⟨after, passes, rest_eq⟩
        exact ⟨after, .wait empties (Nat.lt_of_not_le early) passes, rest_eq⟩

theorem exists_run_waitSlot (punctual : Punctual works due probeTime)
    (working : works controller.radio) :
    ∃ after, (waitSlot : Operation ρ Unit).run controller = (.ok (), after) ∧
      PassesSlot (Timed.now controller.radio + controller.settings.slotTime) controller after := by
  have enough : Timed.now controller.radio + controller.settings.slotTime -
      Timed.now controller.radio < controller.settings.slotTime + 2 := by omega
  rcases exists_passesSlot punctual working enough with ⟨after, passes, run_eq⟩
  refine ⟨after, ?_, passes⟩
  simp only [waitSlot, run_bind, run_get, run_now, run_eq]

end StationMesh.Channel.Controller
