import StationMesh.Proofs.Invariant
import StationMesh.Proofs.Radio.Bench
import StationMesh.Radio.Echo

/-!
# What the receiver of an echo radio does

A call that changes the receiver either fails or leaves the device up with the receiver doing what
the call is for. It may fail because of a fault that is given in place of the device, and then
nothing is known of the receiver. Frames that arrive, a busy channel, and the calls that only ask
something leave the receiver alone.
-/

namespace StationMesh.Radio

open StationMesh.Action

variable {α : Type} {mode : Mode}

namespace Echo

/-- The device is up, and its receiver does this. -/
structure Ready (mode : Mode) (echo : Echo) : Prop where
  up_eq : echo.up = true
  mode_eq : echo.mode = mode

/-- The device is up if it was, and its receiver does what it did. -/
structure Untouched (before after : Echo) : Prop where
  up_eq : after.up = before.up
  mode_eq : after.mode = before.mode

theorem Untouched.refl (echo : Echo) : Untouched echo echo := ⟨rfl, rfl⟩

theorem Untouched.trans {first second third : Echo} (former : Untouched first second)
    (latter : Untouched second third) : Untouched first third :=
  ⟨latter.up_eq.trans former.up_eq, latter.mode_eq.trans former.mode_eq⟩

theorem Untouched.ready {before after : Echo} (untouched : Untouched before after)
    (ready : before.Ready mode) : after.Ready mode :=
  ⟨untouched.up_eq.trans ready.up_eq, untouched.mode_eq.trans ready.mode_eq⟩

theorem untouched_poke (poke : Poke) (echo : Echo) : Untouched echo (Pokeable.poke poke echo) := by
  cases poke with
  | inject data intact => exact ⟨rfl, rfl⟩
  | busy count => exact ⟨rfl, rfl⟩
  | fail error => exact ⟨rfl, rfl⟩

theorem untouched_setPreamble (side : Side) (length : UInt16) (echo : Echo) :
    Untouched echo (Device.setPreamble side length echo) := by
  cases side with
  | transmit => exact ⟨rfl, rfl⟩
  | receive => exact ⟨rfl, rfl⟩

theorem untouched_read (room : Nat) : (read room).Moves Untouched := by
  intro echo
  simp only [read, run_of]
  split
  · exact .refl echo
  · split
    · exact .refl echo
    · exact .refl echo

theorem untouched_probe : probe.Moves Untouched := by
  intro echo
  simp only [probe, run_of]
  split
  · exact .refl echo
  · split
    · exact ⟨rfl, rfl⟩
    · exact ⟨rfl, rfl⟩

theorem ready_bringUp : bringUp.MovesUnless (fun _ => True) fun _ after => after.Ready .standby :=
  fun _ => .inr ⟨rfl, rfl⟩

theorem ready_transmit (data : Bytes) :
    (transmit data).MovesUnless (fun _ => True) fun _ after => after.Ready .standby := by
  intro echo
  by_cases up : echo.up
  · cases failure : echo.failure with
    | some error =>
        left
        exact ⟨error, by simp [transmit, up, failure], trivial⟩
    | none =>
        by_cases long : bufferSize < data.length
        · left
          exact ⟨.transmissionFailed, by simp [transmit, up, failure, long], trivial⟩
        · right
          simp only [transmit, run_of, up, failure, long, Bool.not_true, Bool.false_eq_true,
            if_false]
          exact ⟨rfl, rfl⟩
  · left
    exact ⟨.initializationFailed, by simp [transmit, up], trivial⟩

theorem ready_enter (mode : Mode) :
    (enter mode).MovesUnless (fun _ => True) fun _ after => after.Ready mode := by
  intro echo
  by_cases up : echo.up
  · right
    simp only [enter, run_of, if_pos up]
    exact ⟨up, rfl⟩
  · left
    exact ⟨.initializationFailed, by simp [enter, up], trivial⟩

end Echo

/-! ### On the bench -/

namespace Bench

open Echo (Untouched)

variable {kind : CallKind} {call : Call} {duration : Nat} {bench : Bench Echo}

theorem untouched_settle (bench : Bench Echo) : Untouched bench.device bench.settle.device := by
  have poked (due : List Planned) (echo : Echo) : Untouched echo
      (due.foldl (fun device planned => Pokeable.poke planned.poke device) echo) := by
    induction due generalizing echo with
    | nil => exact .refl echo
    | cons first due ih => exact (Echo.untouched_poke first.poke echo).trans (ih _)
  simp only [settle]
  exact poked _ bench.device

theorem untouched_setPreamble (side : Side) (length : UInt16) (bench : Bench Echo) :
    Untouched bench.device (Device.setPreamble side length bench).device := by
  rcases setPreamble_eq side length bench with ⟨calls, set_eq⟩
  rw [set_eq]
  exact Echo.untouched_setPreamble side length bench.device

theorem untouched_perform {operation : Operation Echo α} (untouched : operation.Moves Untouched) :
    (perform kind call duration operation).Moves fun before after =>
      Untouched before.device after.device := by
  intro bench
  have settled := untouched_settle bench
  rcases run_perform_cases kind call duration operation bench with
    ⟨error, faults, calls, run_eq⟩ | ⟨faults, calls, run_eq⟩
  · rw [run_eq]
    exact settled
  · rw [run_eq]
    exact settled.trans (untouched bench.settle.device)

theorem untouched_probe :
    (Device.probe : Operation (Bench Echo) Activity).Moves fun before after =>
      Untouched before.device after.device := by
  intro bench
  have probed : (perform .probe .probe 0 Echo.probe).Moves fun before after =>
      Untouched before.device after.device := untouched_perform Echo.untouched_probe
  exact probed (bench.elapse bench.probeTime)

/-- Unless a fault is given in its place, the device makes itself ready. -/
theorem ready_perform {operation : Operation Echo Unit}
    (ready : operation.StopsExcused (fun _ => True) bench.settle.device ∨
      (operation.run bench.settle.device).2.Ready mode) :
    (perform kind call duration operation).StopsExcused (fun _ => True) bench ∨
      ((perform kind call duration operation).run bench).2.device.Ready mode := by
  rw [StopsExcused]
  rcases run_perform_cases kind call duration operation bench with
    ⟨error, faults, calls, run_eq⟩ | ⟨faults, calls, run_eq⟩
  · left
    rw [run_eq]
    exact ⟨error, rfl, trivial⟩
  · rw [run_eq]
    exact ready

theorem ready_bringUp : (Device.bringUp : Operation (Bench Echo) Unit).MovesUnless (fun _ => True)
    fun _ after => after.device.Ready .standby :=
  fun _ => ready_perform (Echo.ready_bringUp _)

theorem ready_transmit (data : Bytes) :
    (Device.transmit data : Operation (Bench Echo) Unit).MovesUnless (fun _ => True)
      fun _ after => after.device.Ready .standby :=
  fun _ => ready_perform (Echo.ready_transmit data _)

theorem ready_listen : (Device.listen : Operation (Bench Echo) Unit).MovesUnless (fun _ => True)
    fun _ after => after.device.Ready .continuous :=
  fun _ => ready_perform (Echo.ready_enter .continuous _)

theorem ready_dutyCycle :
    (Device.dutyCycle : Operation (Bench Echo) Unit).MovesUnless (fun _ => True)
      fun _ after => after.device.Ready .dutyCycle :=
  fun _ => ready_perform (Echo.ready_enter .dutyCycle _)

/-- A device that is down does not report it when its receiver is turned off. -/
theorem ready_sleep : (Device.sleep : Operation (Bench Echo) Unit).MovesUnless (fun _ => True)
    fun before after => before.device.up = true → after.device.Ready .sleep := by
  intro bench
  by_cases up : bench.device.up = true
  · have slept : (perform .sleep .sleep 0 Device.sleep).StopsExcused (fun _ => True) bench ∨
        ((perform .sleep .sleep 0 Device.sleep).run bench).2.device.Ready .sleep :=
      ready_perform (.inr ⟨(untouched_settle bench).up_eq.trans up, rfl⟩)
    exact slept.imp id fun ready _ => ready
  · right
    intro stillUp
    contradiction

end Bench

end StationMesh.Radio
