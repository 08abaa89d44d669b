import Mathlib.Algebra.BigOperators.Group.List.Basic
import Mathlib.Algebra.GroupWithZero.Nat
import StationMesh.Proofs.Invariant
import StationMesh.Proofs.Radio.Bench
import StationMesh.Radio.Echo

/-!
# What is still to come

The horizon of a radio bounds the busy answers and the frames from elsewhere that are still to come.
A frame the radio announces has already come, and is outstanding with them until it is taken note
of. Nothing a station does makes more outstanding but sending, after which a radio may hear itself,
and a probe that finds the channel busy uses up one thing that was outstanding.
-/

namespace StationMesh.Radio

open StationMesh.Action

variable {ρ δ α : Type}

section Laws

variable [Timed ρ]

/-- At least as many as the busy answers, the frames still to come, and the announced one. -/
def outstanding (radio : ρ) : Nat :=
  Timed.horizon radio + if (Device.signal radio).waiting then 1 else 0

/-- Neither the horizon nor what is outstanding has grown. -/
structure Calms (before after : ρ) : Prop where
  horizon_le : Timed.horizon after ≤ Timed.horizon before
  outstanding_le : outstanding after ≤ outstanding before

theorem Calms.refl (radio : ρ) : Calms radio radio := ⟨Nat.le_refl _, Nat.le_refl _⟩

theorem Calms.trans {first second third : ρ} (former : Calms first second)
    (latter : Calms second third) : Calms first third :=
  ⟨Nat.le_trans latter.horizon_le former.horizon_le,
    Nat.le_trans latter.outstanding_le former.outstanding_le⟩

/-- A radio whose horizon is what it is said to be. -/
class Foreseen (ρ : Type) [Timed ρ] : Prop where
  bringUp : (Device.bringUp : Operation ρ Unit).Moves Calms
  read : ∀ room, (Device.read room : Operation ρ Reception).Moves Calms
  probe : (Device.probe : Operation ρ Activity).Moves Calms
  listen : (Device.listen : Operation ρ Unit).Moves Calms
  dutyCycle : (Device.dutyCycle : Operation ρ Unit).Moves Calms
  sleep : (Device.sleep : Operation ρ Unit).Moves Calms
  setPreamble : ∀ side length (radio : ρ), Calms radio (Device.setPreamble side length radio)
  attend : ∀ radio : ρ, Calms radio (Device.attend radio)
  wait : ∀ time (radio : ρ), Calms radio (Timed.waitUntil time radio)
  acknowledge : ∀ radio : ρ, outstanding (Device.acknowledge radio) ≤ Timed.horizon radio
  busy : ∀ radio : ρ, ((Device.probe : Operation ρ _).run radio).1 = .ok .busy →
    outstanding ((Device.probe : Operation ρ _).run radio).2 < outstanding radio
  transmit : ∀ data, (Device.transmit data : Operation ρ Unit).Moves fun radio left =>
    Timed.horizon left ≤ Timed.horizon radio

end Laws

/-! ### Devices on the bench -/

section Bench

variable [Device δ] [Pokeable δ]

/-- The busy answers of a device and the frame it announces. -/
def load (device : δ) : Nat :=
  Pokeable.busyLeft device + if (Device.signal device).waiting then 1 else 0

/-- The device has gained no more than so much. -/
structure Gains (amount : Nat) (before after : δ) : Prop where
  busyLeft_le : Pokeable.busyLeft after ≤ Pokeable.busyLeft before + amount
  load_le : load after ≤ load before + amount

/-- A device whose pokes have the weights they are said to have. -/
class Weighed (δ : Type) [Device δ] [Pokeable δ] : Prop where
  bringUp : (Device.bringUp : Operation δ Unit).Moves (Gains 0)
  read : ∀ room, (Device.read room : Operation δ Reception).Moves (Gains 0)
  probe : (Device.probe : Operation δ Activity).Moves (Gains 0)
  listen : (Device.listen : Operation δ Unit).Moves (Gains 0)
  dutyCycle : (Device.dutyCycle : Operation δ Unit).Moves (Gains 0)
  sleep : (Device.sleep : Operation δ Unit).Moves (Gains 0)
  setPreamble : ∀ side length (device : δ), Gains 0 device (Device.setPreamble side length device)
  attend : ∀ device : δ, Gains 0 device (Device.attend device)
  poke : ∀ poke (device : δ), Gains poke.weight device (Pokeable.poke poke device)
  acknowledge : ∀ device : δ, load (Device.acknowledge device) ≤ Pokeable.busyLeft device
  busy : ∀ device : δ, ((Device.probe : Operation δ _).run device).1 = .ok .busy →
    load ((Device.probe : Operation δ _).run device).2 < load device
  transmit : ∀ data, (Device.transmit data : Operation δ Unit).Moves fun device left =>
    Pokeable.busyLeft left ≤ Pokeable.busyLeft device

namespace Bench

/-- At least as many as the busy answers and the arrivals that pokes bring about. -/
def weight (planned : List Planned) : Nat := (planned.map fun planned => planned.poke.weight).sum

theorem horizon_eq (bench : Bench δ) :
    Timed.horizon bench = Pokeable.busyLeft bench.device + weight bench.planned := by
  change Pokeable.busyLeft bench.device +
    bench.planned.foldr (fun planned total => planned.poke.weight + total) 0 = _
  rw [weight, List.sum_eq_foldr, List.foldr_map]

theorem outstanding_eq (bench : Bench δ) :
    outstanding bench = load bench.device + weight bench.planned := by
  rw [outstanding, horizon_eq, load, Nat.add_right_comm]
  rfl

/-- What the device gains was planned before. -/
theorem calms_of_gains {before after : Bench δ} {amount : Nat}
    (gains : Gains amount before.device after.device)
    (planned : weight after.planned + amount ≤ weight before.planned) : Calms before after := by
  have busyLeft_le := gains.busyLeft_le
  have load_le := gains.load_le
  constructor
  · rw [horizon_eq, horizon_eq]
    omega
  · rw [outstanding_eq, outstanding_eq]
    omega

variable [Weighed δ]

theorem gains_foldl_poke (due : List Planned) (device : δ) :
    Gains (weight due) device
      (due.foldl (fun device planned => Pokeable.poke planned.poke device) device) := by
  induction due generalizing device with
  | nil => exact ⟨Nat.le_refl _, Nat.le_refl _⟩
  | cons first due ih =>
      have poked := Weighed.poke first.poke device
      have others := ih (Pokeable.poke first.poke device)
      have weight_eq : weight (first :: due) = first.poke.weight + weight due := List.sum_cons
      constructor
      · have le := poked.busyLeft_le
        have others_le := others.busyLeft_le
        rw [List.foldl_cons]
        omega
      · have le := poked.load_le
        have others_le := others.load_le
        rw [List.foldl_cons]
        omega

theorem calms_settle (bench : Bench δ) : Calms bench bench.settle := by
  -- What is due and what comes later is together what was planned, in another order.
  have split := bench.planned.filter_append_perm (·.time ≤ bench.clock)
  have weight_eq := (split.map fun planned => planned.poke.weight).sum_eq
  rw [List.map_append, List.sum_append] at weight_eq
  apply calms_of_gains
  · simp only [settle, List.partition_eq_filter_filter]
    exact gains_foldl_poke _ bench.device
  · simp only [settle, List.partition_eq_filter_filter]
    rw [Nat.add_comm]
    exact Nat.le_of_eq weight_eq

theorem calms_perform {kind : CallKind} {call : Call} {duration : Nat} {operation : Operation δ α}
    (gains : operation.Moves (Gains 0)) :
    (perform kind call duration operation).Moves Calms := by
  intro bench
  rcases run_perform_cases kind call duration operation bench with
    ⟨error, faults, calls, run_eq⟩ | ⟨faults, calls, run_eq⟩
  · rw [run_eq]
    have settled := calms_settle bench
    exact ⟨settled.horizon_le, settled.outstanding_le⟩
  · rw [run_eq]
    refine (calms_settle bench).trans ?_
    exact calms_of_gains (gains bench.settle.device) (Nat.le_refl _)

theorem calms_setPreamble (side : Side) (length : UInt16) (bench : Bench δ) :
    Calms bench (Device.setPreamble side length bench) := by
  rcases setPreamble_eq side length bench with ⟨calls, set_eq⟩
  rw [set_eq]
  exact calms_of_gains (Weighed.setPreamble side length bench.device) (Nat.le_refl _)

theorem calms_probe : (Device.probe : Operation (Bench δ) Activity).Moves Calms := by
  intro bench
  have probed : (perform .probe .probe 0 (Device.probe : Operation δ Activity)).Moves Calms :=
    calms_perform Weighed.probe
  have moved := probed (bench.elapse bench.probeTime)
  exact ⟨moved.horizon_le, moved.outstanding_le⟩

/-- Only the device answers that the channel is busy. -/
theorem outstanding_lt_of_busy (bench : Bench δ)
    (busy : ((Device.probe : Operation (Bench δ) Activity).run bench).1 = .ok .busy) :
    outstanding ((Device.probe : Operation (Bench δ) Activity).run bench).2 <
      outstanding bench := by
  have run_eq : (Device.probe : Operation (Bench δ) Activity).run bench =
      (perform .probe .probe 0 (Device.probe : Operation δ Activity)).run
        (bench.elapse bench.probeTime) := rfl
  have settled_le : outstanding (bench.elapse bench.probeTime).settle ≤ outstanding bench :=
    (calms_settle (bench.elapse bench.probeTime)).outstanding_le
  rw [run_eq] at busy ⊢
  rcases run_perform_cases .probe .probe 0 (Device.probe : Operation δ Activity)
    (bench.elapse bench.probeTime) with
    ⟨error, faults, calls, performed⟩ | ⟨faults, calls, performed⟩
  · rw [performed] at busy
    contradiction
  · rw [performed] at busy ⊢
    have load_lt := Weighed.busy _ busy
    rw [outstanding_eq] at settled_le ⊢
    exact Nat.lt_of_lt_of_le (Nat.add_lt_add_right load_lt _) settled_le

theorem horizon_transmit_le (data : Bytes) (bench : Bench δ) :
    Timed.horizon ((Device.transmit data : Operation (Bench δ) Unit).run bench).2 ≤
      Timed.horizon bench := by
  have run_eq : (Device.transmit data : Operation (Bench δ) Unit).run bench =
      (perform .transmit (.transmit data) bench.transmitTime
        (Device.transmit data : Operation δ Unit)).run bench := rfl
  have settled_le := (calms_settle bench).horizon_le
  rw [run_eq]
  rcases run_perform_cases .transmit (.transmit data) bench.transmitTime
    (Device.transmit data : Operation δ Unit) bench with
    ⟨error, faults, calls, performed⟩ | ⟨faults, calls, performed⟩
  · rw [performed]
    exact settled_le
  · rw [performed]
    have busyLeft_le := Weighed.transmit data bench.settle.device
    rw [horizon_eq] at settled_le ⊢
    exact Nat.le_trans (Nat.add_le_add_right busyLeft_le _) settled_le

instance : Foreseen (Bench δ) where
  bringUp := calms_perform Weighed.bringUp
  read _ := calms_perform (Weighed.read _)
  probe := calms_probe
  listen := calms_perform Weighed.listen
  dutyCycle := calms_perform Weighed.dutyCycle
  sleep := calms_perform Weighed.sleep
  setPreamble := calms_setPreamble
  attend bench := (calms_settle bench).trans
    (calms_of_gains (Weighed.attend bench.settle.device) (Nat.le_refl _))
  wait _ _ := ⟨Nat.le_refl _, Nat.le_refl _⟩
  acknowledge bench := by
    have load_le := Weighed.acknowledge bench.device
    rw [horizon_eq, outstanding_eq]
    exact Nat.add_le_add_right load_le _
  busy := outstanding_lt_of_busy
  transmit := horizon_transmit_le

end Bench

end Bench

/-! ### The echo radio -/

namespace Echo

theorem load_eq (echo : Echo) : load echo = echo.busyLeft + if echo.signal.waiting then 1 else 0 :=
  rfl

theorem load_le_busyLeft_succ (echo : Echo) : load echo ≤ echo.busyLeft + 1 := by
  rw [load_eq]
  split <;> omega

theorem gains_of_eq {before after : Echo} (busyLeft_eq : after.busyLeft = before.busyLeft)
    (signal_eq : after.signal = before.signal) : Gains 0 before after where
  busyLeft_le := Nat.le_of_eq busyLeft_eq
  load_le := by
    rw [load_eq, load_eq, busyLeft_eq, signal_eq]
    exact Nat.le_refl _

theorem gains_read (room : Nat) : (read room).Moves (Gains 0) := by
  intro echo
  have left_eq : ((read room).run echo).2 = echo := by
    simp only [read, run_of]
    split
    · rfl
    · split <;> rfl
  rw [left_eq]
  exact gains_of_eq rfl rfl

theorem gains_enter (mode : Mode) : (enter mode).Moves (Gains 0) := by
  intro echo
  simp only [enter, run_of]
  split
  · exact gains_of_eq rfl rfl
  · exact gains_of_eq rfl rfl

theorem gains_probe : probe.Moves (Gains 0) := by
  intro echo
  simp only [probe, run_of]
  split
  · exact gains_of_eq rfl rfl
  · split
    · constructor
      · exact Nat.sub_le _ _
      · exact Nat.add_le_add_right (Nat.sub_le _ _) _
    · exact gains_of_eq rfl rfl

theorem load_probe_lt_of_busy {echo : Echo} (busy : (probe.run echo).1 = .ok .busy) :
    load (probe.run echo).2 < load echo := by
  simp only [probe, run_of] at busy ⊢
  split at busy
  · contradiction
  · rename_i up
    rw [if_neg up]
    split at busy
    · rename_i positive
      rw [if_pos positive]
      exact Nat.add_lt_add_right (Nat.sub_lt positive Nat.one_pos) _
    · simp at busy

/-- A frame that arrives takes the place of the one that was announced. -/
theorem gains_inject (data : Bytes) (intact : Bool) (echo : Echo) :
    Gains 1 echo (echo.inject data intact) where
  busyLeft_le := Nat.le_succ _
  load_le := by
    have le := load_le_busyLeft_succ (echo.inject data intact)
    exact Nat.le_trans le (Nat.add_le_add_right (Nat.le_add_right _ _) 1)

theorem gains_poke (poke : Poke) (echo : Echo) :
    Gains poke.weight echo (Pokeable.poke poke echo) := by
  cases poke with
  | inject data intact => exact gains_inject data intact echo
  | fail error => exact gains_of_eq rfl rfl
  | busy count =>
      constructor
      · exact Nat.le_add_left _ _
      · change count + _ ≤ echo.busyLeft + _ + count
        rw [Nat.add_comm]
        exact Nat.add_le_add_right (Nat.le_add_left _ _) _

theorem busyLeft_transmit_le (data : Bytes) (echo : Echo) :
    ((transmit data).run echo).2.busyLeft ≤ echo.busyLeft := by
  simp only [transmit, run_of]
  split
  · exact Nat.le_refl _
  · split
    · exact Nat.le_refl _
    · split
      · exact Nat.le_refl _
      · exact Nat.le_refl _

instance : Weighed Echo where
  bringUp _ := gains_of_eq rfl rfl
  read := gains_read
  probe := gains_probe
  listen := gains_enter .continuous
  dutyCycle := gains_enter .dutyCycle
  sleep _ := gains_of_eq rfl rfl
  setPreamble side _ _ := by cases side <;> exact gains_of_eq rfl rfl
  attend _ := gains_of_eq rfl rfl
  poke := gains_poke
  acknowledge _ := Nat.le_refl _
  busy _ := load_probe_lt_of_busy
  transmit := busyLeft_transmit_le

end Echo

end StationMesh.Radio
