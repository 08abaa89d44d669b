import StationMesh.Proofs.Radio.Readiness

/-!
# Radios on a virtual clock

On a virtual clock a probe takes a fixed time, a wait ends exactly when it is meant to, and nothing
else takes time. As no time passes while frames are taken off a radio, only those that are there at
the moment can be announced, and there are finitely many of them.

A radio keeps to this as long as it works. The echo radio on the bench does while it is up and no
faults are queued for it, whatever is planned to happen to it.
-/

namespace StationMesh.Radio

open StationMesh.Action

section Laws

variable {ρ : Type} [Timed ρ]

/-- Without any time passing, the radio works on, and no more frames are there to be announced. -/
structure Prompt (works : ρ → Prop) (due : ρ → Nat) (before after : ρ) : Prop where
  works : works after
  now_eq : Timed.now after = Timed.now before
  due_le : due after ≤ due before

/-- Whenever the radio works, the operation succeeds without any time passing. -/
def Instant (works : ρ → Prop) (due : ρ → Nat) (operation : Operation ρ Unit) : Prop :=
  ∀ radio, works radio → ∃ after, operation.run radio = (.ok (), after) ∧
    Prompt works due radio after

/-- A radio without faults on a virtual clock. `works` says when it works, `due` how many frames it
can announce before any time passes, and `probeTime` how long it takes to probe the channel. -/
structure Punctual (works : ρ → Prop) (due : ρ → Nat) (probeTime : Nat) : Prop where
  probeTime_pos : 0 < probeTime
  attend : ∀ radio, works radio → Prompt works due radio (Device.attend radio)
  /-- A frame is announced as long as there is one. -/
  due_eq_zero : ∀ radio, works radio → (Device.signal (Device.attend radio)).waiting = false →
    due radio = 0
  /-- A frame is announced no more once it was taken note of. -/
  acknowledge : ∀ radio, works radio → (Device.signal (Device.attend radio)).waiting = true →
    Prompt works due radio (Device.acknowledge (Device.attend radio)) ∧
      due (Device.acknowledge (Device.attend radio)) < due radio
  due_le_horizon : ∀ radio, works radio → due radio ≤ Timed.horizon radio + 1
  read : ∀ room radio, works radio →
    Prompt works due radio ((Device.read room : Operation ρ _).run radio).2
  /-- A frame can only be too long to be read. -/
  read_error : ∀ room radio, works radio → ∀ error,
    ((Device.read room : Operation ρ _).run radio).1 = .error error → error = .bufferTooSmall
  setPreamble : ∀ side length radio, works radio →
    Prompt works due radio (Device.setPreamble side length radio)
  listen : Instant works due Device.listen
  dutyCycle : Instant works due Device.dutyCycle
  sleep : Instant works due Device.sleep
  probe : ∀ radio, works radio → ∃ activity after,
    (Device.probe : Operation ρ _).run radio = (.ok activity, after) ∧ works after ∧
      Timed.now after = Timed.now radio + probeTime
  waitUntil : ∀ time radio, works radio → Timed.now radio ≤ time →
    works (Timed.waitUntil time radio) ∧ Timed.now (Timed.waitUntil time radio) = time

namespace Prompt

variable {works : ρ → Prop} {due : ρ → Nat} {first second third : ρ}

theorem refl (working : works first) : Prompt works due first first :=
  ⟨working, rfl, Nat.le_refl _⟩

theorem trans (former : Prompt works due first second) (latter : Prompt works due second third) :
    Prompt works due first third :=
  ⟨latter.works, latter.now_eq.trans former.now_eq, Nat.le_trans latter.due_le former.due_le⟩

end Prompt

end Laws

/-! ### The echo radio on the bench -/

namespace Echo

/-- The device is up if it was, and announces what it did. -/
structure Calm (before after : Echo) : Prop where
  up_eq : after.up = before.up
  signal_eq : after.signal = before.signal

theorem calm_read (room : Nat) : (read room).Moves Calm := by
  intro echo
  simp only [read, run_of]
  split
  · exact ⟨rfl, rfl⟩
  · split
    · exact ⟨rfl, rfl⟩
    · exact ⟨rfl, rfl⟩

theorem calm_enter (mode : Mode) : (enter mode).Moves Calm := by
  intro echo
  simp only [enter, run_of]
  split
  · exact ⟨rfl, rfl⟩
  · exact ⟨rfl, rfl⟩

theorem signal_poke {echo other : Echo} (signal_eq : echo.signal = other.signal) (poke : Poke) :
    (Pokeable.poke poke echo).signal = (Pokeable.poke poke other).signal := by
  cases poke with
  | inject data intact => exact congrArg Signal.raise signal_eq
  | busy count => exact signal_eq
  | fail error => exact signal_eq

theorem exists_run_probe {echo : Echo} (up : echo.up = true) :
    ∃ activity, (probe.run echo).1 = .ok activity := by
  simp only [probe, run_of, up, Bool.not_true, Bool.false_eq_true, if_false]
  split
  · exact ⟨.busy, rfl⟩
  · exact ⟨.free, rfl⟩

end Echo

namespace Bench

open Echo (Calm)

variable {α : Type} {bench : Bench Echo} {probeTime : Nat}

/-- The radio is up, and no faults are queued for it. -/
structure Works (probeTime : Nat) (bench : Bench Echo) : Prop where
  up : bench.device.up = true
  probeTime_eq : bench.probeTime = probeTime
  faults_eq : ∀ kind, bench.faults kind = []

/-- One frame is announced at most. It may arrive with what is due to happen. -/
def due (bench : Bench Echo) : Nat := if bench.settle.device.signal.waiting then 1 else 0

theorem due_le_one (bench : Bench Echo) : due bench ≤ 1 := by
  unfold due
  split
  · exact Nat.le_refl _
  · exact Nat.zero_le _

theorem due_congr {other : Bench Echo} (signal_eq : bench.device.signal = other.device.signal)
    (clock_eq : bench.clock = other.clock) (planned_eq : bench.planned = other.planned) :
    due bench = due other := by
  have poked (pokes : List Planned) (echo other : Echo) (signal_eq : echo.signal = other.signal) :
      (pokes.foldl (fun device planned => Pokeable.poke planned.poke device) echo).signal =
        (pokes.foldl (fun device planned => Pokeable.poke planned.poke device) other).signal := by
    induction pokes generalizing echo other with
    | nil => exact signal_eq
    | cons planned pokes ih => exact ih _ _ (Echo.signal_poke signal_eq planned.poke)
  have settled : bench.settle.device.signal = other.settle.device.signal := by
    simp only [settle, clock_eq, planned_eq]
    exact poked _ _ _ signal_eq
  rw [due, due, settled]

theorem settle_of_later (later : ∀ planned ∈ bench.planned, bench.clock < planned.time) :
    bench.settle = bench := by
  have none_due : bench.planned.filter (·.time ≤ bench.clock) = [] := by
    simpa using later
  have all_later : bench.planned.filter (not ∘ fun planned => planned.time ≤ bench.clock) =
      bench.planned := by
    simpa using later
  simp only [settle, List.partition_eq_filter_filter, none_due, all_later, List.foldl_nil]

theorem later_settle (bench : Bench Echo) :
    ∀ planned ∈ bench.settle.planned, bench.settle.clock < planned.time := by
  simp [settle, List.partition_eq_filter_filter]

theorem due_settle (bench : Bench Echo) : due bench.settle = due bench := by
  rw [due, settle_of_later (later_settle bench), due]

namespace Works

theorem settle (works : Works probeTime bench) : Works probeTime bench.settle :=
  ⟨(untouched_settle bench).up_eq.trans works.up, works.probeTime_eq, works.faults_eq⟩

theorem elapse (works : Works probeTime bench) (time : Nat) :
    Works probeTime (bench.elapse time) :=
  ⟨works.up, works.probeTime_eq, works.faults_eq⟩

theorem run_perform (works : Works probeTime bench) {operation : Operation Echo α}
    (calm : operation.Moves Calm) (kind : CallKind) (call : Call) :
    ∃ left, (perform kind call 0 operation).run bench =
      ((operation.run bench.settle.device).1, left) ∧ Prompt (Works probeTime) due bench left := by
  rcases run_perform_of_faults_eq_nil (works.faults_eq kind) call 0 operation with ⟨calls, run_eq⟩
  rcases calm bench.settle.device with ⟨up_eq, signal_eq⟩
  refine ⟨_, run_eq, ⟨up_eq.trans works.settle.up, works.probeTime_eq, works.faults_eq⟩, rfl, ?_⟩
  rw [← due_settle bench]
  exact Nat.le_of_eq (due_congr signal_eq rfl rfl)

theorem instant_perform {operation : Operation Echo Unit} (calm : operation.Moves Calm)
    (succeeds : ∀ echo : Echo, echo.up = true → (operation.run echo).1 = .ok ())
    (kind : CallKind) (call : Call) :
    Instant (Works probeTime) due (perform kind call 0 operation) := by
  intro bench works
  rcases works.run_perform calm kind call with ⟨left, run_eq, prompt⟩
  rw [succeeds _ works.settle.up] at run_eq
  exact ⟨left, run_eq, prompt⟩

theorem instant_enter (mode : Mode) (kind : CallKind) (call : Call) :
    Instant (Works probeTime) due (perform kind call 0 (Echo.enter mode)) := by
  apply instant_perform (Echo.calm_enter mode)
  intro echo up
  simp [Echo.enter, up]

theorem prompt_settle (works : Works probeTime bench) :
    Prompt (Works probeTime) due bench bench.settle :=
  ⟨works.settle, rfl, Nat.le_of_eq (due_settle bench)⟩

theorem read (works : Works probeTime bench) (room : Nat) :
    ∃ left, (Device.read room : Operation (Bench Echo) _).run bench =
      (((Echo.read room).run bench.settle.device).1, left) ∧
      Prompt (Works probeTime) due bench left :=
  works.run_perform (Echo.calm_read room) .read (.read room)

theorem read_error (works : Works probeTime bench) {room : Nat} {error : DeviceError}
    (failed : ((Device.read room : Operation (Bench Echo) _).run bench).1 = .error error) :
    error = .bufferTooSmall := by
  rcases works.read room with ⟨left, run_eq, _⟩
  rw [run_eq] at failed
  simp only [Echo.read, run_of, works.settle.up, Bool.not_true, Bool.false_eq_true, if_false]
    at failed
  split at failed
  · exact (Except.error.inj failed).symm
  · contradiction

theorem acknowledge (works : Works probeTime bench)
    (waiting : (Device.signal (Device.attend bench)).waiting = true) :
    Prompt (Works probeTime) due bench (Device.acknowledge (Device.attend bench)) ∧
      due (Device.acknowledge (Device.attend bench)) < due bench := by
  have announced : due bench = 1 := if_pos waiting
  have lowered : due (Device.acknowledge (Device.attend bench)) = 0 := by
    have settled : (Device.acknowledge (Device.attend bench) : Bench Echo).settle =
        Device.acknowledge (Device.attend bench) :=
      settle_of_later (later_settle bench)
    rw [due, settled]
    rfl
  refine ⟨⟨⟨works.settle.up, works.probeTime_eq, works.faults_eq⟩, rfl, ?_⟩, ?_⟩
  · rw [lowered]
    exact Nat.zero_le _
  · rw [lowered, announced]
    exact Nat.one_pos

theorem setPreamble (works : Works probeTime bench) (side : Side) (length : UInt16) :
    Prompt (Works probeTime) due bench (Device.setPreamble side length bench) := by
  rcases setPreamble_eq side length bench with ⟨calls, set_eq⟩
  have up := (untouched_setPreamble side length bench).up_eq.trans works.up
  rw [set_eq] at up ⊢
  refine ⟨⟨up, works.probeTime_eq, works.faults_eq⟩, rfl, Nat.le_of_eq (due_congr ?_ rfl rfl)⟩
  cases side with
  | transmit => rfl
  | receive => rfl

theorem probe (works : Works probeTime bench) : ∃ activity left,
    (Device.probe : Operation (Bench Echo) _).run bench = (.ok activity, left) ∧
      Works probeTime left ∧ left.clock = bench.clock + probeTime := by
  have later := works.elapse bench.probeTime
  rcases run_perform_of_faults_eq_nil (later.faults_eq .probe) .probe 0 Echo.probe with
    ⟨calls, run_eq⟩
  rcases Echo.exists_run_probe later.settle.up with ⟨activity, answer_eq⟩
  rw [answer_eq] at run_eq
  refine ⟨activity, _, run_eq, ⟨?_, works.probeTime_eq, works.faults_eq⟩, ?_⟩
  · exact (Echo.untouched_probe _).up_eq.trans later.settle.up
  · rw [← works.probeTime_eq]
    rfl

end Works

/-- Whatever is planned to happen to it, the echo radio keeps to the clock on its bench. -/
theorem punctual (probeTime_pos : 0 < probeTime) : Punctual (Works probeTime) due probeTime where
  probeTime_pos := probeTime_pos
  attend _ works := works.prompt_settle
  due_eq_zero bench _ silent := by
    change bench.settle.device.signal.waiting = false at silent
    simp [due, silent]
  acknowledge _ works waiting := works.acknowledge waiting
  due_le_horizon bench _ := Nat.le_trans (due_le_one bench) (Nat.le_add_left _ _)
  read room bench works := by
    rcases works.read room with ⟨left, run_eq, prompt⟩
    rw [run_eq]
    exact prompt
  read_error _ _ works _ failed := works.read_error failed
  setPreamble side length _ works := works.setPreamble side length
  listen := Works.instant_enter .continuous _ _
  dutyCycle := Works.instant_enter .dutyCycle _ _
  sleep := Works.instant_perform (fun _ => ⟨rfl, rfl⟩) (fun _ _ => rfl) _ _
  probe _ works := works.probe
  waitUntil time bench works le :=
    ⟨⟨works.up, works.probeTime_eq, works.faults_eq⟩, Nat.max_eq_right le⟩

end Bench

end StationMesh.Radio
