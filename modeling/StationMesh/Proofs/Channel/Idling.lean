import StationMesh.Proofs.Channel.Servicing
import StationMesh.Proofs.Radio.Bench
import StationMesh.Radio.Echo

/-!
# Going idle leaves the received frame alone

Once a frame was taken off an echo radio, the radio is put back into its idle state. As long as
nothing but reading fails, this succeeds, and it does not touch the frame that the radio holds by
then, nor how it is announced.
-/

namespace StationMesh.Radio.Bench

open StationMesh.Action

variable {α : Type} {bench before after : Bench Echo}

/-- The radio is up, nothing is planned to happen to it, and only reading can fail. -/
structure Readable (bench : Bench Echo) : Prop where
  up : bench.device.up = true
  planned_eq : bench.planned = []
  faults_eq : ∀ kind, kind ≠ .read → bench.faults kind = []

/-- The radio holds and announces what it did, and nothing else is going to happen to it. -/
structure Undisturbed (before after : Bench Echo) : Prop where
  up_eq : after.device.up = before.device.up
  signal_eq : after.device.signal = before.device.signal
  buffer_eq : after.device.buffer = before.device.buffer
  intact_eq : after.device.intact = before.device.intact
  planned_eq : after.planned = before.planned
  faults_eq : after.faults = before.faults

theorem Undisturbed.refl (bench : Bench Echo) : Undisturbed bench bench :=
  ⟨rfl, rfl, rfl, rfl, rfl, rfl⟩

theorem Undisturbed.trans {first second third : Bench Echo} (former : Undisturbed first second)
    (latter : Undisturbed second third) : Undisturbed first third where
  up_eq := latter.up_eq.trans former.up_eq
  signal_eq := latter.signal_eq.trans former.signal_eq
  buffer_eq := latter.buffer_eq.trans former.buffer_eq
  intact_eq := latter.intact_eq.trans former.intact_eq
  planned_eq := latter.planned_eq.trans former.planned_eq
  faults_eq := latter.faults_eq.trans former.faults_eq

theorem Undisturbed.readable (undisturbed : Undisturbed before after) (readable : before.Readable) :
    after.Readable where
  up := undisturbed.up_eq.trans readable.up
  planned_eq := undisturbed.planned_eq.trans readable.planned_eq
  faults_eq kind ne := by
    rw [undisturbed.faults_eq]
    exact readable.faults_eq kind ne

theorem undisturbed_setPreamble (side : Side) (length : UInt16) (bench : Bench Echo) :
    Undisturbed bench (Device.setPreamble side length bench) := by
  rcases setPreamble_eq side length bench with ⟨calls, set_eq⟩
  rw [set_eq]
  cases side with
  | transmit => exact ⟨rfl, rfl, rfl, rfl, rfl, rfl⟩
  | receive => exact ⟨rfl, rfl, rfl, rfl, rfl, rfl⟩

namespace Readable

theorem attend_eq (readable : bench.Readable) : Device.attend bench = bench :=
  settle_of_planned_eq_nil readable.planned_eq

/-- A call that only changes what the receiver does. -/
theorem run_change (readable : bench.Readable) {kind : CallKind} (ne : kind ≠ .read) (call : Call)
    {operation : Operation Echo Unit} {mode : Mode}
    (changes : operation.run bench.device = (.ok (), { bench.device with mode })) :
    ∃ left, (perform kind call 0 operation).run bench = (.ok (), left) ∧
      Undisturbed bench left := by
  rcases run_perform_of_faults_eq_nil (readable.faults_eq kind ne) call 0 operation with
    ⟨calls, run_eq⟩
  rw [settle_of_planned_eq_nil readable.planned_eq, changes] at run_eq
  exact ⟨_, run_eq, ⟨rfl, rfl, rfl, rfl, rfl, rfl⟩⟩

theorem run_enter (readable : bench.Readable) (mode : Mode) :
    (Echo.enter mode).run bench.device = (.ok (), { bench.device with mode }) := by
  simp [Echo.enter, readable.up]

end Readable

end StationMesh.Radio.Bench

namespace StationMesh.Channel.Controller

open Radio StationMesh.Action
open Radio.Bench (Undisturbed)

variable {controller : Controller (Bench Echo)}

theorem exists_run_enterIdle_of_readable (readable : controller.radio.Readable) :
    ∃ radio, (enterIdle : Operation (Bench Echo) Unit).run controller =
      (.ok (), { controller with radio }) ∧ Undisturbed controller.radio radio := by
  have listens (length : UInt16) (mode : Mode) {kind : CallKind} (ne : kind ≠ .read)
      (call : Call) :
      ∃ radio, (onRadio (Bench.perform kind call 0 (Echo.enter mode))).run
        { controller with radio := Device.setPreamble .receive length controller.radio } =
          (.ok (), { controller with radio }) ∧ Undisturbed controller.radio radio := by
    have preset := Bench.undisturbed_setPreamble .receive length controller.radio
    have presetReadable := preset.readable readable
    rcases presetReadable.run_change ne call (presetReadable.run_enter mode) with
      ⟨radio, run_eq, undisturbed⟩
    refine ⟨radio, ?_, preset.trans undisturbed⟩
    rw [onRadio, run_zoom, run_eq]
    rfl
  simp only [enterIdle, run_bind, run_get]
  split
  · exact ⟨controller.radio, rfl, .refl _⟩
  · exact listens _ .continuous (by decide) .listen
  · exact listens _ .dutyCycle (by decide) .dutyCycle
  · have sleeps : (Device.sleep : Radio.Operation Echo Unit).run controller.radio.device =
        (.ok (), { controller.radio.device with mode := .sleep }) := rfl
    rcases readable.run_change (by decide : CallKind.sleep ≠ .read) .sleep sleeps with
      ⟨radio, run_eq, undisturbed⟩
    refine ⟨radio, ?_, undisturbed⟩
    change (onRadio (Bench.perform .sleep .sleep 0 Device.sleep)).run controller = _
    rw [onRadio, run_zoom, run_eq]
    rfl

end StationMesh.Channel.Controller
