import Mathlib.Algebra.Order.Group.Multiset
import Mathlib.Data.Multiset.Bind
import StationMesh.Proofs.Radio.Bench
import StationMesh.Proofs.Radio.Hearing

/-!
# Frames on their way

A device on the bench can still hand over the frame that it announces and those that are planned to
arrive, and no others. A call takes frames off their way to the device, where each may overwrite the
one before, and adds none. The exceptions are a transmission that the device hears itself, and
bringing the device up while a frame is announced.
-/

namespace StationMesh.Radio.Bench

open StationMesh.Action
open Hearing (Brings Rests)

variable {δ α : Type} [Hearing δ] {bench before after : Bench δ} {kind : CallKind} {call : Call}
  {duration : Nat}

/-- The frames that reach a device with these pokes. -/
def arrivals (planned : List Planned) : Multiset Reception :=
  (planned : Multiset Planned).bind fun planned => planned.poke.receptions

/-- The frames that are planned to arrive. -/
def toCome (bench : Bench δ) : Multiset Reception := arrivals bench.planned

/-- The frames that the device may still hand over. -/
def upcoming (bench : Bench δ) : Multiset Reception :=
  (Hearing.announced bench.device).toList + bench.toCome

/-- The error is queued to be given in place of the device. -/
def Scripted (error : DeviceError) (bench : Bench δ) : Prop :=
  ∃ kind, some error ∈ bench.faults kind

theorem coe_toList_le_of_brings {added : Multiset Reception} {before after : δ}
    (brings : Brings added before after) :
    ((Hearing.announced after).toList : Multiset Reception) ≤
      (Hearing.announced before).toList + added := by
  cases announced_eq : Hearing.announced after with
  | none => exact Multiset.zero_le _
  | some reception =>
      rw [Option.toList_some, Multiset.coe_singleton, Multiset.singleton_le, Multiset.mem_add]
      refine (brings.announced reception announced_eq).imp ?_ id
      simp

/-- The device may hand over no frame that it could not hand over before, apart from those that are
added, and no fault is queued. -/
structure Dwindles (before after : Bench δ) : Prop where
  sound : Hearing.Sound before.device → Hearing.Sound after.device
  toCome_le : after.toCome ≤ before.toCome
  upcoming_le : after.upcoming ≤ before.upcoming
  echoed_eq : Hearing.echoed after.device = Hearing.echoed before.device
  scripted : ∀ {error}, after.Scripted error → before.Scripted error

theorem Dwindles.trans {first second third : Bench δ} (former : Dwindles first second)
    (latter : Dwindles second third) : Dwindles first third where
  sound := latter.sound ∘ former.sound
  toCome_le := latter.toCome_le.trans former.toCome_le
  upcoming_le := latter.upcoming_le.trans former.upcoming_le
  echoed_eq := latter.echoed_eq.trans former.echoed_eq
  scripted := former.scripted ∘ latter.scripted

variable [Device δ] [Pokeable δ] [LawfulHearing δ]

theorem arrivals_append (former latter : List Planned) :
    arrivals (former ++ latter) = arrivals former + arrivals latter := by
  rw [arrivals, ← Multiset.coe_add, Multiset.add_bind]
  rfl

theorem arrivals_cons (first : Planned) (rest : List Planned) :
    arrivals (first :: rest) = first.poke.receptions + arrivals rest := by
  rw [arrivals, ← Multiset.cons_coe, Multiset.cons_bind]
  rfl

theorem arrivals_partition (due : Planned → Bool) (planned : List Planned) :
    arrivals (planned.partition due).1 + arrivals (planned.partition due).2 =
      arrivals planned := by
  rw [List.partition_eq_filter_filter]
  induction planned with
  | nil => rfl
  | cons first rest ih =>
      cases is_due : due first with
      | true => simp [is_due, arrivals_cons, ← ih, add_assoc]
      | false => simp [is_due, arrivals_cons, ← ih, add_left_comm]

theorem brings_foldl_poke (planned : List Planned) (device : δ) :
    let after := planned.foldl (fun device planned => Pokeable.poke planned.poke device) device
    Brings (arrivals planned) device after ∧
      Hearing.echoed after = Hearing.echoed device ∧
      ((Device.signal device).waiting = true → (Device.signal after).waiting = true) := by
  induction planned generalizing device with
  | nil => exact ⟨.refl _ device, rfl, id⟩
  | cons first rest ih =>
      rcases LawfulHearing.poke first.poke device with ⟨brings, echoed_eq, waiting⟩
      rcases ih (Pokeable.poke first.poke device) with ⟨others, others_eq, stays⟩
      refine ⟨?_, others_eq.trans echoed_eq, stays ∘ waiting⟩
      rw [arrivals_cons]
      exact brings.trans others

omit [Hearing δ] [Device δ] [LawfulHearing δ] in
theorem toCome_settle_le (bench : Bench δ) : bench.settle.toCome ≤ bench.toCome := by
  rw [toCome, toCome, ← arrivals_partition (·.time ≤ bench.clock) bench.planned]
  exact Multiset.le_add_left _ _

theorem dwindles_settle (bench : Bench δ) : Dwindles bench bench.settle := by
  rcases brings_foldl_poke (bench.planned.partition (·.time ≤ bench.clock)).1 bench.device with
    ⟨brings, echoed_eq, _⟩
  refine ⟨brings.sound, toCome_settle_le bench, ?_, echoed_eq, id⟩
  have announced_le := coe_toList_le_of_brings brings
  rw [upcoming, upcoming, toCome, toCome, ← arrivals_partition (·.time ≤ bench.clock) bench.planned,
    ← add_assoc]
  exact add_le_add_left announced_le _

theorem waiting_settle (waiting : (Device.signal bench.device).waiting = true) :
    (Device.signal bench.settle.device).waiting = true :=
  (brings_foldl_poke _ bench.device).2.2 waiting

theorem attend_eq_settle (bench : Bench δ) : Device.attend bench = bench.settle := by
  change { bench.settle with device := Device.attend bench.settle.device } = _
  rw [LawfulHearing.attend]

theorem dwindles_attend (bench : Bench δ) : Dwindles bench (Device.attend bench) := by
  rw [attend_eq_settle]
  exact dwindles_settle bench

omit [Hearing δ] [Device δ] [LawfulHearing δ] in
theorem scripted_of_perform {error : DeviceError} {operation : Operation δ α}
    (queued : ((perform kind call duration operation).run bench).2.Scripted error) :
    bench.Scripted error := by
  rcases queued with ⟨other, mem⟩
  exact ⟨other, faults_perform_subset kind other call duration operation bench mem⟩

omit [Device δ] [Pokeable δ] [LawfulHearing δ] in
theorem upcoming_update_le {device : δ} {added : Multiset Reception}
    (brings : Brings added bench.device device) :
    { bench with device }.upcoming ≤ bench.upcoming + added := by
  calc _ ≤ _ := add_le_add_left (coe_toList_le_of_brings brings) bench.toCome
    _ = bench.upcoming + added := add_right_comm _ _ _

omit [Device δ] [Pokeable δ] [LawfulHearing δ] in
theorem upcoming_plan (time : Nat) (poke : Poke) (bench : Bench δ) :
    (bench.plan time poke).upcoming = bench.upcoming + poke.receptions := by
  have toCome_eq : (bench.plan time poke).toCome = bench.toCome + poke.receptions := by
    rw [toCome, plan, arrivals_append, arrivals_cons]
    simp [arrivals, toCome]
  rw [upcoming, toCome_eq, ← add_assoc]
  rfl

omit [LawfulHearing δ] in
/-- A call that brings no frame to the device, unless a fault is given in its place. -/
theorem dwindles_settle_perform {operation : Operation δ α}
    (rests : (bench.settle.takeFault kind).1 = none →
      Rests bench.settle.device (operation.run bench.settle.device).2) :
    Dwindles bench.settle ((perform kind call duration operation).run bench).2 := by
  have scripted {error : DeviceError} :
      ((perform kind call duration operation).run bench).2.Scripted error →
        bench.settle.Scripted error := scripted_of_perform
  cases taken : (bench.settle.takeFault kind).1 with
  | none =>
      rcases run_perform_of_unfaulted taken call duration operation with ⟨_, _, run_eq⟩
      rw [run_eq] at scripted ⊢
      have rested := rests taken
      have announced_le := coe_toList_le_of_brings rested.toBrings
      rw [add_zero] at announced_le
      exact ⟨rested.sound, le_rfl, add_le_add_left announced_le _, rested.echoed_eq, scripted⟩
  | some error =>
      rcases run_perform_of_faulted taken call duration operation with ⟨_, _, run_eq⟩
      rw [run_eq] at scripted ⊢
      exact ⟨id, le_rfl, le_rfl, rfl, scripted⟩

theorem dwindles_perform {operation : Operation δ α}
    (rests : (bench.settle.takeFault kind).1 = none →
      Rests bench.settle.device (operation.run bench.settle.device).2) :
    Dwindles bench ((perform kind call duration operation).run bench).2 :=
  (dwindles_settle bench).trans (dwindles_settle_perform rests)

omit [Hearing δ] [Device δ] [LawfulHearing δ] in
/-- What the device never fails with was queued. -/
theorem scripted_of_perform_eq_error {error : DeviceError} {operation : Operation δ α}
    (unfailing : ∀ device, (operation.run device).1 ≠ .error error)
    (failed : ((perform kind call duration operation).run bench).1 = .error error) :
    bench.Scripted error := by
  rcases error_perform call duration operation failed with queued | ⟨_, answered⟩
  · exact ⟨kind, queued⟩
  · exact absurd answered (unfailing _)

theorem dwindles_setPreamble (side : Side) (length : UInt16) (bench : Bench δ) :
    Dwindles bench (Device.setPreamble side length bench) := by
  rcases setPreamble_eq side length bench with ⟨calls, set_eq⟩
  have rests := LawfulHearing.setPreamble side length bench.device
  have announced_le := coe_toList_le_of_brings rests.toBrings
  rw [add_zero] at announced_le
  rw [set_eq]
  exact ⟨rests.sound, le_rfl, add_le_add_left announced_le _, rests.echoed_eq, id⟩

theorem dwindles_probe : (Device.probe : Operation (Bench δ) Activity).Moves Dwindles := by
  intro bench
  have probed : Dwindles (bench.elapse bench.probeTime) ((perform .probe .probe 0
      (Device.probe : Operation δ Activity)).run (bench.elapse bench.probeTime)).2 :=
    dwindles_perform fun _ => LawfulHearing.probe _
  exact ⟨probed.sound, probed.toCome_le, probed.upcoming_le, probed.echoed_eq, probed.scripted⟩

theorem dwindles_listen : (Device.listen : Operation (Bench δ) Unit).Moves Dwindles :=
  fun _ => dwindles_perform fun _ => (LawfulHearing.listen _).1

theorem dwindles_dutyCycle : (Device.dutyCycle : Operation (Bench δ) Unit).Moves Dwindles :=
  fun _ => dwindles_perform fun _ => (LawfulHearing.dutyCycle _).1

theorem dwindles_sleep : (Device.sleep : Operation (Bench δ) Unit).Moves Dwindles :=
  fun _ => dwindles_perform fun _ => (LawfulHearing.sleep _).1

theorem scripted_listen
    (failed : ((Device.listen : Operation (Bench δ) Unit).run bench).1 = .error .receiveFailed) :
    bench.Scripted .receiveFailed :=
  scripted_of_perform_eq_error (fun device => (LawfulHearing.listen device).2) failed

theorem scripted_dutyCycle
    (failed : ((Device.dutyCycle : Operation (Bench δ) Unit).run bench).1 =
      .error .receiveFailed) : bench.Scripted .receiveFailed :=
  scripted_of_perform_eq_error (fun device => (LawfulHearing.dutyCycle device).2) failed

theorem scripted_sleep
    (failed : ((Device.sleep : Operation (Bench δ) Unit).run bench).1 = .error .receiveFailed) :
    bench.Scripted .receiveFailed :=
  scripted_of_perform_eq_error (fun device => (LawfulHearing.sleep device).2) failed

omit [LawfulHearing δ] in
theorem dwindles_waitUntil (time : Nat) (bench : Bench δ) :
    Dwindles bench (Timed.waitUntil time bench) :=
  ⟨id, le_rfl, le_rfl, rfl, id⟩

/-- No frame turns up while the device is brought up, provided that none is announced. -/
theorem dwindles_bringUp
    (silent : (Device.signal (Device.attend bench)).waiting = false) :
    Dwindles (Device.attend bench) ((Device.bringUp : Operation (Bench δ) Unit).run bench).2 := by
  rw [attend_eq_settle] at silent ⊢
  exact dwindles_settle_perform fun _ => LawfulHearing.bringUp _ silent

/-! ### Reading -/

variable {room : Nat}

/-- A frame that cannot be read stays with the device. It is missing only if that was queued. -/
theorem dwindles_of_read_error {error : DeviceError} {left : Bench δ}
    (sound : Hearing.Sound bench.device) (waiting : (Device.signal bench.device).waiting = true)
    (failed : (Device.read room : Operation (Bench δ) Reception).run bench = (.error error, left)) :
    Dwindles bench left ∧ (error = .receiveFailed → bench.Scripted .receiveFailed) := by
  have settledSound := (dwindles_settle bench).sound sound
  have settledWaiting := waiting_settle waiting
  have read_eq : ((perform .read (.read room) 0 (Device.read room : Operation δ _)).run bench).1 =
      .error error := congrArg Prod.fst failed
  have unread (unfaulted : (bench.settle.takeFault .read).1 = none) :
      ((Device.read room : Operation δ _).run bench.settle.device).1 = .error error := by
    rcases run_perform_of_unfaulted unfaulted (.read room) 0 (Device.read room) with ⟨_, _, run_eq⟩
    rw [run_eq] at read_eq
    exact read_eq
  have dwindles : Dwindles bench
      ((perform .read (.read room) 0 (Device.read room : Operation δ _)).run bench).2 :=
    dwindles_perform fun unfaulted => (LawfulHearing.read_error settledSound settledWaiting
      (Prod.ext (unread unfaulted) rfl)).1
  have left_eq : ((perform .read (.read room) 0 (Device.read room : Operation δ _)).run bench).2 =
      left := congrArg Prod.snd failed
  refine ⟨left_eq ▸ dwindles, ?_⟩
  rintro rfl
  rcases error_perform _ _ _ read_eq with queued | ⟨_, answered⟩
  · exact ⟨.read, queued⟩
  · exact absurd rfl
      (LawfulHearing.read_error settledSound settledWaiting (Prod.ext answered rfl)).2

/-- The frame that is read is the one that was announced or one of those on their way. -/
theorem upcoming_of_read_ok {reception : Reception} {left : Bench δ}
    (sound : Hearing.Sound bench.device) (waiting : (Device.signal bench.device).waiting = true)
    (answered : (Device.read room : Operation (Bench δ) Reception).run bench =
      (.ok reception, left)) :
    reception ::ₘ left.toCome ≤ bench.upcoming ∧ left.toCome ≤ bench.toCome ∧
      Hearing.echoed left.device = Hearing.echoed bench.device ∧
      ∀ {error}, left.Scripted error → bench.Scripted error := by
  have settled := dwindles_settle bench
  have scripted {error : DeviceError} (queued : left.Scripted error) : bench.Scripted error := by
    have left_eq : ((perform .read (.read room) 0 (Device.read room : Operation δ _)).run bench).2 =
        left := congrArg Prod.snd answered
    exact scripted_of_perform (left_eq ▸ queued)
  change (perform .read (.read room) 0 (Device.read room : Operation δ _)).run bench = _ at answered
  cases taken : (bench.settle.takeFault .read).1 with
  | none =>
      rcases run_perform_of_unfaulted taken (.read room) 0 (Device.read room) with ⟨_, _, run_eq⟩
      rw [run_eq, Prod.mk.injEq] at answered
      rcases answered with ⟨answer_eq, rfl⟩
      rcases LawfulHearing.read_ok (settled.sound sound) (waiting_settle waiting)
        (Prod.ext answer_eq rfl) with ⟨announced_eq, echoed_eq⟩
      have upcoming_le := settled.upcoming_le
      rw [upcoming, announced_eq] at upcoming_le
      exact ⟨upcoming_le, settled.toCome_le, echoed_eq.trans settled.echoed_eq, scripted⟩
  | some error =>
      rcases run_perform_of_faulted taken (.read room) 0 (Device.read room) with ⟨_, _, run_eq⟩
      cases run_eq.symm.trans answered

/-! ### Sending -/

/-- A frame that is sent may come back. -/
theorem upcoming_of_transmit (data : Bytes) (bench : Bench δ) :
    let left := ((Device.transmit data : Operation (Bench δ) Unit).run bench).2
    (Hearing.Sound bench.device → Hearing.Sound left.device) ∧
      left.toCome ≤ bench.toCome ∧
      Hearing.echoed bench.device ≤ Hearing.echoed left.device ∧
      left.upcoming ≤ bench.upcoming + Multiset.replicate
        (Hearing.echoed left.device - Hearing.echoed bench.device) { data, intact := true } := by
  have settled := dwindles_settle bench
  cases taken : (bench.settle.takeFault .transmit).1 with
  | none =>
      rcases run_perform_of_unfaulted taken (.transmit data) bench.transmitTime
        (Device.transmit data) with ⟨_, _, run_eq⟩
      change (Device.transmit data : Operation (Bench δ) Unit).run bench = _ at run_eq
      rcases LawfulHearing.transmit data bench.settle.device with ⟨brings, echoed_le⟩
      rw [settled.echoed_eq] at brings echoed_le
      rw [run_eq]
      refine ⟨brings.sound ∘ settled.sound, settled.toCome_le, echoed_le, ?_⟩
      have announced_le := coe_toList_le_of_brings brings
      calc _ ≤ _ := add_le_add_left announced_le bench.settle.toCome
        _ = bench.settle.upcoming + _ := add_right_comm _ _ _
        _ ≤ _ := add_le_add_left settled.upcoming_le _
  | some error =>
      rcases run_perform_of_faulted taken (.transmit data) bench.transmitTime
        (Device.transmit data) with ⟨_, _, run_eq⟩
      change (Device.transmit data : Operation (Bench δ) Unit).run bench = _ at run_eq
      rw [run_eq]
      exact ⟨settled.sound, settled.toCome_le, settled.echoed_eq.ge,
        settled.upcoming_le.trans (Multiset.le_add_right _ _)⟩

end StationMesh.Radio.Bench
