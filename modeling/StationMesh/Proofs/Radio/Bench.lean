import StationMesh.Radio.Bench

/-!
# What a call does to a device on the bench

A call first lets happen what is due. Then either a fault is given in place of the device and the
device is left alone, or the device answers.
-/

namespace StationMesh.Radio.Bench

open StationMesh.Action

variable {δ α : Type} {bench : Bench δ} {kind : CallKind}

theorem note_eq (call : Call) (faulted : Bool) (bench : Bench δ) :
    ∃ calls, bench.note call faulted = { bench with calls } := by
  unfold note
  split
  · split
    · exact ⟨_, rfl⟩
    · exact ⟨_, rfl⟩
  · exact ⟨_, rfl⟩

theorem exists_takeFault_eq (kind : CallKind) (bench : Bench δ) :
    ∃ faults, bench.takeFault kind = ((bench.takeFault kind).1, { bench with faults }) := by
  unfold takeFault
  split
  · exact ⟨_, rfl⟩
  · exact ⟨_, rfl⟩

theorem mem_faults_of_takeFault {error : DeviceError}
    (taken : (bench.takeFault kind).1 = some error) : some error ∈ bench.faults kind := by
  rw [takeFault] at taken
  cases faults_eq : bench.faults kind with
  | nil =>
      rw [faults_eq] at taken
      contradiction
  | cons first rest =>
      rw [faults_eq] at taken
      exact List.mem_cons.mpr (.inl taken.symm)

variable [Pokeable δ]

theorem setPreamble_eq [Device δ] (side : Side) (length : UInt16) (bench : Bench δ) :
    ∃ calls, Device.setPreamble side length bench =
      { bench with calls, device := Device.setPreamble side length bench.device } := by
  rcases note_eq (.preamble side length) false bench with ⟨calls, note_eq⟩
  refine ⟨calls, ?_⟩
  change { bench.note (.preamble side length) false with
    device := Device.setPreamble side length (bench.note (.preamble side length) false).device } = _
  rw [note_eq]

theorem settle_of_planned_eq_nil (planned_eq : bench.planned = []) : bench.settle = bench := by
  rcases bench with ⟨device, clock, probeTime, transmitTime, planned, faults, calls⟩
  dsimp only at planned_eq
  subst planned_eq
  rfl

/-- What is due happens once. -/
theorem settle_settle (bench : Bench δ) : bench.settle.settle = bench.settle := by
  have none_due : (bench.planned.filter fun planned => !decide (planned.time ≤ bench.clock)).filter
      (·.time ≤ bench.clock) = [] := by
    simp
  have all_later : (bench.planned.filter fun planned => !decide (planned.time ≤ bench.clock)).filter
      (fun planned => !decide (planned.time ≤ bench.clock)) =
        bench.planned.filter fun planned => !decide (planned.time ≤ bench.clock) := by
    simp
  simp only [settle, List.partition_eq_filter_filter, Function.comp_def, none_due, all_later,
    List.foldl_nil]

theorem faults_settle (bench : Bench δ) : bench.settle.faults = bench.faults := rfl

theorem run_perform_of_takeFault_eq_none {left : Bench δ}
    (taken : bench.settle.takeFault kind = (none, left)) (call : Call) (duration : Nat)
    (operation : Operation δ α) :
    ∃ calls, (perform kind call duration operation).run bench =
      ((operation.run left.device).1,
        { left with
          device := (operation.run left.device).2
          clock := left.clock + duration
          calls }) := by
  rcases note_eq call false left with ⟨calls, note_eq⟩
  refine ⟨calls, ?_⟩
  simp only [perform, run_of, taken, note_eq, elapse]

/-- Without a fault in its way, a call reaches the device. -/
theorem run_perform_of_faults_eq_nil (unfaulted : bench.faults kind = []) (call : Call)
    (duration : Nat) (operation : Operation δ α) :
    ∃ calls, (perform kind call duration operation).run bench =
      ((operation.run bench.settle.device).1,
        { bench.settle with
          device := (operation.run bench.settle.device).2
          clock := bench.settle.clock + duration
          calls }) := by
  apply run_perform_of_takeFault_eq_none
  rw [takeFault, faults_settle, unfaulted]

theorem faults_perform (kind : CallKind) (call : Call) (duration : Nat) (operation : Operation δ α)
    (bench : Bench δ) : ((perform kind call duration operation).run bench).2.faults =
      (bench.settle.takeFault kind).2.faults := by
  simp only [perform, run_of]
  generalize bench.settle.takeFault kind = ended
  rcases ended with ⟨_ | error, left⟩
  · rcases note_eq call false left with ⟨calls, note_eq⟩
    simp only [note_eq, elapse]
  · rcases note_eq call true left with ⟨calls, note_eq⟩
    simp only [note_eq]

/-- A call uses up faults of its own kind only. -/
theorem faults_perform_of_ne {other : CallKind} (ne : other ≠ kind) (call : Call) (duration : Nat)
    (operation : Operation δ α) (bench : Bench δ) :
    ((perform kind call duration operation).run bench).2.faults other = bench.faults other := by
  rw [faults_perform, takeFault]
  split
  · rfl
  · exact if_neg ne

theorem faults_perform_subset (kind other : CallKind) (call : Call) (duration : Nat)
    (operation : Operation δ α) (bench : Bench δ) :
    ((perform kind call duration operation).run bench).2.faults other ⊆ bench.faults other := by
  by_cases ne : other = kind
  · subst ne
    rw [faults_perform, takeFault, faults_settle]
    cases faults_eq : bench.faults other with
    | nil => simp [faults_settle, faults_eq]
    | cons fault rest => simp
  · rw [faults_perform_of_ne ne]
    exact List.Subset.refl _

theorem run_perform_of_unfaulted (unfaulted : (bench.settle.takeFault kind).1 = none) (call : Call)
    (duration : Nat) (operation : Operation δ α) :
    ∃ faults calls, (perform kind call duration operation).run bench =
      ((operation.run bench.settle.device).1,
        { bench.settle with
          device := (operation.run bench.settle.device).2
          clock := bench.settle.clock + duration
          faults
          calls }) := by
  rcases exists_takeFault_eq kind bench.settle with ⟨faults, taken⟩
  rw [unfaulted] at taken
  rcases run_perform_of_takeFault_eq_none taken call duration operation with ⟨calls, run_eq⟩
  exact ⟨faults, calls, run_eq⟩

theorem run_perform_of_faulted {error : DeviceError}
    (faulted : (bench.settle.takeFault kind).1 = some error) (call : Call) (duration : Nat)
    (operation : Operation δ α) :
    ∃ faults calls, (perform kind call duration operation).run bench =
      (.error error, { bench.settle with faults, calls }) := by
  rcases exists_takeFault_eq kind bench.settle with ⟨faults, taken⟩
  rw [faulted] at taken
  rcases note_eq call true { bench.settle with faults } with ⟨calls, note_eq⟩
  refine ⟨faults, calls, ?_⟩
  simp only [perform, run_of, taken, note_eq]

theorem run_perform_cases (kind : CallKind) (call : Call) (duration : Nat)
    (operation : Operation δ α) (bench : Bench δ) :
    (∃ error faults calls, (perform kind call duration operation).run bench =
      (.error error, { bench.settle with faults, calls })) ∨
    (∃ faults calls, (perform kind call duration operation).run bench =
      ((operation.run bench.settle.device).1,
        { bench.settle with
          device := (operation.run bench.settle.device).2
          clock := bench.settle.clock + duration
          faults
          calls })) := by
  cases taken : (bench.settle.takeFault kind).1 with
  | none => exact .inr (run_perform_of_unfaulted taken call duration operation)
  | some error => exact .inl ⟨error, run_perform_of_faulted taken call duration operation⟩

/-- An error is a fault that was queued, or the answer of the device. -/
theorem error_perform {error : DeviceError} (call : Call) (duration : Nat)
    (operation : Operation δ α)
    (failed : ((perform kind call duration operation).run bench).1 = .error error) :
    some error ∈ bench.faults kind ∨ (bench.settle.takeFault kind).1 = none ∧
      (operation.run bench.settle.device).1 = .error error := by
  cases taken : (bench.settle.takeFault kind).1 with
  | none =>
      rcases run_perform_of_unfaulted taken call duration operation with ⟨_, _, run_eq⟩
      rw [run_eq] at failed
      exact .inr ⟨rfl, failed⟩
  | some fault =>
      rcases run_perform_of_faulted taken call duration operation with ⟨_, _, run_eq⟩
      rw [run_eq] at failed
      cases failed
      have queued := mem_faults_of_takeFault taken
      rw [faults_settle] at queued
      exact .inl queued

end StationMesh.Radio.Bench
