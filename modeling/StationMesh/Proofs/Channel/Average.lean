import Mathlib.Data.List.Basic
import StationMesh.Channel.Average

/-!
# Moving averages follow their samples

A sample first takes its share off the accumulator and then comes on top, and neither step leaves
the range of the accumulator, however full it is. So an average can be reckoned in natural numbers.
It stays within the bound of its samples, and under one and the same sample it comes closer with
every record until it is there. It never passes the sample by, and it does not leave it again.
-/

namespace StationMesh.Channel.Average

variable {average : Average} {sample bound : UInt32}

def recordAll (samples : List UInt32) (average : Average) : Average :=
  samples.foldl (fun average sample => average.record sample) average

theorem recordAll_append (former latter : List UInt32) (average : Average) :
    average.recordAll (former ++ latter) = (average.recordAll former).recordAll latter :=
  List.foldl_append

/-! ### In natural numbers -/

theorem toNat_value (average : Average) :
    average.value.toNat = average.accumulator.toNat / 256 :=
  UInt32.toNat_div _ _

theorem maxSample_eq : maxSample = 16777215 := rfl

theorem toNat_maxSample : maxSample.toNat = 16777215 := rfl

theorem toNat_min_maxSample (sample : UInt32) :
    (min sample maxSample).toNat = min sample.toNat 16777215 := by
  change (if sample ≤ maxSample then sample else maxSample).toNat = _
  split
  · rename_i le
    rw [UInt32.le_iff_toNat_le, toNat_maxSample] at le
    rw [Nat.min_eq_left le]
  · rename_i gt
    rw [UInt32.le_iff_toNat_le, toNat_maxSample, Nat.not_le] at gt
    rw [Nat.min_eq_right (Nat.le_of_lt gt), toNat_maxSample]

theorem value_le_accumulator (average : Average) : average.value ≤ average.accumulator := by
  rw [UInt32.le_iff_toNat_le, toNat_value]
  exact Nat.div_le_self _ _

theorem toNat_accumulator_sub_value (average : Average) :
    (average.accumulator - average.value).toNat =
      average.accumulator.toNat - average.accumulator.toNat / 256 := by
  rw [UInt32.toNat_sub_of_le _ _ average.value_le_accumulator, toNat_value]

/-- The share that is taken off a full accumulator is as large as the largest sample. -/
theorem toNat_rest_add_sample_lt (sample : UInt32) (average : Average) :
    (average.accumulator - average.value).toNat + (min sample maxSample).toNat < UInt32.size := by
  have accumulator_lt := average.accumulator.toNat_lt
  rw [toNat_accumulator_sub_value, toNat_min_maxSample, UInt32.size]
  omega

theorem toNat_accumulator_record (sample : UInt32) (average : Average) :
    (average.record sample).accumulator.toNat =
      average.accumulator.toNat - average.accumulator.toNat / 256 + min sample.toNat 16777215 := by
  rw [record, UInt32.toNat_add, Nat.mod_eq_of_lt (average.toNat_rest_add_sample_lt sample),
    toNat_accumulator_sub_value, toNat_min_maxSample]

/-! ### Within the bound of the samples -/

theorem value_record_le (value_le : average.value ≤ bound) (sample_le : sample ≤ bound) :
    (average.record sample).value ≤ bound := by
  rw [UInt32.le_iff_toNat_le, toNat_value] at value_le ⊢
  rw [UInt32.le_iff_toNat_le] at sample_le
  rw [toNat_accumulator_record]
  omega

theorem value_recordAll_le {samples : List UInt32} (value_le : average.value ≤ bound)
    (samples_le : ∀ sample ∈ samples, sample ≤ bound) :
    (average.recordAll samples).value ≤ bound := by
  induction samples generalizing average with
  | nil => exact value_le
  | cons sample samples ih =>
      rw [List.forall_mem_cons] at samples_le
      exact ih (value_record_le value_le samples_le.1) samples_le.2

/-! ### Towards one sample -/

/-- One value follows another on the way to a third. -/
def Approaches (goal former latter : UInt32) : Prop :=
  former ≤ latter ∧ latter ≤ goal ∨ goal ≤ latter ∧ latter ≤ former

theorem approaches_record (sample_le : sample ≤ maxSample) (average : Average) :
    Approaches sample average.value (average.record sample).value := by
  simp only [UInt32.le_iff_toNat_le, toNat_maxSample] at sample_le
  simp only [Approaches, UInt32.le_iff_toNat_le, toNat_value, toNat_accumulator_record]
  omega

/-- How far the accumulator is away from those whose average is `goal`. -/
def gap (goal : UInt32) (average : Average) : Nat :=
  256 * goal.toNat - average.accumulator.toNat +
    (average.accumulator.toNat - (256 * goal.toNat + 255))

theorem gap_eq_zero_iff : average.gap sample = 0 ↔ average.value = sample := by
  rw [← UInt32.toNat_inj, toNat_value]
  unfold gap
  omega

/-- A sample moves the accumulator by as much as the average is off, and that is 1 at least. -/
theorem gap_record_le (sample_le : sample ≤ maxSample) (average : Average) :
    (average.record sample).gap sample ≤ average.gap sample - 1 := by
  simp only [UInt32.le_iff_toNat_le, toNat_maxSample] at sample_le
  unfold gap
  rw [toNat_accumulator_record, Nat.min_eq_left sample_le]
  omega

/-- By induction on the number of records, each of which closes the gap by 1 at least. -/
theorem value_recordAll_replicate {count : Nat} (sample_le : sample ≤ maxSample)
    (gap_le : average.gap sample ≤ count) :
    (average.recordAll (List.replicate count sample)).value = sample := by
  induction count generalizing average with
  | zero => exact gap_eq_zero_iff.mp (Nat.eq_zero_of_le_zero gap_le)
  | succ count ih =>
      have closer := gap_record_le sample_le average
      have next_le : (average.record sample).gap sample ≤ count := by omega
      exact ih next_le

theorem recordAll_replicate_succ (count : Nat) (sample : UInt32) (average : Average) :
    average.recordAll (List.replicate (count + 1) sample) =
      (average.recordAll (List.replicate count sample)).record sample := by
  rw [List.replicate_succ', recordAll_append]
  rfl

/-- A record never leaves the range of the accumulator. A new average stays within any bound of its
samples. Under one sample that is not cut, any average comes closer to it with every record without
passing it by, and is equal to it from some record on. -/
theorem value_follows_samples (average : Average) :
    (∀ sample, average.value ≤ average.accumulator ∧
      (average.accumulator - average.value).toNat + (min sample maxSample).toNat < UInt32.size ∧
      (average.record sample).accumulator.toNat =
        average.accumulator.toNat - average.accumulator.toNat / 256 +
          min sample.toNat 16777215) ∧
    (∀ (bound : UInt32) (samples : List UInt32), bound ≤ 16777215 →
      (∀ sample ∈ samples, sample ≤ bound) → (({} : Average).recordAll samples).value ≤ bound) ∧
    ∀ sample ≤ (16777215 : UInt32),
      (∀ count, Approaches sample (average.recordAll (List.replicate count sample)).value
        (average.recordAll (List.replicate (count + 1) sample)).value) ∧
      ∃ reached, ∀ count ≥ reached,
        (average.recordAll (List.replicate count sample)).value = sample := by
  refine ⟨?_, ?_, ?_⟩
  · intro sample
    exact ⟨average.value_le_accumulator, average.toNat_rest_add_sample_lt sample,
      average.toNat_accumulator_record sample⟩
  · intro bound samples _ samples_le
    have new_le : ({} : Average).value ≤ bound := UInt32.zero_le
    exact value_recordAll_le new_le samples_le
  · intro sample sample_le
    rw [← maxSample_eq] at sample_le
    refine ⟨?_, average.gap sample, ?_⟩
    · intro count
      rw [recordAll_replicate_succ]
      exact approaches_record sample_le _
    · intro count gap_le
      exact value_recordAll_replicate sample_le gap_le

/-- A full accumulator takes the largest sample and stays full, and comes down to a small one. -/
theorem value_follows_samples_full :
    let full : Average := { accumulator := 0xFFFFFFFF }
    (full.record 0xFFFFFFFF).accumulator.toNat = 0xFFFFFFFF ∧
      (({} : Average).recordAll [100, 7, 100]).value ≤ 100 ∧
      Approaches 100 full.value (full.record 100).value ∧
      ∃ reached, ∀ count ≥ reached, (full.recordAll (List.replicate count 100)).value = 100 := by
  intro full
  rcases value_follows_samples full with ⟨recorded, within, towards⟩
  have samples_le : ∀ sample ∈ ([100, 7, 100] : List UInt32), sample ≤ 100 := by simp
  rcases towards 100 (by decide) with ⟨approaches, reaches⟩
  exact ⟨(recorded 0xFFFFFFFF).2.2.trans (by decide), within 100 _ (by decide) samples_le,
    approaches 0, reaches⟩

end StationMesh.Channel.Average
