import StationMesh.History.Handled

/-!
# What a ring remembers

After a run of recordings a ring holds the values recorded last, the newest first. A value that
was recorded leaves it only behind as many other values as the ring can hold. The same goes for the
commands handled before, where the id 0 does not count.
-/

namespace StationMesh.History

variable {α : Type} {capacity : Nat}

namespace Ring

/-- Remembers some values, one after the other. -/
def recordAll (values : List α) (ring : Ring α capacity) : Ring α capacity :=
  values.foldl (fun ring value => ring.record value) ring

theorem take_append_take (front back : List α) (count : Nat) :
    (front ++ back.take count).take count = (front ++ back).take count := by
  simp only [List.take_append, List.take_take]
  congr 2
  omega

theorem recent_recordAll_record (value : α) (values : List α) (ring : Ring α capacity) :
    ((ring.record value).recordAll values).recent =
      (values.reverse ++ value :: ring.recent).take capacity := by
  induction values generalizing value ring with
  | nil => rfl
  | cons next values ih =>
      change (((ring.record value).record next).recordAll values).recent = _
      rw [ih, List.reverse_cons, List.append_assoc, List.singleton_append]
      have shifted := take_append_take (values.reverse ++ [next]) (value :: ring.recent) capacity
      simp only [List.append_assoc, List.singleton_append] at shifted
      exact shifted

/-- A value that is out of reach has so many others in front of it. -/
theorem le_countP_of_notMem_take [DecidableEq α] {front back : List α} {value : α} {count : Nat}
    (missing : value ∉ (front ++ value :: back).take count) :
    count ≤ front.countP fun other => other ≠ value := by
  induction front generalizing count with
  | nil =>
      rcases count with _ | count
      · exact Nat.zero_le _
      · simp at missing
  | cons first front ih =>
      rcases count with _ | count
      · exact Nat.zero_le _
      · simp only [List.cons_append, List.take_succ_cons, List.mem_cons, not_or] at missing
        have other : first ≠ value := fun same => missing.1 same.symm
        have rest := ih missing.2
        rw [List.countP_cons_of_pos (by simpa using other)]
        omega

/-- A recorded value is forgotten only after as many others as the ring holds were recorded. -/
theorem capacity_le_countP_of_forgotten [DecidableEq α] {value : α} {values : List α}
    {ring : Ring α capacity}
    (forgotten : ((ring.record value).recordAll values).contains value = false) :
    capacity ≤ values.countP fun other => other ≠ value := by
  unfold contains at forgotten
  rw [recent_recordAll_record, decide_eq_false_iff_not] at forgotten
  have counted := le_countP_of_notMem_take forgotten
  rwa [List.countP_reverse] at counted

end Ring

namespace Handled

/-- Remembers some commands, one after the other. -/
def recordAll (uids : List UInt8) (handled : Handled capacity) : Handled capacity :=
  uids.foldl (fun handled uid => handled.record uid) handled

theorem record_zero (handled : Handled capacity) : handled.record 0 = handled := rfl

theorem ring_recordAll (uids : List UInt8) (handled : Handled capacity) :
    (handled.recordAll uids).ring = handled.ring.recordAll (uids.filter (· ≠ 0)) := by
  induction uids generalizing handled with
  | nil => rfl
  | cons uid uids ih =>
      change ((handled.record uid).recordAll uids).ring = _
      rw [ih, List.filter_cons]
      by_cases uid_eq : uid = 0
      · simp [uid_eq, record_zero]
      · simp [uid_eq, record, Ring.recordAll]

/-- A command is forgotten only after as many others were handled as the history holds, those under
the id 0 not counted. -/
theorem capacity_le_countP_of_unremembered {uid : UInt8} {uids : List UInt8}
    {handled : Handled capacity} (uid_ne : uid ≠ 0)
    (forgotten : ((handled.record uid).recordAll uids).contains uid = false) :
    capacity ≤ uids.countP fun other => other ≠ 0 ∧ other ≠ uid := by
  have gone : ((handled.ring.record uid).recordAll (uids.filter (· ≠ 0))).contains uid = false := by
    simpa [contains, ring_recordAll, record, uid_ne] using forgotten
  have counted := Ring.capacity_le_countP_of_forgotten gone
  rw [List.countP_filter] at counted
  simpa [and_comm] using counted

end Handled

end StationMesh.History
