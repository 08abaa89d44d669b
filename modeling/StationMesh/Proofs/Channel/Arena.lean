import StationMesh.Channel.ReceiveQueue

/-!
# Received frames stay within the arena

Whatever a radio hands over, no slot of the receive queue ever stands for a frame that is longer
than the arena, so neither is a frame that is taken out.
-/

namespace StationMesh.Channel.ReceiveQueue

variable {slots arena : Nat} {queue : ReceiveQueue slots arena}

/-- No slot stands for a frame that is longer than the arena. -/
def Within (queue : ReceiveQueue slots arena) : Prop := ∀ length ∈ queue.lengths, length ≤ arena

theorem within_empty : ({} : ReceiveQueue slots arena).Within := by
  intro length mem
  rw [List.eq_of_mem_replicate mem]
  exact Nat.zero_le arena

theorem within_fill (within : queue.Within) (data : Bytes) : (queue.fill data).Within := within

theorem within_commit (within : queue.Within) (length : Nat) :
    ((queue.commit length).getD queue).Within := by
  simp only [commit]
  split
  · exact within
  · rename_i fits
    rw [not_or, Nat.not_lt] at fits
    intro other mem
    rcases List.mem_or_eq_of_mem_set mem with old | rfl
    · exact within other old
    · exact Nat.le_trans (Nat.le_add_left _ _) fits.2

theorem within_dequeue (within : queue.Within) : queue.dequeue.2.Within := by
  simp only [dequeue]
  split
  · exact within
  · split
    · exact within
    · split
      · exact within
      · exact within

theorem length_frameAt_le (within : queue.Within) (slot : Nat) :
    (queue.frameAt slot).length ≤ arena := by
  have length_le : (queue.frameAt slot).length ≤ queue.lengths.getD slot 0 := by
    rw [frameAt, List.length_take]
    exact Nat.min_le_left _ _
  refine Nat.le_trans length_le ?_
  rw [List.getD_eq_getElem?_getD]
  by_cases inside : slot < queue.lengths.length
  · rw [List.getElem?_eq_getElem inside, Option.getD_some]
    exact within _ (List.getElem_mem inside)
  · rw [List.getElem?_eq_none (Nat.le_of_not_lt inside), Option.getD_none]
    exact Nat.zero_le _

/-- A frame that is taken out is no longer than the arena. -/
theorem length_le_of_dequeue (within : queue.Within) {frame : Bytes}
    (taken : queue.dequeue.1 = some frame) : frame.length ≤ arena := by
  have frameAt_le := length_frameAt_le within queue.read
  unfold dequeue at taken
  split at taken
  · contradiction
  · split at taken
    · contradiction
    · split at taken <;>
      · simp only [Option.some.injEq] at taken
        exact taken ▸ frameAt_le

end StationMesh.Channel.ReceiveQueue
