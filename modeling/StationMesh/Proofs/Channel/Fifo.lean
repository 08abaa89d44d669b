import Mathlib.Algebra.BigOperators.Group.List.Basic
import Mathlib.Algebra.GroupWithZero.Nat
import Mathlib.Data.List.GetD
import StationMesh.Proofs.Channel.Arena

/-!
# The receive queue hands out what was laid down

The slots in use say where the frames lie in the arena: one behind the other, the first at the front
and each where the one before it ends. A frame that is laid down comes behind the others, and taking
one out removes the first. Frames that were laid down are never overwritten, because new bytes only
go behind them.
-/

namespace List

variable {α : Type}

/-- A window that ends in front of what comes behind does not show any of it. -/
theorem take_drop_append_of_le {front : List α} {start length : Nat}
    (ends_le : start + length ≤ front.length) (back : List α) :
    ((front ++ back).drop start).take length = (front.drop start).take length := by
  have length_le : length ≤ (front.drop start).length := by
    rw [length_drop]
    omega
  rw [drop_append_of_le_length (by omega), take_append_of_le_length length_le]

end List

namespace StationMesh.Channel.ReceiveQueue

variable {slots arena : Nat} {queue : ReceiveQueue slots arena} {data : Bytes} {slot : Nat}

/-- The frames laid down since the queue was drained last, the oldest first. -/
def laid (queue : ReceiveQueue slots arena) : List Bytes :=
  (List.range queue.write).map (queue.frameAt ·)

/-- The frames in the queue, the oldest first. -/
def frames (queue : ReceiveQueue slots arena) : List Bytes := queue.laid.drop queue.read

/-- The frames of the slots in use lie in the arena one behind the other, each where the ones before
it end, and once the last of them was taken out the queue has started again from the front. -/
structure Sound (queue : ReceiveQueue slots arena) : Prop where
  bytes_length : queue.bytes.length = arena
  starts_length : queue.starts.length = slots
  lengths_length : queue.lengths.length = slots
  write_le : queue.write ≤ slots
  offset_le : queue.offset ≤ arena
  start_eq : ∀ slot < queue.write, queue.starts.getD slot 0 = (queue.lengths.take slot).sum
  offset_eq : queue.offset = (queue.lengths.take queue.write).sum
  started : queue.read < queue.write ∨ queue.read = 0 ∧ queue.write = 0

/-- There is a slot for one more frame, and room for so many bytes. -/
def HasRoom (length : Nat) (queue : ReceiveQueue slots arena) : Prop :=
  queue.write < slots ∧ queue.offset + length ≤ arena

instance (length : Nat) (queue : ReceiveQueue slots arena) : Decidable (queue.HasRoom length) :=
  inferInstanceAs (Decidable (_ ∧ _))

/-- The queue after a frame was put where the next one goes and laid down if there is room. -/
def lay (data : Bytes) (queue : ReceiveQueue slots arena) : ReceiveQueue slots arena :=
  ((queue.fill data).commit data.length).getD (queue.fill data)

@[simp]
theorem length_laid (queue : ReceiveQueue slots arena) : queue.laid.length = queue.write := by
  simp [laid]

theorem length_frames (queue : ReceiveQueue slots arena) : queue.frames.length = queue.length := by
  simp [frames, length]

theorem length_eq_zero_iff : queue.length = 0 ↔ queue.frames = [] := by
  rw [← length_frames, List.length_eq_zero_iff]

theorem getElem_laid {slot : Nat} (inside : slot < queue.laid.length) :
    queue.laid[slot] = queue.frameAt slot := by
  simp [laid]

theorem sum_take_le (lengths : List Nat) (place : Nat) :
    (lengths.take place).sum ≤ lengths.sum := by
  rw [← List.sum_take_add_sum_drop lengths place]
  exact Nat.le_add_right _ _

namespace Sound

theorem read_le (sound : queue.Sound) : queue.read ≤ queue.write := by
  rcases sound.started with started | ⟨read_eq, _⟩
  · exact Nat.le_of_lt started
  · rw [read_eq]
    exact Nat.zero_le _

/-- The frame of a slot in use ends where the next one starts. -/
theorem end_eq (sound : queue.Sound) (used : slot < queue.write) :
    queue.starts.getD slot 0 + queue.lengths.getD slot 0 =
      (queue.lengths.take (slot + 1)).sum := by
  have inside : slot < queue.lengths.length := by
    rw [sound.lengths_length]
    exact Nat.lt_of_lt_of_le used sound.write_le
  rw [sound.start_eq slot used, List.sum_take_succ _ _ inside, List.getD_eq_getElem _ _ inside]

/-- The frame of a slot in use ends in front of where the next frame goes. -/
theorem end_le (sound : queue.Sound) (used : slot < queue.write) :
    queue.starts.getD slot 0 + queue.lengths.getD slot 0 ≤ queue.offset := by
  have front_eq : queue.lengths.take (slot + 1) =
      (queue.lengths.take queue.write).take (slot + 1) := by
    rw [List.take_take, Nat.min_eq_left used]
  rw [sound.end_eq used, sound.offset_eq, front_eq]
  exact sum_take_le _ _

/-- The frame of a slot in use is as long as the slot says. -/
theorem length_frameAt (sound : queue.Sound) (used : slot < queue.write) :
    (queue.frameAt slot).length = queue.lengths.getD slot 0 := by
  have end_le := Nat.le_trans (sound.end_le used) sound.offset_le
  rw [frameAt, List.length_take, List.length_drop, sound.bytes_length]
  omega

theorem map_length_laid (sound : queue.Sound) :
    queue.laid.map List.length = queue.lengths.take queue.write := by
  have taken_length : (queue.lengths.take queue.write).length = queue.write := by
    rw [List.length_take, sound.lengths_length, Nat.min_eq_left sound.write_le]
  apply List.ext_getElem
  · rw [List.length_map, length_laid, taken_length]
  · intro slot inside _
    rw [List.length_map, length_laid] at inside
    have insideLengths : slot < queue.lengths.length := by
      rw [sound.lengths_length]
      exact Nat.lt_of_lt_of_le inside sound.write_le
    rw [List.getElem_map, getElem_laid, sound.length_frameAt inside, List.getElem_take,
      List.getD_eq_getElem _ _ insideLengths]

theorem offset_eq_length (sound : queue.Sound) : queue.offset = queue.laid.flatten.length := by
  rw [List.length_flatten, sound.map_length_laid, sound.offset_eq]

/-- The frame of a slot in use starts where the frames laid down before it end. -/
theorem start_eq_length (sound : queue.Sound) (used : slot < queue.write) :
    queue.starts.getD slot 0 = (queue.laid.take slot).flatten.length := by
  rw [List.length_flatten, List.map_take, sound.map_length_laid, List.take_take,
    Nat.min_eq_left (Nat.le_of_lt used), sound.start_eq slot used]

end Sound

theorem sound_empty : ({} : ReceiveQueue slots arena).Sound where
  bytes_length := List.length_replicate
  starts_length := List.length_replicate
  lengths_length := List.length_replicate
  write_le := Nat.zero_le _
  offset_le := Nat.zero_le _
  start_eq _ used := absurd used (Nat.not_lt_zero _)
  offset_eq := rfl
  started := .inr ⟨rfl, rfl⟩

/-! ### Laying a frame down -/

/-- The bytes in front of where the next frame goes stay as they are. -/
theorem bytes_fill (sound : queue.Sound) (data : Bytes) :
    (queue.fill data).bytes = queue.bytes.take queue.offset ++
        (data.take queue.free ++ queue.bytes.drop (queue.offset + data.length)) ∧
      (queue.bytes.take queue.offset).length = queue.offset := by
  refine ⟨List.append_assoc _ _ _, List.length_take_of_le ?_⟩
  rw [sound.bytes_length]
  exact sound.offset_le

theorem bytes_length_fill (sound : queue.Sound) (data : Bytes) :
    (queue.fill data).bytes.length = arena := by
  rcases bytes_fill sound data with ⟨bytes_eq, front_length⟩
  have offset_le := sound.offset_le
  rw [bytes_eq, List.length_append, front_length, List.length_append, List.length_take,
    List.length_drop, sound.bytes_length, free]
  omega

/-- A frame that was laid down before is not overwritten. -/
theorem frameAt_fill (sound : queue.Sound) (data : Bytes) (used : slot < queue.write) :
    (queue.fill data).frameAt slot = queue.frameAt slot := by
  rcases bytes_fill sound data with ⟨bytes_eq, front_length⟩
  have end_le := sound.end_le used
  rw [← front_length] at end_le
  calc ((queue.fill data).bytes.drop (queue.starts.getD slot 0)).take (queue.lengths.getD slot 0)
      = ((queue.bytes.take queue.offset).drop (queue.starts.getD slot 0)).take
          (queue.lengths.getD slot 0) := by
        rw [bytes_eq, List.take_drop_append_of_le end_le]
    _ = ((queue.bytes.take queue.offset ++ queue.bytes.drop queue.offset).drop
          (queue.starts.getD slot 0)).take (queue.lengths.getD slot 0) :=
        (List.take_drop_append_of_le end_le _).symm
    _ = queue.frameAt slot := by
        rw [List.take_append_drop, frameAt]

theorem laid_fill (sound : queue.Sound) (data : Bytes) : (queue.fill data).laid = queue.laid := by
  apply List.map_congr_left
  intro slot mem
  exact frameAt_fill sound data (List.mem_range.mp mem)

theorem lay_of_hasRoom (room : queue.HasRoom data.length) :
    queue.lay data = { queue.fill data with
      starts := queue.starts.set queue.write queue.offset
      lengths := queue.lengths.set queue.write data.length
      write := queue.write + 1
      offset := queue.offset + data.length } := by
  have accepted : ¬(slots ≤ queue.write ∨ arena < queue.offset + data.length) := by
    rcases room with ⟨slot, bytes⟩
    omega
  have commit_eq : (queue.fill data).commit data.length = some { queue.fill data with
      starts := queue.starts.set queue.write queue.offset
      lengths := queue.lengths.set queue.write data.length
      write := queue.write + 1
      offset := queue.offset + data.length } :=
    if_neg accepted
  rw [lay, commit_eq, Option.getD_some]

theorem lay_of_not_hasRoom (full : ¬queue.HasRoom data.length) :
    queue.lay data = queue.fill data := by
  have refused : slots ≤ queue.write ∨ arena < queue.offset + data.length := by
    unfold HasRoom at full
    omega
  have commit_eq : (queue.fill data).commit data.length = none := if_pos refused
  rw [lay, commit_eq, Option.getD_none]

theorem frameAt_lay_of_lt (sound : queue.Sound) (room : queue.HasRoom data.length)
    (used : slot < queue.write) : (queue.lay data).frameAt slot = queue.frameAt slot := by
  have other : queue.write ≠ slot := Nat.ne_of_gt used
  rw [lay_of_hasRoom room]
  simp only [frameAt, List.getD_eq_getElem?_getD, List.getElem?_set_ne other]
  exact frameAt_fill sound data used

theorem frameAt_lay_self (sound : queue.Sound) (room : queue.HasRoom data.length) :
    (queue.lay data).frameAt queue.write = data := by
  rcases bytes_fill sound data with ⟨bytes_eq, front_length⟩
  have inStarts : queue.write < queue.starts.length := by
    rw [sound.starts_length]
    exact room.1
  have inLengths : queue.write < queue.lengths.length := by
    rw [sound.lengths_length]
    exact room.1
  have whole : data.take queue.free = data := by
    apply List.take_of_length_le
    rw [free]
    exact Nat.le_sub_of_add_le' room.2
  rw [lay_of_hasRoom room]
  simp only [frameAt, List.getD_eq_getElem?_getD, List.getElem?_set_self inStarts,
    List.getElem?_set_self inLengths, Option.getD_some, bytes_eq, whole]
  rw [List.drop_left' front_length, List.take_left]

theorem laid_lay (sound : queue.Sound) (room : queue.HasRoom data.length) :
    (queue.lay data).laid = queue.laid ++ [data] := by
  have write_eq : (queue.lay data).write = queue.write + 1 := by rw [lay_of_hasRoom room]
  have before : (List.range queue.write).map ((queue.lay data).frameAt ·) = queue.laid := by
    apply List.map_congr_left
    intro slot mem
    exact frameAt_lay_of_lt sound room (List.mem_range.mp mem)
  rw [laid, write_eq, List.range_succ, List.map_append, before, List.map_singleton,
    frameAt_lay_self sound room]

/-- A frame is laid down behind the others. -/
theorem frames_lay (sound : queue.Sound) (room : queue.HasRoom data.length) :
    (queue.lay data).frames = queue.frames ++ [data] := by
  have read_eq : (queue.lay data).read = queue.read := by
    rw [lay_of_hasRoom room]
    rfl
  have read_le : queue.read ≤ queue.laid.length := by
    rw [length_laid]
    exact sound.read_le
  rw [frames, laid_lay sound room, read_eq, List.drop_append_of_le_length read_le, frames]

theorem frames_lay_of_not_hasRoom (sound : queue.Sound) (full : ¬queue.HasRoom data.length) :
    (queue.lay data).frames = queue.frames := by
  rw [lay_of_not_hasRoom full]
  exact congrArg (List.drop queue.read) (laid_fill sound data)

theorem sound_fill (sound : queue.Sound) (data : Bytes) : (queue.fill data).Sound :=
  { sound with bytes_length := bytes_length_fill sound data }

theorem sound_lay (sound : queue.Sound) (data : Bytes) : (queue.lay data).Sound := by
  by_cases room : queue.HasRoom data.length
  · have inLengths : queue.write < queue.lengths.length := by
      rw [sound.lengths_length]
      exact room.1
    -- What is written to the slot does not matter in front of it.
    have front_eq {slot : Nat} (le : slot ≤ queue.write) :
        (queue.lengths.set queue.write data.length).take slot = queue.lengths.take slot :=
      List.take_set_of_le le
    rw [lay_of_hasRoom room]
    refine ⟨bytes_length_fill sound data, ?_, ?_, room.1, room.2, ?_, ?_, ?_⟩
    · rw [List.length_set, sound.starts_length]
    · rw [List.length_set, sound.lengths_length]
    · intro slot used
      rw [front_eq (Nat.le_of_lt_succ used)]
      rcases Nat.lt_succ_iff_lt_or_eq.mp used with before | rfl
      · rw [List.getD_eq_getElem?_getD, List.getElem?_set_ne (Nat.ne_of_gt before),
          ← List.getD_eq_getElem?_getD, sound.start_eq slot before]
      · have inStarts : queue.write < queue.starts.length := by
          rw [sound.starts_length]
          exact room.1
        rw [List.getD_eq_getElem?_getD, List.getElem?_set_self inStarts, Option.getD_some,
          sound.offset_eq]
    · have inSet : queue.write < (queue.lengths.set queue.write data.length).length := by
        rw [List.length_set]
        exact inLengths
      rw [List.sum_take_succ _ _ inSet, front_eq (Nat.le_refl _), List.getElem_set_self,
        sound.offset_eq]
    · exact .inl (Nat.lt_succ_of_le sound.read_le)
  · rw [lay_of_not_hasRoom room]
    exact sound_fill sound data

/-! ### Taking a frame out -/

theorem sound_rewind (sound : queue.Sound) : queue.rewind.Sound :=
  { sound with
    write_le := Nat.zero_le _
    offset_le := Nat.zero_le _
    start_eq := fun _ used => absurd used (Nat.not_lt_zero _)
    offset_eq := rfl
    started := .inr ⟨rfl, rfl⟩ }

/-- Nothing comes out of a queue without frames, and it stays as it is. -/
theorem dequeue_of_frames_eq_nil (sound : queue.Sound) (empty : queue.frames = []) :
    queue.dequeue = (none, queue) := by
  have length_eq : queue.write - queue.read = 0 := length_eq_zero_iff.mpr empty
  rcases sound.started with started | ⟨read_eq, write_eq⟩
  · omega
  · have offset_eq : queue.offset = 0 := by
      rw [sound.offset_eq, write_eq, List.take_zero, List.sum_nil]
    rcases queue with ⟨bytes, starts, lengths, read, write, offset⟩
    dsimp only at read_eq write_eq offset_eq
    subst read_eq write_eq offset_eq
    rfl

/-- The oldest frame comes out, and the others stay. -/
theorem dequeue_of_frames_eq_cons (sound : queue.Sound) {frame : Bytes} {rest : List Bytes}
    (frames_eq : queue.frames = frame :: rest) :
    queue.dequeue.1 = some frame ∧ queue.dequeue.2.frames = rest ∧ queue.dequeue.2.Sound := by
  have length_eq := queue.length_frames
  rw [frames_eq, List.length_cons, length] at length_eq
  have inside : queue.read < queue.laid.length := by
    rw [length_laid]
    omega
  have dropped := frames_eq
  rw [frames, List.drop_eq_getElem_cons inside, List.cons.injEq, getElem_laid] at dropped
  rcases dropped with ⟨frameAt_eq, rest_eq⟩
  unfold dequeue
  rw [if_neg (by omega), if_neg (by omega)]
  split
  · refine ⟨congrArg some frameAt_eq, ?_, sound_rewind sound⟩
    have rest_length : rest.length = 0 := by omega
    rw [List.length_eq_zero_iff.mp rest_length]
    rfl
  · exact ⟨congrArg some frameAt_eq, rest_eq, { sound with started := .inl (by dsimp only; omega) }⟩

theorem frames_eq_dequeue (sound : queue.Sound) :
    queue.frames = queue.dequeue.1.toList ++ queue.dequeue.2.frames ∧ queue.dequeue.2.Sound := by
  cases frames_eq : queue.frames with
  | nil =>
      rw [dequeue_of_frames_eq_nil sound frames_eq]
      exact ⟨frames_eq.symm, sound⟩
  | cons frame rest =>
      rcases dequeue_of_frames_eq_cons sound frames_eq with ⟨first_eq, rest_eq, soundLeft⟩
      rw [first_eq, rest_eq]
      exact ⟨rfl, soundLeft⟩

end StationMesh.Channel.ReceiveQueue
