import Mathlib.Data.List.Induction
import Mathlib.Data.Nat.Find
import StationMesh.Proofs.Channel.Fifo

/-!
# What is accepted comes out again

A frame that is no longer than the next one may be is copied to where that goes and laid down. With
frames put in and taken out in any order, the frames that come out are those that were accepted, in
order and unchanged. Whether one more is accepted depends on those accepted since the queue was
drained last: there are fewer of them than slots, they do not fill the arena, and the new one fits
behind them. So the queue never gets ahead of itself, all it reads and writes is in the arena, and
every frame accepted since the queue was drained last still lies where its slot says.
-/

namespace StationMesh.Channel.ReceiveQueue

variable {slots arena : Nat} {queue : ReceiveQueue slots arena} {data : Bytes}

/-! ### One frame more -/

/-- Copies a frame to where the next one goes, if it is not too long for that, and lays it down. The
answer is whether it was laid down. -/
def push (data : Bytes) (queue : ReceiveQueue slots arena) : Bool × ReceiveQueue slots arena :=
  match queue.writable with
  | none => (false, queue)
  | some room =>
      if data.length ≤ room then
        let filled := queue.fill data
        match filled.commit data.length with
        | none => (false, filled)
        | some laid => (true, laid)
      else
        (false, queue)

/-- There is a slot for one more frame, a byte is left, and the frame is no longer than what is
left. -/
def Takes (data : Bytes) (queue : ReceiveQueue slots arena) : Prop :=
  queue.write < slots ∧ queue.offset < arena ∧ queue.offset + data.length ≤ arena

theorem Takes.hasRoom (takes : queue.Takes data) : queue.HasRoom data.length :=
  ⟨takes.1, takes.2.2⟩

theorem push_of_takes (takes : queue.Takes data) : queue.push data = (true, queue.lay data) := by
  rcases takes with ⟨slot, byte, fits⟩
  have writable_eq : queue.writable = some queue.free := if_neg (by omega)
  have short : data.length ≤ queue.free := by
    rw [free]
    omega
  have commit_eq : (queue.fill data).commit data.length = some (queue.lay data) := by
    rw [lay_of_hasRoom ⟨slot, fits⟩]
    exact if_neg (by simp only [fill] at *; omega)
  simp only [push, writable_eq, if_pos short, commit_eq]

theorem push_of_not_takes (refuses : ¬queue.Takes data) : queue.push data = (false, queue) := by
  unfold Takes at refuses
  by_cases closed : slots ≤ queue.write ∨ arena ≤ queue.offset
  · have writable_eq : queue.writable = none := if_pos closed
    simp only [push, writable_eq]
  · have writable_eq : queue.writable = some queue.free := if_neg closed
    have long : ¬data.length ≤ queue.free := by
      rw [free]
      omega
    simp only [push, writable_eq, if_neg long]

theorem laid_eq_nil (sound : queue.Sound) (empty : queue.frames = []) : queue.laid = [] := by
  have length_eq : queue.write - queue.read = 0 := length_eq_zero_iff.mpr empty
  rcases sound.started with started | ⟨_, write_eq⟩
  · omega
  · rw [laid, write_eq, List.range_zero, List.map_nil]

/-- When a frame is taken out, the slots stay in use unless it was the last one. -/
theorem laid_dequeue (queue : ReceiveQueue slots arena) :
    queue.dequeue.2.frames = [] ∨ queue.dequeue.2.laid = queue.laid := by
  unfold dequeue
  split
  · exact .inr rfl
  · split
    · exact .inl rfl
    · split
      · exact .inl rfl
      · exact .inr rfl

/-! ### Runs -/

/-- What can be done with a queue. -/
inductive Step where
  | push (data : Bytes)
  | dequeue

/-- What a step brings about. -/
inductive Event where
  | accepted (frame : Bytes)
  | refused
  | handedOut (frame : Bytes)
  /-- No frame was left to be handed out. -/
  | nothing
deriving DecidableEq, Repr

def perform (queue : ReceiveQueue slots arena) : Step → Event × ReceiveQueue slots arena
  | .push data =>
      match queue.push data with
      | (true, left) => (.accepted data, left)
      | (false, left) => (.refused, left)
  | .dequeue =>
      match queue.dequeue with
      | (some frame, left) => (.handedOut frame, left)
      | (none, left) => (.nothing, left)

/-- The events of a run of steps, in order, and the queue it leaves. -/
def run (steps : List Step) (queue : ReceiveQueue slots arena) :
    List Event × ReceiveQueue slots arena :=
  steps.foldl (fun (events, queue) step =>
    (events ++ [(queue.perform step).1], (queue.perform step).2)) ([], queue)

theorem run_concat (steps : List Step) (step : Step) (queue : ReceiveQueue slots arena) :
    queue.run (steps ++ [step]) =
      ((queue.run steps).1 ++ [((queue.run steps).2.perform step).1],
        ((queue.run steps).2.perform step).2) :=
  List.foldl_concat ..

/-- The frames that were accepted. -/
def accepted (events : List Event) : List Bytes :=
  events.filterMap fun
    | .accepted frame => some frame
    | .refused | .handedOut _ | .nothing => none

/-- The frames that were handed out. -/
def handedOut (events : List Event) : List Bytes :=
  events.filterMap fun
    | .handedOut frame => some frame
    | .accepted _ | .refused | .nothing => none

/-- All frames that were accepted were handed out. -/
def Drained (events : List Event) : Prop := (accepted events).length = (handedOut events).length

instance (events : List Event) : Decidable (Drained events) :=
  inferInstanceAs (Decidable (_ = _))

/-- The frames that were accepted after the last moment at which the queue was drained. -/
def sinceDrained (events : List Event) : List Bytes :=
  accepted (events.drop
    (Nat.findGreatest (fun moment => Drained (events.take moment)) events.length))

theorem accepted_append (events others : List Event) :
    accepted (events ++ others) = accepted events ++ accepted others :=
  List.filterMap_append

theorem handedOut_append (events others : List Event) :
    handedOut (events ++ others) = handedOut events ++ handedOut others :=
  List.filterMap_append

theorem sinceDrained_concat (events : List Event) (event : Event) :
    sinceDrained (events ++ [event]) =
      if Drained (events ++ [event]) then [] else sinceDrained events ++ accepted [event] := by
  have agree (moment : Nat) (le : moment ≤ events.length) :
      (events ++ [event]).take moment = events.take moment :=
    List.take_append_of_le_length le
  have whole : (events ++ [event]).take (events.length + 1) = events ++ [event] :=
    List.take_of_length_le (by simp)
  rw [sinceDrained, List.length_append, List.length_singleton, Nat.findGreatest_succ, whole]
  split
  · rw [List.drop_of_length_le (by simp)]
    rfl
  · have before_eq : Nat.findGreatest (fun moment => Drained ((events ++ [event]).take moment))
        events.length = Nat.findGreatest (fun moment => Drained (events.take moment))
          events.length := by
      rcases Nat.findGreatest_eq_iff.mp (Eq.refl (Nat.findGreatest
        (fun moment => Drained (events.take moment)) events.length)) with ⟨le, drained, last⟩
      refine Nat.findGreatest_eq_iff.mpr ⟨le, ?_, ?_⟩
      · rw [agree _ le]
        exact drained
      · intro moment later moment_le
        rw [agree moment moment_le]
        exact last later moment_le
    rw [before_eq, List.drop_append_of_le_length (Nat.findGreatest_le _), accepted_append,
      sinceDrained]

/-! ### What a run leaves -/

/-- The queue holds the frames that were accepted and not yet handed out, and its slots those
accepted since it was drained last. -/
structure Tracks (events : List Event) (queue : ReceiveQueue slots arena) : Prop where
  sound : queue.Sound
  accepted_eq : accepted events = handedOut events ++ queue.frames
  laid_eq : queue.laid = sinceDrained events

theorem tracks_empty : Tracks [] ({} : ReceiveQueue slots arena) where
  sound := sound_empty
  accepted_eq := rfl
  laid_eq := rfl

namespace Tracks

variable {events : List Event} {event : Event} {left : ReceiveQueue slots arena}

/-- Drained are the events exactly if no frame is left. -/
theorem drained_iff (accepted_eq : accepted events = handedOut events ++ queue.frames) :
    Drained events ↔ queue.frames = [] := by
  rw [Drained, accepted_eq, List.length_append, Nat.add_eq_left, List.length_eq_zero_iff]

/-- If frames are left, the slots are as before but for the one of a frame that was accepted. -/
theorem concat (tracks : Tracks events queue) (sound : left.Sound)
    (accepted_eq : accepted (events ++ [event]) = handedOut (events ++ [event]) ++ left.frames)
    (kept : left.frames ≠ [] → left.laid = queue.laid ++ accepted [event]) :
    Tracks (events ++ [event]) left := by
  refine ⟨sound, accepted_eq, ?_⟩
  rw [sinceDrained_concat]
  split
  · rename_i drained
    exact laid_eq_nil sound ((drained_iff accepted_eq).mp drained)
  · rename_i undrained
    rw [kept (mt (drained_iff accepted_eq).mpr undrained), tracks.laid_eq]

/-- Nothing is put in or taken out. -/
theorem idle (tracks : Tracks events queue) (noAccepted : accepted [event] = [])
    (noHandedOut : handedOut [event] = []) : Tracks (events ++ [event]) queue := by
  apply tracks.concat tracks.sound
  · rw [accepted_append, handedOut_append, noAccepted, noHandedOut, List.append_nil,
      List.append_nil, tracks.accepted_eq]
  · intro _
    rw [noAccepted, List.append_nil]

theorem lay (tracks : Tracks events queue) (takes : queue.Takes data) :
    Tracks (events ++ [.accepted data]) (queue.lay data) := by
  apply tracks.concat (sound_lay tracks.sound data)
  · rw [accepted_append, handedOut_append, tracks.accepted_eq,
      frames_lay tracks.sound takes.hasRoom]
    simp [accepted, handedOut]
  · intro _
    exact laid_lay tracks.sound takes.hasRoom

theorem dequeue (tracks : Tracks events queue) {frame : Bytes} {rest : List Bytes}
    (frames_eq : queue.frames = frame :: rest) :
    Tracks (events ++ [.handedOut frame]) queue.dequeue.2 := by
  rcases dequeue_of_frames_eq_cons tracks.sound frames_eq with ⟨_, rest_eq, sound⟩
  apply tracks.concat sound
  · rw [accepted_append, handedOut_append, tracks.accepted_eq, frames_eq, rest_eq]
    simp [accepted, handedOut]
  · intro nonempty
    rw [queue.laid_dequeue.resolve_left nonempty]
    exact (List.append_nil _).symm

theorem perform (tracks : Tracks events queue) (step : Step) :
    Tracks (events ++ [(queue.perform step).1]) (queue.perform step).2 := by
  cases step with
  | push data =>
      by_cases takes : queue.Takes data
      · simp only [ReceiveQueue.perform, push_of_takes takes]
        exact tracks.lay takes
      · simp only [ReceiveQueue.perform, push_of_not_takes takes]
        exact tracks.idle rfl rfl
  | dequeue =>
      cases frames_eq : queue.frames with
      | nil =>
          simp only [ReceiveQueue.perform, dequeue_of_frames_eq_nil tracks.sound frames_eq]
          exact tracks.idle rfl rfl
      | cons frame rest =>
          have frame_eq := (dequeue_of_frames_eq_cons tracks.sound frames_eq).1
          have left := tracks.dequeue frames_eq
          rw [ReceiveQueue.perform]
          generalize queue.dequeue = taken at frame_eq left ⊢
          rcases taken with ⟨first, left⟩
          dsimp only at frame_eq
          subst frame_eq
          exact left

end Tracks

theorem tracks_run (steps : List Step) :
    Tracks (run steps ({} : ReceiveQueue slots arena)).1
      (run steps ({} : ReceiveQueue slots arena)).2 := by
  induction steps using List.reverseRecOn with
  | nil => exact tracks_empty
  | append_singleton steps step ih =>
      rw [run_concat]
      exact ih.perform step

theorem dequeue_eq_head? (sound : queue.Sound) : queue.dequeue.1 = queue.frames.head? := by
  cases frames_eq : queue.frames with
  | nil => rw [dequeue_of_frames_eq_nil sound frames_eq, List.head?_nil]
  | cons frame rest =>
      rw [(dequeue_of_frames_eq_cons sound frames_eq).1, List.head?_cons]

theorem cursors_of_sound (sound : queue.Sound) :
    queue.cursors.1 ≤ queue.cursors.2 ∧
      (queue.cursors.1 = queue.cursors.2 →
        queue.cursors = (0, 0) ∧ queue.offset = 0 ∧ queue.free = arena) := by
  refine ⟨sound.read_le, ?_⟩
  intro met
  rcases sound.started with started | ⟨read_eq, write_eq⟩
  · exact absurd met (Nat.ne_of_lt started)
  · have offset_eq : queue.offset = 0 := by
      rw [sound.offset_eq, write_eq, List.take_zero, List.sum_nil]
    rw [cursors, read_eq, write_eq, free, offset_eq]
    exact ⟨rfl, rfl, rfl⟩

/-- The frames that come out are those that were accepted, in order and unchanged. One more is
accepted exactly if fewer than all slots and bytes were given to frames since the queue was drained
last, and it fits behind them; otherwise nothing happens at all. The cursors never pass each other,
and when they meet they are back at the front and the whole arena is free. The slots in use stand
for the frames accepted since the queue was drained last, whether or not these were taken out: each
lies in the arena right behind the ones before it, and no byte of it was overwritten. -/
theorem accepted_eq_handedOut_append (slots arena : Nat) (steps : List Step) :
    let events := (run steps ({} : ReceiveQueue slots arena)).1
    let queue := (run steps ({} : ReceiveQueue slots arena)).2
    let occupied := (sinceDrained events).flatten.length
    accepted events = handedOut events ++ queue.frames ∧ queue.dequeue.1 = queue.frames.head? ∧
      (∀ data : Bytes,
        ((queue.push data).1 = true ↔ (sinceDrained events).length < slots ∧ occupied < arena ∧
          occupied + data.length ≤ arena) ∧
        ((queue.push data).1 = false → (queue.push data).2 = queue)) ∧
      (queue.cursors.1 ≤ queue.cursors.2 ∧
        (queue.cursors.1 = queue.cursors.2 →
          queue.cursors = (0, 0) ∧ queue.offset = 0 ∧ queue.free = arena)) ∧
      (queue.bytes.length = arena ∧ queue.starts.length = slots ∧ queue.lengths.length = slots) ∧
      queue.write = (sinceDrained events).length ∧ queue.write ≤ slots ∧
      queue.offset = occupied ∧ queue.offset ≤ arena ∧
      ∀ slot < queue.write,
        queue.starts.getD slot 0 = ((sinceDrained events).take slot).flatten.length ∧
        queue.starts.getD slot 0 + queue.lengths.getD slot 0 ≤ queue.offset ∧
        (sinceDrained events)[slot]? = some (queue.frameAt slot) := by
  intro events queue occupied
  have tracks : Tracks events queue := tracks_run steps
  have sound := tracks.sound
  have count_eq : queue.write = (sinceDrained events).length := by
    rw [← tracks.laid_eq, length_laid]
  have occupied_eq : queue.offset = occupied := by
    rw [sound.offset_eq_length, tracks.laid_eq]
  refine ⟨tracks.accepted_eq, dequeue_eq_head? sound, ?_, cursors_of_sound sound,
    ⟨sound.bytes_length, sound.starts_length, sound.lengths_length⟩, count_eq, sound.write_le,
    occupied_eq, sound.offset_le, ?_⟩
  · intro data
    rw [← count_eq, ← occupied_eq]
    change (_ ↔ queue.Takes data) ∧ _
    by_cases takes : queue.Takes data
    · simp [push_of_takes takes, takes]
    · simp [push_of_not_takes takes, takes]
  · intro slot used
    have inside : slot < queue.laid.length := by
      rw [length_laid]
      exact used
    rw [← tracks.laid_eq]
    refine ⟨sound.start_eq_length used, sound.end_le used, ?_⟩
    rw [List.getElem?_eq_getElem inside, getElem_laid]

/-- An empty frame takes a slot, a frame that just fits closes the queue, and both leave it behind
when it is drained. -/
theorem accepted_eq_handedOut_append_exactFit :
    let steps : List Step := [.push [], .push [1, 2], .push [3, 4], .push [3], .push [], .dequeue,
      .push [5], .dequeue, .dequeue, .dequeue, .push [6, 7, 8]]
    let events := (run steps ({} : ReceiveQueue 4 3)).1
    let queue := (run steps ({} : ReceiveQueue 4 3)).2
    events = [.accepted [], .accepted [1, 2], .refused, .accepted [3], .refused, .handedOut [],
        .refused, .handedOut [1, 2], .handedOut [3], .nothing, .accepted [6, 7, 8]] ∧
      queue.dequeue.1 = some [6, 7, 8] ∧ (queue.push []).2 = queue := by
  intro steps events queue
  rcases accepted_eq_handedOut_append 4 3 steps with ⟨accepted_eq, next_eq, pushed, _⟩
  have closed : (queue.push []).1 = false := by decide
  refine ⟨by decide, next_eq.trans (by decide), (pushed []).2 closed⟩

end StationMesh.Channel.ReceiveQueue
