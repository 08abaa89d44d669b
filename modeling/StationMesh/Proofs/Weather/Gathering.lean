import Mathlib.Data.List.DropRight
import StationMesh.Proofs.Weather.Codec
import StationMesh.Weather.Buffer

/-!
# Readings one by one

A body can be gone over by index: three bytes announce a reading, and as many as the third of them
says belong to it. This comes to an end in front of the first bytes that no whole reading opens, and
finds the readings that `Reading.parseAll` answers. What a batch gathers is written so that it can
be gone over in the same way: however readings were put in and the batch was cleared, those that
were taken in since are found again, and nothing is left over. A buffer that keeps only the written
form and a count goes through the same events, and neither ever differs from the batch.
-/

namespace StationMesh.Weather

variable {reading : Reading} {bytes : Bytes}

/-! ### Where a reading begins -/

/-- The bytes begin with the whole of a reading. -/
def OpensWithReading (bytes : Bytes) : Prop :=
  ∃ reading rest, bytes = Reading.encode reading ++ rest

theorem parse_eq_none_iff : Reading.parse bytes = none ↔ ¬OpensWithReading bytes := by
  constructor
  · rintro stuck ⟨reading, rest, rfl⟩
    -- A length that one byte cannot say is announced too small, never too large.
    have announced_le : reading.data.length % 256 ≤ reading.data.length + rest.length :=
      Nat.le_trans (Nat.mod_le ..) (Nat.le_add_right ..)
    simp [Reading.encode, Reading.parse, announced_le] at stuck
  · intro noReading
    rw [Option.eq_none_iff_forall_not_mem]
    rintro ⟨reading, rest⟩ parsed
    apply noReading
    exact ⟨reading, rest, (Reading.eq_encode_append_of_parse parsed).1⟩

/-! ### Going over a body -/

/-- A body that is gone over, and how far that has come. -/
structure Walk where
  body : Bytes
  position : Nat := 0
deriving DecidableEq

namespace Walk

variable {walk next last stop : Walk} {readings others : List Reading}

/-- Goes over one more reading, if it ends within the body. -/
def next? (walk : Walk) : Option (Reading × Walk) :=
  match walk.body[walk.position]?, walk.body[walk.position + 1]?, walk.body[walk.position + 2]? with
  | some station, some uid, some length =>
      let start := walk.position + Reading.overhead
      if start + length.toNat ≤ walk.body.length then
        some ({ station, uid, data := (walk.body.drop start).take length.toNat },
          { walk with position := start + length.toNat })
      else
        none
  | _, _, _ => none

/-- There are bytes that were not gone over. -/
def truncated (walk : Walk) : Bool := walk.position < walk.body.length

/-- The bytes that were not gone over. -/
def ahead (walk : Walk) : Bytes := walk.body.drop walk.position

theorem truncated_iff : walk.truncated = true ↔ walk.ahead ≠ [] := by
  simp [truncated, ahead]

/-- A step reads the bytes ahead. -/
theorem next?_eq (walk : Walk) :
    walk.next? = (Reading.parse walk.ahead).map fun (reading, _) =>
      (reading, { walk with position := walk.position + reading.encodedSize }) := by
  have byte_eq (index : Nat) : walk.body[walk.position + index]? = walk.ahead[index]? := by
    simp [ahead]
  have first_eq : walk.body[walk.position]? = walk.ahead[0]? := byte_eq 0
  simp only [next?, first_eq, byte_eq]
  rcases split : walk.ahead with _ | ⟨station, _ | ⟨uid, _ | ⟨length, rest⟩⟩⟩
  · rfl
  · rfl
  · rfl
  · have drop_eq : walk.body.drop (walk.position + Reading.overhead) = rest := by
      rw [← List.drop_drop]
      change walk.ahead.drop Reading.overhead = rest
      rw [split]
      rfl
    have length_eq : walk.body.length = walk.position + Reading.overhead + rest.length := by
      have ahead_length := congrArg List.length split
      simp only [ahead, List.length_drop, List.length_cons] at ahead_length
      simp only [Reading.overhead]
      omega
    simp only [List.getElem?_cons_zero, List.getElem?_cons_succ, drop_eq, length_eq,
      Nat.add_le_add_iff_left, Reading.parse]
    split
    · rename_i complete
      simp [Reading.encodedSize, Nat.min_eq_left complete, Nat.add_assoc]
    · rfl

/-- A walk that has come to its end, with the readings it went over. -/
inductive Ends : Walk → List Reading → Walk → Prop where
  | stop {walk : Walk} (stuck : walk.next? = none) : Ends walk [] walk
  | step {walk next last : Walk} {reading : Reading} {readings : List Reading}
      (went : walk.next? = some (reading, next)) (ends : Ends next readings last) :
      Ends walk (reading :: readings) last

/-- There is only one way to go over a body. -/
theorem Ends.unique (ends : Ends walk readings last) (other : Ends walk others stop) :
    others = readings ∧ stop = last := by
  induction ends generalizing others with
  | stop stuck =>
      cases other with
      | stop _ => exact ⟨rfl, rfl⟩
      | step went _ => simp [stuck] at went
  | step went _ ih =>
      cases other with
      | stop stuck => simp [stuck] at went
      | step otherWent ends =>
          simp only [went, Option.some.injEq, Prod.mk.injEq] at otherWent
          rcases otherWent with ⟨rfl, rfl⟩
          rcases ih ends with ⟨rfl, rfl⟩
          exact ⟨rfl, rfl⟩

/-- As many readings as there are bytes are enough to come to the end. -/
theorem ends_parseUpTo {count : Nat} (walk : Walk) (enough : walk.ahead.length ≤ count) :
    ∃ last, Ends walk (Reading.parseUpTo count walk.ahead).1 last ∧
      last.ahead = (Reading.parseUpTo count walk.ahead).2 := by
  induction count generalizing walk with
  | zero =>
      have nothing : walk.ahead = [] := List.eq_nil_of_length_eq_zero (Nat.le_zero.mp enough)
      refine ⟨walk, .stop ?_, rfl⟩
      simp [next?_eq, nothing, Reading.parse]
  | succ count ih =>
      cases parsed : Reading.parse walk.ahead with
      | none =>
          simp only [Reading.parseUpTo, parsed]
          refine ⟨walk, .stop ?_, rfl⟩
          simp [next?_eq, parsed]
      | some found =>
          rcases found with ⟨reading, rest⟩
          let next : Walk := { walk with position := walk.position + reading.encodedSize }
          have went : walk.next? = some (reading, next) := by simp [next?_eq, parsed, next]
          have ahead_eq := (Reading.eq_encode_append_of_parse parsed).1
          have next_ahead : next.ahead = rest := by
            simp only [next, ahead, ← List.drop_drop]
            change walk.ahead.drop reading.encodedSize = rest
            rw [ahead_eq, ← Reading.length_encode, List.drop_left]
          have shorter : next.ahead.length ≤ count := by
            rw [ahead_eq, List.length_append, Reading.length_encode, Reading.encodedSize,
              Reading.overhead] at enough
            rw [next_ahead]
            omega
          rcases ih next shorter with ⟨last, ends, last_ahead⟩
          rw [next_ahead] at ends last_ahead
          simp only [Reading.parseUpTo, parsed]
          exact ⟨last, .step went ends, last_ahead⟩

theorem Ends.next?_eq_none (ends : Ends walk readings last) : last.next? = none := by
  induction ends with
  | stop stuck => exact stuck
  | step _ _ ih => exact ih

end Walk

namespace Batch

variable {capacity : Nat} {batch : Batch capacity}

/-! ### Filling a batch -/

/-- What can be done with a batch. -/
inductive Step where
  | push (reading : Reading)
  | clear

/-- What a step brings about. -/
inductive Event where
  | accepted (reading : Reading)
  | refused
  | cleared
deriving DecidableEq

def perform (batch : Batch capacity) : Step → Event × Batch capacity
  | .push reading =>
      match batch.push? reading with
      | some pushed => (.accepted reading, pushed)
      | none => (.refused, batch)
  | .clear => (.cleared, {})

/-- The events of a run of steps, in order, and the batch it leaves. -/
def run (steps : List Step) (batch : Batch capacity) : List Event × Batch capacity :=
  steps.foldl (fun (events, batch) step =>
    (events ++ [(batch.perform step).1], (batch.perform step).2)) ([], batch)

theorem run_concat (steps : List Step) (step : Step) (batch : Batch capacity) :
    batch.run (steps ++ [step]) =
      ((batch.run steps).1 ++ [((batch.run steps).2.perform step).1],
        ((batch.run steps).2.perform step).2) :=
  List.foldl_concat ..

/-- The readings that were accepted after the last time the batch was cleared. -/
def sinceCleared (events : List Event) : List Reading :=
  (events.rtakeWhile (· ≠ .cleared)).filterMap fun
    | .accepted reading => some reading
    | .refused | .cleared => none

/-- The length of the reading can be said, and there is room for its written form. -/
def Admits (reading : Reading) (batch : Batch capacity) : Prop :=
  reading.Writable ∧ batch.bytes.length + reading.encode.length ≤ capacity

theorem isSome_push?_iff : (batch.push? reading).isSome = true ↔ batch.Admits reading := by
  have room_iff : batch.fits reading = true ↔
      batch.bytes.length + reading.encode.length ≤ capacity := by
    rw [Reading.length_encode]
    exact decide_eq_true_iff
  simp [push?, room_iff, Admits, Reading.Writable, and_comm]

theorem perform_push_eq_accepted_iff :
    (batch.perform (.push reading)).1 = .accepted reading ↔ batch.Admits reading := by
  rw [← isSome_push?_iff, perform]
  cases batch.push? reading with
  | none => simp
  | some _ => simp

theorem perform_push_of_ne_accepted
    (refuses : (batch.perform (.push reading)).1 ≠ .accepted reading) :
    (batch.perform (.push reading)).2 = batch := by
  rw [perform] at refuses ⊢
  cases taken : batch.push? reading with
  | none => rfl
  | some _ => simp [taken] at refuses

/-- The batch holds what was accepted since it was cleared, and has room for it. -/
structure Gathers (events : List Event) (batch : Batch capacity) : Prop where
  sound : batch.Sound
  readings_eq : batch.readings = sinceCleared events

theorem gathers_perform {events : List Event} (gathers : Gathers events batch) (step : Step) :
    Gathers (events ++ [(batch.perform step).1]) (batch.perform step).2 := by
  cases step with
  | push reading =>
      cases taken : batch.push? reading with
      | none =>
          simp only [perform, taken]
          refine ⟨gathers.sound, ?_⟩
          simp [sinceCleared, gathers.readings_eq]
      | some pushed =>
          simp only [perform, taken]
          refine ⟨sound_push? gathers.sound taken, ?_⟩
          simp [push?_eq_some taken, sinceCleared, gathers.readings_eq]
  | clear =>
      refine ⟨sound_empty, ?_⟩
      simp [perform, sinceCleared]

theorem gathers_run (steps : List Step) :
    Gathers (run steps ({} : Batch capacity)).1 (run steps ({} : Batch capacity)).2 := by
  induction steps using List.reverseRecOn with
  | nil => exact ⟨sound_empty, rfl⟩
  | append_singleton steps step ih =>
      rw [run_concat]
      exact gathers_perform ih step

end Batch

/-! ### Filling a buffer -/

namespace Buffer

variable {capacity : Nat} {batch : Batch capacity} {buffer : Buffer capacity}

def perform (buffer : Buffer capacity) : Batch.Step → Batch.Event × Buffer capacity
  | .push reading =>
      match buffer.push reading with
      | (true, pushed) => (.accepted reading, pushed)
      | (false, left) => (.refused, left)
  | .clear => (.cleared, buffer.clear)

/-- The events of a run of steps, in order, and the buffer it leaves. -/
def run (steps : List Batch.Step) (buffer : Buffer capacity) :
    List Batch.Event × Buffer capacity :=
  steps.foldl (fun (events, buffer) step =>
    (events ++ [(buffer.perform step).1], (buffer.perform step).2)) ([], buffer)

theorem run_concat (steps : List Batch.Step) (step : Batch.Step) (buffer : Buffer capacity) :
    buffer.run (steps ++ [step]) =
      ((buffer.run steps).1 ++ [((buffer.run steps).2.perform step).1],
        ((buffer.run steps).2.perform step).2) :=
  List.foldl_concat ..

theorem extend_of_le {data : Bytes} (room : buffer.bytes.length + data.length ≤ capacity) :
    buffer.extend data = { buffer with bytes := buffer.bytes ++ data } :=
  if_pos room

/-- If the whole reading fits, neither of its two parts is left out. -/
theorem push_of_room (writable : reading.Writable)
    (room : buffer.bytes.length + reading.encode.length ≤ capacity) :
    buffer.push reading =
      (true, { bytes := buffer.bytes ++ reading.encode, count := buffer.count + 1 }) := by
  rw [Reading.length_encode] at room
  have fits : buffer.fits reading = true := decide_eq_true room
  have accepted : ¬(¬buffer.fits reading ∨ Reading.maxData < reading.data.length) :=
    not_or.mpr ⟨not_not.mpr fits, Nat.not_lt.mpr writable⟩
  rw [Reading.encodedSize, Reading.overhead] at room
  let front : Bytes := [reading.station, reading.uid, UInt8.ofNat reading.data.length]
  have announced : buffer.extend front = { buffer with bytes := buffer.bytes ++ front } := by
    apply extend_of_le
    simp only [front, List.length_cons, List.length_nil]
    omega
  have written : ({ buffer with bytes := buffer.bytes ++ front } : Buffer capacity).extend
      reading.data = { buffer with bytes := buffer.bytes ++ front ++ reading.data } := by
    apply extend_of_le
    simp only [front, List.length_append, List.length_cons, List.length_nil]
    omega
  rw [push, if_neg accepted, announced]
  dsimp only
  rw [written, List.append_assoc]
  rfl

theorem push_of_no_room (full : ¬(reading.Writable ∧
      buffer.bytes.length + reading.encode.length ≤ capacity)) :
    buffer.push reading = (false, buffer) := by
  apply if_pos
  by_contra accepted
  rw [not_or, not_not, Nat.not_lt] at accepted
  rw [Reading.length_encode] at full
  exact full ⟨accepted.2, of_decide_eq_true accepted.1⟩

theorem perform_push_of_ne_accepted
    (refuses : (buffer.perform (.push reading)).1 ≠ .accepted reading) :
    (buffer.perform (.push reading)).2 = buffer := by
  by_cases room : reading.Writable ∧ buffer.bytes.length + reading.encode.length ≤ capacity
  · simp [Buffer.perform, push_of_room room.1 room.2] at refuses
  · simp only [Buffer.perform, push_of_no_room room]

/-- The buffer is the written form of the batch. -/
structure Writes (batch : Batch capacity) (buffer : Buffer capacity) : Prop where
  bytes_eq : buffer.bytes = batch.bytes
  count_eq : buffer.count = batch.count

/-- What a step brings about is the same for a batch and for its written form. -/
theorem Writes.perform (writes : Writes batch buffer) (step : Batch.Step) :
    (buffer.perform step).1 = (batch.perform step).1 ∧
      Writes (batch.perform step).2 (buffer.perform step).2 := by
  cases step with
  | clear => exact ⟨rfl, rfl, rfl⟩
  | push reading =>
      have admits_iff : batch.Admits reading ↔
          reading.Writable ∧ buffer.bytes.length + reading.encode.length ≤ capacity := by
        rw [writes.bytes_eq]
        exact Iff.rfl
      rw [← Batch.isSome_push?_iff] at admits_iff
      cases taken : batch.push? reading with
      | none =>
          have full := mt admits_iff.mpr (by simp [taken])
          simp only [Buffer.perform, push_of_no_room full, Batch.perform, taken]
          exact ⟨trivial, writes⟩
      | some pushed =>
          obtain ⟨writable, room⟩ := admits_iff.mp (by simp [taken])
          have readings_eq := (Batch.push?_eq_some taken).1
          simp only [Buffer.perform, push_of_room writable room, Batch.perform, taken]
          refine ⟨trivial, ?_, ?_⟩
          · simp [Batch.bytes, readings_eq, writes.bytes_eq]
          · simp [Batch.count, readings_eq, writes.count_eq]

theorem writes_run (steps : List Batch.Step) :
    (run steps ({} : Buffer capacity)).1 = (Batch.run steps ({} : Batch capacity)).1 ∧
      Writes (Batch.run steps ({} : Batch capacity)).2 (run steps ({} : Buffer capacity)).2 := by
  induction steps using List.reverseRecOn with
  | nil => exact ⟨rfl, rfl, rfl⟩
  | append_singleton steps step ih =>
      obtain ⟨events_eq, writes⟩ := ih
      obtain ⟨event_eq, writes⟩ := writes.perform step
      rw [run_concat, Batch.run_concat, events_eq, event_eq]
      exact ⟨rfl, writes⟩

end Buffer

/-! ### What is written is found again -/

/-- A walk over a body comes to an end at one place, behind the readings that are answered for the
body. These and the bytes ahead of that place are the body, and no reading opens those bytes; the
walk is truncated exactly if there are any. A batch takes a reading in exactly if its length can be
said and there is room for its written form, and is as it was otherwise. It never takes more bytes
than it may, and a walk over them finds what was taken in since it was cleared, all of it, and is
not truncated. A buffer that goes through the same steps brings about the same events, has the same
bytes and counts the same readings, and is as it was too when it takes nothing in. -/
theorem readings_found_again :
    (∀ body : Bytes, ∃ readings last, Walk.Ends { body } readings last ∧
      (∀ others stop, Walk.Ends { body } others stop → others = readings ∧ stop = last) ∧
      Reading.parseAll body = (readings, last.ahead) ∧
      readings.flatMap Reading.encode ++ last.ahead = body ∧ ¬OpensWithReading last.ahead ∧
      (last.truncated = true ↔ last.ahead ≠ [])) ∧
    ∀ (capacity : Nat) (steps : List Batch.Step),
      let events := (Batch.run steps ({} : Batch capacity)).1
      let batch := (Batch.run steps ({} : Batch capacity)).2
      (∀ reading : Reading,
        ((batch.perform (.push reading)).1 = .accepted reading ↔
          reading.Writable ∧ batch.bytes.length + reading.encode.length ≤ capacity) ∧
        ((batch.perform (.push reading)).1 ≠ .accepted reading →
          (batch.perform (.push reading)).2 = batch)) ∧
      batch.size ≤ capacity ∧ batch.count = (Batch.sinceCleared events).length ∧
      (∃ last, Walk.Ends { body := batch.bytes } (Batch.sinceCleared events) last ∧
        last.truncated = false) ∧
      let buffer := (Buffer.run steps ({} : Buffer capacity)).2
      (Buffer.run steps ({} : Buffer capacity)).1 = events ∧
        buffer.bytes = batch.bytes ∧ buffer.count = batch.count ∧
        ∀ reading : Reading,
          (buffer.perform (.push reading)).1 = (batch.perform (.push reading)).1 ∧
          ((buffer.perform (.push reading)).1 ≠ .accepted reading →
            (buffer.perform (.push reading)).2 = buffer) := by
  have walked (body : Bytes) : ∃ last, Walk.Ends { body } (Reading.parseAll body).1 last ∧
      last.ahead = (Reading.parseAll body).2 :=
    Walk.ends_parseUpTo { body } (Nat.le_refl body.length)
  constructor
  · intro body
    rcases walked body with ⟨last, ends, ahead_eq⟩
    refine ⟨_, last, ends, fun _ _ => ends.unique, ?_, ?_, ?_, Walk.truncated_iff⟩
    · rw [ahead_eq]
    · rw [ahead_eq]
      exact Reading.flatMap_encode_parseAll body
    · have stuck := ends.next?_eq_none
      rw [Walk.next?_eq, Option.map_eq_none_iff] at stuck
      exact parse_eq_none_iff.mp stuck
  · intro capacity steps events batch
    have gathers : Batch.Gathers events batch := Batch.gathers_run steps
    obtain ⟨events_eq, writes⟩ : (Buffer.run steps ({} : Buffer capacity)).1 = events ∧
        Buffer.Writes batch (Buffer.run steps {}).2 := Buffer.writes_run steps
    refine ⟨?_, gathers.sound.size_le, ?_, ?_, events_eq, writes.bytes_eq, writes.count_eq, ?_⟩
    · intro reading
      exact ⟨Batch.perform_push_eq_accepted_iff, Batch.perform_push_of_ne_accepted⟩
    · rw [Batch.count, gathers.readings_eq]
    · rcases walked batch.bytes with ⟨last, ends, ahead_eq⟩
      rw [Batch.parseAll_bytes gathers.sound, gathers.readings_eq] at ends
      rw [Batch.parseAll_bytes gathers.sound] at ahead_eq
      refine ⟨last, ends, ?_⟩
      rw [← Bool.not_eq_true, Walk.truncated_iff, not_not]
      exact ahead_eq
    · intro reading
      exact ⟨(writes.perform (.push reading)).1, Buffer.perform_push_of_ne_accepted⟩

/-- A body whose second reading breaks off, and a batch that refuses a reading, is cleared, and then
filled to the last byte. -/
theorem readings_found_again_brokenOffAndFilled :
    let steps : List Batch.Step := [.push ⟨1, 1, [0, 0, 0]⟩, .push ⟨2, 2, []⟩, .clear,
      .push ⟨3, 4, [9, 9]⟩, .push ⟨5, 6, []⟩]
    let events := (Batch.run steps ({} : Batch 8)).1
    events = [.accepted ⟨1, 1, [0, 0, 0]⟩, .refused, .cleared, .accepted ⟨3, 4, [9, 9]⟩,
        .accepted ⟨5, 6, []⟩] ∧
      (∃ last, Walk.Ends { body := [3, 4, 2, 9, 9, 5, 6, 0] } [⟨3, 4, [9, 9]⟩, ⟨5, 6, []⟩] last ∧
        last.truncated = false) ∧
      ∃ last, Walk.Ends { body := [5, 1, 1, 0xAA, 6, 2, 10, 1, 2] } [⟨5, 1, [0xAA]⟩] last ∧
        last.truncated = true := by
  intro steps events
  rcases readings_found_again with ⟨bodies, batches⟩
  refine ⟨by decide, ?_, ?_⟩
  · rcases batches 8 steps with ⟨_, _, _, found, _⟩
    exact found
  · rcases bodies [5, 1, 1, 0xAA, 6, 2, 10, 1, 2] with
      ⟨readings, last, ends, _, parsed, _, _, truncated_iff⟩
    have parsed_eq : Reading.parseAll [5, 1, 1, 0xAA, 6, 2, 10, 1, 2] =
        ([⟨5, 1, [0xAA]⟩], [6, 2, 10, 1, 2]) := by decide
    rw [parsed_eq, Prod.mk.injEq] at parsed
    rcases parsed with ⟨rfl, ahead_eq⟩
    refine ⟨last, ends, truncated_iff.mpr ?_⟩
    rw [← ahead_eq]
    exact List.cons_ne_nil _ _

end StationMesh.Weather
