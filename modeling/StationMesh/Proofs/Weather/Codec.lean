import StationMesh.Weather.Batch

/-!
# Written readings

The written form of a run of readings can be read back, and what was read out of a body is the
body again when it is written, up to the bytes that were left over.
-/

namespace StationMesh.Weather

namespace Reading

/-- The length of the data can be written in one byte. -/
def Writable (reading : Reading) : Prop := reading.data.length ≤ maxData

theorem parse_encode_append {reading : Reading} (writable : reading.Writable) (rest : Bytes) :
    parse (reading.encode ++ rest) = some (reading, rest) := by
  have length_eq : (UInt8.ofNat reading.data.length).toNat = reading.data.length := by
    simp only [UInt8.toNat_ofNat']
    exact Nat.mod_eq_of_lt (Nat.lt_succ_of_le writable)
  simp [encode, parse, length_eq]

/-- A reading that was read is the front of the body, and can be written again. -/
theorem eq_encode_append_of_parse {body rest : Bytes} {reading : Reading}
    (parsed : parse body = some (reading, rest)) :
    body = reading.encode ++ rest ∧ reading.Writable := by
  unfold parse at parsed
  split at parsed
  · rename_i station uid length bytes
    split at parsed
    · rename_i complete
      simp only [Option.some.injEq, Prod.mk.injEq] at parsed
      rcases parsed with ⟨rfl, rfl⟩
      have length_eq : (bytes.take length.toNat).length = length.toNat := by
        rw [List.length_take]
        omega
      constructor
      · simp only [encode, length_eq, UInt8.ofNat_toNat, List.cons_append, List.take_append_drop]
      · have := length.toNat_lt
        change (bytes.take length.toNat).length ≤ 255
        omega
    · contradiction
  · contradiction

theorem parseUpTo_flatMap_encode {readings : List Reading}
    (writable : ∀ reading ∈ readings, reading.Writable) {count : Nat}
    (enough : readings.length ≤ count) :
    parseUpTo count (readings.flatMap encode) = (readings, []) := by
  induction readings generalizing count with
  | nil => cases count <;> rfl
  | cons reading rest ih =>
      rcases count with _ | count
      · simp at enough
      · have rest_eq := ih (fun other mem => writable other (List.mem_cons_of_mem _ mem))
          (Nat.le_of_succ_le_succ enough)
        rw [List.flatMap_cons, parseUpTo,
          parse_encode_append (writable reading List.mem_cons_self)]
        simp only [rest_eq]

theorem length_le_length_flatMap_encode (readings : List Reading) :
    readings.length ≤ (readings.flatMap encode).length := by
  induction readings with
  | nil => simp
  | cons reading rest ih =>
      simp only [List.flatMap_cons, List.length_append, List.length_cons, length_encode,
        encodedSize, overhead]
      omega

/-- A run of written readings is read back as a whole. -/
theorem parseAll_flatMap_encode {readings : List Reading}
    (writable : ∀ reading ∈ readings, reading.Writable) :
    parseAll (readings.flatMap encode) = (readings, []) :=
  parseUpTo_flatMap_encode writable (length_le_length_flatMap_encode readings)

theorem flatMap_encode_parseUpTo (count : Nat) (body : Bytes) :
    (parseUpTo count body).1.flatMap encode ++ (parseUpTo count body).2 = body ∧
      ∀ reading ∈ (parseUpTo count body).1, reading.Writable := by
  induction count generalizing body with
  | zero => simp [parseUpTo]
  | succ count ih =>
      rw [parseUpTo]
      split
      · simp
      · rename_i reading rest parsed
        rcases eq_encode_append_of_parse parsed with ⟨body_eq, writable⟩
        rcases ih rest with ⟨rest_eq, restWritable⟩
        constructor
        · rw [List.flatMap_cons, List.append_assoc, rest_eq, body_eq]
        · intro other mem
          rcases List.mem_cons.mp mem with rfl | mem
          · exact writable
          · exact restWritable other mem

/-- The readings of a body and the bytes left over are the body. -/
theorem flatMap_encode_parseAll (body : Bytes) :
    (parseAll body).1.flatMap encode ++ (parseAll body).2 = body :=
  (flatMap_encode_parseUpTo body.length body).1

theorem writable_of_mem_parseAll {body : Bytes} {reading : Reading}
    (mem : reading ∈ (parseAll body).1) : reading.Writable :=
  (flatMap_encode_parseUpTo body.length body).2 reading mem

theorem length_flatMap_encode_parseAll_le (body : Bytes) :
    ((parseAll body).1.flatMap encode).length ≤ body.length := by
  have length_eq := congrArg List.length (flatMap_encode_parseAll body)
  rw [List.length_append] at length_eq
  omega

end Reading

namespace Batch

variable {capacity : Nat} {batch pushed : Batch capacity} {reading : Reading}

/-- The readings fit in the batch, and each of them can be written. -/
structure Sound (batch : Batch capacity) : Prop where
  size_le : batch.size ≤ capacity
  writable : ∀ reading ∈ batch.readings, reading.Writable

theorem sound_empty : ({} : Batch capacity).Sound where
  size_le := Nat.zero_le capacity
  writable := by simp

theorem size_eq_zero_of_isEmpty (empty : batch.isEmpty = true) : batch.size = 0 := by
  rw [isEmpty, List.isEmpty_iff] at empty
  simp [size, bytes, empty]

theorem parseAll_bytes (sound : batch.Sound) :
    Reading.parseAll batch.bytes = (batch.readings, []) :=
  Reading.parseAll_flatMap_encode sound.writable

/-- A reading that was taken in comes behind the others. -/
theorem push?_eq_some (taken : batch.push? reading = some pushed) :
    pushed.readings = batch.readings ++ [reading] ∧
      pushed.size = batch.size + reading.encodedSize := by
  unfold push? at taken
  split at taken
  · simp only [Option.some.injEq] at taken
    subst taken
    refine ⟨rfl, ?_⟩
    simp [size, bytes]
  · contradiction

theorem sound_push? (sound : batch.Sound) (taken : batch.push? reading = some pushed) :
    pushed.Sound := by
  rcases push?_eq_some taken with ⟨readings_eq, size_eq⟩
  unfold push? at taken
  split at taken
  · rename_i accepted
    simp only [Bool.and_eq_true, fits, decide_eq_true_eq] at accepted
    constructor
    · rw [size_eq]
      exact accepted.1
    · intro other mem
      rw [readings_eq, List.mem_append, List.mem_singleton] at mem
      rcases mem with mem | rfl
      · exact sound.writable other mem
      · exact accepted.2
  · contradiction

theorem push?_eq_none_iff (writable : reading.Writable) :
    batch.push? reading = none ↔ capacity < batch.size + reading.encodedSize := by
  have length_le : decide (reading.data.length ≤ Reading.maxData) = true := decide_eq_true writable
  simp [push?, fits, length_le]

end Batch

end StationMesh.Weather
