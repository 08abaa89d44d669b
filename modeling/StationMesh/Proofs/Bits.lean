import Mathlib.Algebra.Ring.Parity
import Mathlib.Data.List.Basic
import Mathlib.Data.Nat.Bitwise
import StationMesh.Bytes

/-!
# The bits of byte strings

The bits of a byte string stand one behind the other, the most significant one of each byte first.
Whether an odd number of them is set, and whether those that are set lie close together, is told
here of the list of bits. Two byte strings of the same length are compared by the bits in which they
differ.
-/

namespace StationMesh.Bytes

/-- The `width` low bits of a number, the most significant one first. -/
def bitsOf : (width value : Nat) → List Bool
  | 0, _ => []
  | width + 1, value => value.testBit width :: bitsOf width value

/-- The bits of a byte string, the most significant one of each byte first. -/
def bits (bytes : Bytes) : List Bool := bytes.flatMap fun byte => bitsOf 8 byte.toNat

/-- An odd number of bits is set. -/
def parity (bits : List Bool) : Bool := bits.foldr Bool.xor false

/-- All bits that are set lie among `width` consecutive ones. -/
def Confined (width : Nat) (bits : List Bool) : Prop :=
  ∃ before, true ∉ bits.take before ∧ true ∉ bits.drop (before + width)

/-- The bits that differ between two byte strings of the same length. -/
def difference (sent received : Bytes) : Bytes := List.zipWith (· ^^^ ·) sent received

@[simp]
theorem length_bitsOf (width value : Nat) : (bitsOf width value).length = width := by
  induction width with
  | zero => rfl
  | succ width ih => rw [bitsOf, List.length_cons, ih]

theorem bitsOf_congr {width value other : Nat}
    (agree : ∀ place < width, value.testBit place = other.testBit place) :
    bitsOf width value = bitsOf width other := by
  induction width with
  | zero => rfl
  | succ width ih =>
      rw [bitsOf, bitsOf, agree width (Nat.lt_succ_self _),
        ih fun place lt => agree place (Nat.lt_succ_of_lt lt)]

/-- A number put together from high and low bits has these bits one after the other. -/
theorem bitsOf_add {low : Nat} (width lowWidth high : Nat) (lt : low < 2 ^ lowWidth) :
    bitsOf (width + lowWidth) (2 ^ lowWidth * high + low) =
      bitsOf width high ++ bitsOf lowWidth low := by
  induction width with
  | zero =>
      rw [Nat.zero_add, bitsOf, List.nil_append]
      apply bitsOf_congr
      intro place place_lt
      rw [Nat.testBit_two_pow_mul_add high lt, if_pos place_lt]
  | succ width ih =>
      have above : ¬width + lowWidth < lowWidth := by omega
      rw [Nat.succ_add, bitsOf, ih, bitsOf, Nat.testBit_two_pow_mul_add high lt, if_neg above,
        Nat.add_sub_cancel, List.cons_append]

theorem true_notMem_bitsOf_iff {width value : Nat} (lt : value < 2 ^ width) :
    true ∉ bitsOf width value ↔ value = 0 := by
  have mem_iff (width : Nat) :
      true ∈ bitsOf width value ↔ ∃ place < width, value.testBit place := by
    induction width with
    | zero => simp [bitsOf]
    | succ width ih =>
        rw [bitsOf, List.mem_cons, ih, Nat.exists_lt_succ_right, or_comm, eq_comm]
  rw [mem_iff]
  constructor
  · intro unset
    apply Nat.eq_of_testBit_eq
    intro place
    rw [Nat.zero_testBit]
    by_cases place_lt : place < width
    · simpa using fun set => unset ⟨place, place_lt, set⟩
    · exact Nat.testBit_lt_two_pow
        (Nat.lt_of_lt_of_le lt (Nat.pow_le_pow_right (by decide) (Nat.le_of_not_lt place_lt)))
  · rintro rfl
    simp

@[simp]
theorem bits_cons (byte : UInt8) (rest : Bytes) :
    bits (byte :: rest) = bitsOf 8 byte.toNat ++ bits rest :=
  List.flatMap_cons

theorem bits_append (bytes more : Bytes) : bits (bytes ++ more) = bits bytes ++ bits more :=
  List.flatMap_append

variable {bytes sent received : Bytes}

@[simp]
theorem length_bits (bytes : Bytes) : (bits bytes).length = 8 * bytes.length := by
  induction bytes with
  | nil => rfl
  | cons byte rest ih =>
      rw [bits_cons, List.length_append, length_bitsOf, ih, List.length_cons]
      omega

theorem take_bits (count : Nat) (bytes : Bytes) :
    (bits bytes).take (8 * count) = bits (bytes.take count) := by
  induction count generalizing bytes with
  | zero => rfl
  | succ count ih =>
      cases bytes with
      | nil => rfl
      | cons byte rest =>
          have taken : (bitsOf 8 byte.toNat ++ bits rest).take (8 + 8 * count) =
              bitsOf 8 byte.toNat ++ (bits rest).take (8 * count) := by
            rw [List.take_append, length_bitsOf, Nat.add_sub_cancel_left, List.take_of_length_le]
            rw [length_bitsOf]
            exact Nat.le_add_right _ _
          rw [Nat.mul_succ, Nat.add_comm, bits_cons, taken, ih, List.take_succ_cons, bits_cons]

theorem drop_bits (count : Nat) (bytes : Bytes) :
    (bits bytes).drop (8 * count) = bits (bytes.drop count) := by
  have split : bits (bytes.take count) ++ (bits bytes).drop (8 * count) =
      bits (bytes.take count) ++ bits (bytes.drop count) := by
    rw [← take_bits, List.take_append_drop, take_bits, ← bits_append, List.take_append_drop]
  exact List.append_cancel_left split

theorem true_notMem_bits_iff : true ∉ bits bytes ↔ ∀ byte ∈ bytes, byte = 0 := by
  induction bytes with
  | nil => simp [bits]
  | cons byte rest ih =>
      rw [bits_cons, List.mem_append, not_or, ih, true_notMem_bitsOf_iff byte.toNat_lt,
        List.forall_mem_cons, ← UInt8.toNat_inj]
      rfl

theorem true_mem_bits_iff : true ∈ bits bytes ↔ ¬∀ byte ∈ bytes, byte = 0 := by
  rw [← true_notMem_bits_iff, not_not]

/-! ### Parity -/

@[simp]
theorem parity_cons (bit : Bool) (bits : List Bool) :
    parity (bit :: bits) = (bit ^^ parity bits) := rfl

theorem parity_append (bits more : List Bool) :
    parity (bits ++ more) = (parity bits ^^ parity more) := by
  induction bits with
  | nil => exact (Bool.false_xor _).symm
  | cons bit rest ih => rw [List.cons_append, parity_cons, ih, parity_cons, Bool.xor_assoc]

theorem parity_eq_true_iff {bits : List Bool} : parity bits = true ↔ Odd (bits.count true) := by
  induction bits with
  | nil => simp [parity]
  | cons bit rest ih =>
      cases bit with
      | false => simpa using ih
      | true =>
          rw [parity_cons, Bool.true_xor, List.count_cons_self, Nat.odd_add_one, ← ih,
            Bool.not_eq_true', Bool.not_eq_true]

theorem parity_bitsOf_xor (width value other : Nat) :
    parity (bitsOf width (value ^^^ other)) =
      (parity (bitsOf width value) ^^ parity (bitsOf width other)) := by
  induction width with
  | zero => rfl
  | succ width ih =>
      simp only [bitsOf, parity_cons, Nat.testBit_xor, ih, Bool.xor_assoc, Bool.xor_left_comm]

/-! ### Bits that lie close together -/

theorem Confined.take {width : Nat} {bits : List Bool} (confined : Confined width bits)
    (count : Nat) : Confined width (bits.take count) := by
  rcases confined with ⟨before, unsetBefore, unsetAfter⟩
  refine ⟨before, fun set => unsetBefore ?_, fun set => unsetAfter ?_⟩
  · rw [List.take_take, Nat.min_comm, ← List.take_take] at set
    exact List.mem_of_mem_take set
  · rw [List.drop_take] at set
    exact List.mem_of_mem_take set

theorem Confined.drop {width : Nat} {bits : List Bool} (confined : Confined width bits)
    (count : Nat) : Confined width (bits.drop count) := by
  rcases confined with ⟨before, unsetBefore, unsetAfter⟩
  refine ⟨before - count, fun set => unsetBefore ?_, fun set => unsetAfter ?_⟩
  · by_cases behind : before ≤ count
    · simp [Nat.sub_eq_zero_of_le behind] at set
    · rw [List.take_drop, Nat.add_sub_of_le (Nat.le_of_not_le behind)] at set
      exact List.mem_of_mem_drop set
  · have later : count + (before - count + width) =
        before + width + (count + (before - count) - before) := by omega
    rw [List.drop_drop, later, ← List.drop_drop] at set
    exact List.mem_of_mem_drop set

theorem confined_cons_false_iff {width : Nat} {bits : List Bool} :
    Confined width (false :: bits) ↔ Confined width bits := by
  constructor
  · rintro ⟨before, unsetBefore, unsetAfter⟩
    cases before with
    | zero =>
        refine ⟨0, List.not_mem_nil, fun set => unsetAfter ?_⟩
        rw [Nat.zero_add] at set ⊢
        cases width with
        | zero => exact List.mem_cons_of_mem _ set
        | succ width =>
            rw [List.drop_succ_cons]
            rw [← List.drop_drop] at set
            exact List.mem_of_mem_drop set
    | succ before =>
        rw [Nat.succ_add, List.drop_succ_cons] at unsetAfter
        exact ⟨before, fun set => unsetBefore (List.mem_cons_of_mem _ set), unsetAfter⟩
  · rintro ⟨before, unsetBefore, unsetAfter⟩
    refine ⟨before + 1, ?_, ?_⟩
    · rw [List.take_succ_cons, List.mem_cons, not_or]
      exact ⟨by decide, unsetBefore⟩
    · rwa [Nat.succ_add, List.drop_succ_cons]

theorem confined_cons_true_iff {width : Nat} {bits : List Bool} :
    Confined width (true :: bits) ↔ 0 < width ∧ true ∉ bits.drop (width - 1) := by
  constructor
  · rintro ⟨before, unsetBefore, unsetAfter⟩
    cases before with
    | zero =>
        rw [Nat.zero_add] at unsetAfter
        cases width with
        | zero => simp at unsetAfter
        | succ width => exact ⟨Nat.succ_pos _, unsetAfter⟩
    | succ before => simp at unsetBefore
  · rintro ⟨positive, unset⟩
    refine ⟨0, List.not_mem_nil, ?_⟩
    cases width with
    | zero => contradiction
    | succ width => rwa [Nat.zero_add]

instance decidableConfined (width : Nat) : (bits : List Bool) → Decidable (Confined width bits)
  | [] => isTrue ⟨0, by simp⟩
  | false :: bits =>
      have := decidableConfined width bits
      decidable_of_iff (Confined width bits) confined_cons_false_iff.symm
  | true :: bits =>
      decidable_of_iff (0 < width ∧ true ∉ bits.drop (width - 1)) confined_cons_true_iff.symm

/-! ### Differences -/

theorem take_difference (count : Nat) (sent received : Bytes) :
    (difference sent received).take count = difference (sent.take count) (received.take count) :=
  List.take_zipWith

theorem drop_difference (count : Nat) (sent received : Bytes) :
    (difference sent received).drop count = difference (sent.drop count) (received.drop count) :=
  List.drop_zipWith

theorem length_difference (length_eq : received.length = sent.length) :
    (difference sent received).length = sent.length := by
  rw [difference, List.length_zipWith, length_eq, Nat.min_self]

/-- Byte strings that differ in no bit are the same. -/
theorem eq_of_difference_unset (length_eq : received.length = sent.length)
    (unset : true ∉ bits (difference sent received)) : received = sent := by
  rw [true_notMem_bits_iff] at unset
  induction sent generalizing received with
  | nil => exact List.length_eq_zero_iff.mp length_eq
  | cons byte rest ih =>
      cases received with
      | nil => contradiction
      | cons other others =>
          rw [difference, List.zipWith_cons_cons, List.forall_mem_cons,
            UInt8.xor_eq_zero_iff] at unset
          rw [unset.1, ih (Nat.succ.inj length_eq) unset.2]

/-! ### Words -/

/-- The word is its high byte followed by its low byte. -/
theorem toNat_toWord (low high : UInt8) :
    (toWord [low, high]).toNat = 2 ^ 8 * high.toNat + low.toNat := by
  have lowLt := low.toNat_lt
  have highLt := high.toNat_lt
  simp only [toWord, UInt16.toNat_ofNat']
  omega

theorem bitsOf_toWord (low high : UInt8) :
    bitsOf 16 (toWord [low, high]).toNat = bitsOf 8 high.toNat ++ bitsOf 8 low.toNat := by
  rw [toNat_toWord]
  exact bitsOf_add 8 8 high.toNat low.toNat_lt

theorem parity_toWord (length_eq : bytes.length = 2) :
    parity (bitsOf 16 (toWord bytes).toNat) = parity (bits bytes) := by
  rcases List.length_eq_two.mp length_eq with ⟨low, high, rfl⟩
  rw [bitsOf_toWord, bits_cons, bits_cons, parity_append, parity_append, parity_append,
    Bool.xor_comm]
  simp [parity, bits]

theorem toWord_difference (sent_length : sent.length = 2) (received_length : received.length = 2) :
    toWord (difference sent received) = toWord sent ^^^ toWord received := by
  rcases List.length_eq_two.mp sent_length with ⟨low, high, rfl⟩
  rcases List.length_eq_two.mp received_length with ⟨otherLow, otherHigh, rfl⟩
  have differ : difference [low, high] [otherLow, otherHigh] =
      [low ^^^ otherLow, high ^^^ otherHigh] := rfl
  rw [differ, ← UInt16.toNat_inj, UInt16.toNat_xor, toNat_toWord, toNat_toWord, toNat_toWord]
  apply Nat.eq_of_testBit_eq
  intro place
  rw [Nat.testBit_xor, Nat.testBit_two_pow_mul_add _ low.toNat_lt,
    Nat.testBit_two_pow_mul_add _ otherLow.toNat_lt,
    Nat.testBit_two_pow_mul_add _ (low ^^^ otherLow).toNat_lt, UInt8.toNat_xor, UInt8.toNat_xor]
  split
  · exact Nat.testBit_xor _ _ _
  · exact Nat.testBit_xor _ _ _

theorem toWord_eq_zero_iff (length_eq : bytes.length = 2) :
    toWord bytes = 0 ↔ ∀ byte ∈ bytes, byte = 0 := by
  rcases List.length_eq_two.mp length_eq with ⟨low, high, rfl⟩
  rw [List.forall_mem_cons, List.forall_mem_singleton, ← UInt16.toNat_inj, toNat_toWord,
    ← UInt8.toNat_inj, ← UInt8.toNat_inj]
  change 256 * high.toNat + low.toNat = 0 ↔ low.toNat = 0 ∧ high.toNat = 0
  omega

end StationMesh.Bytes
