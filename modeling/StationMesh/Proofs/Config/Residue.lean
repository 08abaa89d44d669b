import StationMesh.Config.Checksum
import StationMesh.Proofs.Bits

/-!
# What the checksum makes of flipped bits

Taking in a byte is linear in exclusive or, so the checksums of two byte strings of the same length
differ by the residue of the bits that were flipped, whatever the strings are. A residue has the
parity of the flipped bits, as the generator polynomial has an even number of terms. And it is not
zero if flipped bits lie among sixteen consecutive ones: up to them nothing has happened yet,
together they fill the remainder once, and after them it only moves on, which can be undone.
-/

namespace StationMesh.Config.Checksum

open Bytes

/-! ### Moving on by one bit -/

/-- The highest bit of a word is set. -/
theorem and_high_bne_zero (word : UInt16) : (word &&& 0x8000 != 0) = word.toNat.testBit 15 := by
  have and_eq : (word &&& 0x8000).toNat = (word.toNat.testBit 15).toNat * 2 ^ 15 := by
    rw [UInt16.toNat_and]
    exact Nat.and_two_pow _ 15
  cases top : word.toNat.testBit 15 with
  | false => simp [← UInt16.toNat_inj, and_eq, top]
  | true => simp [← UInt16.toNat_inj, and_eq, top]

theorem shift_eq (remainder : UInt16) :
    shift remainder =
      (remainder <<< 1) ^^^ (if remainder.toNat.testBit 15 then polynomial else 0) := by
  rw [shift, and_high_bne_zero]
  cases remainder.toNat.testBit 15 with
  | false => simp
  | true => simp

theorem shift_xor (first second : UInt16) :
    shift (first ^^^ second) = shift first ^^^ shift second := by
  have choose_xor (one other : Bool) : (if (one ^^ other) = true then polynomial else 0) =
      (if one = true then polynomial else 0) ^^^ (if other = true then polynomial else 0) := by
    cases one <;> cases other <;> simp
  simp only [shift_eq, UInt16.toNat_xor, Nat.testBit_xor, UInt16.shiftLeft_xor, choose_xor]
  ac_rfl

theorem shifts_xor (count : Nat) (first second : UInt16) :
    shifts count (first ^^^ second) = shifts count first ^^^ shifts count second := by
  induction count generalizing first second with
  | zero => rfl
  | succ count ih => rw [shifts, shift_xor, ih, shifts, shifts]

theorem shifts_zero (count : Nat) : shifts count 0 = 0 := by
  have doubled := shifts_xor count 0 0
  rwa [UInt16.xor_self, UInt16.xor_self] at doubled

/-- Moving on can be undone: the polynomial is odd, and so shows whether it was taken off. -/
theorem eq_zero_of_shift_eq_zero {remainder : UInt16} (moved : shift remainder = 0) :
    remainder = 0 := by
  have lt := remainder.toNat_lt
  have doubled : (remainder <<< 1).toNat = 2 * remainder.toNat % 65536 := by
    rw [UInt16.toNat_shiftLeft]
    change remainder.toNat <<< 1 % 65536 = _
    rw [Nat.shiftLeft_eq, Nat.mul_comm]
  have top_eq : remainder.toNat.testBit 15 = decide (remainder.toNat / 32768 % 2 = 1) :=
    Nat.testBit_eq_decide_div_mod_eq
  rw [shift_eq, UInt16.xor_eq_zero_iff, ← UInt16.toNat_inj, doubled] at moved
  rw [← UInt16.toNat_inj]
  change remainder.toNat = 0
  split at moved
  · change _ = 4129 at moved
    omega
  · rename_i top
    rw [top_eq, decide_eq_true_eq] at top
    change _ = 0 at moved
    omega

theorem shifts_eq_zero_iff {count : Nat} {remainder : UInt16} :
    shifts count remainder = 0 ↔ remainder = 0 := by
  constructor
  · intro moved
    induction count generalizing remainder with
    | zero => exact moved
    | succ count ih => exact eq_zero_of_shift_eq_zero (ih moved)
  · rintro rfl
    exact shifts_zero count

/-! ### Taking in bits -/

/-- A bit in the highest place of a word. -/
def top (bit : Bool) : UInt16 := if bit then 0x8000 else 0

/-- The remainder after one more bit. -/
def absorbBit (remainder : UInt16) (bit : Bool) : UInt16 := shift (remainder ^^^ top bit)

/-- At most sixteen bits in the highest places of a word. -/
def high : List Bool → UInt16
  | [] => 0
  | bit :: rest => top bit ^^^ (high rest >>> 1)

theorem testBit_high_cons (bit : Bool) (rest : List Bool) (place : Nat) :
    (high (bit :: rest)).toNat.testBit place =
      ((bit && decide (15 = place)) ^^ (high rest).toNat.testBit (place + 1)) := by
  have moved : ((high rest) >>> 1).toNat = (high rest).toNat >>> 1 := UInt16.toNat_shiftRight _ _
  have first : (top bit).toNat.testBit place = (bit && decide (15 = place)) := by
    cases bit with
    | false => exact Nat.zero_testBit place
    | true =>
        have highest : (top true).toNat = 2 ^ 15 := rfl
        rw [Bool.true_and, highest, Nat.testBit_two_pow]
  rw [high, UInt16.toNat_xor, Nat.testBit_xor, first, moved, Nat.testBit_shiftRight, Nat.add_comm 1]

/-- Below the bits that are there the word is empty. -/
theorem testBit_high_of_lt {bits : List Bool} {place : Nat} (lt : place + bits.length < 16) :
    (high bits).toNat.testBit place = false := by
  induction bits generalizing place with
  | nil => exact Nat.zero_testBit place
  | cons bit rest ih =>
      rw [List.length_cons] at lt
      have apart : decide (15 = place) = false := decide_eq_false (by omega)
      rw [testBit_high_cons, apart, ih (by omega), Bool.and_false, Bool.xor_false]

theorem high_ne_zero {bits : List Bool} (length_le : bits.length ≤ 16) (set : true ∈ bits) :
    high bits ≠ 0 := by
  have mem_place : ∃ place, (high bits).toNat.testBit place = true := by
    induction bits with
    | nil => contradiction
    | cons bit rest ih =>
        rw [List.length_cons] at length_le
        by_cases first : bit = true
        · refine ⟨15, ?_⟩
          have beyond : (high rest).toNat.testBit 16 = false :=
            Nat.testBit_lt_two_pow (high rest).toNat_lt
          rw [testBit_high_cons, beyond, first]
          rfl
        · rcases List.mem_cons.mp set with rfl | later
          · contradiction
          rcases ih (by omega) later with ⟨place, place_set⟩
          -- The lowest place is empty, so the bit is not lost when the word moves.
          cases place with
          | zero =>
              rw [testBit_high_of_lt (by omega)] at place_set
              contradiction
          | succ place =>
              refine ⟨place, ?_⟩
              rw [testBit_high_cons, place_set, Bool.eq_false_iff.mpr first]
              rfl
  rcases mem_place with ⟨place, place_set⟩
  intro empty
  rw [empty] at place_set
  simp at place_set

theorem shift_shiftRight_one {word : UInt16} (low : word.toNat.testBit 0 = false) :
    shift (word >>> 1) = word := by
  have lt := word.toNat_lt
  have halved : (word >>> 1).toNat = word.toNat / 2 := UInt16.toNat_shiftRight _ _
  have top : (word.toNat / 2).testBit 15 = false := by
    apply Nat.testBit_lt_two_pow
    omega
  rw [Nat.testBit_zero, decide_eq_false_iff_not] at low
  rw [shift_eq, halved, top, if_neg Bool.false_ne_true, UInt16.xor_zero, ← UInt16.toNat_inj,
    UInt16.toNat_shiftLeft, halved]
  change (word.toNat / 2) <<< 1 % 65536 = word.toNat
  rw [Nat.shiftLeft_eq]
  omega

/-- Bits that fit in the remainder can be added to it all at once. -/
theorem foldl_absorbBit {bits : List Bool} (length_le : bits.length ≤ 16) (remainder : UInt16) :
    bits.foldl absorbBit remainder = shifts bits.length (remainder ^^^ high bits) := by
  induction bits generalizing remainder with
  | nil => rw [high, UInt16.xor_zero]; rfl
  | cons bit rest ih =>
      rw [List.length_cons] at length_le
      have moved : shift (high rest >>> 1) = high rest :=
        shift_shiftRight_one (testBit_high_of_lt (by omega))
      rw [List.foldl_cons, ih (by omega), List.length_cons, shifts, absorbBit]
      congr 1
      rw [high, ← UInt16.xor_assoc, shift_xor _ (high rest >>> 1), moved]

theorem high_bitsOf (byte : UInt8) : high (bitsOf 8 byte.toNat) = byte.toUInt16 <<< 8 := by
  have all : ∀ value : Fin 256,
      high (bitsOf 8 value.val) = (UInt8.ofNat value.val).toUInt16 <<< 8 := by
    decide +kernel
  simpa using all ⟨byte.toNat, byte.toNat_lt⟩

theorem foldl_absorb_eq (data : Bytes) (remainder : UInt16) :
    data.foldl absorb remainder = (bits data).foldl absorbBit remainder := by
  induction data generalizing remainder with
  | nil => rfl
  | cons byte rest ih =>
      have one : absorb remainder byte = (bitsOf 8 byte.toNat).foldl absorbBit remainder := by
        rw [foldl_absorbBit (by rw [length_bitsOf]; decide), high_bitsOf, length_bitsOf, absorb]
      rw [List.foldl_cons, ih, one, bits_cons, List.foldl_append]

/-! ### Residues -/

/-- What flipping these bits of a byte string changes in its checksum. -/
def residue (flipped : Bytes) : UInt16 := flipped.foldl absorb 0

theorem absorb_xor (first second : UInt16) (byte other : UInt8) :
    absorb (first ^^^ second) (byte ^^^ other) = absorb first byte ^^^ absorb second other := by
  rw [absorb, absorb, absorb, ← shifts_xor, UInt8.toUInt16_xor, UInt16.shiftLeft_xor]
  congr 1
  ac_rfl

theorem foldl_absorb_difference {sent received : Bytes}
    (length_eq : received.length = sent.length) (first second : UInt16) :
    (difference sent received).foldl absorb (first ^^^ second) =
      sent.foldl absorb first ^^^ received.foldl absorb second := by
  induction sent generalizing received first second with
  | nil =>
      rw [List.length_nil, List.length_eq_zero_iff] at length_eq
      rw [length_eq]
      rfl
  | cons byte rest ih =>
      cases received with
      | nil => contradiction
      | cons other others =>
          simp only [difference, List.zipWith_cons_cons, List.foldl_cons, absorb_xor]
          exact ih (Nat.succ.inj length_eq) _ _

/-- Checksums differ by the residue of the bits that differ. -/
theorem residue_difference {sent received : Bytes} (length_eq : received.length = sent.length) :
    residue (difference sent received) = ofBytes sent ^^^ ofBytes received := by
  have started := foldl_absorb_difference length_eq 0xFFFF 0xFFFF
  rwa [UInt16.xor_self] at started

theorem residue_append_of_unset {flipped : Bytes} (unset : ∀ byte ∈ flipped, byte = 0)
    (more : Bytes) : residue (flipped ++ more) = residue more := by
  have nothing : flipped.foldl absorb 0 = 0 := by
    induction flipped with
    | nil => rfl
    | cons byte rest ih =>
        rw [List.forall_mem_cons] at unset
        have first : absorb 0 0 = 0 := by decide
        rw [List.foldl_cons, unset.1, first, ih unset.2]
  rw [residue, List.foldl_append, nothing]
  rfl

theorem parity_shift (remainder : UInt16) :
    parity (bitsOf 16 (shift remainder).toNat) = parity (bitsOf 16 remainder.toNat) := by
  have doubled : bitsOf 16 (remainder <<< 1).toNat = bitsOf 15 remainder.toNat ++ [false] := by
    have split : bitsOf 16 (2 ^ 1 * remainder.toNat + 0) = bitsOf 15 remainder.toNat ++ [false] :=
      bitsOf_add 15 1 remainder.toNat (by decide)
    rw [← split, UInt16.toNat_shiftLeft]
    apply bitsOf_congr
    intro place lt
    change (remainder.toNat <<< 1 % 2 ^ 16).testBit place = _
    rw [Nat.testBit_mod_two_pow, Nat.shiftLeft_eq, Nat.mul_comm, decide_eq_true lt, Bool.true_and]
    rfl
  have odd : parity (bitsOf 16 polynomial.toNat) = true := by decide
  have even : parity (bitsOf 16 (0 : UInt16).toNat) = false := by decide
  have opened : bitsOf 16 remainder.toNat =
      remainder.toNat.testBit 15 :: bitsOf 15 remainder.toNat := rfl
  rw [shift_eq, UInt16.toNat_xor, parity_bitsOf_xor, doubled, parity_append, opened, parity_cons]
  cases remainder.toNat.testBit 15 with
  | false => rw [if_neg Bool.false_ne_true, even]; simp [parity]
  | true => rw [if_pos rfl, odd]; simp [parity]

theorem parity_shifts (count : Nat) (remainder : UInt16) :
    parity (bitsOf 16 (shifts count remainder).toNat) = parity (bitsOf 16 remainder.toNat) := by
  induction count generalizing remainder with
  | zero => rfl
  | succ count ih => rw [shifts, ih, parity_shift]

theorem parity_absorb (remainder : UInt16) (byte : UInt8) :
    parity (bitsOf 16 (absorb remainder byte).toNat) =
      (parity (bitsOf 16 remainder.toNat) ^^ parity (bitsOf 8 byte.toNat)) := by
  have placed : bitsOf 16 (byte.toUInt16 <<< 8).toNat = bitsOf 8 byte.toNat ++ bitsOf 8 0 := by
    have split : bitsOf 16 (2 ^ 8 * byte.toNat + 0) = bitsOf 8 byte.toNat ++ bitsOf 8 0 :=
      bitsOf_add 8 8 byte.toNat (by decide)
    have moved : (byte.toUInt16 <<< 8).toNat = 2 ^ 8 * byte.toNat + 0 := by
      have lt := byte.toNat_lt
      rw [UInt16.toNat_shiftLeft, UInt8.toNat_toUInt16]
      change byte.toNat <<< 8 % 65536 = _
      rw [Nat.shiftLeft_eq]
      omega
    rw [moved, split]
  have even : parity (bitsOf 8 0) = false := by decide
  rw [absorb, parity_shifts, UInt16.toNat_xor, parity_bitsOf_xor, placed, parity_append, even,
    Bool.xor_false]

/-- The residue has the parity of the bits that are flipped. -/
theorem parity_residue (flipped : Bytes) :
    parity (bitsOf 16 (residue flipped).toNat) = parity (bits flipped) := by
  have folded (remainder : UInt16) :
      parity (bitsOf 16 (flipped.foldl absorb remainder).toNat) =
        (parity (bitsOf 16 remainder.toNat) ^^ parity (bits flipped)) := by
    induction flipped generalizing remainder with
    | nil => exact (Bool.xor_false _).symm
    | cons byte rest ih =>
        rw [List.foldl_cons, ih, parity_absorb, bits_cons, parity_append, Bool.xor_assoc]
  exact (folded 0).trans (Bool.false_xor _)

theorem foldl_absorbBit_of_unset {bits : List Bool} (unset : true ∉ bits) (remainder : UInt16) :
    bits.foldl absorbBit remainder = shifts bits.length remainder := by
  induction bits generalizing remainder with
  | nil => rfl
  | cons bit rest ih =>
      rw [List.mem_cons, not_or, eq_comm, Bool.not_eq_true] at unset
      rw [List.foldl_cons, ih unset.2, absorbBit, unset.1, top, if_neg Bool.false_ne_true,
        UInt16.xor_zero, List.length_cons, shifts]

/-- Flipped bits that fit in the remainder leave a trace in the checksum. -/
theorem residue_ne_zero {flipped : Bytes} (confined : Confined 16 (bits flipped))
    (set : true ∈ bits flipped) : residue flipped ≠ 0 := by
  rw [residue, foldl_absorb_eq]
  generalize bits flipped = bits at confined set
  rcases confined with ⟨before, unsetBefore, unsetAfter⟩
  let burst := (bits.drop before).take 16
  have bits_eq : bits = bits.take before ++ (burst ++ bits.drop (before + 16)) := by
    rw [← List.drop_drop, List.take_append_drop, List.take_append_drop]
  have burst_le : burst.length ≤ 16 := List.length_take_le _ _
  have set_burst : true ∈ burst := by
    rw [bits_eq, List.mem_append, List.mem_append] at set
    simpa [unsetBefore, unsetAfter] using set
  -- The remainder is zero up to the burst, takes it in as a whole, and then only moves on.
  rw [bits_eq, List.foldl_append, List.foldl_append, foldl_absorbBit_of_unset unsetBefore,
    shifts_zero, foldl_absorbBit burst_le, foldl_absorbBit_of_unset unsetAfter, Ne,
    shifts_eq_zero_iff, shifts_eq_zero_iff, UInt16.zero_xor]
  exact high_ne_zero burst_le set_burst

/-- Two bytes are known from their residue. -/
theorem eq_of_residue_eq {first second : Bytes} (first_length : first.length = 2)
    (second_length : second.length = 2) (residue_eq : residue first = residue second) :
    second = first := by
  have length_eq : second.length = first.length := second_length.trans first_length.symm
  have bits_length : (bits (difference first second)).length = 16 := by
    rw [length_bits, length_difference length_eq, first_length]
  have confined : Confined 16 (bits (difference first second)) := by
    refine ⟨0, List.not_mem_nil, ?_⟩
    rw [Nat.zero_add, ← bits_length, List.drop_length]
    exact List.not_mem_nil
  have nothing : residue (difference first second) = 0 := by
    have folded := foldl_absorb_difference length_eq 0 0
    rw [UInt16.xor_self] at folded
    rw [residue, folded, UInt16.xor_eq_zero_iff]
    exact residue_eq
  exact eq_of_difference_unset length_eq fun set => residue_ne_zero confined set nothing

end StationMesh.Config.Checksum
