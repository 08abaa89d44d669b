import StationMesh.Proofs.Config.Image
import StationMesh.Proofs.Config.Residue

/-!
# Stored images that were corrupted

An image in which some bits were flipped is read if and only if the flipped bits of the checksum are
the residue of the flipped bits of the data. An odd number of flipped bits is never overlooked. Nor
is a burst of up to sixteen bits that stays within the data or within the checksum. The checksum is
stored with its low byte first, though, so in a burst over the end of the data the bits do not
follow each other in the order in which the checksum takes them in, and twelve such bursts are
overlooked.
-/

namespace StationMesh.Config.Settings

open Bytes Checksum

/-- The flipped bits of the checksum are those that the flipped bits of the data call for. -/
def Unnoticed (flipped : Bytes) : Prop :=
  residue (flipped.take dataSize) = toWord (flipped.drop dataSize)

variable {image received flipped : Bytes} {settings : Settings}

theorem length_storedChecksum (length_eq : received.length = imageSize) :
    (received.drop dataSize).length = 2 := by
  rw [List.length_drop, length_eq]
  rfl

theorem length_flipped (valid : ofImage image = .ok settings)
    (length_eq : received.length = imageSize) : (difference image received).length = imageSize := by
  have image_length : image.length = imageSize :=
    ofImage_eq_ok_iff.mp valid ▸ settings.length_image
  rw [length_difference (length_eq.trans image_length.symm), image_length]

theorem ofImage_eq_mismatch_iff (valid : ofImage image = .ok settings)
    (length_eq : received.length = imageSize) :
    ofImage received = .error .checksumMismatch ↔ ¬Unnoticed (difference image received) := by
  have image_eq := ofImage_eq_ok_iff.mp valid
  have image_length : image.length = imageSize := image_eq ▸ settings.length_image
  have matching : toWord (image.drop dataSize) = ofBytes (image.take dataSize) := by
    rw [image_eq, drop_image, take_image, toWord_ofWord]
  have data_length : (received.take dataSize).length = (image.take dataSize).length := by
    rw [List.length_take, List.length_take, length_eq, image_length]
  have unnoticed_iff : Unnoticed (difference image received) ↔
      toWord (received.drop dataSize) = ofBytes (received.take dataSize) := by
    rw [Unnoticed, take_difference, drop_difference, residue_difference data_length,
      toWord_difference (length_storedChecksum image_length) (length_storedChecksum length_eq),
      matching, UInt16.xor_right_inj, eq_comm]
  rw [unnoticed_iff, ofImage, if_neg (not_not.mpr length_eq)]
  split
  · rename_i differs
    exact iff_of_true rfl differs
  · rename_i same
    exact iff_of_false (by simp) same

/-- An odd number of flipped bits is always noticed. -/
theorem mismatch_of_odd (valid : ofImage image = .ok settings)
    (length_eq : received.length = imageSize)
    (odd : Odd ((bits (difference image received)).count true)) :
    ofImage received = .error .checksumMismatch := by
  rw [ofImage_eq_mismatch_iff valid length_eq]
  intro unnoticed
  have flipped_length := length_flipped valid length_eq
  generalize difference image received = flipped at odd unnoticed flipped_length
  have even : parity (bits flipped) = false := by
    rw [← flipped.take_append_drop dataSize, bits_append, parity_append, ← parity_residue,
      unnoticed, parity_toWord (length_storedChecksum flipped_length), Bool.xor_self]
  rw [← parity_eq_true_iff, even] at odd
  contradiction

/-- Bits flipped in the first byte, in the last byte of the data and in the checksum. -/
theorem mismatch_of_odd_threeBits :
    let image := ({} : Settings).image
    let received := [0x81] ++ (image.take 26).drop 1 ++ [0x01, 0xCA, 0x80]
    (ofImage image = .ok {} ∧ received.length = imageSize ∧
        Odd ((bits (difference image received)).count true)) ∧
      ofImage received = .error .checksumMismatch := by
  intro image received
  have valid : ofImage image = .ok {} := ofImage_eq_ok_iff.mpr rfl
  have length_eq : received.length = imageSize := by decide +kernel
  have odd : Odd ((bits (difference image received)).count true) := by decide +kernel
  exact ⟨⟨valid, length_eq, odd⟩, mismatch_of_odd valid length_eq odd⟩

/-! ### Bursts over the end of the data -/

/-- The bursts of up to sixteen bits that are not noticed, as they stand in the last two bytes of
the data and in the checksum. -/
def unnoticedEnds : List Bytes :=
  [[0x00, 0x01, 0x21, 0x10], [0x00, 0x02, 0x42, 0x20], [0x00, 0x03, 0x63, 0x30],
    [0x00, 0x04, 0x84, 0x40], [0x00, 0x05, 0xA5, 0x50], [0x00, 0x06, 0xC6, 0x60],
    [0x00, 0x07, 0xE7, 0x70], [0x00, 0x89, 0xA1, 0x00], [0x02, 0x35, 0x94, 0x00],
    [0x08, 0xC5, 0x40, 0x00], [0x11, 0x8A, 0x80, 0x00], [0x19, 0x4F, 0xC0, 0x00]]

/-- The bursts of up to sixteen bits that are not noticed. All of them flip bits of the data and
bits of the checksum. -/
def unnoticedBursts : List Bytes := unnoticedEnds.map (List.replicate 25 0 ++ ·)

/-- If no bit of the byte in front is flipped, the flipped bits of the checksum follow from the last
byte of the data. -/
theorem mem_unnoticedEnds_of_lastByte (byte : UInt8) :
    let flipped := [0, byte] ++ ofWord (residue [byte])
    Confined 16 (bits flipped) → byte = 0 ∨ flipped ∈ unnoticedEnds := by
  have all : ∀ value : Fin 256,
      let byte := UInt8.ofNat value.val
      let flipped := [0, byte] ++ ofWord (residue [byte])
      Confined 16 (bits flipped) → byte = 0 ∨ flipped ∈ unnoticedEnds := by
    decide +kernel
  simpa using all ⟨byte.toNat, byte.toNat_lt⟩

/-- The word that moves on to the given one. -/
def unshift (remainder : UInt16) : UInt16 :=
  if remainder &&& 1 != 0 then ((remainder ^^^ polynomial) >>> 1) ||| 0x8000 else remainder >>> 1

def unshifts : (count : Nat) → UInt16 → UInt16
  | 0, remainder => remainder
  | count + 1, remainder => unshift (unshifts count remainder)

/-- The two bytes with the given residue. -/
def leaving (remainder : UInt16) : Bytes := (ofWord (unshifts 16 remainder)).reverse

/-- If no bit of the last byte is flipped, the flipped bits of the data follow from the byte in
front of it. -/
theorem mem_unnoticedEnds_of_firstByte (byte : UInt8) :
    residue (leaving (toWord [byte, 0])) = toWord [byte, 0] ∧
      let flipped := leaving (toWord [byte, 0]) ++ [byte, 0]
      (Confined 16 (bits flipped) → byte = 0 ∨ flipped ∈ unnoticedEnds) := by
  have all : ∀ value : Fin 256,
      let byte := UInt8.ofNat value.val
      residue (leaving (toWord [byte, 0])) = toWord [byte, 0] ∧
        let flipped := leaving (toWord [byte, 0]) ++ [byte, 0]
        (Confined 16 (bits flipped) → byte = 0 ∨ flipped ∈ unnoticedEnds) := by
    decide +kernel
  simpa using all ⟨byte.toNat, byte.toNat_lt⟩

theorem unset_of_le_before {before count : Nat} (unset : true ∉ (bits flipped).take before)
    (le : 8 * count ≤ before) : ∀ byte ∈ flipped.take count, byte = 0 := by
  rw [← true_notMem_bits_iff, ← take_bits]
  intro set
  rw [← Nat.min_eq_left le, ← List.take_take] at set
  exact unset (List.mem_of_mem_take set)

theorem unset_of_behind {behind count : Nat} (unset : true ∉ (bits flipped).drop behind)
    (le : behind ≤ 8 * count) : ∀ byte ∈ flipped.drop count, byte = 0 := by
  rw [← true_notMem_bits_iff, ← drop_bits]
  intro set
  rw [← Nat.add_sub_of_le le, ← List.drop_drop] at set
  exact unset (List.mem_of_mem_drop set)

/-- A burst that is not noticed flips bits of the data and of the checksum. -/
theorem set_of_unnoticed (length_eq : flipped.length = imageSize) (set : true ∈ bits flipped)
    (burst : Confined 16 (bits flipped)) (unnoticed : Unnoticed flipped) :
    true ∈ bits (flipped.take dataSize) ∧ true ∈ bits (flipped.drop dataSize) := by
  have checksum_iff :
      true ∉ bits (flipped.drop dataSize) ↔ residue (flipped.take dataSize) = 0 := by
    rw [true_notMem_bits_iff, ← toWord_eq_zero_iff (length_storedChecksum length_eq), ← unnoticed]
  have data_burst : Confined 16 (bits (flipped.take dataSize)) := by
    rw [← take_bits]
    exact burst.take _
  have some_set : true ∈ bits (flipped.take dataSize) ∨ true ∈ bits (flipped.drop dataSize) := by
    rwa [← List.mem_append, ← bits_append, List.take_append_drop]
  have checksum_set : true ∈ bits (flipped.drop dataSize) := by
    by_contra unset
    have data_set := some_set.resolve_right unset
    exact residue_ne_zero data_burst data_set (checksum_iff.mp unset)
  refine ⟨?_, checksum_set⟩
  by_contra unset
  rw [true_notMem_bits_iff] at unset
  have nothing := residue_append_of_unset unset []
  rw [List.append_nil] at nothing
  exact checksum_iff.mpr nothing checksum_set

/-- A burst over the end of the data stays within the last four bytes, and leaves the first or the
last of them alone. -/
theorem exists_ends (length_eq : flipped.length = imageSize) (burst : Confined 16 (bits flipped))
    (data_set : true ∈ bits (flipped.take dataSize))
    (checksum_set : true ∈ bits (flipped.drop dataSize)) :
    ∃ first second third fourth,
      flipped = List.replicate 25 0 ++ [first, second, third, fourth] ∧
        Confined 16 (bits [first, second, third, fourth]) ∧ (first = 0 ∨ fourth = 0) := by
  have ends_length : (flipped.drop 25).length = 4 := by
    rw [List.length_drop, length_eq]
    rfl
  rcases List.length_eq_four.mp ends_length with ⟨first, second, third, fourth, ends_eq⟩
  have ends_burst : Confined 16 (bits [first, second, third, fourth]) := by
    rw [← ends_eq, ← drop_bits]
    exact burst.drop _
  rcases burst with ⟨before, unsetBefore, unsetAfter⟩
  have before_lt : before < 8 * dataSize := by
    by_contra behind
    rw [true_mem_bits_iff] at data_set
    exact data_set (unset_of_le_before unsetBefore (Nat.le_of_not_lt behind))
  have lt_after : 8 * dataSize < before + 16 := by
    by_contra front
    rw [true_mem_bits_iff] at checksum_set
    exact checksum_set (unset_of_behind unsetAfter (Nat.le_of_not_lt front))
  -- The sixteen bits reach into both parts, so they lie among the last thirty-one.
  change before < 216 at before_lt
  change 216 < before + 16 at lt_after
  have front_eq : flipped.take 25 = List.replicate 25 0 := by
    rw [List.eq_replicate_iff]
    refine ⟨?_, unset_of_le_before unsetBefore (by omega)⟩
    rw [List.length_take, length_eq]
    rfl
  have flipped_eq : flipped = List.replicate 25 0 ++ [first, second, third, fourth] := by
    rw [← front_eq, ← ends_eq, List.take_append_drop]
  refine ⟨first, second, third, fourth, flipped_eq, ends_burst, ?_⟩
  -- They cannot reach from the first of the four bytes into the last one.
  by_cases late : 8 * 26 ≤ before
  · left
    apply unset_of_le_before unsetBefore late
    rw [flipped_eq]
    simp
  · right
    have last_unset := unset_of_behind unsetAfter (by omega : before + 16 ≤ 8 * 28)
    apply last_unset
    rw [flipped_eq]
    simp

/-- If the first or the last byte of the end is left alone, the others follow from one of them, and
all its values can be gone through. -/
theorem mem_unnoticedEnds {first second third fourth : UInt8}
    (unnoticed : residue [first, second] = toWord [third, fourth])
    (burst : Confined 16 (bits [first, second, third, fourth])) (apart : first = 0 ∨ fourth = 0)
    (data_set : true ∈ bits [first, second]) (checksum_set : true ∈ bits [third, fourth]) :
    [first, second, third, fourth] ∈ unnoticedEnds := by
  rw [true_mem_bits_iff] at data_set checksum_set
  rcases apart with rfl | rfl
  · have checksum_eq : ofWord (residue [second]) = [third, fourth] := by
      have zero : ∀ byte ∈ ([0] : Bytes), byte = 0 := by simp
      have leading := residue_append_of_unset zero [second]
      rw [List.singleton_append] at leading
      rw [← leading, unnoticed, ofWord_toWord rfl]
    have found := mem_unnoticedEnds_of_lastByte second
    rw [checksum_eq] at found
    apply (found burst).resolve_left
    rintro rfl
    exact data_set (by simp)
  · rcases mem_unnoticedEnds_of_firstByte third with ⟨leaves, found⟩
    have data_eq : leaving (toWord [third, 0]) = [first, second] :=
      eq_of_residue_eq rfl rfl (unnoticed.trans leaves.symm)
    rw [data_eq] at found
    apply (found burst).resolve_left
    rintro rfl
    exact checksum_set (by simp)

theorem unnoticed_iff_mem_unnoticedBursts (length_eq : flipped.length = imageSize)
    (set : true ∈ bits flipped) (burst : Confined 16 (bits flipped)) :
    Unnoticed flipped ↔ flipped ∈ unnoticedBursts := by
  constructor
  · intro unnoticed
    rcases set_of_unnoticed length_eq set burst unnoticed with ⟨data_set, checksum_set⟩
    rcases exists_ends length_eq burst data_set checksum_set with
      ⟨first, second, third, fourth, rfl, ends_burst, apart⟩
    have zeros : ∀ byte ∈ List.replicate 25 (0 : UInt8), byte = 0 :=
      fun _ mem => List.eq_of_mem_replicate mem
    have residue_eq : residue [first, second] = toWord [third, fourth] := by
      rw [← residue_append_of_unset zeros]
      exact unnoticed
    have second_set : true ∈ bits [first, second] := by
      have taken : (List.replicate 25 0 ++ [first, second, third, fourth]).take dataSize =
          List.replicate 25 0 ++ [first, second] := rfl
      rw [taken, bits_append, List.mem_append] at data_set
      exact data_set.resolve_left (true_notMem_bits_iff.mpr zeros)
    exact List.mem_map_of_mem
      (mem_unnoticedEnds residue_eq ends_burst apart second_set checksum_set)
  · have all : ∀ burst ∈ unnoticedBursts,
        residue (burst.take dataSize) = toWord (burst.drop dataSize) := by
      decide +kernel
    exact all flipped

/-- Flipped bits among sixteen consecutive ones are noticed, unless they are one of the twelve
bursts over the end of the data that the order of the checksum bytes lets through. -/
theorem mismatch_iff_of_burst (valid : ofImage image = .ok settings)
    (length_eq : received.length = imageSize) (set : true ∈ bits (difference image received))
    (burst : Confined 16 (bits (difference image received))) :
    ofImage received = .error .checksumMismatch ↔
      difference image received ∉ unnoticedBursts := by
  rw [ofImage_eq_mismatch_iff valid length_eq,
    unnoticed_iff_mem_unnoticedBursts (length_flipped valid length_eq) set burst]

/-- A burst over the end of the data that is noticed. -/
theorem mismatch_iff_of_burst_noticed :
    let image := ({} : Settings).image
    let received := image.take 26 ++ [0x03, 0xEB, 0x80]
    (ofImage image = .ok {} ∧ received.length = imageSize ∧
        true ∈ bits (difference image received) ∧
        Confined 16 (bits (difference image received))) ∧
      ofImage received = .error .checksumMismatch := by
  intro image received
  have valid : ofImage image = .ok {} := ofImage_eq_ok_iff.mpr rfl
  have length_eq : received.length = imageSize := by decide +kernel
  have set : true ∈ bits (difference image received) := by decide +kernel
  have burst : Confined 16 (bits (difference image received)) := by decide +kernel
  have noticed : difference image received ∉ unnoticedBursts := by decide +kernel
  exact ⟨⟨valid, length_eq, set, burst⟩,
    (mismatch_iff_of_burst valid length_eq set burst).mpr noticed⟩

/-- One of the bursts over the end of the data turns the factory settings into others. -/
theorem ofImage_of_unnoticedBurst :
    let image := ({} : Settings).image
    let received := image.take 26 ++ [0x01, 0xEB, 0x80]
    ofImage image = .ok {} ∧ received.length = imageSize ∧
      true ∈ bits (difference image received) ∧ Confined 16 (bits (difference image received)) ∧
      ofImage received = .ok { weatherRelays := .padded [0, 0, 0, 0, 0, 0, 0, 1] } := by
  intro image received
  refine ⟨ofImage_eq_ok_iff.mpr rfl, ?_, ?_, ?_, ofImage_eq_ok_iff.mpr ?_⟩
  all_goals decide +kernel

end StationMesh.Config.Settings
