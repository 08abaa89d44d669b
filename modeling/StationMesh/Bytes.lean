/-!
# Bytes and words

Everything that travels over the air or over the serial line is a list of bytes. Words of
several bytes are written with the least significant byte first.
-/

namespace StationMesh

/-- What a frame, a field or a reply is made of. -/
abbrev Bytes := List UInt8

namespace Bytes

/-- The `width` low bytes of `value`, the least significant one first. -/
def ofNat : (width value : Nat) → Bytes
  | 0, _ => []
  | width + 1, value => UInt8.ofNat value :: ofNat width (value / 256)

/-- How many numbers `width` bytes tell apart. -/
def bound : (width : Nat) → Nat
  | 0 => 1
  | width + 1 => 256 * bound width

/-- The number whose bytes these are, the least significant one first. -/
def toNat : Bytes → Nat
  | [] => 0
  | byte :: rest => byte.toNat + 256 * toNat rest

@[simp]
theorem length_ofNat (width value : Nat) : (ofNat width value).length = width := by
  induction width generalizing value with
  | zero => rfl
  | succ width ih => simp [ofNat, ih]

theorem toNat_ofNat (width value : Nat) : toNat (ofNat width value) = value % bound width := by
  induction width generalizing value with
  | zero => simp only [ofNat, toNat, bound, Nat.mod_one]
  | succ width ih =>
      have low : (UInt8.ofNat value).toNat = value % 256 := by simp
      rw [ofNat, toNat, ih, low, bound, Nat.mod_mul]

theorem toNat_lt (bytes : Bytes) : toNat bytes < bound bytes.length := by
  induction bytes with
  | nil => exact Nat.one_pos
  | cons byte rest ih =>
      have lt := byte.toNat_lt
      simp only [toNat, List.length_cons, bound]
      omega

theorem ofNat_toNat (bytes : Bytes) : ofNat bytes.length (toNat bytes) = bytes := by
  induction bytes with
  | nil => rfl
  | cons byte rest ih =>
      have bound := byte.toNat_lt
      have high : (byte.toNat + 256 * toNat rest) / 256 = toNat rest := by omega
      simp only [toNat, List.length_cons, ofNat, high, ih, List.cons.injEq, and_true]
      apply UInt8.toNat_inj.mp
      simp

def ofWord (word : UInt16) : Bytes := ofNat 2 word.toNat

/-- The word in the first two bytes; zero when there are not two. -/
def toWord : Bytes → UInt16
  | low :: high :: _ => UInt16.ofNat (low.toNat + 256 * high.toNat)
  | _ => 0

@[simp]
theorem length_ofWord (word : UInt16) : (ofWord word).length = 2 := by simp [ofWord]

/-- Two lower case hexadecimal digits for each byte. -/
def toHex (bytes : Bytes) : String :=
  String.ofList (bytes.flatMap fun byte =>
    [Nat.digitChar (byte.toNat / 16), Nat.digitChar (byte.toNat % 16)])

end Bytes

/-- A byte as two upper case hexadecimal digits. -/
def hexByte (byte : UInt8) : String :=
  String.ofList ((Nat.digitChar (byte.toNat / 16)).toUpper ::
    (Nat.digitChar (byte.toNat % 16)).toUpper :: [])

end StationMesh
