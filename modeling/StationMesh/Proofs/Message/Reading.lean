import StationMesh.Message.Cursor

/-!
# What a cursor has still in front of it

A read takes bytes off the front of what follows the position, and what follows the position is all
that its answer depends on.
-/

namespace StationMesh.Cursor

variable {cursor : Cursor}

/-- What follows the position. -/
def rest (cursor : Cursor) : Bytes := cursor.data.drop cursor.position

def advance (cursor : Cursor) : Cursor :=
  { cursor with
    position := cursor.position + 1
    furthest := max cursor.furthest (cursor.position + 1) }

@[simp]
theorem rest_advance (cursor : Cursor) : cursor.advance.rest = cursor.rest.tail := by
  simp [rest, advance, List.tail_drop]

@[simp]
theorem length_rest (cursor : Cursor) : cursor.rest.length = cursor.remaining := by
  simp [rest, remaining]

theorem read_of_rest_eq_append {bytes later : Bytes} (nonempty : bytes ≠ [])
    (rest_eq : cursor.rest = bytes ++ later) :
    ∃ left, cursor.read bytes.length = .ok (bytes, left) ∧ left.rest = later := by
  have positive := List.length_pos_iff.mpr nonempty
  have length_eq := congrArg List.length rest_eq
  simp only [rest, List.length_drop, List.length_append] at length_eq
  have within : cursor.position + bytes.length ≤ cursor.data.length := by omega
  simp only [rest] at rest_eq
  let furthest := max cursor.furthest (cursor.position + bytes.length)
  refine ⟨{ cursor with position := cursor.position + bytes.length, furthest }, ?_, ?_⟩
  · simp [read, within, rest_eq, furthest]
  · simp [rest, ← List.drop_drop, rest_eq]

theorem readByte_of_rest_eq_nil (rest_eq : cursor.rest = []) :
    cursor.readByte = .error .endOfMessage := by
  have length_le : cursor.data.length ≤ cursor.position := by simpa [rest] using rest_eq
  have behind : ¬cursor.position + 1 ≤ cursor.data.length := by omega
  simp only [readByte, read, behind, if_false]

theorem position_advance_le {byte : UInt8} {later : Bytes}
    (rest_eq : cursor.rest = byte :: later) :
    cursor.advance.position ≤ cursor.advance.data.length := by
  have length_eq := congrArg List.length rest_eq
  simp only [rest, List.length_drop, List.length_cons] at length_eq
  simp only [advance]
  omega

theorem readByte_of_rest_eq_cons {byte : UInt8} {later : Bytes}
    (rest_eq : cursor.rest = byte :: later) : cursor.readByte = .ok (byte, cursor.advance) := by
  have within : cursor.position + 1 ≤ cursor.data.length := position_advance_le rest_eq
  simp only [rest] at rest_eq
  simp only [readByte, read, within, if_true, rest_eq]
  rfl

theorem peek_rest (within : cursor.position ≤ cursor.data.length) :
    cursor.peek cursor.position cursor.remaining = .ok cursor.rest := by
  have length_le : cursor.position + cursor.remaining ≤ cursor.data.length := by
    rw [remaining]
    omega
  rw [peek, if_pos length_le, rest, remaining, List.take_of_length_le]
  exact Nat.le_of_eq List.length_drop

end StationMesh.Cursor
