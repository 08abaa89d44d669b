import Mathlib.Data.List.Infix
import StationMesh.Proofs.Message.Reading

/-!
# Back and forth in a message

Whatever is asked of a cursor, it stays within its message, and it goes back to just those places
that it was at or behind before. A read takes all the bytes it asks for from where the cursor is, or
none of them. The furthest place is kept apart from the position, so that both can be told from the
positions the cursor came to.
-/

namespace StationMesh.Cursor

/-! ### Requests -/

/-- What can be asked of a cursor. -/
inductive Request where
  | readByte
  | read (count : Nat)
  | readValue (type : WireType)
  | seek (offset : Nat)
  | peek (offset count : Nat)
deriving DecidableEq, Repr

/-- What a request is answered with. -/
inductive Answer where
  | byte (byte : UInt8)
  | bytes (bytes : Bytes)
  | value (value : Int)
  | moved
deriving DecidableEq, Repr

namespace Request

/-- How many bytes a read takes. -/
def width? : Request → Option Nat
  | readByte => some 1
  | read count => some count
  | readValue type => some type.width
  | seek _ | peek _ _ => none

/-- What a request makes of the bytes it gets. -/
def answer (bytes : Bytes) : Request → Answer
  | readByte => .byte (bytes.headD 0)
  | read _ | peek _ _ => .bytes bytes
  | readValue type => .value (type.decode bytes)
  | seek _ => .moved

end Request

/-- The answer with the cursor that a request left, or the cursor as it was if it was refused. -/
def keep {α : Type} (cursor : Cursor) (answer : α → Answer) :
    Except TransportError (α × Cursor) → Except TransportError Answer × Cursor
  | .ok (value, next) => (.ok (answer value), next)
  | .error error => (.error error, cursor)

/-- What a request is answered with, and the cursor it leaves. -/
def perform (cursor : Cursor) : Request → Except TransportError Answer × Cursor
  | .readByte => cursor.keep .byte cursor.readByte
  | .read count => cursor.keep .bytes (cursor.read count)
  | .readValue type => cursor.keep .value (cursor.readValue type)
  | .seek offset => cursor.keep (fun _ => .moved) ((cursor.seek offset).map ((), ·))
  | .peek offset count => ((cursor.peek offset count).map .bytes, cursor)

/-- The cursor after some requests. -/
def run (requests : List Request) (cursor : Cursor) : Cursor :=
  requests.foldl (fun cursor request => (cursor.perform request).2) cursor

/-- The positions a cursor comes to: where it is, and where each request leaves it. -/
def positions (requests : List Request) (cursor : Cursor) : List Nat :=
  requests.inits.map fun made => (run made cursor).position

/-- The furthest position that a cursor comes to. -/
def reached (requests : List Request) (cursor : Cursor) : Nat :=
  (positions requests cursor).foldl max 0

theorem run_concat (requests : List Request) (request : Request) (cursor : Cursor) :
    run (requests ++ [request]) cursor = ((run requests cursor).perform request).2 :=
  List.foldl_concat ..

theorem reached_concat (requests : List Request) (request : Request) (cursor : Cursor) :
    reached (requests ++ [request]) cursor =
      max (reached requests cursor) ((run requests cursor).perform request).2.position := by
  have positions_eq : positions (requests ++ [request]) cursor =
      positions requests cursor ++ [((run requests cursor).perform request).2.position] := by
    simp [positions, List.inits_append, run_concat]
  rw [reached, positions_eq, List.foldl_concat, reached]

/-! ### One request -/

variable {cursor : Cursor} {data front bytes back : Bytes} {count offset : Nat} {request : Request}

theorem read_of_le (le : cursor.position + count ≤ cursor.data.length) :
    cursor.read count = .ok (cursor.rest.take count, { cursor with
      position := cursor.position + count
      furthest := max cursor.furthest (cursor.position + count) }) :=
  if_pos le

theorem read_of_lt (lt : cursor.data.length < cursor.position + count) :
    cursor.read count = .error .endOfMessage :=
  if_neg (Nat.not_le_of_lt lt)

/-- All reads take their bytes in the same way. -/
theorem perform_of_width? (width_eq : request.width? = some count) :
    cursor.perform request = cursor.keep (request.answer ·) (cursor.read count) := by
  cases request with
  | readByte =>
      cases width_eq
      rw [perform, readByte]
      cases cursor.read 1 <;> rfl
  | read _ =>
      cases width_eq
      rfl
  | readValue type =>
      cases width_eq
      rw [perform, readValue]
      cases cursor.read type.width <;> rfl
  | seek _ => contradiction
  | peek _ _ => contradiction

theorem seek_of_le (le : offset ≤ cursor.furthest) :
    cursor.perform (.seek offset) = (.ok .moved, { cursor with position := offset }) := by
  rw [perform, seek, if_pos le]
  rfl

theorem seek_of_lt (lt : cursor.furthest < offset) :
    cursor.perform (.seek offset) = (.error .bufferOverrun, cursor) := by
  rw [perform, seek, if_neg (Nat.not_le_of_lt lt)]
  rfl

/-- The position is in the message, or right behind it, and so is the furthest place. -/
structure Within (cursor : Cursor) : Prop where
  position_le : cursor.position ≤ cursor.furthest
  furthest_le : cursor.furthest ≤ cursor.data.length

/-- A cursor on the same message, which has been as far as the one before and where it is now. -/
structure Moves (before after : Cursor) : Prop where
  within : after.Within
  data_eq : after.data = before.data
  furthest_eq : after.furthest = max before.furthest after.position

theorem Within.moves (within : cursor.Within) : Moves cursor cursor :=
  ⟨within, rfl, (Nat.max_eq_left within.position_le).symm⟩

theorem moves_read (within : cursor.Within) (width_eq : request.width? = some count) :
    Moves cursor (cursor.perform request).2 := by
  rw [perform_of_width? width_eq]
  rcases Nat.lt_or_ge cursor.data.length (cursor.position + count) with lt | le
  · rw [read_of_lt lt]
    exact within.moves
  · rw [read_of_le le]
    refine ⟨⟨Nat.le_max_right _ _, ?_⟩, rfl, rfl⟩
    exact Nat.max_le.mpr ⟨within.furthest_le, le⟩

theorem moves_perform (within : cursor.Within) (request : Request) :
    Moves cursor (cursor.perform request).2 := by
  cases request with
  | readByte => exact moves_read within rfl
  | read count => exact moves_read within rfl
  | readValue type => exact moves_read within rfl
  | seek offset =>
      rcases Nat.lt_or_ge cursor.furthest offset with lt | le
      · rw [seek_of_lt lt]
        exact within.moves
      · rw [seek_of_le le]
        exact ⟨⟨le, within.furthest_le⟩, rfl, (Nat.max_eq_left le).symm⟩
  | peek offset count => exact within.moves

/-! ### Some requests -/

/-- What is known of a cursor after some requests, made on the message from its front. -/
structure Tracks (data : Bytes) (requests : List Request) (cursor : Cursor) : Prop where
  within : cursor.Within
  data_eq : cursor.data = data
  furthest_eq : cursor.furthest = reached requests { data }

theorem tracks_run (data : Bytes) (requests : List Request) :
    Tracks data requests (run requests { data }) := by
  induction requests using List.reverseRecOn with
  | nil => exact ⟨⟨Nat.le_refl 0, Nat.zero_le _⟩, rfl, rfl⟩
  | append_singleton requests request ih =>
      have moves := moves_perform ih.within request
      rw [run_concat]
      refine ⟨moves.within, moves.data_eq.trans ih.data_eq, ?_⟩
      rw [moves.furthest_eq, ih.furthest_eq, reached_concat]

/-- A read yields the bytes at the position. -/
theorem read_of_eq_append (width_eq : request.width? = some bytes.length)
    (data_eq : cursor.data = front ++ bytes ++ back)
    (position_eq : cursor.position = front.length) :
    ∃ next, cursor.perform request = (.ok (request.answer bytes), next) ∧
      next.data = cursor.data ∧ next.position = cursor.position + bytes.length := by
  have le : cursor.position + bytes.length ≤ cursor.data.length := by
    rw [data_eq, position_eq, List.length_append, List.length_append]
    exact Nat.le_add_right _ _
  have rest_eq : cursor.rest.take bytes.length = bytes := by
    rw [rest, data_eq, position_eq, List.append_assoc, List.drop_left, List.take_left]
  rw [perform_of_width? width_eq, read_of_le le, rest_eq]
  exact ⟨_, rfl, rfl, rfl⟩

theorem peek_of_eq_append (data_eq : cursor.data = front ++ bytes ++ back) :
    cursor.perform (.peek front.length bytes.length) = (.ok (.bytes bytes), cursor) := by
  have le : front.length + bytes.length ≤ cursor.data.length := by
    rw [data_eq, List.length_append, List.length_append]
    exact Nat.le_add_right _ _
  rw [perform, peek, if_pos le, data_eq, List.append_assoc, List.drop_left, List.take_left]
  rfl

theorem peek_of_lt (lt : cursor.data.length < offset + count) :
    cursor.perform (.peek offset count) = (.error .bufferOverrun, cursor) := by
  rw [perform, peek, if_neg (Nat.not_le_of_lt lt)]
  rfl

/-- Whatever was asked of a cursor before, its position is no further than the furthest one it came
to, and that is in the message, so that the bytes that are left can be told. A read yields just the
bytes at the position and goes behind them, or there are too few of them and nothing changes. The
cursor goes to just those places that are no further than the furthest one. A range that is in the
message is looked at without going there. -/
theorem reads_within (data : Bytes) (requests : List Request) :
    let cursor := run requests { data }
    let furthest := reached requests { data }
    cursor.position ≤ furthest ∧ furthest ≤ data.length ∧
      cursor.position + cursor.remaining = data.length ∧
      (∀ request count, request.width? = some count →
        (∀ front bytes back, data = front ++ bytes ++ back → front.length = cursor.position →
          bytes.length = count →
            ∃ next, cursor.perform request = (.ok (request.answer bytes), next) ∧
              next.data = data ∧ next.position = cursor.position + count) ∧
        (data.length < cursor.position + count →
          cursor.perform request = (.error .endOfMessage, cursor))) ∧
      (∀ offset,
        (offset ≤ furthest →
          cursor.perform (.seek offset) = (.ok .moved, { cursor with position := offset })) ∧
        (furthest < offset → cursor.perform (.seek offset) = (.error .bufferOverrun, cursor))) ∧
      (∀ front bytes back, data = front ++ bytes ++ back →
        cursor.perform (.peek front.length bytes.length) = (.ok (.bytes bytes), cursor)) ∧
      ∀ offset count, data.length < offset + count →
        cursor.perform (.peek offset count) = (.error .bufferOverrun, cursor) := by
  intro cursor furthest
  have tracks : Tracks data requests cursor := tracks_run data requests
  have furthest_eq : cursor.furthest = furthest := tracks.furthest_eq
  have data_eq : cursor.data = data := tracks.data_eq
  rcases tracks.within with ⟨position_le, furthest_le⟩
  rw [furthest_eq] at position_le furthest_le
  rw [data_eq] at furthest_le
  refine ⟨position_le, furthest_le, ?_, ?_, ?_, ?_, ?_⟩
  · rw [remaining, data_eq]
    omega
  · intro request count width_eq
    refine ⟨?_, ?_⟩
    · rintro front bytes back rfl position_eq rfl
      rcases read_of_eq_append width_eq data_eq position_eq.symm with
        ⟨next, perform_eq, next_data, next_position⟩
      exact ⟨next, perform_eq, next_data.trans data_eq, next_position⟩
    · intro lt
      rw [perform_of_width? width_eq, read_of_lt (data_eq ▸ lt)]
      rfl
  · intro offset
    rw [← furthest_eq]
    exact ⟨seek_of_le, seek_of_lt⟩
  · intro front bytes back split
    exact peek_of_eq_append (data_eq.trans split)
  · intro offset count lt
    exact peek_of_lt (data_eq ▸ lt)

/-- Two bytes are left behind by going back, one of them is read again, and a read of too many bytes
and a seek ahead are refused. -/
theorem reads_within_backAndForth :
    let data : Bytes := [0x34, 0x12, 0x78, 0x56, 0xFF]
    let requests : List Request := [.read 3, .seek 1, .readByte, .read 4, .seek 4]
    let cursor := run requests { data }
    cursor.position = 2 ∧ reached requests { data } = 3 ∧ cursor.remaining = 3 ∧
      (∃ next, cursor.perform (.readValue .uint16) = (.ok (.value 0x5678), next) ∧
        next.data = data ∧ next.position = 4) ∧
      cursor.perform (.readValue .int32) = (.error .endOfMessage, cursor) ∧
      cursor.perform (.seek 3) = (.ok .moved, { cursor with position := 3 }) ∧
      cursor.perform (.seek 4) = (.error .bufferOverrun, cursor) ∧
      cursor.perform (.peek 3 2) = (.ok (.bytes [0x56, 0xFF]), cursor) ∧
      cursor.perform (.peek 4 2) = (.error .bufferOverrun, cursor) := by
  intro data requests cursor
  rcases reads_within data requests with ⟨_, _, _, reads, seeks, looks, misses⟩
  refine ⟨rfl, rfl, rfl, ?_, ?_, ?_, ?_, ?_, ?_⟩
  · exact (reads (.readValue .uint16) 2 rfl).1 [0x34, 0x12] [0x78, 0x56] [0xFF] rfl rfl rfl
  · exact (reads (.readValue .int32) 4 rfl).2 (by decide)
  · exact (seeks 3).1 (by decide)
  · exact (seeks 4).2 (by decide)
  · exact looks [0x34, 0x12, 0x78] [0x56, 0xFF] [] rfl
  · exact misses 4 2 (by decide)

end StationMesh.Cursor
