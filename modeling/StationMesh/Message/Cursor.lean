import StationMesh.Message.Header
import StationMesh.Message.TransportError
import StationMesh.Message.WireValue

/-!
# Reading a message

A message is read front to back, and any place that was reached before can be gone back to. A
read either yields all the bytes asked for or changes nothing.
-/

namespace StationMesh

/-- A message that is being read. -/
structure Cursor where
  data : Bytes
  /-- How many bytes lie in front of the next read. -/
  position : Nat := 0
  /-- The furthest position reached so far. -/
  furthest : Nat := 0
deriving DecidableEq, Repr

namespace Cursor

/-- How many bytes follow the position. -/
def remaining (cursor : Cursor) : Nat := cursor.data.length - cursor.position

/-- The given range of the message, wherever the position is. -/
def peek (offset count : Nat) (cursor : Cursor) : Except TransportError Bytes :=
  if offset + count ≤ cursor.data.length then
    .ok ((cursor.data.drop offset).take count)
  else
    .error .bufferOverrun

/-- The next `count` bytes, with the position behind them. -/
def read (count : Nat) (cursor : Cursor) : Except TransportError (Bytes × Cursor) :=
  let next := cursor.position + count
  if next ≤ cursor.data.length then
    .ok ((cursor.data.drop cursor.position).take count,
      { cursor with position := next, furthest := max cursor.furthest next })
  else
    .error .endOfMessage

/-- The next byte. -/
def readByte (cursor : Cursor) : Except TransportError (UInt8 × Cursor) :=
  match cursor.read 1 with
  | .ok (bytes, cursor) => .ok (bytes.headD 0, cursor)
  | .error error => .error error

/-- The next integer of the given format. -/
def readValue (type : WireType) (cursor : Cursor) : Except TransportError (Int × Cursor) :=
  match cursor.read type.width with
  | .ok (bytes, cursor) => .ok (type.decode bytes, cursor)
  | .error error => .error error

/-- Goes to a place that was reached before. -/
def seek (offset : Nat) (cursor : Cursor) : Except TransportError Cursor :=
  if offset ≤ cursor.furthest then
    .ok { cursor with position := offset }
  else
    .error .bufferOverrun

/-- The header the message opens with. -/
def header (cursor : Cursor) : Except HeaderError Header := Header.parse cursor.data

/-- The header the message opens with, with the position moved on by as many bytes. -/
def readHeader (cursor : Cursor) : Except HeaderError (Header × Cursor) :=
  match cursor.header with
  | .error error => .error error
  | .ok header =>
      match cursor.read Header.size with
      | .ok (_, cursor) => .ok (header, cursor)
      | .error _ => .error .truncated

end Cursor

end StationMesh
