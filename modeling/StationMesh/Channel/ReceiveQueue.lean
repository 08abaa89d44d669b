import StationMesh.Bytes

/-!
# The receive queue

Received frames are laid down one behind the other in a fixed number of bytes, the arena. For each
of them a slot says where it starts and how long it is. There are `slots` of these, and room is won
back only when the last frame has been taken out: then everything starts again from the front.
-/

namespace StationMesh.Channel

/-- A queue of frames in an arena. -/
structure ReceiveQueue (slots arena : Nat) where
  /-- What the bytes of the arena are, used or not. -/
  bytes : Bytes := List.replicate arena 0
  /-- Where the frame of each slot starts. -/
  starts : List Nat := List.replicate slots 0
  /-- How long the frame of each slot is. -/
  lengths : List Nat := List.replicate slots 0
  /-- The slot of the frame that is taken out next. -/
  read : Nat := 0
  /-- The slot that the next frame gets. -/
  write : Nat := 0
  /-- Where the next frame goes. -/
  offset : Nat := 0
deriving DecidableEq, Repr

namespace ReceiveQueue

variable {slots arena : Nat}

def free (queue : ReceiveQueue slots arena) : Nat := arena - queue.offset

def length (queue : ReceiveQueue slots arena) : Nat := queue.write - queue.read

def isEmpty (queue : ReceiveQueue slots arena) : Bool := queue.length == 0

/-- How many frames have been taken out and how many laid down since the queue was drained. -/
def cursors (queue : ReceiveQueue slots arena) : Nat × Nat := (queue.read, queue.write)

/-- How long the next frame may be; nothing if there is no slot or no byte left. -/
def writable (queue : ReceiveQueue slots arena) : Option Nat :=
  if slots ≤ queue.write ∨ arena ≤ queue.offset then none else some queue.free

/-- Puts bytes where the next frame goes, as many of them as there is room for. -/
def fill (data : Bytes) (queue : ReceiveQueue slots arena) : ReceiveQueue slots arena :=
  { queue with
    bytes := queue.bytes.take queue.offset ++ data.take queue.free ++
      queue.bytes.drop (queue.offset + data.length) }

/-- Lays down the next frame: the first `length` of the bytes where it goes. -/
def commit (length : Nat) (queue : ReceiveQueue slots arena) :
    Option (ReceiveQueue slots arena) :=
  if slots ≤ queue.write ∨ arena < queue.offset + length then
    none
  else
    some { queue with
      starts := queue.starts.set queue.write queue.offset
      lengths := queue.lengths.set queue.write length
      write := queue.write + 1
      offset := queue.offset + length }

/-- The frame of a slot. -/
def frameAt (slot : Nat) (queue : ReceiveQueue slots arena) : Bytes :=
  (queue.bytes.drop (queue.starts.getD slot 0)).take (queue.lengths.getD slot 0)

/-- Starts again from the front. -/
def rewind (queue : ReceiveQueue slots arena) : ReceiveQueue slots arena :=
  { queue with read := 0, write := 0, offset := 0 }

def dequeue (queue : ReceiveQueue slots arena) : Option Bytes × ReceiveQueue slots arena :=
  if queue.write < queue.read then
    (none, queue)
  else if queue.read = queue.write then
    (none, queue.rewind)
  else if queue.read + 1 = queue.write then
    (some (queue.frameAt queue.read), queue.rewind)
  else
    (some (queue.frameAt queue.read), { queue with read := queue.read + 1 })

end ReceiveQueue

end StationMesh.Channel
