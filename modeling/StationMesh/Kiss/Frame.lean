import StationMesh.Host.Sink
import StationMesh.Message.Draft

/-!
# Frames on the serial line

A frame is written as a delimiter, a byte that says what kind of frame it is, the escaped payload
and a delimiter. In the payload a delimiter byte is written as escape and delimiter code, an
escape byte as escape and escape code, and all other bytes as they are, so that a delimiter on
the line always bounds a frame.

`encode` is the written form. `pieces` is the same bytes cut into the writes that put them on the
line, which matters for a sink that runs full.
-/

namespace StationMesh.Kiss

/-- Bounds every frame. -/
def frameEnd : UInt8 := 0xC0

/-- Announces an escaped byte. -/
def escapeMark : UInt8 := 0xDB

/-- Stands for a delimiter after an escape. -/
def escapedEnd : UInt8 := 0xDC

/-- Stands for an escape byte after an escape. -/
def escapedMark : UInt8 := 0xDD

/-- The kinds of frame a station understands. -/
inductive FrameKind where
  /-- A radio frame. -/
  | data
  /-- A command to the station on the line itself, or its answer. -/
  | localCommand
deriving DecidableEq, Repr

namespace FrameKind

def code : FrameKind → UInt8
  | data => 0
  | localCommand => 6

def ofCode? (byte : UInt8) : Option FrameKind :=
  if byte = 0 then some data
  else if byte = 6 then some localCommand
  else none

end FrameKind

/-- The two bytes written for a byte that may not stand on the line as it is. -/
def escape? (byte : UInt8) : Option Bytes :=
  if byte = frameEnd then some [escapeMark, escapedEnd]
  else if byte = escapeMark then some [escapeMark, escapedMark]
  else none

def escapeByte (byte : UInt8) : Bytes := (escape? byte).getD [byte]

def escape (payload : Bytes) : Bytes := payload.flatMap escapeByte

/-- The written form of a frame. -/
def encode (kind : FrameKind) (payload : Bytes) : Bytes :=
  frameEnd :: kind.code :: escape payload ++ [frameEnd]

/-- The writes for a payload: each run of plain bytes in one, each escape in one. `run` is the
run that is being gathered. -/
def payloadPieces : (run : Bytes) → Bytes → List Bytes
  | run, [] => [run]
  | run, byte :: rest =>
      match escape? byte with
      | some escaped => run :: escaped :: payloadPieces [] rest
      | none => payloadPieces (run ++ [byte]) rest

/-- The writes that put a frame on the line. -/
def pieces (kind : FrameKind) (payload : Bytes) : List Bytes :=
  [frameEnd, kind.code] :: payloadPieces [] payload ++ [[frameEnd]]

theorem flatten_payloadPieces (run payload : Bytes) :
    (payloadPieces run payload).flatten = run ++ escape payload := by
  induction payload generalizing run with
  | nil => simp [payloadPieces, escape]
  | cons byte rest ih =>
      unfold payloadPieces
      split <;> rename_i found <;>
        simp [ih, escape, escapeByte, found]

theorem flatten_pieces (kind : FrameKind) (payload : Bytes) :
    (pieces kind payload).flatten = encode kind payload := by
  simp [pieces, encode, flatten_payloadPieces]

/-- Writes a frame; what was written before the sink ran full stays written. -/
def write (kind : FrameKind) (payload : Bytes) (sink : Host.Sink) :
    Except TransportError Unit × Host.Sink :=
  sink.writeAll (pieces kind payload)

/-- The serial line as a carrier: every message goes out as a frame of the same kind. -/
structure SerialLine where
  sink : Host.Sink
  kind : FrameKind

instance : Carrier SerialLine where
  deliver bytes line :=
    let (answer, sink) := write line.kind bytes line.sink
    (answer, { line with sink })

end StationMesh.Kiss
