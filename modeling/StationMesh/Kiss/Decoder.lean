import StationMesh.Kiss.Frame

/-!
# Reading frames off the serial line

The decoder takes one byte at a time. It waits for a delimiter, takes the kind byte, passes over
the station identifier that some hosts put behind it, and then gathers the payload until the next
delimiter, which may open the following frame as well. A wrong escape or a payload that is too
long makes it drop the frame and wait for a delimiter again.
-/

namespace StationMesh.Kiss

/-- What the decoder expects next. -/
inductive Expecting where
  /-- A delimiter; everything else is noise. -/
  | start
  /-- The kind byte; further delimiters are fill. -/
  | kind
  /-- This many bytes of a station identifier. -/
  | identifier (left : Nat)
  /-- Payload bytes or the closing delimiter. -/
  | payload
  /-- The second byte of an escape. -/
  | escaped
deriving DecidableEq, Repr

/-- A decoder for payloads of at most `capacity` bytes. -/
structure Decoder (capacity : Nat) where
  /-- How many bytes of station identifier follow the kind byte. -/
  identifierLength : Nat
  expecting : Expecting := .start
  kind : UInt8 := 0
  /-- The payload gathered so far; after a frame was reported, that of the frame. -/
  frame : Bytes := []
deriving DecidableEq, Repr

namespace Decoder

variable {capacity : Nat}

/-- Drops what was gathered and waits for a delimiter. -/
def reset (decoder : Decoder capacity) : Decoder capacity :=
  { decoder with expecting := .start, frame := [] }

/-- One more payload byte. -/
def store (byte : UInt8) (decoder : Decoder capacity) :
    Except TransportError (Option UInt8) × Decoder capacity :=
  if decoder.frame.length < capacity then
    (.ok none, { decoder with expecting := .payload, frame := decoder.frame ++ [byte] })
  else
    (.error .bufferOverrun, decoder.reset)

/-- Takes the next byte. The answer is the kind of the frame that the byte completes, if it
completes one. -/
def push (byte : UInt8) (decoder : Decoder capacity) :
    Except TransportError (Option UInt8) × Decoder capacity :=
  match decoder.expecting with
  | .start =>
      (.ok none, if byte = frameEnd then { decoder with expecting := .kind } else decoder)
  | .kind =>
      if byte = frameEnd then
        (.ok none, decoder)
      else
        let expecting :=
          if decoder.identifierLength = 0 then .payload
          else .identifier decoder.identifierLength
        (.ok none, { decoder with expecting, kind := byte, frame := [] })
  | .identifier left =>
      let expecting :=
        if byte = frameEnd then .kind
        else if 1 < left then .identifier (left - 1)
        else .payload
      (.ok none, { decoder with expecting })
  | .payload =>
      if byte = frameEnd then
        (.ok (some decoder.kind), { decoder with expecting := .kind })
      else if byte = escapeMark then
        (.ok none, { decoder with expecting := .escaped })
      else
        decoder.store byte
  | .escaped =>
      if byte = escapedEnd then
        decoder.store frameEnd
      else if byte = escapedMark then
        decoder.store escapeMark
      else
        (.error .framing, decoder.reset)

end Decoder

end StationMesh.Kiss
