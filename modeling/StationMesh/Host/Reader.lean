import StationMesh.Kiss.Decoder

/-!
# Reading the serial line in time

Each byte on the line arrives at a time of its own. The reader waits for a byte no longer than
its timeout, counted anew from every byte and from every timeout; a byte that arrives just then
is still taken. A frame that is not complete by then is dropped.

Times are in microseconds.
-/

namespace StationMesh.Host

/-- A byte that is still to come, and when. -/
structure Arrival where
  time : Nat
  byte : UInt8
deriving DecidableEq, Repr

/-- The arrivals of chunks after time `now`. The bytes of a chunk arrive together, a gap after the
chunk before. -/
def Arrival.ofChunks (now : Nat) : List (Nat × Bytes) → List Arrival
  | [] => []
  | (gap, bytes) :: rest =>
      bytes.map (fun byte => { time := now + gap, byte }) ++ ofChunks (now + gap) rest

/-- A frame from the host. -/
structure Frame where
  kind : UInt8
  payload : Bytes
deriving DecidableEq, Repr

/-- The most bytes a host frame can carry. -/
def maxPayload : Nat := 254

/-- The serial line with a decoder at this end. -/
structure Reader where
  arrivals : List Arrival
  /-- How long the line may stay quiet within a frame. -/
  timeout : Nat
  decoder : Kiss.Decoder maxPayload

namespace Reader

/-- A reader that starts between frames. -/
def new (arrivals : List Arrival) (timeout identifierLength : Nat) : Reader :=
  { arrivals, timeout, decoder := { identifierLength } }

/-- How reading one frame ended: the frame or the cause, the time, the bytes still to come and
the decoder. -/
structure Outcome where
  answer : Except TransportError Frame
  now : Nat
  arrivals : List Arrival
  decoder : Kiss.Decoder maxPayload

/-- Takes bytes until one of them completes a frame or fails, or the line stays quiet. -/
def collect (timeout : Nat) : List Arrival → (now : Nat) → Kiss.Decoder maxPayload → Outcome
  | [], now, decoder =>
      { answer := .error .timeout, now := now + timeout, arrivals := [], decoder := decoder.reset }
  | arrival :: rest, now, decoder =>
      if arrival.time ≤ now + timeout then
        let now := max now arrival.time
        match decoder.push arrival.byte with
        | (.ok none, decoder) => collect timeout rest now decoder
        | (.ok (some kind), decoder) =>
            { answer := .ok { kind, payload := decoder.frame }, now, arrivals := rest, decoder }
        | (.error error, decoder) => { answer := .error error, now, arrivals := rest, decoder }
      else
        { answer := .error .timeout, now := now + timeout, arrivals := arrival :: rest,
          decoder := decoder.reset }

/-- Waits for one frame from time `now` on. The answer comes with the time it came at. -/
def readFrame (now : Nat) (reader : Reader) : Except TransportError Frame × Nat × Reader :=
  let outcome := collect reader.timeout reader.arrivals now reader.decoder
  (outcome.answer, outcome.now,
    { reader with arrivals := outcome.arrivals, decoder := outcome.decoder })

end Reader

end StationMesh.Host
