import StationMesh.Bytes
import StationMesh.Message.TransportError

/-!
# Writing to the host

Bytes for the host go into a sink that may have a limited size. One write takes all its bytes or
none.
-/

namespace StationMesh.Host

/-- What was written to the host, and how much can be. -/
structure Sink where
  bytes : Bytes := []
  /-- The most bytes the sink can hold, if it is limited. -/
  capacity : Option Nat := none
deriving DecidableEq, Repr

namespace Sink

/-- There is room for `count` more bytes. -/
def hasRoom (count : Nat) (sink : Sink) : Bool :=
  match sink.capacity with
  | none => true
  | some capacity => sink.bytes.length + count ≤ capacity

def write (bytes : Bytes) (sink : Sink) : Except TransportError Sink :=
  if sink.hasRoom bytes.length then
    .ok { sink with bytes := sink.bytes ++ bytes }
  else
    .error .bufferOverrun

/-- One write after the other, up to the first one that does not fit. -/
def writeAll : List Bytes → Sink → Except TransportError Unit × Sink
  | [], sink => (.ok (), sink)
  | piece :: rest, sink =>
      match sink.write piece with
      | .ok sink => writeAll rest sink
      | .error error => (.error error, sink)

end Sink

end StationMesh.Host
