import StationMesh.Outbox
import StationMesh.Message.Header
import StationMesh.Message.WireValue

/-!
# Building a message

A draft collects up to 254 bytes and is handed to its carrier exactly once: when it is finished,
or when it is let go while still open. Only giving it up keeps it from being sent. What carries
it, the radio outbox or the serial line, is left open by `Carrier`.
-/

namespace StationMesh

/-- What can take a finished message. -/
class Carrier (κ : Type) where
  /-- Hands over the bytes of a message; the carrier keeps what it took even if it refuses the
  rest. -/
  deliver : Bytes → κ → Except TransportError Unit × κ

/-- A message that is being built. -/
structure Draft (κ : Type) where
  carrier : κ
  bytes : Bytes := []
  isOpen : Bool := true

namespace Draft

variable {κ : Type}

/-- How many bytes a message can hold. -/
def capacity : Nat := 254

/-- How many more bytes fit. -/
def room (draft : Draft κ) : Nat := capacity - draft.bytes.length

/-- The draft with more bytes at the end. -/
def append (more : Bytes) (draft : Draft κ) : Except TransportError (Draft κ) :=
  if !draft.isOpen then
    .error .notInMessage
  else if draft.bytes.length + more.length ≤ capacity then
    .ok { draft with bytes := draft.bytes ++ more }
  else
    .error .bufferOverrun

/-- The draft with an integer at the end. -/
def appendValue (type : WireType) (value : Int) (draft : Draft κ) :
    Except TransportError (Draft κ) :=
  draft.append (type.encode value)

/-- Closes the draft and hands it to its carrier, which may refuse it. -/
def finish [Carrier κ] (draft : Draft κ) : Except TransportError Unit × Draft κ :=
  if draft.isOpen then
    let (answer, carrier) := Carrier.deliver draft.bytes draft.carrier
    (answer, { carrier, bytes := [], isOpen := false })
  else
    (.error .notInMessage, draft)

/-- Gives the draft up. -/
def abort (draft : Draft κ) : Draft κ :=
  { draft with bytes := [], isOpen := false }

/-- Lets the draft go: the carrier as it is then, after an open draft was sent. -/
def release [Carrier κ] (draft : Draft κ) : κ :=
  if draft.isOpen then draft.finish.2.carrier else draft.carrier

end Draft

/-- The outbox as a carrier: every message goes in with the same preamble. -/
structure RadioLine where
  outbox : Outbox
  preamble : Preamble

instance : Carrier RadioLine where
  deliver bytes line :=
    match line.outbox.send bytes line.preamble with
    | .ok outbox => (.ok (), { line with outbox })
    | .error error => (.error error, line)

/-- A radio message that opens with a header. -/
def Draft.withHeader (header : Header) (line : RadioLine) : Draft RadioLine :=
  { carrier := line, bytes := header.encode }

end StationMesh
