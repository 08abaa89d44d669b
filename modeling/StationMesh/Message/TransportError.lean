/-!
# Why a message could not be read or handed on
-/

namespace StationMesh

/-- What stops the reading, the building or the sending of a message. -/
inductive TransportError where
  /-- Fewer bytes are left than were asked for. -/
  | endOfMessage
  /-- The line stayed quiet for too long. -/
  | timeout
  /-- The message was finished or given up before. -/
  | notInMessage
  /-- There is no room for the bytes. -/
  | bufferOverrun
  /-- An escape byte is followed by a byte that it cannot escape. -/
  | framing
  /-- No slot is left in the outbox. -/
  | outboxFull
deriving DecidableEq, Repr

/-- The wording of a transport error. -/
def TransportError.message : TransportError → String
  | endOfMessage => "end of message"
  | timeout => "byte stream timed out"
  | notInMessage => "no message in progress"
  | bufferOverrun => "message buffer overrun"
  | framing => "malformed frame escape"
  | outboxFull => "radio outbox is full"

end StationMesh
