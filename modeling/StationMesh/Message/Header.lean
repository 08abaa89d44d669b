import StationMesh.Bytes

/-!
# Message headers

Every radio frame opens with three bytes: the kind of message, a station and a unique id. The
high bit of the first byte asks every station on the way to relay the frame whatever its relay
lists say. For commands the station is the one addressed, and 0 addresses every station; for all
other kinds it is the station the message comes from.
-/

namespace StationMesh

/-- The station id that addresses every station. No station carries it. -/
def everyStation : UInt8 := 0

/-- What a message is for. -/
inductive MessageKind where
  | command
  | acknowledge
  | weather
  | relayWrapper
  | ping
  | status
deriving DecidableEq, Repr

namespace MessageKind

/-- The letter that stands for a kind on the air. -/
def code : MessageKind → UInt8
  | command => 0x43
  | acknowledge => 0x41
  | weather => 0x57
  | relayWrapper => 0x52
  | ping => 0x50
  | status => 0x53

/-- The kind a letter stands for. -/
def ofCode? (byte : UInt8) : Option MessageKind :=
  if byte = 0x43 then some command
  else if byte = 0x41 then some acknowledge
  else if byte = 0x57 then some weather
  else if byte = 0x52 then some relayWrapper
  else if byte = 0x50 then some ping
  else if byte = 0x53 then some status
  else none

@[simp]
theorem ofCode?_code (kind : MessageKind) : ofCode? kind.code = some kind := by
  cases kind <;> rfl

/-- Weather is relayed by a list of its own, all other kinds share one. -/
def usesWeatherList (kind : MessageKind) : Bool := kind == weather

end MessageKind

/-- Why the opening of a frame is no header. -/
inductive HeaderError where
  /-- There are fewer than three bytes. -/
  | truncated
  /-- The first byte, without its relay bit, stands for no kind. -/
  | unknownType (code : UInt8)
deriving DecidableEq, Repr

/-- The wording of a header error. -/
def HeaderError.message : HeaderError → String
  | truncated => "frame shorter than message header"
  | unknownType code => "unknown message type 0x" ++ hexByte code

/-- The first byte of a frame. -/
structure TypeByte where
  kind : MessageKind
  /-- Every station on the way is asked to relay the frame. -/
  forced : Bool
deriving DecidableEq, Repr

namespace TypeByte

/-- The bit of the first byte that forces relay. -/
def forcedBit : UInt8 := 0x80

/-- Reads the first byte of a frame. -/
def decode (byte : UInt8) : Except HeaderError TypeByte :=
  let letter := byte &&& 0x7F
  match MessageKind.ofCode? letter with
  | some kind => .ok { kind, forced := byte &&& forcedBit != 0 }
  | none => .error (.unknownType letter)

/-- The byte that says kind and forced relay. -/
def encode (type : TypeByte) : UInt8 :=
  type.kind.code ||| (if type.forced then forcedBit else 0)

@[simp]
theorem decode_encode (type : TypeByte) : decode type.encode = .ok type := by
  rcases type with ⟨kind, forced⟩
  cases kind <;> cases forced <;> rfl

end TypeByte

/-- The three bytes that open a frame. -/
structure Header extends TypeByte where
  station : UInt8
  uid : UInt8
deriving DecidableEq, Repr

namespace Header

/-- How many bytes a header takes. -/
def size : Nat := 3

/-- Reads the header of a frame; what follows it does not matter. -/
def parse : Bytes → Except HeaderError Header
  | type :: station :: uid :: _ =>
      match TypeByte.decode type with
      | .ok type => .ok { toTypeByte := type, station, uid }
      | .error error => .error error
  | _ => .error .truncated

/-- The bytes of a header. -/
def encode (header : Header) : Bytes :=
  [header.toTypeByte.encode, header.station, header.uid]

@[simp]
theorem length_encode (header : Header) : header.encode.length = size := rfl

@[simp]
theorem parse_encode_append (header : Header) (payload : Bytes) :
    parse (header.encode ++ payload) = .ok header := by
  simp [encode, parse]

end Header

/-- What makes two copies the same message: its kind, its station and its unique id. -/
structure Identity where
  kind : MessageKind
  station : UInt8
  uid : UInt8
deriving DecidableEq, Repr

/-- The identity a header announces; forced relay is no part of it. -/
def Header.identity (header : Header) : Identity :=
  { kind := header.kind, station := header.station, uid := header.uid }

end StationMesh
