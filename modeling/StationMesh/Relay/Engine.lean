import StationMesh.Action
import StationMesh.Config.Store
import StationMesh.Firmware
import StationMesh.History.Handled
import StationMesh.History.Seen
import StationMesh.Kiss.Frame
import StationMesh.MessageLog
import StationMesh.Outbox
import StationMesh.Random
import StationMesh.Weather.Batch

/-!
# The relay engine

The engine remembers which messages were relayed, which commands were handled and which stations
were heard, and gathers the readings that wait for relay. It never touches the radio: frames to
be sent go into the outbox, and what else the radio has to do is noted as pending.

A `Hub` is an engine together with what it works on.
-/

namespace StationMesh.Relay

/-- What the radio has to do because of a command. -/
structure Pending where
  /-- Bring the radio up anew. -/
  reinitialize : Bool := false
  /-- Take over channel settings that were changed. -/
  reload : Bool := false
deriving DecidableEq, Repr

def Pending.isEmpty (pending : Pending) : Bool := !pending.reinitialize && !pending.reload

def historySize : Nat := 16

def seenSize : Nat := 16

/-- How many bytes of readings are gathered. -/
def batchSize : Nat := 100

/-- What a station remembers of the traffic. -/
structure Engine where
  seen : History.Seen seenSize := {}
  relayed : History.Ring Identity historySize := {}
  handled : History.Handled historySize := {}
  batch : Weather.Batch batchSize := {}
  /-- The unique id of the next message from this station. -/
  nextUid : UInt8
  random : Random
  pending : Pending := {}

namespace Engine

/-- A new engine. The first unique id is drawn, so that a station that starts anew does not use
ids that others still remember. -/
def new (seed : UInt64) (generator : Generator := .wyRand) : Engine :=
  let (nextUid, random) := (Random.ofSeed generator seed).nextByte
  { nextUid, random }

def takeUid (engine : Engine) : UInt8 × Engine :=
  (engine.nextUid, { engine with nextUid := engine.nextUid + 1 })

/-- A station could take this id: it is not the id of all, nor its own, nor one heard lately. -/
def isUsableId (own candidate : UInt8) (engine : Engine) : Bool :=
  candidate != everyStation && candidate != own && !engine.seen.contains candidate

/-- How many ids are drawn before the smallest usable one is taken. -/
def idDraws : Nat := 32

/-- Draws ids until one is usable, at most `draws` of them. -/
def drawUsableId (own : UInt8) : (draws : Nat) → Engine → Option UInt8 × Engine
  | 0, engine => (none, engine)
  | draws + 1, engine =>
      let (candidate, random) := engine.random.nextByte
      let engine := { engine with random }
      if engine.isUsableId own candidate then
        (some candidate, engine)
      else
        drawUsableId own draws engine

def leastUsableId (own : UInt8) (engine : Engine) : Option UInt8 :=
  ((List.range 255).map fun index => UInt8.ofNat (index + 1)).find? (engine.isUsableId own ·)

/-- Picks an id that a station could take. -/
def pickId (own : UInt8) (engine : Engine) (draws : Nat := idDraws) : Option UInt8 × Engine :=
  match engine.drawUsableId own draws with
  | (some id, engine) => (some id, engine)
  | (none, engine) => (engine.leastUsableId own, engine)

/-- What is pending, which is then no longer pending. -/
def takePending (engine : Engine) : Pending × Engine :=
  (engine.pending, { engine with pending := {} })

end Engine

/-- What a station has beside its radio. -/
structure Services (κ φ : Type) (logSize : Nat) where
  config : κ
  log : MessageLog logSize := {}
  firmware : φ

/-- The serial line to the host. -/
structure HostLine where
  sink : Host.Sink := {}
  /-- Messages can be passed on to the host; answers to its own commands always are. -/
  bridged : Bool := true

/-- A relay engine with the outbox, the services and the host line it works on. -/
structure Hub (κ φ : Type) (logSize : Nat) where
  engine : Engine
  outbox : Outbox := .empty
  services : Services κ φ logSize
  host : HostLine := {}
  /-- Frames that were dropped with a warning because the outbox had no slot left for them. -/
  turnedAway : Nat := 0

namespace Hub

variable {κ φ : Type} {logSize : Nat}

/-- An operation of a hub that may fail to hand on a message. -/
abbrev Operation (κ φ : Type) (logSize : Nat) (α : Type) :=
  Action (Hub κ φ logSize) TransportError α

def stationId [Config.Store κ] (hub : Hub κ φ logSize) : UInt8 :=
  Config.Store.stationId hub.services.config

def flags [Config.Store κ] (hub : Hub κ φ logSize) : Config.Flags :=
  Config.Store.flags hub.services.config

def withEngine (change : Engine → Engine) (hub : Hub κ φ logSize) : Hub κ φ logSize :=
  { hub with engine := change hub.engine }

/-- Writes a frame to the host, as far as there is room. -/
def tell (kind : Kiss.FrameKind) (payload : Bytes) (hub : Hub κ φ logSize) : Hub κ φ logSize :=
  { hub with host := { hub.host with sink := (Kiss.write kind payload hub.host.sink).2 } }

/-- The hub after a frame was put into the outbox, or was turned away by it. -/
def enqueue (data : Bytes) (preamble : Preamble) (hub : Hub κ φ logSize) :
    Except TransportError Unit × Hub κ φ logSize :=
  match hub.outbox.send data preamble with
  | .ok outbox => (.ok (), { hub with outbox })
  | .error .outboxFull => (.error .outboxFull, { hub with turnedAway := hub.turnedAway + 1 })
  | .error error => (.error error, hub)

def send (data : Bytes) (preamble : Preamble) : Operation κ φ logSize Unit :=
  .of (enqueue data preamble)

def takeUid : Operation κ φ logSize UInt8 := do
  let hub ← get
  let (uid, engine) := hub.engine.takeUid
  set { hub with engine }
  pure uid

end Hub

end StationMesh.Relay
