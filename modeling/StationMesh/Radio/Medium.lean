import StationMesh.Radio.Bench

/-!
# A shared medium

Several stations share one channel. A directed link between two of them is down, clean or
corrupting. A frame reaches a station if the link is not down, the receiver listens, and the
preamble in front of the frame is at least as long as the receiver wakes for; on a corrupting
link it arrives with a failed check. Each station holds one received frame, which the next one
overwrites. An `Endpoint` is the radio device of one station.
-/

namespace StationMesh.Radio

/-- The state of a directed link. -/
inductive Link where
  | down
  | clean
  /-- Frames arrive with a failed check. -/
  | corrupting
deriving DecidableEq, Repr

/-- The radio of one station on the medium. -/
structure Node where
  mode : Mode := .standby
  up : Bool := false
  transmitPreamble : UInt16 := 0
  receivePreamble : UInt16 := 0
  busyLeft : Nat := 0
  failure : Option DeviceError := none
  /-- The received frame. -/
  buffer : Option Reception := none
  signal : Signal := {}
  /-- How many frames reached the station. -/
  delivered : Nat := 0
  /-- How many frames the station sent. -/
  transmitted : Nat := 0
deriving DecidableEq, Repr

namespace Node

/-- The receiver catches a frame behind a preamble of this length. -/
def hears (preamble : UInt16) (node : Node) : Bool :=
  node.mode.listens && node.receivePreamble ≤ preamble

/-- A frame arrives; one that was not read is overwritten. -/
def deliver (reception : Reception) (node : Node) : Node :=
  { node with
    buffer := some reception
    delivered := node.delivered + 1
    signal := node.signal.raise }

end Node

/-- A channel that several stations share. -/
structure Medium where
  nodes : List Node
  /-- The link from one station to another. -/
  link : Nat → Nat → Link

namespace Medium

/-- A medium for so many stations, with all links down. -/
def new (size : Nat) : Medium where
  nodes := List.replicate size {}
  link _ _ := .down

/-- A medium on which every station hears every other one. -/
def fullyConnected (size : Nat) : Medium where
  nodes := List.replicate size {}
  link source target := if source = target then .down else .clean

def size (medium : Medium) : Nat := medium.nodes.length

/-- Changes a link; links of stations that are not there cannot be changed. -/
def setLink (source target : Nat) (state : Link) (medium : Medium) : Medium :=
  if source < medium.size ∧ target < medium.size then
    { medium with
      link := fun a b => if a = source ∧ b = target then state else medium.link a b }
  else
    medium

/-- Changes the links between two stations in both directions. -/
def connect (a b : Nat) (state : Link) (medium : Medium) : Medium :=
  (medium.setLink a b state).setLink b a state

def update (index : Nat) (change : Node → Node) (medium : Medium) : Medium :=
  { medium with nodes := medium.nodes.modify index change }

/-- What a receiver makes of a frame that comes over a link. -/
def arrive (data : Bytes) (preamble : UInt16) (link : Link) (node : Node) : Node :=
  if link = .down ∨ !node.hears preamble then
    node
  else
    node.deliver { data := data.take bufferSize, intact := link = .clean }

/-- A frame of station `source` reaches all other stations that can hear it. -/
def spread (source : Nat) (data : Bytes) (preamble : UInt16) (medium : Medium) : Medium :=
  { medium with
    nodes := medium.nodes.mapIdx fun target node =>
      if target = source then node
      else arrive data preamble (medium.link source target) node }

/-- Station `source` sends a frame. -/
def broadcast (source : Nat) (data : Bytes) : Operation Medium Unit :=
  .of fun medium =>
    match medium.nodes[source]? with
    | none => (.error .hardwareFault, medium)
    | some sender =>
        if !sender.up then
          (.error .initializationFailed, medium)
        else
          match sender.failure with
          | some error =>
              (.error error,
                medium.update source fun node => { node with failure := none, up := false })
          | none =>
              let medium := medium.update source fun node =>
                { node with transmitted := node.transmitted + 1, mode := .standby }
              (.ok (), medium.spread source data sender.transmitPreamble)

end Medium

/-- The radio of one station, with the medium it is on. -/
structure Endpoint where
  medium : Medium
  index : Nat

namespace Endpoint

def node? (endpoint : Endpoint) : Option Node := endpoint.medium.nodes[endpoint.index]?

def update (change : Node → Node) (endpoint : Endpoint) : Endpoint :=
  { endpoint with medium := endpoint.medium.update endpoint.index change }

/-- An operation that only this radio takes part in; it fails if the medium does not have it. -/
def locally {α : Type} (operation : Operation Node α) : Operation Endpoint α :=
  .of fun endpoint =>
    match endpoint.node? with
    | none => (.error .hardwareFault, endpoint)
    | some node =>
        let (answer, node) := operation.run node
        (answer, endpoint.update fun _ => node)

/-- Reads the received frame and drops it. -/
def read (room : Nat) : Operation Node Reception :=
  .of fun node =>
    if !node.up then
      (.error .initializationFailed, node)
    else
      match node.buffer with
      | none => (.error .receiveFailed, node)
      | some reception =>
          if room < reception.data.length then
            (.error .bufferTooSmall, node)
          else
            (.ok reception, { node with buffer := none })

def probe : Operation Node Activity :=
  .of fun node =>
    if !node.up then
      (.error .cadFailed, node)
    else if 0 < node.busyLeft then
      (.ok .busy, { node with busyLeft := node.busyLeft - 1 })
    else
      (.ok .free, node)

/-- Changes the receiver of a radio that is up. -/
def enter (mode : Mode) : Operation Node Unit :=
  .of fun node =>
    if node.up then (.ok (), { node with mode }) else (.error .initializationFailed, node)

/-- Sends a frame to all stations that can hear it. -/
def transmit (data : Bytes) : Operation Endpoint Unit :=
  .of fun endpoint =>
    if bufferSize < data.length then
      (.error .transmissionFailed, endpoint)
    else
      let (answer, medium) := (Medium.broadcast endpoint.index data).run endpoint.medium
      (answer, { endpoint with medium })

instance : Device Endpoint where
  bringUp := locally (.of fun node =>
    (.ok (), { node with up := true, mode := .standby, buffer := none }))
  transmit := transmit
  read room := locally (read room)
  probe := locally probe
  listen := locally (enter .continuous)
  dutyCycle := locally (enter .dutyCycle)
  sleep := locally (.of fun node => (.ok (), { node with mode := .sleep }))
  setPreamble side length endpoint :=
    endpoint.update fun node =>
      match side with
      | .transmit => { node with transmitPreamble := length }
      | .receive => { node with receivePreamble := length }
  attend endpoint := endpoint
  signal endpoint := (endpoint.node?.map (·.signal)).getD {}
  acknowledge endpoint := endpoint.update fun node => { node with signal := node.signal.lower }

/-- Frames reach an endpoint over the medium only, so one that is injected is lost. -/
instance : Pokeable Endpoint where
  poke
    | .inject _ _, endpoint => endpoint
    | .busy count, endpoint => endpoint.update fun node => { node with busyLeft := count }
    | .fail error, endpoint => endpoint.update fun node => { node with failure := some error }
  busyLeft endpoint := (endpoint.node?.map (·.busyLeft)).getD 0

end Endpoint

end StationMesh.Radio
