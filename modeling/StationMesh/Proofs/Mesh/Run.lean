import StationMesh.Mesh
import StationMesh.Proofs.Relay.Flooding

/-!
# Runs of a mesh

On a mesh one thing happens after the other: a station acts, a link changes, or time passes. What a
station sends is at the others when they act next.
-/

namespace StationMesh

open Channel Radio Relay

namespace Mesh

/-- What can happen on a mesh. -/
inductive Act where
  | start (index : Nat)
  | poll (index : Nat)
  | sendStatus (index : Nat)
  | setLink (source target : Nat) (state : Link)
  | pass (time : Nat)
deriving DecidableEq, Repr

variable {κ φ ε α : Type} {logSize : Nat} [Config.Store κ] [FirmwareUpdater φ]

omit [Config.Store κ] [FirmwareUpdater φ] in
/-- The mesh after station `index` has carried out an operation, however that ended. -/
def carryOut (index : Nat) (operation : Station.Operation (Bench Endpoint) κ φ logSize ε α)
    (mesh : Mesh κ φ logSize) : Mesh κ φ logSize :=
  match mesh.act index operation.run with
  | none => mesh
  | some (_, mesh) => mesh

def perform (mesh : Mesh κ φ logSize) : Act → Mesh κ φ logSize
  | .start index => mesh.carryOut index Station.start
  | .poll index => mesh.carryOut index Station.poll
  | .sendStatus index => mesh.carryOut index Station.sendStatus
  | .setLink source target state => mesh.setLink source target state
  | .pass time => { mesh with clock := mesh.clock + time }

def run (acts : List Act) (mesh : Mesh κ φ logSize) : Mesh κ φ logSize := acts.foldl perform mesh

/-- The status message that a station originates. -/
def original? (mesh : Mesh κ φ logSize) : Act → Option Status
  | .sendStatus index =>
      mesh.stations[index]?.map fun station =>
        station.hub.nextStatus station.controller.statistics.report
  | _ => none

/-- The status messages that the stations originate in a run, one for each call. -/
def originals : List Act → Mesh κ φ logSize → List Status
  | [], _ => []
  | act :: acts, mesh => (mesh.original? act).toList ++ originals acts (mesh.perform act)

end Mesh

end StationMesh
