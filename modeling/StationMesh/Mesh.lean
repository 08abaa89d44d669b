import StationMesh.Radio.Medium
import StationMesh.Station.Host

/-!
# Meshes

Several stations on one medium, with one clock. One station acts at a time: it is lent the medium
and the time, and what it leaves of them is there for the next one.
-/

namespace StationMesh

open Channel Radio Relay

/-- A station whose radio is on a shared medium. -/
abbrev MeshStation (κ φ : Type) (logSize : Nat) := Station (Bench Endpoint) κ φ logSize

/-- Stations on a medium. -/
structure Mesh (κ φ : Type) (logSize : Nat) where
  medium : Medium
  /-- The time in microseconds. -/
  clock : Nat := 0
  stations : List (MeshStation κ φ logSize)

namespace Mesh

variable {κ φ α : Type} {logSize : Nat}

/-- The station with the medium and the time of the mesh. -/
def lend (mesh : Mesh κ φ logSize) (station : MeshStation κ φ logSize) :
    MeshStation κ φ logSize :=
  let controller := station.controller
  let bench := controller.radio
  { station with
    controller := { controller with
      radio := { bench with
        clock := mesh.clock
        device := { bench.device with medium := mesh.medium } } } }

/-- The mesh after station `index` has left it in a new state. -/
def takeBack (index : Nat) (station : MeshStation κ φ logSize) (mesh : Mesh κ φ logSize) :
    Mesh κ φ logSize :=
  let bench := station.controller.radio
  { medium := bench.device.medium
    clock := bench.clock
    stations := mesh.stations.set index station }

/-- Lets station `index` act, if there is one. -/
def act (index : Nat)
    (step : MeshStation κ φ logSize → α × MeshStation κ φ logSize)
    (mesh : Mesh κ φ logSize) : Option (α × Mesh κ φ logSize) :=
  match mesh.stations[index]? with
  | none => none
  | some station =>
      let (answer, station) := step (mesh.lend station)
      some (answer, mesh.takeBack index station)

/-- Changes a link of the medium. -/
def setLink (source target : Nat) (state : Link) (mesh : Mesh κ φ logSize) : Mesh κ φ logSize :=
  { mesh with medium := mesh.medium.setLink source target state }

end Mesh

end StationMesh
