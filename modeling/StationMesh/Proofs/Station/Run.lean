import StationMesh.Station.Host

/-!
# Runs of a station

The program of a station carries out its operations one after the other, in any order. Whatever
an operation answers, and whether it fails, the next one starts in the state that was left.
Between two operations the radio, the services and the host line may change in any way.
-/

namespace StationMesh.Station

open Radio Relay

/-- What can be done with a station. -/
inductive Call (ρ κ φ : Type) (logSize : Nat) where
  | start
  | poll
  | weatherDue (now : Nat)
  | sendWeather (reading : Bytes)
  | sendStatus
  | flush
  | handleHostFrame (frame : Host.Frame)
  | serveHost (reader : Host.Reader)
  | withRadioSilence (operation : Services κ φ logSize → Services κ φ logSize)
  /-- Something happens that the station does not do. -/
  | outside (radio : ρ) (services : Services κ φ logSize) (host : HostLine)

variable {ρ κ φ : Type} {logSize : Nat} [Timed ρ] [Config.Store κ] [FirmwareUpdater φ]

/-- The station after one call. -/
def perform (station : Station ρ κ φ logSize) : Call ρ κ φ logSize → Station ρ κ φ logSize
  | .start => (start.run station).2
  | .poll => (poll.run station).2
  | .weatherDue now => ((weatherDue now).run station).2
  | .sendWeather reading => ((sendWeather reading).run station).2
  | .sendStatus => (sendStatus.run station).2
  | .flush => (flush.run station).2
  | .handleHostFrame frame => ((handleHostFrame frame).run station).2
  | .serveHost reader => (station.serveHost reader).2.2
  | .withRadioSilence operation =>
      ((withRadioSilence fun services => ((), operation services)).run station).2
  | .outside radio services host =>
      { station with
        controller := { station.controller with radio }
        hub := { station.hub with services, host } }

/-- The station after a run of calls. -/
def run (calls : List (Call ρ κ φ logSize)) (station : Station ρ κ φ logSize) :
    Station ρ κ φ logSize :=
  calls.foldl perform station

end StationMesh.Station
