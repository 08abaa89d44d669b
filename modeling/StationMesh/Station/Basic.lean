import StationMesh.Host.Reader
import StationMesh.Relay.Intake
import StationMesh.Weather.Schedule

/-!
# Stations

A station is a radio behind its controller, a relay hub, and the settings that are not kept in
the configuration store. This module holds what a station is made of, and how it deals with
channel errors: a driver fault brings the radio up anew, all others are let pass.
-/

namespace StationMesh

open Channel Radio Relay

/-- What stops an operation of a station. -/
inductive StationError where
  | channel (error : ChannelError)
  | transport (error : TransportError)
deriving DecidableEq, Repr

def StationError.message : StationError → String
  | channel error => "channel access: " ++ error.message
  | transport error => "transport: " ++ error.message

/-- How a station reads the serial line. -/
structure HostSettings where
  /-- How long the line may stay quiet within a frame, in microseconds. -/
  byteTimeout : Nat := 500000
  /-- How many bytes of station identifier follow the kind byte. -/
  identifierLength : Nat := 0
deriving DecidableEq, Repr

/-- A weather station on the mesh. -/
structure Station (ρ κ φ : Type) (logSize : Nat) where
  controller : Controller ρ
  hub : Hub κ φ logSize
  /-- Channel settings for what the store does not keep. -/
  base : Settings := {}
  hostSettings : HostSettings := {}
  schedule : Weather.Schedule := {}
  /-- Driver faults since the last frame went out. -/
  faults : UInt8 := 0
  /-- Driver faults that were reported as a failing radio. -/
  alarms : Nat := 0

namespace Station

variable {ρ κ φ ε α : Type} {logSize : Nat}

abbrev Operation (ρ κ φ : Type) (logSize : Nat) (ε α : Type) :=
  Action (Station ρ κ φ logSize) ε α

/-- Driver faults in a row that make a radio a failing one. -/
def alarmThreshold : UInt8 := 3

def stationId [Config.Store κ] (station : Station ρ κ φ logSize) : UInt8 := station.hub.stationId

/-- Stations that relay listen all the time, all others now and then. -/
def idlePolicy [Config.Store κ] (station : Station ρ κ φ logSize) : IdleState :=
  if Config.Store.relaysForPeers station.hub.services.config then .continuousReceive
  else .intermittentReceive

/-- The seed of the engine of a station with the given seed: its halves swapped and scrambled, so
that engine and controller draw different numbers. -/
def engineSeed (seed : UInt64) : UInt64 :=
  ((seed <<< 32) ||| (seed >>> 32)) ^^^ 0x9E3779B97F4A7C15

variable [Timed ρ] [Config.Store κ]

omit [Timed ρ] in
/-- The channel settings that the store and the base call for. -/
def channelSettings (station : Station ρ κ φ logSize) : Settings :=
  Settings.ofStore station.hub.services.config station.base

/-- A station whose radio nothing has been done with yet. -/
def new (radio : ρ) (services : Services κ φ logSize) (base : Settings)
    (hostSettings : HostSettings) (host : HostLine) (seed : UInt64)
    (generator : Generator := .wyRand) : Station ρ κ φ logSize :=
  { controller := Controller.new radio (Settings.ofStore services.config base) seed generator
    hub := { engine := Engine.new (engineSeed seed) generator, services, host }
    base
    hostSettings }

omit [Timed ρ] [Config.Store κ] in
def onController (operation : Controller.Operation ρ α) :
    Operation ρ κ φ logSize ChannelError α :=
  operation.zoom Station.controller (fun station controller => { station with controller }) id

omit [Timed ρ] [Config.Store κ] in
def onHub (operation : Hub.Operation κ φ logSize α) : Operation ρ κ φ logSize StationError α :=
  operation.zoom Station.hub (fun station hub => { station with hub }) .transport

omit [Timed ρ] [Config.Store κ] in
/-- An operation that is stopped by channel errors only. -/
def overChannel (operation : Operation ρ κ φ logSize ChannelError α) :
    Operation ρ κ φ logSize StationError α :=
  operation.zoom id (fun _ station => station) .channel

omit [Timed ρ] [Config.Store κ] in
def countFault (station : Station ρ κ φ logSize) : Station ρ κ φ logSize :=
  let faults := if station.faults = 255 then 255 else station.faults + 1
  { station with
    faults
    alarms := if alarmThreshold ≤ faults then station.alarms + 1 else station.alarms }

omit [Config.Store κ] in
/-- Gets over a channel error. It fails only if the radio cannot be brought up. -/
def absorb : ChannelError → Operation ρ κ φ logSize ChannelError Unit
  | .driverFault _ => do
      modify countFault
      onController Controller.reinitialize
  | .timeout | .queueFull | .crcMismatch | .invalidState => pure ()

end Station

end StationMesh
