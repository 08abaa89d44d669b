import StationMesh.Radio.Device

/-!
# A radio on the bench

A device with a clock of its own beside it. Probing and sending take time. Pokes are things that
happen to the device from outside at given times: frames that arrive, a busy channel, a failing
transmitter. They reach the device with the first call after their time. Faults are answers that
are given in place of the device, queued by kind of call. All calls are written down.
-/

namespace StationMesh.Radio

/-- The calls that can be answered by a fault. -/
inductive CallKind where
  | bringUp
  | transmit
  | read
  | probe
  | listen
  | dutyCycle
  | sleep
deriving DecidableEq, Repr

/-- A call with its arguments. -/
inductive Call where
  | bringUp
  | transmit (data : Bytes)
  | read (room : Nat)
  | probe
  | listen
  | dutyCycle
  | sleep
  | preamble (side : Side) (length : UInt16)
deriving DecidableEq, Repr

/-- How a call is written down. -/
def Call.text : Call → String
  | bringUp => "init"
  | transmit data => "transmit:" ++ data.toHex
  | read room => "read:" ++ toString room
  | probe => "probe"
  | listen => "receive"
  | dutyCycle => "duty"
  | sleep => "sleep"
  | preamble .transmit length => "preamble:tx:" ++ toString length.toNat
  | preamble .receive length => "preamble:rx:" ++ toString length.toNat

/-- Equal calls in a row, and whether faults answered them. -/
structure CallRun where
  call : Call
  faulted : Bool
  count : Nat
deriving DecidableEq, Repr

/-- How a run is written down: an exclamation mark for faults, and the count of more than one. -/
def CallRun.text (run : CallRun) : String :=
  run.call.text ++ (if run.faulted then "!" else "") ++
    (if run.count > 1 then " x" ++ toString run.count else "")

/-- Something that happens to a device from outside. -/
inductive Poke where
  /-- A frame arrives. -/
  | inject (data : Bytes) (intact : Bool)
  /-- This many probes find the channel busy. -/
  | busy (count : Nat)
  /-- The next transmission fails. -/
  | fail (error : DeviceError)
deriving DecidableEq, Repr

/-- Devices that things can happen to. -/
class Pokeable (δ : Type) where
  /-- Makes it happen. -/
  poke : Poke → δ → δ
  /-- How many probes are still going to find the channel busy. -/
  busyLeft : δ → Nat

/-- A poke and its time. -/
structure Planned where
  time : Nat
  poke : Poke
deriving DecidableEq, Repr

/-- At least as many as the busy answers and the arrivals a poke brings about. -/
def Poke.weight : Poke → Nat
  | inject _ _ => 1
  | busy count => count
  | fail _ => 0

/-- A device on the bench. -/
structure Bench (δ : Type) where
  device : δ
  clock : Nat := 0
  /-- How long a probe takes. -/
  probeTime : Nat := 1000
  /-- How long sending takes. -/
  transmitTime : Nat := 0
  /-- What is still to happen, in the order it was planned. -/
  planned : List Planned := []
  /-- The answers given in place of the device, none meaning that the device answers. -/
  faults : CallKind → List (Option DeviceError) := fun _ => []
  /-- The calls so far, the newest first. -/
  calls : List CallRun := []

namespace Bench

variable {δ α : Type}

/-- Plans a poke. -/
def plan (time : Nat) (poke : Poke) (bench : Bench δ) : Bench δ :=
  { bench with planned := bench.planned ++ [{ time, poke }] }

/-- Queues faults: `skip` calls of a kind pass, then `count` are answered by the error. -/
def addFaults (kind : CallKind) (error : DeviceError) (skip count : Nat) (bench : Bench δ) :
    Bench δ :=
  { bench with
    faults := fun other =>
      if other = kind then
        bench.faults other ++ List.replicate skip none ++ List.replicate count (some error)
      else
        bench.faults other }

/-- Lets what is due happen, in the order it was planned. -/
def settle [Pokeable δ] (bench : Bench δ) : Bench δ :=
  let (due, later) := bench.planned.partition (·.time ≤ bench.clock)
  { bench with
    device := due.foldl (fun device planned => Pokeable.poke planned.poke device) bench.device
    planned := later }

/-- Lets time pass. -/
def elapse (time : Nat) (bench : Bench δ) : Bench δ := { bench with clock := bench.clock + time }

/-- Writes down a call. -/
def note (call : Call) (faulted : Bool) (bench : Bench δ) : Bench δ :=
  match bench.calls with
  | last :: rest =>
      if last.call = call ∧ last.faulted = faulted then
        { bench with calls := { last with count := last.count + 1 } :: rest }
      else
        { bench with calls := { call, faulted, count := 1 } :: bench.calls }
  | [] => { bench with calls := [{ call, faulted, count := 1 }] }

/-- The answer that is given in place of the device, taken off its queue. -/
def takeFault (kind : CallKind) (bench : Bench δ) : Option DeviceError × Bench δ :=
  match bench.faults kind with
  | [] => (none, bench)
  | fault :: rest =>
      (fault,
        { bench with faults := fun other => if other = kind then rest else bench.faults other })

/-- One call: what is due happens, then a fault answers or, after `duration`, the device. -/
def perform [Pokeable δ] (kind : CallKind) (call : Call) (duration : Nat)
    (operation : Operation δ α) : Operation (Bench δ) α :=
  .of fun bench =>
    let (fault, bench) := bench.settle.takeFault kind
    match fault with
    | some error => (.error error, bench.note call true)
    | none =>
        let bench := (bench.note call false).elapse duration
        let (answer, device) := operation.run bench.device
        (answer, { bench with device })

/-- A probe takes its time before anything else happens. -/
def probe [Device δ] [Pokeable δ] : Operation (Bench δ) Activity :=
  .of fun bench =>
    (perform .probe .probe 0 (Device.probe : Operation δ _)).run (bench.elapse bench.probeTime)

/-- At least as many as the busy answers and the arrivals still to come. -/
def horizon [Pokeable δ] (bench : Bench δ) : Nat :=
  Pokeable.busyLeft bench.device +
    bench.planned.foldr (fun planned total => planned.poke.weight + total) 0

instance [Device δ] [Pokeable δ] : Timed (Bench δ) where
  bringUp := perform .bringUp .bringUp 0 Device.bringUp
  transmit data :=
    .of fun bench =>
      (perform .transmit (.transmit data) bench.transmitTime (Device.transmit data)).run bench
  read room := perform .read (.read room) 0 (Device.read room)
  probe := probe
  listen := perform .listen .listen 0 Device.listen
  dutyCycle := perform .dutyCycle .dutyCycle 0 Device.dutyCycle
  sleep := perform .sleep .sleep 0 Device.sleep
  setPreamble side length bench :=
    let bench := bench.note (.preamble side length) false
    { bench with device := Device.setPreamble side length bench.device }
  attend bench :=
    let bench := bench.settle
    { bench with device := Device.attend bench.device }
  signal bench := Device.signal bench.device
  acknowledge bench := { bench with device := Device.acknowledge bench.device }
  now bench := bench.clock
  waitUntil time bench := { bench with clock := max bench.clock time }
  horizon := horizon

end Bench

end StationMesh.Radio
