import StationMesh.Channel.ReceiveQueue
import StationMesh.Channel.Settings
import StationMesh.Channel.Statistics
import StationMesh.Radio.Device
import StationMesh.Random

/-!
# The channel controller

The controller owns the radio. Between transmissions it keeps the radio in an idle state, and it
moves received frames from the radio, which holds only one, into the receive queue. Whenever the
radio has done something else it is put back into its idle state.

`readIfPossible` moves at most one frame, `serviceReceiver` all that there are.
-/

namespace StationMesh.Channel

open Radio

/-- What stops an operation of the controller. -/
inductive ChannelError where
  /-- The channel stayed busy for too long. -/
  | timeout
  /-- There is no room for the received frame, which stays in the radio. -/
  | queueFull
  /-- The received frame failed its check and is gone. -/
  | crcMismatch
  /-- The idle state cannot be asked for. -/
  | invalidState
  | driverFault (error : DeviceError)
deriving DecidableEq, Repr

def ChannelError.message : ChannelError → String
  | timeout => "channel access timed out"
  | queueFull => "receive queue is full"
  | crcMismatch => "received frame failed CRC"
  | invalidState => "invalid idle state"
  | driverFault error => "radio driver fault: " ++ error.message

/-- What the radio does between transmissions. -/
inductive IdleState where
  /-- At the start; it cannot be asked for. -/
  | uninitialized
  | continuousReceive
  /-- Only frames behind a long preamble are caught. -/
  | intermittentReceive
  | sleep
deriving DecidableEq, Repr

/-- How many received frames can be queued. -/
def queueSlots : Nat := 8

/-- How many bytes the received frames in the queue can take. -/
def queueArena : Nat := 255

/-- A radio with all that is kept about its channel. -/
structure Controller (ρ : Type) where
  radio : ρ
  settings : Settings
  idle : IdleState := .uninitialized
  queue : ReceiveQueue queueSlots queueArena := {}
  statistics : Statistics := {}
  /-- The packet counter when an announcement was taken note of last. -/
  lastCounter : UInt16
  random : Random

namespace Controller

variable {ρ α : Type}

abbrev Operation (ρ α : Type) := Action (Controller ρ) ChannelError α

variable [Timed ρ]

/-- A controller for a radio that nothing has been done with yet. -/
def new (radio : ρ) (settings : Settings) (seed : UInt64) (generator : Generator := .wyRand) :
    Controller ρ :=
  let radio := Device.attend radio
  { radio
    settings
    lastCounter := (Device.signal radio).counter
    random := .ofSeed generator seed }

def queued (controller : Controller ρ) : Nat := controller.queue.length

/-- An operation of the radio, whose errors are driver faults. -/
def onRadio (operation : Radio.Operation ρ α) : Operation ρ α :=
  operation.zoom Controller.radio (fun controller radio => { controller with radio }) .driverFault

/-- Changes the radio in a way that cannot fail. -/
def adjust (change : ρ → ρ) : Operation ρ Unit :=
  modify fun controller => { controller with radio := change controller.radio }

def tally (change : Statistics → Statistics) : Operation ρ Unit :=
  modify fun controller => { controller with statistics := change controller.statistics }

def now : Operation ρ Nat := do
  return Timed.now (← get).radio

def enterIdle : Operation ρ Unit := do
  let controller ← get
  match controller.idle with
  | .uninitialized => pure ()
  | .continuousReceive =>
      adjust (Device.setPreamble .receive controller.settings.continuousPreamble)
      onRadio Device.listen
  | .intermittentReceive =>
      adjust (Device.setPreamble .receive controller.settings.intermittentPreamble)
      onRadio Device.dutyCycle
  | .sleep => onRadio Device.sleep

/-- Brings the radio up and puts it into the idle state. -/
def reinitialize : Operation ρ Unit := do
  onRadio Device.bringUp
  enterIdle

/-- Changes the idle state. The change is noted before the radio follows. -/
def setIdle (idle : IdleState) : Operation ρ Unit := do
  if idle = .uninitialized then
    throw .invalidState
  modify fun controller => { controller with idle }
  enterIdle

/-- Takes note of an announcement and answers how many frames were announced since the last
one. -/
def takeAnnounced : Operation ρ UInt16 := do
  adjust Device.attend
  let controller ← get
  match (Device.signal controller.radio).announced with
  | none => pure 0
  | some counter =>
      set { controller with
        radio := Device.acknowledge controller.radio
        lastCounter := counter }
      pure (counter - controller.lastCounter)

/-- Moves the received frame, if there is one, into the queue and answers its length. -/
def readIfPossible : Operation ρ (Option Nat) := do
  adjust Device.attend
  let controller ← get
  if !(Device.signal controller.radio).waiting then
    return none
  let some room := controller.queue.writable | throw .queueFull
  match ← (Device.read room : Radio.Operation ρ _) |> onRadio |>.attempt with
  | .error (.driverFault .bufferTooSmall) => throw .queueFull
  | .error error =>
      let announced ← takeAnnounced
      tally (.recordLost announced.toNat)
      enterIdle
      throw error
  | .ok reception =>
      let announced ← takeAnnounced
      tally (.recordLost (announced.toNat - 1))
      tally .recordReceived
      tally (.recordCheck reception.intact)
      if !reception.intact then
        enterIdle
        throw .crcMismatch
      modify fun controller =>
        let filled := controller.queue.fill reception.data
        { controller with queue := (filled.commit reception.data.length).getD filled }
      enterIdle
      return some reception.data.length

/-- Moves received frames until there is none or no room for it, and answers how many; `fuel`
bounds the number of tries. -/
def serviceUpTo : (fuel received : Nat) → Operation ρ Nat
  | 0, received => pure received
  | fuel + 1, received => do
      match ← readIfPossible.attempt with
      | .ok (some _) => serviceUpTo fuel (received + 1)
      | .ok none => pure received
      | .error .queueFull => pure received
      | .error .crcMismatch => serviceUpTo fuel received
      | .error error => throw error

/-- Moves all received frames into the queue as far as there is room. A frame that is announced
now and those that can still arrive are all there can be. -/
def serviceReceiver : Operation ρ Nat := do
  serviceUpTo (Timed.horizon (← get).radio + 2) 0

def dequeue (controller : Controller ρ) : Option Bytes × Controller ρ :=
  let (frame, queue) := controller.queue.dequeue
  (frame, { controller with queue })

/-- Changes the settings; they take effect with the next transmission or idle state. -/
def configure (settings : Settings) (controller : Controller ρ) : Controller ρ :=
  { controller with settings }

end Controller

end StationMesh.Channel
