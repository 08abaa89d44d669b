import StationMesh.Radio.Bench

/-!
# The echo radio

A device that hears its own transmissions: a frame it sends is found in its receive buffer as if
another station had sent it. Frames can also be put there from outside, with or without a failed
check. A transmission that is made to fail leaves the device down until it is brought up again.
-/

namespace StationMesh.Radio

/-- The echo radio. -/
structure Echo where
  signal : Signal := {}
  /-- The received frame. -/
  buffer : Bytes := []
  /-- The received frame passed its check. -/
  intact : Bool := true
  up : Bool := false
  mode : Mode := .standby
  transmitPreamble : UInt16 := 0
  receivePreamble : UInt16 := 0
  /-- How many probes are still going to find the channel busy. -/
  busyLeft : Nat := 0
  /-- How many probes were made. -/
  probes : Nat := 0
  /-- How many frames were sent. -/
  sent : Nat := 0
  /-- What the next transmission fails with. -/
  failure : Option DeviceError := none
  /-- The last frame sent. -/
  lastSent : Bytes := []
  /-- The length of the preamble in front of it. -/
  lastPreamble : UInt16 := 0
deriving DecidableEq, Repr

namespace Echo

/-- A frame arrives; one that was not read is overwritten. -/
def inject (data : Bytes) (intact : Bool) (echo : Echo) : Echo :=
  { echo with buffer := data.take bufferSize, intact, signal := echo.signal.raise }

/-- Makes the device ready; the received frame is dropped. -/
def bringUp : Operation Echo Unit :=
  .of fun echo => (.ok (), { echo with up := true, mode := .standby, buffer := [] })

def transmit (data : Bytes) : Operation Echo Unit :=
  .of fun echo =>
    if !echo.up then
      (.error .initializationFailed, echo)
    else
      match echo.failure with
      | some error => (.error error, { echo with failure := none, up := false })
      | none =>
          if bufferSize < data.length then
            (.error .transmissionFailed, echo)
          else
            let echo :=
              { echo with
                sent := echo.sent + 1
                lastSent := data
                lastPreamble := echo.transmitPreamble
                mode := .standby }
            (.ok (), echo.inject data true)

/-- Reads the received frame, which stays in the buffer. -/
def read (room : Nat) : Operation Echo Reception :=
  .of fun echo =>
    if !echo.up then
      (.error .initializationFailed, echo)
    else if room < echo.buffer.length then
      (.error .bufferTooSmall, echo)
    else
      (.ok { data := echo.buffer, intact := echo.intact }, echo)

def probe : Operation Echo Activity :=
  .of fun echo =>
    if !echo.up then
      (.error .cadFailed, echo)
    else
      let echo := { echo with probes := echo.probes + 1 }
      if 0 < echo.busyLeft then
        (.ok .busy, { echo with busyLeft := echo.busyLeft - 1 })
      else
        (.ok .free, echo)

/-- Changes the receiver of a device that is up. -/
def enter (mode : Mode) : Operation Echo Unit :=
  .of fun echo =>
    if echo.up then (.ok (), { echo with mode }) else (.error .initializationFailed, echo)

instance : Device Echo where
  bringUp := bringUp
  transmit := transmit
  read := read
  probe := probe
  listen := enter .continuous
  dutyCycle := enter .dutyCycle
  sleep := .of fun echo => (.ok (), { echo with mode := .sleep })
  setPreamble
    | .transmit, length, echo => { echo with transmitPreamble := length }
    | .receive, length, echo => { echo with receivePreamble := length }
  attend echo := echo
  signal echo := echo.signal
  acknowledge echo := { echo with signal := echo.signal.lower }

instance : Pokeable Echo where
  poke
    | .inject data intact, echo => echo.inject data intact
    | .busy count, echo => { echo with busyLeft := count }
    | .fail error, echo => { echo with failure := some error }
  busyLeft echo := echo.busyLeft

end Echo

end StationMesh.Radio
