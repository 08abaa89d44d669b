import StationMesh.Bytes
import StationMesh.Channel.Average

/-!
# How the channel is doing

The share of frames that fail their check, the share of frames that are lost before they are
read, and the time spent waiting for the channel, each as a moving average. Shares are in
hundredths of a percent, so a sample is 0 or 10000.
-/

namespace StationMesh.Channel

/-- The averages of a channel. -/
structure Statistics where
  crcErrors : Average := {}
  lost : Average := {}
  /-- In milliseconds. -/
  accessDelay : Average := {}
deriving DecidableEq, Repr

/-- The averages as they are reported, each cut to 16 bits. -/
structure Report where
  crcErrors : UInt16 := 0
  lost : UInt16 := 0
  accessDelay : UInt16 := 0
deriving DecidableEq, Repr

namespace Statistics

/-- A share of one hundred percent. -/
def fullScale : UInt32 := 10000

/-- Notes whether a frame passed its check. -/
def recordCheck (passed : Bool) (statistics : Statistics) : Statistics :=
  { statistics with
    crcErrors := statistics.crcErrors.record (if passed then 0 else fullScale) }

/-- Notes frames that were announced and never read. -/
def recordLost : (count : Nat) → Statistics → Statistics
  | 0, statistics => statistics
  | count + 1, statistics =>
      recordLost count { statistics with lost := statistics.lost.record fullScale }

/-- Notes a frame that was read. -/
def recordReceived (statistics : Statistics) : Statistics :=
  { statistics with lost := statistics.lost.record 0 }

/-- Notes a time in microseconds that was spent waiting for the channel. -/
def recordDelay (elapsed : Nat) (statistics : Statistics) : Statistics :=
  let sample := UInt32.ofNat (min (elapsed / 1000) 0xFFFFFFFF)
  { statistics with accessDelay := statistics.accessDelay.record sample }

/-- An average cut to 16 bits. -/
def cut (value : UInt32) : UInt16 := (min value 0xFFFF).toUInt16

def report (statistics : Statistics) : Report where
  crcErrors := cut statistics.crcErrors.value
  lost := cut statistics.lost.value
  accessDelay := cut statistics.accessDelay.value

end Statistics

/-- The written form: two bytes for each average. -/
def Report.encode (report : Report) : Bytes :=
  Bytes.ofWord report.crcErrors ++ Bytes.ofWord report.lost ++ Bytes.ofWord report.accessDelay

end StationMesh.Channel
