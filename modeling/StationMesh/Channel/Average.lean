/-!
# Moving averages

An exponential moving average over 256 samples in whole numbers. The accumulator is 256 times the
average. Each sample takes a share of 1/256 off it and adds the sample, which is cut to the
largest average that the accumulator can hold.
-/

namespace StationMesh.Channel

/-- An exponential moving average. -/
structure Average where
  accumulator : UInt32 := 0
deriving DecidableEq, Repr

namespace Average

/-- How many samples the average looks back on. -/
def period : UInt32 := 256

/-- The largest sample, and the largest average. -/
def maxSample : UInt32 := 0xFFFFFFFF / period

def value (average : Average) : UInt32 := average.accumulator / period

def record (sample : UInt32) (average : Average) : Average :=
  { accumulator := average.accumulator - average.value + min sample maxSample }

end Average

end StationMesh.Channel
