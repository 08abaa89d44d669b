/-!
# Random numbers

What a station draws are bytes, and any generator will do that makes a state from a seed and hands
out one word after the other. `Generator.wyRand` is the one that is drawn from if no other is named.
-/

namespace StationMesh

/-- A generator of random numbers, whose state is one word of 64 bits. -/
structure Generator where
  /-- The state for a seed. -/
  start : UInt64 → UInt64
  /-- The word that is drawn in a state, and the state that follows. -/
  next : UInt64 → UInt32 × UInt64

namespace Generator

/-- The low and the high half of the product, folded into one word. -/
def fold (left right : UInt64) : UInt64 :=
  let high := UInt64.ofNat (left.toNat * right.toNat / UInt64.size)
  (left * right) ^^^ high

/-- Each draw moves the state on by an odd constant and folds the product of the state and a
scrambled copy of it. -/
def wyRand : Generator where
  start seed := seed
  next state :=
    let state := state + 0xA0761D6478BD642F
    ((fold state (state ^^^ 0xE7037ED1A0B428DB)).toUInt32, state)

end Generator

/-- Random numbers to be drawn from a generator. -/
structure Random where
  generator : Generator
  state : UInt64

namespace Random

def ofSeed (generator : Generator) (seed : UInt64) : Random :=
  { generator, state := generator.start seed }

/-- Draws a byte, the lowest one of a word. -/
def nextByte (random : Random) : UInt8 × Random :=
  let (word, state) := random.generator.next random.state
  (word.toUInt8, { random with state })

end Random

end StationMesh
