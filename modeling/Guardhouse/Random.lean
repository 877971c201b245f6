import Guardhouse.Number.Rounding

/-!
# Seeded random words

A generator of 64-bit words whose whole state is one word. Every draw adds a fixed odd step to the
state and scrambles the result with `mix`, so equal seeds give equal sequences. `deriveSeed` makes
one seed out of three words: a global seed, an agent and a stream of that agent.
-/

namespace Guardhouse

namespace Random

/-- The odd number that each draw adds to the state. -/
def step : UInt64 := 0x9E3779B97F4A7C15

/-- Scrambles a word: three shifted exclusive ors with two multiplications between them, each of
which can be undone. -/
def mix (x : UInt64) : UInt64 :=
  let x := (x ^^^ (x >>> 30)) * 0xBF58476D1CE4E5B9
  let x := (x ^^^ (x >>> 27)) * 0x94D049BB133111EB
  x ^^^ (x >>> 31)

/-- The seed of one stream of one agent under a global seed. -/
def deriveSeed (globalSeed agent stream : UInt64) : UInt64 :=
  mix (globalSeed ^^^ mix (agent + step) ^^^ mix stream)

end Random

/-- A generator of random words. -/
structure Random where
  state : UInt64
  deriving DecidableEq, Repr

namespace Random

/-- The next word, and the generator after it. -/
def word (r : Random) : UInt64 × Random :=
  let state := r.state + step
  (mix state, ⟨state⟩)

/-- The upper half of the next word. -/
def halfWord (r : Random) : UInt32 × Random :=
  let (x, r) := r.word
  ((x >>> 32).toUInt32, r)

/-- The top 24 bits of the next word, as a fraction in `[0, 1)`. -/
def fraction (r : Random) : Float32 × Random :=
  let (x, r) := r.halfWord
  ((x >>> 8).toFloat32 / UInt32.toFloat32 16777216, r)

/-- The lowest bit of the next word. -/
def bool (r : Random) : Bool × Random :=
  let (x, r) := r.word
  (x &&& 1 == 1, r)

/-- `1` or `-1`, by the lowest bit of the next word. -/
def sign (r : Random) : Float32 × Random :=
  let (positive, r) := r.bool
  (if positive then 1 else -1, r)

end Random

end Guardhouse
