import Guardhouse.Random

/-!
# Frames

The input of an agent for one step of its host: the number of the frame, the time since the frame
before, and the seed of the run. All timers advance by `Frame.dt`, which is never negative and
always finite.
-/

namespace Guardhouse

/-- What hosts call their agents by. The word of an agent does not depend on when or where the agent
was made, so it is the same in every run. -/
class AgentId (A : Type) where
  stableId : A → UInt64

instance : AgentId UInt64 := ⟨id⟩

instance : AgentId UInt32 := ⟨UInt32.toUInt64⟩

/-- One frame of a run. -/
structure Frame where
  tick : UInt64
  dtSeconds : Float32
  seed : UInt64 := 0
  deriving DecidableEq

namespace Frame

/-- The frame after this one, of the same length and seed. -/
def next (f : Frame) : Frame := { f with tick := f.tick + 1 }

/-- The time that passes in the frame; zero if the given time is negative or not finite. -/
def dt (f : Frame) : Float32 := if f.dtSeconds.isFinite then atLeastZero f.dtSeconds else 0

/-- The generator of one stream of an agent. -/
def random (f : Frame) (agent stream : UInt64) : Random :=
  ⟨Random.deriveSeed f.seed agent stream⟩

/-- The generator of one stream of an agent, by what its host calls it. -/
def randomFor {A : Type} [AgentId A] (f : Frame) (agent : A) (stream : UInt64) : Random :=
  f.random (AgentId.stableId agent) stream

end Frame

/-- A clock that moves only when it is told to, and never back. -/
structure Clock where
  now : Float := 0
  deriving DecidableEq

namespace Clock

/-- The clock `dt` seconds later; a step that is not positive is ignored. -/
def advance (c : Clock) (dt : Float) : Clock := if 0 < dt then ⟨c.now + dt⟩ else c

end Clock

end Guardhouse
