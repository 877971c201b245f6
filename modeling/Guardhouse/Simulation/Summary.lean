import Guardhouse.Guard.State

/-!
# Summaries

What a simulation has counted so far: frames, frames by state, changes of state, and reports.
-/

namespace Guardhouse
namespace Simulation

/-- The counts of a simulation. -/
structure Summary where
  ticks : UInt64 := 0
  patrolTicks : UInt64 := 0
  chaseTicks : UInt64 := 0
  searchTicks : UInt64 := 0
  returnTicks : UInt64 := 0
  /-- The frames that reported another state than the frame before. -/
  transitions : UInt64 := 0
  caught : UInt64 := 0
  spotted : UInt64 := 0
  deriving DecidableEq, Repr

namespace Summary

/-- The summary with one more frame in a state. -/
def countTick (s : Summary) : Guard.State → Summary
  | .patrol => { s with ticks := s.ticks + 1, patrolTicks := s.patrolTicks + 1 }
  | .chase => { s with ticks := s.ticks + 1, chaseTicks := s.chaseTicks + 1 }
  | .search => { s with ticks := s.ticks + 1, searchTicks := s.searchTicks + 1 }
  | .returnToPatrol => { s with ticks := s.ticks + 1, returnTicks := s.returnTicks + 1 }

/-- The summary with one more frame in a state, after a frame in state `previous` if there was one.
-/
def record (s : Summary) (previous : Option Guard.State) (state : Guard.State) : Summary :=
  let s := s.countTick state
  if previous.any (· != state) then { s with transitions := s.transitions + 1 } else s

@[simp] theorem ticks_record (s : Summary) (previous : Option Guard.State) (state : Guard.State) :
    (s.record previous state).ticks = s.ticks + 1 := by
  unfold record
  split <;> cases state <;> rfl

/-- A summary as lines of text. -/
def lines (s : Summary) : List String :=
  ["Simulated " ++ toString s.ticks ++ " frames",
    "  patrol:           " ++ toString s.patrolTicks,
    "  chase:            " ++ toString s.chaseTicks,
    "  search:           " ++ toString s.searchTicks,
    "  return to patrol: " ++ toString s.returnTicks,
    "Transitions: " ++ toString s.transitions,
    "Spotted:     " ++ toString s.spotted,
    "Caught:      " ++ toString s.caught]

end Summary
end Simulation
end Guardhouse
