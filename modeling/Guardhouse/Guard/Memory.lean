import Guardhouse.Guard.State
import Guardhouse.Vec3

/-!
# Memory of a guard

Everything that a guard remembers from one frame to the next.
-/

namespace Guardhouse
namespace Guard

/-- What a guard remembers. -/
structure Memory where
  state : State := .patrol
  /-- The waypoint that the guard is heading for, or returns to after a pursuit. -/
  patrolIndex : Nat := 0
  /-- Whether the guard has been sent to that waypoint since it began to patrol. -/
  patrolDestinationIssued : Bool := false
  /-- Where the target was last perceived in this pursuit. -/
  lastKnownPosition : Option Vec3 := none
  chaseTimeRemaining : Float32 := 0
  searchTimeRemaining : Float32 := 0
  speedMultiplier : Float32 := 1
  /-- `1` or `-1`: which way the guard is turning while it looks around. -/
  lookDirection : Float32 := 1
  /-- How far the guard has turned from the heading it arrived with, in degrees. -/
  lookRotation : Float32 := 0
  /-- Whether the pursuit has been reported. -/
  alertRaised : Bool := false
  /-- Whether the guard has begun to return in this very frame. -/
  returnStarted : Bool := false
  caughtReports : UInt64 := 0
  /-- The time that the guard has seen pass, in seconds. -/
  clock : Float := 0
  deriving DecidableEq

namespace Memory

instance : Inhabited Memory := ⟨{}⟩

/-- Equality of the numbers in two memories: nothing equals what is not a number. -/
instance : BEq Memory where
  beq a b :=
    a.state == b.state && a.patrolIndex == b.patrolIndex &&
    a.patrolDestinationIssued == b.patrolDestinationIssued &&
    a.lastKnownPosition == b.lastKnownPosition &&
    a.chaseTimeRemaining == b.chaseTimeRemaining &&
    a.searchTimeRemaining == b.searchTimeRemaining &&
    a.speedMultiplier == b.speedMultiplier && a.lookDirection == b.lookDirection &&
    a.lookRotation == b.lookRotation && a.alertRaised == b.alertRaised &&
    a.returnStarted == b.returnStarted && a.caughtReports == b.caughtReports &&
    a.clock == b.clock

end Memory
end Guard
end Guardhouse
