import Guardhouse.Navigator

/-!
# Bodies that stay where they are

Two bodies that never move by themselves: one that does no more than a navigator must, and one that
keeps a record of its orders.
-/

namespace Guardhouse

/-- A body that stays where it is. It has arrived if it was sent nowhere, or exactly to where it is.
-/
structure FixedNavigator where
  position : Vec3
  destination : Option Vec3 := none
  deriving DecidableEq

instance : Navigator FixedNavigator where
  position n := n.position
  destination n := n.destination
  hasReachedDestination n :=
    match n.destination with
    | some destination => destination == n.position
    | none => true
  setDestination n destination := { n with destination := some destination }

/-- A body that stays where it is, has arrived if it is said to, and records its orders. -/
structure RecordingNavigator where
  position : Vec3
  /-- The last destination. -/
  destination : Option Vec3 := none
  /-- Whether the body says that it has arrived. -/
  reached : Bool := false
  /-- The last speed multiplier; zero before the first. -/
  speedMultiplier : Float32 := 0
  /-- The sum of the turns, in degrees. -/
  rotated : Float32 := 0
  /-- The number of destinations. -/
  issued : UInt64 := 0
  deriving DecidableEq

instance : Navigator RecordingNavigator where
  position n := n.position
  destination n := n.destination
  hasReachedDestination n := n.reached
  setDestination n destination :=
    { n with destination := some destination, issued := n.issued + 1 }
  setSpeedMultiplier n multiplier := { n with speedMultiplier := multiplier }
  rotateBy n degrees := { n with rotated := n.rotated + degrees }

end Guardhouse
