import Guardhouse.Navigator

/-!
# Straight-line bodies

A body that walks straight to its destination, without obstacles, at its base speed times a
multiplier, and faces where it walks. Telling it a destination only records it; `step` moves it.
-/

namespace Guardhouse

/-- A body that walks straight to its destination. -/
structure DirectNavigator where
  position : Vec3
  yawDegrees : Float32 := 0
  destination : Option Vec3 := none
  baseSpeed : Float32
  speedMultiplier : Float32 := 1
  arrivalDistance : Float32
  deriving DecidableEq

namespace DirectNavigator

/-- A body at rest that faces along `z`; neither its speed nor its arrival distance is negative. -/
def start (position : Vec3) (baseSpeed arrivalDistance : Float32) : DirectNavigator where
  position := position
  baseSpeed := atLeastZero baseSpeed
  arrivalDistance := atLeastZero arrivalDistance

def speed (n : DirectNavigator) : Float32 := n.baseSpeed * n.speedMultiplier

/-- The body put somewhere else. -/
def warp (n : DirectNavigator) (position : Vec3) : DirectNavigator :=
  { n with position := position }

def hasReachedDestination (n : DirectNavigator) : Bool :=
  match n.destination with
  | some destination => n.position.distance destination ≤ n.arrivalDistance
  | none => true

/-- The body after `dt` seconds of walking. It turns to its destination, unless that is straight
above or below. -/
def step (n : DirectNavigator) (dt : Float32) : DirectNavigator :=
  match n.destination with
  | none => n
  | some destination =>
    if n.hasReachedDestination || dt ≤ 0 then n
    else
      let heading := (destination - n.position).flat
      let yaw := if heading.normalized?.isSome then heading.yawDegrees else n.yawDegrees
      { n with
        yawDegrees := yaw
        position := n.position.moveTowards destination (n.speed * dt) }

instance : Navigator DirectNavigator where
  position := position
  destination := destination
  hasReachedDestination := hasReachedDestination
  forward n := Vec3.ofYawDegrees n.yawDegrees
  setDestination n destination := { n with destination := some destination }
  setSpeedMultiplier n multiplier := { n with speedMultiplier := atLeastZero multiplier }
  rotateBy n degrees := { n with yawDegrees := wrapTurn (n.yawDegrees + degrees) }

end DirectNavigator

end Guardhouse
