import Guardhouse.Guard.Context
import Guardhouse.Status

/-!
# The conduct of a guard

The single decisions and actions of a guard, as its tree calls them. A decision asks its perception
at most what it needs to know: what has been settled by the state of the guard is not looked at
again. An action never waits; what has to go on in the next frame answers `running`.
-/

namespace Guardhouse
namespace Guard
namespace Context

variable {P N R : Type} [Perception P] [Navigator N] [Referee R]

/-! ### Catching -/

/-- Whether there is a target nearer than the catch distance, perceived or not. -/
def inCatchRange (c : Context P N R) : Bool × Context P N R :=
  match c.askPosition with
  | (some target, c) =>
    (decide ((Navigator.position c.navigator).distance target < c.config.catchDistance), c)
  | (none, c) => (false, c)

/-- Reports the target caught. -/
def reportCaught (c : Context P N R) : Status × Context P N R :=
  let c := { c with memory.caughtReports := c.memory.caughtReports + 1 }
  let c := c.note (.caught c.agent c.frame.tick c.memory.state)
  let (referee, journal) := Referee.reportCaught c.referee
  (.success, { c with referee, journal := c.journal ++ journal })

/-! ### Chasing -/

/-- Whether the target is perceived, or has been in this chase so lately that the chase goes on. -/
def shouldChase (c : Context P N R) : Bool × Context P N R :=
  match c.perceive with
  | (some _, c) => (true, c)
  | (none, c) => (c.memory.state == .chase && decide (0 < c.memory.chaseTimeRemaining), c)

/-- Remembers where the target is and starts the timer of the chase again; without the target, lets
the timer run. -/
def refreshChase (c : Context P N R) : Context P N R :=
  match c.perceive with
  | (some target, c) =>
    { c with
      memory.lastKnownPosition := some target
      memory.chaseTimeRemaining := c.config.chasePersistence }
  | (none, c) =>
    { c with memory.chaseTimeRemaining := atLeastZero (c.memory.chaseTimeRemaining - c.dt) }

def enterChase (c : Context P N R) : Context P N R := (c.enter .chase).2

/-- Heads for the target, or for where it was last perceived. -/
def moveToTarget (c : Context P N R) : Status × Context P N R :=
  let (target, c) := c.perceive
  match target.or c.memory.lastKnownPosition with
  | some destination => (.success, c.headFor destination)
  | none => (.failure, c)

/-- Reports the pursuit, once. -/
def raiseAlert (c : Context P N R) : Status × Context P N R :=
  if c.memory.alertRaised then (.success, c)
  else
    let c := { c with memory.alertRaised := true }
    let c := c.note (.spotted c.agent c.frame.tick)
    let (referee, journal) := Referee.reportSpotted c.referee
    (.success, { c with referee, journal := c.journal ++ journal })

/-! ### Searching -/

/-- Whether the guard is searching and has time left for it. -/
def searching (c : Context P N R) : Bool :=
  c.memory.state == .search && decide (0 < c.memory.searchTimeRemaining)

/-- Whether a chase has just run out and the target is out of sight, or a search is going on. -/
def shouldSearch (c : Context P N R) : Bool × Context P N R :=
  if c.memory.state == .chase && decide (c.memory.chaseTimeRemaining ≤ 0) &&
      c.memory.lastKnownPosition.isSome then
    match c.perceive with
    | (some _, c) => (c.searching, c)
    | (none, c) => (true, c)
  else (c.searching, c)

/-- The stream of random words that a guard takes the side from to which it first looks around. -/
def lookAroundStream : UInt64 := 0x4C4F4F4B

/-- Begins a search: starts its timer and chooses a side. -/
def enterSearch (c : Context P N R) : Context P N R :=
  match c.enter .search with
  | (false, c) => c
  | (true, c) =>
    { c with
      memory.searchTimeRemaining := c.config.searchDuration
      memory.lookDirection := (c.frame.random c.agent lookAroundStream).sign.1
      memory.lookRotation := 0 }

/-- Turns the body on, up to the end of the sweep; there the direction is reversed. -/
def lookAround (c : Context P N R) : Context P N R :=
  let step := c.config.lookAroundSpeed * c.dt * c.memory.lookDirection
  let current := c.memory.lookRotation
  let wanted := current + step
  let ended := decide (c.config.lookAroundSweep ≤ wanted.abs)
  let next := if ended then withSignOf c.config.lookAroundSweep wanted else wanted
  let direction := if ended then -c.memory.lookDirection else c.memory.lookDirection
  { c.turn (next - current) with
    memory.lookDirection := direction
    memory.lookRotation := next }

/-- Walks to where the target was last perceived, and looks around there. -/
def searchLastKnownPosition (c : Context P N R) : Status × Context P N R :=
  match c.memory.lastKnownPosition with
  | none => (.failure, c)
  | some point =>
    let c := if Navigator.destination c.navigator == some point then c else c.headFor point
    if c.arrived then (.success, c.lookAround) else (.running, c)

def countDownSearch (c : Context P N R) : Status × Context P N R :=
  (.success,
    { c with memory.searchTimeRemaining := atLeastZero (c.memory.searchTimeRemaining - c.dt) })

/-! ### Returning -/

/-- Whether a search has run out, or the guard is returning. -/
def shouldReturn (c : Context P N R) : Bool :=
  c.memory.state == .search && decide (c.memory.searchTimeRemaining ≤ 0) ||
    c.memory.state == .returnToPatrol

/-- Begins to return to the waypoint that the guard was heading for. -/
def enterReturn (c : Context P N R) : Context P N R :=
  match c.enter .returnToPatrol with
  | (false, c) => c
  | (true, c) => { c with memory.returnStarted := true }.headForWaypoint

/-- Whether the guard is back on its route. It never is in the frame in which it begins to return;
an empty route is reached at once after that. -/
def reachedRoute (c : Context P N R) : Bool :=
  !c.memory.returnStarted && (c.route.isEmpty || c.arrived)

def travelToRoute (c : Context P N R) : Status × Context P N R :=
  (.running, { c with memory.returnStarted := false })

/-! ### Patrolling -/

/-- Begins to patrol and forgets the pursuit. -/
def enterPatrol (c : Context P N R) : Context P N R :=
  match c.enter .patrol with
  | (false, c) => { c with memory.lastKnownPosition := none }
  | (true, c) =>
    { c with
      memory.patrolDestinationIssued := false
      memory.alertRaised := false
      memory.returnStarted := false
      memory.chaseTimeRemaining := 0
      memory.searchTimeRemaining := 0
      memory.lookRotation := 0
      memory.lastKnownPosition := none }

/-- Walks the route, waypoint after waypoint, from its end back to its beginning. -/
def followRoute (c : Context P N R) : Status × Context P N R :=
  if c.route.isEmpty then (.failure, c)
  else if !c.memory.patrolDestinationIssued then
    let c :=
      { c with
        memory.patrolIndex := c.memory.patrolIndex % c.route.size
        memory.patrolDestinationIssued := true }
    (.running, (c.pace c.config.patrolSpeedMultiplier).headForWaypoint)
  else if c.arrived then
    let c := { c with memory.patrolIndex := (c.memory.patrolIndex + 1) % c.route.size }
    (.running, (c.note (.nextWaypoint c.agent c.memory.patrolIndex)).headForWaypoint)
  else (.running, c)

end Context
end Guard
end Guardhouse
