import Guardhouse.Guard.Conduct

/-!
# The conduct of a guard, taken apart

Some of what a guard does depends on an answer, on a change of its state or on what it remembers.
Here each such step is an equation between the step and its parts: the question, and what follows
from an answer; the change to another state, and what goes with it.
-/

namespace Guardhouse
namespace Guard

/-- The pace of a guard in a state. -/
def Config.pace (config : Config) : State → Float32
  | .patrol => config.patrolSpeedMultiplier
  | .chase => config.chaseSpeedMultiplier
  | .search => config.searchSpeedMultiplier
  | .returnToPatrol => config.returnSpeedMultiplier

namespace Memory

variable (config : Config) (dt : Float32) (target : Option Vec3) (next : State) (m : Memory)

/-- The memory after the guard has asked for its target in a chase: where the target is perceived,
and the timer started again, or the timer run down by `dt`. -/
def refresh : Memory :=
  match target with
  | some target =>
    { m with
      lastKnownPosition := some target
      chaseTimeRemaining := config.chasePersistence }
  | none => { m with chaseTimeRemaining := atLeastZero (m.chaseTimeRemaining - dt) }

@[simp] theorem alertRaised_refresh : (m.refresh config dt target).alertRaised = m.alertRaised := by
  cases target <;> rfl

theorem isSome_lastKnownPosition_refresh (h : m.lastKnownPosition.isSome = true) :
    (m.refresh config dt target).lastKnownPosition.isSome = true := by
  cases target with
  | some target => rfl
  | none => exact h

/-- The memory in another state. -/
def enter : Memory :=
  if m.state = next then m
  else { m with state := next, speedMultiplier := config.pace next }

/-- Entering a state changes nothing but the state and the speed. -/
theorem exists_enter :
    ∃ multiplier,
      m.enter config next = { m with state := next, speedMultiplier := multiplier } := by
  unfold enter
  split
  · next h => exact ⟨m.speedMultiplier, by rw [← h]⟩
  · exact ⟨_, rfl⟩

@[simp] theorem lastKnownPosition_enter :
    (m.enter config next).lastKnownPosition = m.lastKnownPosition := by
  obtain ⟨multiplier, h⟩ := exists_enter config next m
  rw [h]

@[simp] theorem alertRaised_enter : (m.enter config next).alertRaised = m.alertRaised := by
  obtain ⟨multiplier, h⟩ := exists_enter config next m
  rw [h]

/-- The memory after the guard has looked around for `dt`: it turns on, up to the end of the sweep,
and reverses there. -/
def sweep : Memory :=
  let wanted := m.lookRotation + config.lookAroundSpeed * dt * m.lookDirection
  if config.lookAroundSweep ≤ wanted.abs then
    { m with
      lookDirection := -m.lookDirection
      lookRotation := withSignOf config.lookAroundSweep wanted }
  else { m with lookRotation := wanted }

/-- Looking around changes nothing but which way the guard looks. -/
theorem exists_sweep :
    ∃ direction rotation, m.sweep config dt =
      { m with lookDirection := direction, lookRotation := rotation } := by
  unfold sweep
  dsimp only
  split
  · exact ⟨_, _, rfl⟩
  · exact ⟨m.lookDirection, _, rfl⟩

end Memory

namespace Context

variable {P N R : Type}

/-! ### After an answer -/

section Answers

/-- Whether a target is in catch range. -/
def inRangeOf [Navigator N] (target : Option Vec3) (c : Context P N R) : Bool :=
  match target with
  | some target =>
    decide ((Navigator.position c.navigator).distance target < c.config.catchDistance)
  | none => false

/-- Whether there is a target to chase, or a chase to go on with. -/
def pursuing (target : Option Vec3) (c : Context P N R) : Bool :=
  target.isSome || c.memory.state == .chase && decide (0 < c.memory.chaseTimeRemaining)

/-- Heads for a destination, if there is one. -/
def headForSome [Navigator N] (destination : Option Vec3) (c : Context P N R) :
    Status × Context P N R :=
  match destination with
  | some destination => (.success, c.headFor destination)
  | none => (.failure, c)

/-- Whether a chase has run out that knows where to search. -/
def ranOut (c : Context P N R) : Bool :=
  c.memory.state == .chase && decide (c.memory.chaseTimeRemaining ≤ 0) &&
    c.memory.lastKnownPosition.isSome

variable [Perception P]

theorem inCatchRange_eq [Navigator N] (c : Context P N R) :
    c.inCatchRange = (inRangeOf c.askPosition.1 c.askPosition.2, c.askPosition.2) := by
  unfold inCatchRange inRangeOf
  rcases c.askPosition with ⟨_ | target, c⟩ <;> rfl

theorem shouldChase_eq (c : Context P N R) :
    c.shouldChase = (pursuing c.perceive.1 c.perceive.2, c.perceive.2) := by
  unfold shouldChase pursuing
  rcases c.perceive with ⟨_ | target, c⟩ <;> rfl

theorem refreshChase_eq (c : Context P N R) :
    c.refreshChase =
      { c.perceive.2 with
        memory :=
          c.perceive.2.memory.refresh c.perceive.2.config c.perceive.2.dt c.perceive.1 } := by
  unfold refreshChase Memory.refresh
  rcases c.perceive with ⟨_ | target, c⟩ <;> rfl

theorem moveToTarget_eq [Navigator N] (c : Context P N R) :
    c.moveToTarget =
      headForSome (c.perceive.1.or c.perceive.2.memory.lastKnownPosition) c.perceive.2 := rfl

theorem shouldSearch_eq (c : Context P N R) :
    c.shouldSearch =
      if c.ranOut then (c.perceive.1.isNone || c.perceive.2.searching, c.perceive.2)
      else (c.searching, c) := by
  unfold shouldSearch ranOut
  split
  · rcases c.perceive with ⟨_ | target, c⟩ <;> rfl
  · rfl

end Answers

/-! ### Orders to the body -/

section Orders

variable [Navigator N]

theorem turn_eq (c : Context P N R) (degrees : Float32) :
    c.turn degrees =
      { c with
        navigator :=
          if degrees != 0 then Navigator.rotateBy c.navigator degrees else c.navigator } := by
  unfold turn
  split <;> rfl

theorem headForWaypoint_eq (c : Context P N R) :
    c.headForWaypoint =
      { c with
        navigator := c.waypoint?.elim c.navigator (Navigator.setDestination c.navigator) } := by
  unfold headForWaypoint
  cases c.waypoint? <;> rfl

/-- Heads for a point, unless the body does so already. -/
def approach (c : Context P N R) (point : Vec3) : Context P N R :=
  { c with
    navigator :=
      if Navigator.destination c.navigator == some point then c.navigator
      else Navigator.setDestination c.navigator point }

theorem lookAround_eq (c : Context P N R) :
    c.lookAround =
      let memory := c.memory.sweep c.config c.dt
      let degrees := memory.lookRotation - c.memory.lookRotation
      { c with
        memory
        navigator :=
          if degrees != 0 then Navigator.rotateBy c.navigator degrees else c.navigator } := by
  unfold lookAround Memory.sweep
  simp only [turn_eq]
  by_cases h : c.config.lookAroundSweep ≤
      (c.memory.lookRotation + c.config.lookAroundSpeed * c.dt * c.memory.lookDirection).abs
  · simp only [h, decide_true, if_true]
  · simp only [h, decide_false, Bool.false_eq_true, if_false]

/-- Approaches a point, if there is one, and looks around there. -/
def searchAt (point : Option Vec3) (c : Context P N R) : Status × Context P N R :=
  match point with
  | none => (.failure, c)
  | some point =>
    if (c.approach point).arrived then (.success, (c.approach point).lookAround)
    else (.running, c.approach point)

theorem searchLastKnownPosition_eq (c : Context P N R) :
    c.searchLastKnownPosition = searchAt c.memory.lastKnownPosition c := by
  unfold searchLastKnownPosition searchAt
  cases c.memory.lastKnownPosition with
  | none => rfl
  | some point =>
    have happroach : c.approach point =
        if Navigator.destination c.navigator == some point then c else c.headFor point := by
      unfold approach
      split <;> rfl
    simp only [happroach]

end Orders

/-! ### Into another state -/

section Entering

variable [Navigator N]

/-- The context in another state, and a journal that says so. -/
def switch (c : Context P N R) (next : State) : Context P N R :=
  (c.note (.transition c.agent c.frame.tick c.memory.state next)).adopt next

theorem enter_of_ne {c : Context P N R} {next : State} (h : c.memory.state ≠ next) :
    c.enter next = (true, c.switch next) := if_neg h

/-- Starts the timer of a search and chooses a side. -/
def startSearch (c : Context P N R) : Context P N R :=
  { c with
    memory.searchTimeRemaining := c.config.searchDuration
    memory.lookDirection := (c.frame.random c.agent lookAroundStream).sign.1
    memory.lookRotation := 0 }

/-- Begins to return to the waypoint that the guard was heading for. -/
def startReturn (c : Context P N R) : Context P N R :=
  { c with memory.returnStarted := true }.headForWaypoint

/-- Forgets where the target was. -/
def forget (c : Context P N R) : Context P N R := { c with memory.lastKnownPosition := none }

/-- Forgets a pursuit. -/
def forgetPursuit (c : Context P N R) : Context P N R :=
  { c with
    memory.patrolDestinationIssued := false
    memory.alertRaised := false
    memory.returnStarted := false
    memory.chaseTimeRemaining := 0
    memory.searchTimeRemaining := 0
    memory.lookRotation := 0
    memory.lastKnownPosition := none }

theorem enterChase_eq (c : Context P N R) :
    c.enterChase = if c.memory.state = .chase then c else c.switch .chase := by
  unfold enterChase
  by_cases h : c.memory.state = .chase
  · rw [if_pos h, enter_of_eq h]
  · rw [if_neg h, enter_of_ne h]

theorem enterSearch_eq (c : Context P N R) :
    c.enterSearch = if c.memory.state = .search then c else (c.switch .search).startSearch := by
  unfold enterSearch
  by_cases h : c.memory.state = .search
  · rw [if_pos h, enter_of_eq h]
  · rw [if_neg h, enter_of_ne h]
    rfl

theorem enterReturn_eq (c : Context P N R) :
    c.enterReturn =
      if c.memory.state = .returnToPatrol then c else (c.switch .returnToPatrol).startReturn := by
  unfold enterReturn
  by_cases h : c.memory.state = .returnToPatrol
  · rw [if_pos h, enter_of_eq h]
  · rw [if_neg h, enter_of_ne h]
    rfl

theorem enterPatrol_eq (c : Context P N R) :
    c.enterPatrol =
      if c.memory.state = .patrol then c.forget else (c.switch .patrol).forgetPursuit := by
  unfold enterPatrol
  by_cases h : c.memory.state = .patrol
  · rw [if_pos h, enter_of_eq h]
    rfl
  · rw [if_neg h, enter_of_ne h]
    rfl

end Entering

end Context
end Guard
end Guardhouse
