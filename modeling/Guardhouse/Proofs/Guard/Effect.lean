import Guardhouse.Proofs.Guard.Conduct
import Mathlib.Data.List.Basic

/-!
# Effects

All that the outside can tell of what a guard does: its memory afterwards, the orders that it gives
to its body and the reports that it makes, each in order. `Context.Does` says that the step from one
context to another has an effect, and changes nothing else but the perception and the journal.

Each action of a guard has one lemma that says what its effect is.
-/

namespace Guardhouse
namespace Guard

/-- An order to the body. -/
inductive Order where
  | goTo (destination : Vec3)
  | pace (multiplier : Float32)
  | turn (degrees : Float32)

/-- The body after an order. -/
def Order.obey {N : Type} [Navigator N] (body : N) : Order → N
  | goTo destination => Navigator.setDestination body destination
  | pace multiplier => Navigator.setSpeedMultiplier body multiplier
  | turn degrees => Navigator.rotateBy body degrees

/-- A report to the referee. -/
inductive Report where
  | caught
  | spotted
  deriving DecidableEq

/-- The referee after a report. -/
def Report.deliver {R : Type} [Referee R] (referee : R) : Report → R
  | caught => (Referee.reportCaught referee).1
  | spotted => (Referee.reportSpotted referee).1

/-- What a guard does to its memory, its body and its referee. -/
structure Effect where
  memory : Memory
  orders : List Order := []
  reports : List Report := []

/-- The body after orders, the first of them first. -/
def follow {N : Type} [Navigator N] (orders : List Order) (body : N) : N :=
  orders.foldl Order.obey body

/-- Sends a body to a point, unless it is on its way there. -/
def walkTo {N : Type} [Navigator N] (body : N) (point : Vec3) : List Order :=
  if Navigator.destination body == some point then [] else [.goTo point]

namespace Memory

/-- The order that goes with a change to another state. -/
def paceFor (config : Config) (next : State) (m : Memory) : List Order :=
  if m.state = next then [] else [.pace (config.pace next)]

/-- Begins a search towards a side, unless there is one going on. -/
def beginSearch (config : Config) (side : Float32) (m : Memory) : Memory :=
  if m.state = .search then m
  else
    { m.enter config .search with
      searchTimeRemaining := config.searchDuration
      lookDirection := side
      lookRotation := 0 }

@[simp] theorem lastKnownPosition_beginSearch (config : Config) (side : Float32) (m : Memory) :
    (m.beginSearch config side).lastKnownPosition = m.lastKnownPosition := by
  unfold beginSearch
  split
  · rfl
  · exact lastKnownPosition_enter ..

/-- Looks around for `dt`, and turns the body unless by nothing. -/
def lookAround (config : Config) (dt : Float32) (m : Memory) : Effect :=
  let next := m.sweep config dt
  let degrees := next.lookRotation - m.lookRotation
  { memory := next, orders := if degrees != 0 then [.turn degrees] else [] }

/-- Goes to a point, unless the body is on its way there, and looks around once it has arrived. -/
def searchAt {N : Type} [Navigator N] (config : Config) (dt : Float32) (body : N) (point : Vec3)
    (m : Memory) : Effect :=
  if Navigator.hasReachedDestination (follow (walkTo body point) body) then
    { m.lookAround config dt with
      orders := walkTo body point ++ (m.lookAround config dt).orders }
  else { memory := m, orders := walkTo body point }

/-- The waypoint that the guard is heading for, if there is one. -/
def waypoint? (route : Array Vec3) (m : Memory) : Option Vec3 := route[m.patrolIndex % route.size]?

/-- Begins to patrol and forgets the pursuit, unless the guard patrols already. -/
def beginPatrol (config : Config) (m : Memory) : Memory :=
  if m.state = .patrol then { m with lastKnownPosition := none }
  else
    { m.enter config .patrol with
      patrolDestinationIssued := false
      alertRaised := false
      returnStarted := false
      chaseTimeRemaining := 0
      searchTimeRemaining := 0
      lookRotation := 0
      lastKnownPosition := none }

/-- Walks the route: to the waypoint it is heading for if it has not been sent there yet, and to the
next one if it has arrived. -/
def followRoute {N : Type} [Navigator N] (config : Config) (route : Array Vec3) (body : N)
    (m : Memory) : Effect :=
  if route.isEmpty then { memory := m }
  else if !m.patrolDestinationIssued then
    let next :=
      { m with patrolIndex := m.patrolIndex % route.size, patrolDestinationIssued := true }
    { memory := next
      orders := .pace config.patrolSpeedMultiplier :: (next.waypoint? route).toList.map .goTo }
  else if Navigator.hasReachedDestination body then
    let next := { m with patrolIndex := (m.patrolIndex + 1) % route.size }
    { memory := next, orders := (next.waypoint? route).toList.map .goTo }
  else { memory := m }

end Memory

namespace Context

variable {P N R : Type} [Navigator N] [Referee R]

/-- The step from one context to another has an effect. -/
structure Does (c c' : Context P N R) (e : Effect) : Prop where
  memory : c'.memory = e.memory
  navigator : c'.navigator = follow e.orders c.navigator
  referee : c'.referee = e.reports.foldl Report.deliver c.referee
  config : c'.config = c.config
  route : c'.route = c.route
  agent : c'.agent = c.agent
  frame : c'.frame = c.frame

variable {c c' c'' : Context P N R}

theorem Does.trans {e e' : Effect} (h : c.Does c' e) (h' : c'.Does c'' e') :
    c.Does c'' ⟨e'.memory, e.orders ++ e'.orders, e.reports ++ e'.reports⟩ where
  memory := h'.memory
  navigator := by rw [h'.navigator, h.navigator, follow, follow, follow, List.foldl_append]
  referee := by rw [h'.referee, h.referee, List.foldl_append]
  config := h'.config.trans h.config
  route := h'.route.trans h.route
  agent := h'.agent.trans h.agent
  frame := h'.frame.trans h.frame

/-- Followed by a step that gives no orders. -/
theorem Does.trans_report {e : Effect} {m : Memory} {reports : List Report} (h : c.Does c' e)
    (h' : c'.Does c'' ⟨m, [], reports⟩) : c.Does c'' ⟨m, e.orders, e.reports ++ reports⟩ := by
  have hboth := h.trans h'
  rwa [List.append_nil] at hboth

/-- Followed by a step that nobody notices. -/
theorem Does.trans_silent {e : Effect} {m : Memory} (h : c.Does c' e)
    (h' : c'.Does c'' ⟨m, [], []⟩) : c.Does c'' { e with memory := m } := by
  have hboth := h.trans_report h'
  rwa [List.append_nil] at hboth

/-! ### Asking -/

section Perception

variable [Perception P]

theorem does_askPosition (c : Context P N R) : c.Does c.askPosition.2 ⟨c.memory, [], []⟩ := by
  constructor <;> rfl

theorem does_perceive (c : Context P N R) : c.Does c.perceive.2 ⟨c.memory, [], []⟩ := by
  unfold perceive
  dsimp only
  split <;> constructor <;> rfl

theorem does_refreshChase (c : Context P N R) :
    c.Does c.refreshChase ⟨c.memory.refresh c.config c.dt c.perceive.1, [], []⟩ := by
  have h := does_perceive c
  rw [refreshChase_eq]
  constructor
  case memory =>
    show c.perceive.2.memory.refresh c.perceive.2.config c.perceive.2.frame.dt _ = _
    rw [h.memory, h.config, h.frame]
    rfl
  case navigator => exact h.navigator
  case referee => exact h.referee
  case config => exact h.config
  case route => exact h.route
  case agent => exact h.agent
  case frame => exact h.frame

theorem does_shouldSearch (c : Context P N R) : c.Does c.shouldSearch.2 ⟨c.memory, [], []⟩ := by
  rw [shouldSearch_eq]
  split
  · exact does_perceive c
  · constructor <;> rfl

end Perception

/-! ### Acting -/

theorem does_reportCaught (c : Context P N R) :
    c.Does c.reportCaught.2
      ⟨{ c.memory with caughtReports := c.memory.caughtReports + 1 }, [], [.caught]⟩ := by
  constructor <;> rfl

theorem does_enterChase (c : Context P N R) :
    c.Does c.enterChase
      ⟨c.memory.enter c.config .chase, c.memory.paceFor c.config .chase, []⟩ := by
  rw [enterChase_eq]
  unfold Memory.enter Memory.paceFor
  split <;> constructor <;> rfl

theorem does_headForSome (c : Context P N R) (destination : Option Vec3) :
    c.Does (headForSome destination c).2 ⟨c.memory, destination.toList.map .goTo, []⟩ := by
  cases destination <;> constructor <;> rfl

theorem does_raiseAlert (c : Context P N R) :
    c.Does c.raiseAlert.2
      ⟨{ c.memory with alertRaised := true }, [],
        if c.memory.alertRaised then [] else [.spotted]⟩ := by
  unfold raiseAlert
  split
  · next h =>
    constructor
    case memory => rw [← h]
    all_goals rfl
  · constructor <;> rfl

theorem does_enterSearch (c : Context P N R) :
    c.Does c.enterSearch
      ⟨c.memory.beginSearch c.config (c.frame.random c.agent lookAroundStream).sign.1,
        c.memory.paceFor c.config .search, []⟩ := by
  rw [enterSearch_eq]
  unfold Memory.beginSearch Memory.paceFor Memory.enter
  split <;> constructor <;> rfl

theorem does_lookAround (c : Context P N R) :
    c.Does c.lookAround (c.memory.lookAround c.config c.dt) := by
  rw [lookAround_eq]
  unfold Memory.lookAround
  constructor
  case navigator =>
    dsimp only
    split <;> rfl
  all_goals rfl

theorem does_approach (c : Context P N R) (point : Vec3) :
    c.Does (c.approach point) ⟨c.memory, walkTo c.navigator point, []⟩ := by
  unfold approach walkTo
  split <;> constructor <;> rfl

theorem does_searchAt (c : Context P N R) (point : Vec3) :
    c.Does (searchAt (some point) c).2 (c.memory.searchAt c.config c.dt c.navigator point) := by
  have happroach := does_approach c point
  have harrived : (c.approach point).arrived =
      Navigator.hasReachedDestination (follow (walkTo c.navigator point) c.navigator) :=
    congrArg Navigator.hasReachedDestination happroach.navigator
  unfold searchAt Memory.searchAt
  dsimp only
  rw [harrived]
  split
  · exact happroach.trans (does_lookAround (c.approach point))
  · exact happroach

theorem does_countDownSearch (c : Context P N R) :
    c.Does c.countDownSearch.2
      ⟨{ c.memory with searchTimeRemaining := atLeastZero (c.memory.searchTimeRemaining - c.dt) },
        [], []⟩ := by
  constructor <;> rfl

theorem does_headForWaypoint (c : Context P N R) :
    c.Does c.headForWaypoint ⟨c.memory, (c.memory.waypoint? c.route).toList.map .goTo, []⟩ := by
  have hwaypoint : c.waypoint? = c.memory.waypoint? c.route := rfl
  rw [headForWaypoint_eq, hwaypoint]
  cases c.memory.waypoint? c.route <;> constructor <;> rfl

theorem does_enterPatrol (c : Context P N R) :
    c.Does c.enterPatrol
      ⟨c.memory.beginPatrol c.config, c.memory.paceFor c.config .patrol, []⟩ := by
  rw [enterPatrol_eq]
  unfold Memory.beginPatrol Memory.paceFor Memory.enter
  split <;> constructor <;> rfl

theorem does_followRoute (c : Context P N R) :
    c.Does c.followRoute.2 (c.memory.followRoute c.config c.route c.navigator) := by
  unfold followRoute Memory.followRoute arrived
  split
  · constructor <;> rfl
  split
  · -- the memory changes before the waypoint is looked up in it
    let d : Context P N R :=
      { c with
        memory.patrolIndex := c.memory.patrolIndex % c.route.size
        memory.patrolDestinationIssued := true }
    have hpace : c.Does (d.pace c.config.patrolSpeedMultiplier)
        ⟨d.memory, [.pace c.config.patrolSpeedMultiplier], []⟩ := by
      constructor <;> rfl
    exact hpace.trans (does_headForWaypoint (d.pace c.config.patrolSpeedMultiplier))
  split
  · let d : Context P N R :=
      { c with memory.patrolIndex := (c.memory.patrolIndex + 1) % c.route.size }
    have hnote : c.Does (d.note (.nextWaypoint d.agent d.memory.patrolIndex))
        ⟨d.memory, [], []⟩ := by
      constructor <;> rfl
    exact hnote.trans (does_headForWaypoint (d.note (.nextWaypoint d.agent d.memory.patrolIndex)))
  · constructor <;> rfl

end Context
end Guard
end Guardhouse
