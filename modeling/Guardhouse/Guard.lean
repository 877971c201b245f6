import Guardhouse.Guard.Pursuit
import Guardhouse.Tree.Runner

/-!
# Guards

A guard is the pursuit tree together with the context that it runs against. It is evaluated once a
frame and reports the state that it has decided for. Besides, it emits an event `guard.transition`
in every frame that changes its state, from `a` to `b`, and an event `guard.caught` in every frame
in which it catches the target in state `a`.
-/

namespace Guardhouse

/-- A guard with perception `P`, body `N` and referee `R` whose events go to a sink `T`. -/
structure Guard (P N R T : Type) where
  runner : Runner (Guard.Context P N R) Unit Trace.Silence
  context : Guard.Context P N R
  trace : Option T := none

namespace Guard

variable {P N R T : Type}

/-- A guard on patrol, if its tuning is sound. -/
def create [Perception P] [Navigator N] [Referee R] (config : Config) (route : Array Vec3)
    (perception : P) (navigator : N) (referee : R) : Except Config.Error (Guard P N R T) := do
  config.check
  return {
    runner := { tree := Context.pursuit }
    context := .start config route perception navigator referee }

/-- The guard as another agent: its random streams are its own. -/
def withAgent (g : Guard P N R T) (agent : UInt64) : Guard P N R T :=
  { g with context := { g.context with agent } }

/-- The guard with a sink for its events. -/
def withTrace (g : Guard P N R T) (trace : T) : Guard P N R T := { g with trace := some trace }

/-- The guard with the events of its tree journaled or not. -/
def withDebug (g : Guard P N R T) (debug : Bool) : Guard P N R T :=
  { g with runner := { g.runner with debug } }

def state (g : Guard P N R T) : State := g.context.memory.state

def memory (g : Guard P N R T) : Memory := g.context.memory

/-- The guard whose perception has been updated by the host. -/
def mapPerception (g : Guard P N R T) (f : P → P) : Guard P N R T :=
  { g with context := { g.context with perception := f g.context.perception } }

/-- The guard whose body has been moved by the host. -/
def mapNavigator (g : Guard P N R T) (f : N → N) : Guard P N R T :=
  { g with context := { g.context with navigator := f g.context.navigator } }

/-! ### Frames -/

/-- What a frame gives. -/
structure Outcome (P N R T : Type) where
  /-- The state that the guard has decided for. -/
  state : State
  guard : Guard P N R T
  journal : Journal

/-- The events of a frame: of a change from one state to another, and of a catch. -/
def events (tick : UInt64) (source target : State) (caught : Bool) : List Trace.Event :=
  (if target = source then []
    else [{ tick, tag := "guard.transition", a := source.code, b := target.code }]) ++
  (if caught then [{ tick, tag := "guard.caught", a := target.code }] else [])

/-- Evaluates the guard for one frame. -/
def evaluate [Trace.Sink T] (g : Guard P N R T) (frame : Frame) : Outcome P N R T :=
  let before := g.context.memory
  let o := g.runner.tick (g.context.begin frame)
  let after := o.context.memory
  let events := events frame.tick before.state after.state
    (after.caughtReports != before.caughtReports)
  { state := after.state
    guard := { runner := o.runner, context := o.context, trace := events.foldl Trace.emit? g.trace }
    journal := o.context.journal ++ o.journal }

/-- Forgets the pursuit: the guard patrols from the waypoint that it was heading for last. -/
def reset (g : Guard P N R T) : Guard P N R T :=
  { g with
    runner := g.runner.reset
    context.memory :=
      { patrolIndex := g.context.memory.patrolIndex
        clock := g.context.memory.clock
        speedMultiplier := g.context.config.patrolSpeedMultiplier } }

@[simp] theorem state_reset (g : Guard P N R T) : g.reset.state = .patrol := rfl

@[simp] theorem reset_reset_memory (g : Guard P N R T) :
    g.reset.reset.memory = g.reset.memory := rfl

end Guard

end Guardhouse
