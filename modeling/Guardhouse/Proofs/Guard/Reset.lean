import Guardhouse.Proofs.Guard.Diagnostics
import Guardhouse.Proofs.Guard.Ranges

/-!
# A reset guard is a new one

What a guard carries from one frame to the next is its memory and its tree. A reset renews the
memory, but for the place on the route and the clock, and of the tree only its cells. But the tree
of a guard decides without a look at its cells, and a frame overwrites what is left of the last one.
So a guard that was reset and a new one in its place are `Twins`, and stay so whatever is done to
both (`reset_like_new`).
-/

namespace Guardhouse
namespace Guard

variable {P N R T : Type}

/-- The context without what is left of its last frame. -/
def Context.atRest (c : Context P N R) : Context P N R :=
  { c with frame := ⟨0, 0, 0⟩, journal := #[] }

/-- Two guards that differ at most in the state of their runners and in what is left of their last
frames. -/
structure Twins [Perception P] [Navigator N] [Referee R] (g g' : Guard P N R T) : Prop where
  plan : g.runner.tree.plan = Context.pursuit.plan
  plan' : g'.runner.tree.plan = Context.pursuit.plan
  context : g.context.atRest = g'.context.atRest
  trace : g.trace = g'.trace

/-- A new guard in the place of another one: with its tuning, its route and its number, with what it
was given, and with its place on the route and its clock. -/
def anew [Perception P] [Navigator N] [Referee R] (g : Guard P N R T) :
    Except Config.Error (Guard P N R T) := do
  let new : Guard P N R T ← create g.context.config g.context.route g.context.perception
    g.context.navigator g.context.referee
  return { new.withAgent g.context.agent with
    context.memory.patrolIndex := g.memory.patrolIndex
    context.memory.clock := g.memory.clock
    trace := g.trace }

variable [Perception P] [Navigator N] [Referee R]

namespace Twins

variable {g g' : Guard P N R T}

theorem memory (h : Twins g g') : g.memory = g'.memory := by
  have hrest := congrArg Context.memory h.context
  exact hrest

theorem navigator (h : Twins g g') : g.context.navigator = g'.context.navigator := by
  have hrest := congrArg Context.navigator h.context
  exact hrest

theorem referee (h : Twins g g') : g.context.referee = g'.context.referee := by
  have hrest := congrArg Context.referee h.context
  exact hrest

variable [Trace.Sink T]

/-- A frame begins alike for twins, and so it ends alike. -/
theorem evaluate (h : Twins g g') (frame : Frame) :
    (g.evaluate frame).guard.context = (g'.evaluate frame).guard.context := by
  have hbegin : g.context.begin frame = g'.context.begin frame :=
    congrArg (fun c => c.begin frame) h.context
  rw [(evaluate_eq h.plan frame).1, (evaluate_eq h.plan' frame).1, hbegin]

/-- Twins return and emit the same. -/
theorem alike (h : Twins g g') (op : Operation P N R) :
    (g.perform op).1 = (g'.perform op).1 ∧ g.emits op = g'.emits op := by
  cases op with
  | evaluate frame =>
    have hafter : (g.evaluate frame).guard.memory = (g'.evaluate frame).guard.memory :=
      congrArg Context.memory (h.evaluate frame)
    have hstate : (g.evaluate frame).state = (g'.evaluate frame).state :=
      congrArg Memory.state hafter
    refine ⟨congrArg some hstate, ?_⟩
    simp only [emits, h.memory, hafter, hstate]
  | _ => exact ⟨rfl, rfl⟩

/-- Twins stay twins. -/
theorem perform (h : Twins g g') (op : Operation P N R) :
    Twins (g.perform op).2 (g'.perform op).2 := by
  have htrace : (g.perform op).2.trace = (g'.perform op).2.trace := by
    rw [trace_perform, trace_perform, (h.alike op).2, h.trace]
  cases op with
  | evaluate frame =>
    exact ⟨(evaluate_eq h.plan frame).2.2, (evaluate_eq h.plan' frame).2.2,
      congrArg Context.atRest (h.evaluate frame), htrace⟩
  | reset =>
    have hcontext := congrArg (fun c : Context P N R => { c with memory :=
      { patrolIndex := c.memory.patrolIndex
        clock := c.memory.clock
        speedMultiplier := c.config.patrolSpeedMultiplier } }) h.context
    exact ⟨(Tree.plan_reset _).trans h.plan, (Tree.plan_reset _).trans h.plan', hcontext, htrace⟩
  | setDebug enabled => exact ⟨h.plan, h.plan', h.context, htrace⟩
  | setAgent agent =>
    have hcontext := congrArg (fun c => { c with agent }) h.context
    exact ⟨h.plan, h.plan', hcontext, htrace⟩
  | mapPerception f =>
    have hcontext := congrArg (fun c => { c with perception := f c.perception }) h.context
    exact ⟨h.plan, h.plan', hcontext, htrace⟩
  | mapNavigator f =>
    have hcontext := congrArg (fun c => { c with navigator := f c.navigator }) h.context
    exact ⟨h.plan, h.plan', hcontext, htrace⟩
  | mapReferee f =>
    have hcontext := congrArg (fun c => { c with referee := f c.referee }) h.context
    exact ⟨h.plan, h.plan', hcontext, htrace⟩

theorem afterAll (h : Twins g g') (ops : List (Operation P N R)) :
    Twins (g.afterAll ops) (g'.afterAll ops) := by
  induction ops generalizing g g' with
  | nil => exact h
  | cons op ops ih => exact ih (h.perform op)

end Twins

variable [Trace.Sink T]

/-- A guard that was reset has a twin that is new. -/
theorem exists_twin {admits : Guard P N R T → Frame → Prop} {g : Guard P N R T}
    (h : Reachable admits g) : ∃ new, g.anew = .ok new ∧ Twins g.reset new := by
  obtain ⟨new, hnew⟩ : ∃ new : Guard P N R T, create g.context.config g.context.route
      g.context.perception g.context.navigator g.context.referee = .ok new :=
    ⟨_, create_eq_ok.2 ⟨h.check_config, rfl⟩⟩
  refine ⟨_, by rw [anew, hnew]; rfl, ?_⟩
  obtain ⟨-, rfl⟩ := create_eq_ok.1 hnew
  exact ⟨h.sound.reset.plan, rfl, rfl, rfl⟩

/-- A guard that was reset behaves as a new one does in its place, with the same tuning, route,
number, perception, body, referee and sink, started at the same waypoint and time. After any
operations, frames and further resets among them, the two remember the same, their bodies have been
given the same orders, and their referees the same reports, whatever bodies and referees make of
them; their sinks have been given the same events; and any further operation returns and emits the
same. -/
theorem reset_like_new {admits : Guard P N R T → Frame → Prop} {g : Guard P N R T}
    (h : Reachable admits g) :
    ∃ new, g.anew = .ok new ∧ ∀ ops : List (Operation P N R),
      let kept := g.reset.afterAll ops
      let fresh := new.afterAll ops
      kept.memory = fresh.memory ∧ kept.context.navigator = fresh.context.navigator ∧
        kept.context.referee = fresh.context.referee ∧ kept.trace = fresh.trace ∧
        ∀ op, (kept.perform op).1 = (fresh.perform op).1 ∧ kept.emits op = fresh.emits op := by
  obtain ⟨new, hnew, htwins⟩ := exists_twin h
  refine ⟨new, hnew, fun ops => ?_⟩
  intro kept fresh
  have hafter : Twins kept fresh := htwins.afterAll ops
  exact ⟨hafter.memory, hafter.navigator, hafter.referee, hafter.trace, hafter.alike⟩

/-- A guard that is reset while it chases, and the new one in its place, both see the target, lose
sight of it and go on chasing. -/
theorem reset_like_new_chasing :
    ∃ g : Guard Scene (Noted RecordingNavigator) (Minuted Tallies) Trace,
      create {} #[⟨0, 0, 4⟩] ⟨true, some ⟨0, 0, 20⟩⟩ ⟨{ position := .zero }, []⟩ ⟨{}, []⟩ = .ok g ∧
        let chasing := (g.evaluate ⟨1, 0.5, 7⟩).guard
        let ops : List (Operation Scene (Noted RecordingNavigator) (Minuted Tallies)) :=
          [.evaluate ⟨2, 0.5, 7⟩, .mapPerception fun _ => ⟨false, none⟩, .evaluate ⟨3, 0.5, 7⟩]
        ∃ new, chasing.anew = .ok new ∧
          (chasing.reset.afterAll ops).memory = (new.afterAll ops).memory ∧
          (new.afterAll ops).memory.state = .chase ∧
          (new.afterAll ops).memory.chaseTimeRemaining = 2.5 ∧
          (new.afterAll ops).context.referee.minutes = [.spotted, .spotted] := by
  obtain ⟨g, hg⟩ : ∃ g : Guard Scene (Noted RecordingNavigator) (Minuted Tallies) Trace,
      create {} #[⟨0, 0, 4⟩] ⟨true, some ⟨0, 0, 20⟩⟩ ⟨{ position := .zero }, []⟩ ⟨{}, []⟩ = .ok g :=
    ⟨_, create_eq_ok.2 ⟨by decide +kernel, rfl⟩⟩
  have hcreated : Reachable (fun _ _ => True) g := .create hg
  refine ⟨g, hg, ?_⟩
  intro chasing ops
  have hchasing : Reachable (fun _ _ => True) chasing := hcreated.evaluate trivial
  obtain ⟨new, hnew, hlike⟩ := reset_like_new hchasing
  obtain ⟨hmemory, -, hreferee, -⟩ := hlike ops
  refine ⟨new, hnew, hmemory, ?_⟩
  rw [← hmemory, ← hreferee]
  obtain ⟨-, rfl⟩ := create_eq_ok.1 hg
  decide +kernel

end Guard
end Guardhouse
