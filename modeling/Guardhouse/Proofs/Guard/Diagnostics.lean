import Guardhouse.Proofs.Guard.Orders
import Guardhouse.Proofs.Guard.Reports
import Guardhouse.Proofs.Runner.Diagnostics

/-!
# Diagnostics of a guard

What a runner shows to those who debug it, it shows without looking (`Runner.Session.Matches`). A
guard uses its runner for nothing but ticks and resets, and what it emits into its own sink it reads
off its memory. So neither the debug flag nor a sink has a part in what a guard decides, commands,
reports and emits (`diagnostics_never_decide`).
-/

namespace Guardhouse
namespace Guard

variable {P N R T T' : Type}

/-- What a host may do with a guard. -/
inductive Operation (P N R : Type) where
  | evaluate (frame : Frame)
  | reset
  | setDebug (enabled : Bool)
  | setAgent (agent : UInt64)
  | mapPerception (f : P → P)
  | mapNavigator (f : N → N)
  | mapReferee (f : R → R)

/-- Whether an operation only concerns the debug flag. -/
def Operation.isDebug : Operation P N R → Bool
  | setDebug _ => true
  | _ => false

/-- The runner of a guard, with the context that the guard keeps for it. -/
def session (g : Guard P N R T) : Runner.Session (Context P N R) Unit Trace.Silence :=
  ⟨g.runner, g.context⟩

section Performing

variable [Trace.Sink T] [Trace.Sink T']

/-- What an operation returns, if it is a frame, and what it leaves. -/
def perform (g : Guard P N R T) : Operation P N R → Option State × Guard P N R T
  | .evaluate frame => (some (g.evaluate frame).state, (g.evaluate frame).guard)
  | .reset => (none, g.reset)
  | .setDebug enabled => (none, g.withDebug enabled)
  | .setAgent agent => (none, g.withAgent agent)
  | .mapPerception f => (none, g.mapPerception f)
  | .mapNavigator f => (none, g.mapNavigator f)
  | .mapReferee f => (none, g.mapReferee f)

/-- The guard after a list of operations. -/
def afterAll (g : Guard P N R T) (ops : List (Operation P N R)) : Guard P N R T :=
  ops.foldl (fun g op => (g.perform op).2) g

/-- A frame is a tick of the runner, and the state is read off the memory that it leaves. -/
theorem session_evaluate (g : Guard P N R T) (frame : Frame) :
    (g.evaluate frame).guard.session =
        (g.session.perform (.tick fun c => c.begin frame)).2 ∧
      (g.evaluate frame).state = (g.evaluate frame).guard.session.context.memory.state :=
  ⟨rfl, rfl⟩

variable {g : Guard P N R T} {g' : Guard P N R T'}

/-- Guards whose runners and contexts match decide alike. -/
theorem matches_perform (h : g.session.Matches g'.session) (op : Operation P N R) :
    (g.perform op).1 = (g'.perform op).1 ∧
      (g.perform op).2.session.Matches (g'.perform op).2.session := by
  cases op with
  | evaluate frame =>
    obtain ⟨hsession, hstate⟩ := g.session_evaluate frame
    obtain ⟨hsession', hstate'⟩ := g'.session_evaluate frame
    have hmatches := (h.perform (.tick fun c => c.begin frame)).2
    rw [← hsession, ← hsession'] at hmatches
    refine ⟨?_, hmatches⟩
    show some (g.evaluate frame).state = some (g'.evaluate frame).state
    rw [hstate, hstate', hmatches.context]
  | reset =>
    have hmatches := (h.perform .reset).2
    refine ⟨rfl, hmatches.tree, hmatches.ticks, hmatches.last, ?_⟩
    have hcontext : g.context = g'.context := h.context
    simp only [perform, reset, session, hcontext]
  | setDebug enabled => exact ⟨rfl, h.tree, h.ticks, h.last, h.context⟩
  | setAgent agent =>
    exact ⟨rfl, h.tree, h.ticks, h.last, congrArg (fun c => { c with agent }) h.context⟩
  | mapPerception f =>
    have hcontext := congrArg (fun c => { c with perception := f c.perception }) h.context
    exact ⟨rfl, h.tree, h.ticks, h.last, hcontext⟩
  | mapNavigator f =>
    have hcontext := congrArg (fun c => { c with navigator := f c.navigator }) h.context
    exact ⟨rfl, h.tree, h.ticks, h.last, hcontext⟩
  | mapReferee f =>
    have hcontext := congrArg (fun c => { c with referee := f c.referee }) h.context
    exact ⟨rfl, h.tree, h.ticks, h.last, hcontext⟩

/-! ### Events -/

/-- What an operation emits. -/
def emits (g : Guard P N R T) : Operation P N R → List Trace.Event
  | .evaluate frame =>
    events frame.tick g.memory.state (g.evaluate frame).state
      ((g.evaluate frame).guard.memory.caughtReports != g.memory.caughtReports)
  | _ => []

theorem trace_perform (g : Guard P N R T) (op : Operation P N R) :
    (g.perform op).2.trace = (g.emits op).foldl Trace.emit? g.trace := by
  cases op <;> rfl

theorem emits_of_matches (h : g.session.Matches g'.session) (op : Operation P N R) :
    g.emits op = g'.emits op := by
  cases op with
  | evaluate frame =>
    have hbefore : g.memory = g'.memory := congrArg Context.memory h.context
    have hmatches := (matches_perform h (.evaluate frame)).2
    have hafter : (g.evaluate frame).guard.memory = (g'.evaluate frame).guard.memory :=
      congrArg Context.memory hmatches.context
    have hstate : (g.evaluate frame).state = (g'.evaluate frame).state :=
      congrArg Memory.state hafter
    simp only [emits, hbefore, hafter, hstate]
  | _ => rfl

/-- Two guards that match, and have emitted the same since their sinks were `t` and `t'`. -/
structure Alongside (t : Option T) (t' : Option T') (g : Guard P N R T) (g' : Guard P N R T') :
    Prop where
  session : g.session.Matches g'.session
  events : ∃ events : List Trace.Event,
    g.trace = events.foldl Trace.emit? t ∧ g'.trace = events.foldl Trace.emit? t'

variable {t : Option T} {t' : Option T'}

namespace Alongside

theorem symm (h : Alongside t t' g g') : Alongside t' t g' g := by
  obtain ⟨events, htrace, htrace'⟩ := h.events
  exact ⟨h.session.symm, events, htrace', htrace⟩

theorem perform (h : Alongside t t' g g') (op : Operation P N R) :
    Alongside t t' (g.perform op).2 (g'.perform op).2 := by
  refine ⟨(matches_perform h.session op).2, ?_⟩
  obtain ⟨events, htrace, htrace'⟩ := h.events
  refine ⟨events ++ g.emits op, ?_, ?_⟩
  · rw [trace_perform, htrace, List.foldl_append]
  · rw [trace_perform, htrace', List.foldl_append, emits_of_matches h.session]

theorem debug_left (h : Alongside t t' g g') {op : Operation P N R} (hop : op.isDebug = true) :
    Alongside t t' (g.perform op).2 g' := by
  cases op with
  | setDebug enabled =>
    refine ⟨?_, h.events⟩
    exact ⟨h.session.tree, h.session.ticks, h.session.last, h.session.context⟩
  | _ => cases hop

/-- Guards stay alongside under operations that differ only in how the debug flag is set. -/
theorem afterAll (h : Alongside t t' g g') {ops ops' : List (Operation P N R)}
    (hops : ops.filter (fun op => !op.isDebug) = ops'.filter (fun op => !op.isDebug)) :
    Alongside t t' (g.afterAll ops) (g'.afterAll ops') := by
  refine related_foldl ?_ ?_ ?_ hops h
  · intro g g' op h
    exact h.perform op
  · intro g g' op hop h
    exact h.debug_left hop
  · intro g g' op hop h
    exact (h.symm.debug_left hop).symm

end Alongside
end Performing

/-! ### Runners and guards -/

/-- Neither debug flags nor sinks have a part in any decision.

Two runners that have a tree, a counter, a last status and a context in common, whatever their flags
and sinks are, still have them in common after the same calls with any settings of the flags in
between, and every further call returns the same.

Two guards that have their runners in common in this sense, and their contexts, still have them in
common after the same operations with any settings of the flags in between: the memory, the body and
the referee are the same, every further frame returns the same state, and the same events went to
both sinks. -/
theorem diagnostics_never_decide :
    (∀ {C σ S S' : Type} [Trace.Sink S] [Trace.Sink S'] (s : Runner.Session C σ S)
        (s' : Runner.Session C σ S') (ops ops' : List (Runner.Operation C σ)), s.Matches s' →
      ops.filter (fun op => !op.isDebug) = ops'.filter (fun op => !op.isDebug) →
        (s.after ops).Matches (s'.after ops') ∧
          ∀ op, ((s.after ops).perform op).1 = ((s'.after ops').perform op).1) ∧
    (∀ {P N R T T' : Type} [Trace.Sink T] [Trace.Sink T'] (g : Guard P N R T)
        (g' : Guard P N R T') (ops ops' : List (Operation P N R)),
      g.session.Matches g'.session →
      ops.filter (fun op => !op.isDebug) = ops'.filter (fun op => !op.isDebug) →
        (g.afterAll ops).session.Matches (g'.afterAll ops').session ∧
          (∀ op, ((g.afterAll ops).perform op).1 = ((g'.afterAll ops').perform op).1) ∧
          ∃ events : List Trace.Event,
            (g.afterAll ops).trace = events.foldl Trace.emit? g.trace ∧
              (g'.afterAll ops').trace = events.foldl Trace.emit? g'.trace) := by
  constructor
  · intro C σ S S' _ _ s s' ops ops' h hops
    have hafter := h.after hops
    exact ⟨hafter, fun op => (hafter.perform op).1⟩
  · intro P N R T T' _ _ g g' ops ops' h hops
    have hstart : Alongside g.trace g'.trace g g' := ⟨h, [], rfl, rfl⟩
    have hafter := hstart.afterAll hops
    exact ⟨hafter.session, fun op => (matches_perform hafter.session op).1, hafter.events⟩

/-- A runner that is watched for one of two ticks, and a guard that is watched from without while
its flag is set and cleared. Nobody watches the others. -/
theorem diagnostics_never_decide_watched :
    (let tree : Tree Nat Unit := .ofLines [.leaf "count" (.effect (· + 1))]
      let quiet : Runner.Session Nat Unit Trace.Silence := ⟨{ tree }, 0⟩
      let loud : Runner.Session Nat Unit Trace := ⟨{ tree, debug := true, sink := some {} }, 0⟩
      let ticks := quiet.after [.tick id, .reset, .tick id]
      let toggled := loud.after [.tick id, .setDebug false, .reset, .tick id]
      ticks.Matches toggled ∧ ticks.context = 2 ∧
        toggled.runner.sink = some ⟨#[⟨0, "bt.tick", 0, Status.success.code⟩]⟩) ∧
    ∃ g : Guard Scene (Noted FixedNavigator) (Minuted Tallies) Trace,
      create {} #[] ⟨true, some .zero⟩ ⟨⟨⟨0, 0, 9⟩, none⟩, []⟩ ⟨{}, []⟩ = .ok g ∧
        let watched := (g.withTrace {}).withDebug true
        let frames := g.afterAll [.evaluate ⟨1, 0.5, 7⟩, .setDebug true, .evaluate ⟨2, 0.5, 7⟩]
        let toggled :=
          watched.afterAll [.setDebug false, .evaluate ⟨1, 0.5, 7⟩, .evaluate ⟨2, 0.5, 7⟩]
        frames.session.Matches toggled.session ∧
          lastDestination frames.context.navigator.orders = some .zero ∧
          frames.context.referee.minutes = [.spotted] ∧ frames.trace = none ∧
          toggled.trace =
            some ⟨#[⟨1, "guard.transition", State.patrol.code, State.chase.code⟩]⟩ := by
  constructor
  · intro tree quiet loud ticks toggled
    have hmatches : ticks.Matches toggled := by
      refine (diagnostics_never_decide.1 quiet loud _ _ ⟨rfl, rfl, rfl, rfl⟩ ?_).1
      rfl
    refine ⟨hmatches, ?_⟩
    decide +kernel
  · obtain ⟨g, hg⟩ : ∃ g : Guard Scene (Noted FixedNavigator) (Minuted Tallies) Trace,
        create {} #[] ⟨true, some .zero⟩ ⟨⟨⟨0, 0, 9⟩, none⟩, []⟩ ⟨{}, []⟩ = .ok g :=
      ⟨_, create_eq_ok.2 ⟨by decide +kernel, rfl⟩⟩
    refine ⟨g, hg, ?_⟩
    intro watched frames toggled
    have hmatches : frames.session.Matches toggled.session := by
      refine (diagnostics_never_decide.2 g watched _ _ ⟨rfl, rfl, rfl, rfl⟩ ?_).1
      rfl
    refine ⟨hmatches, ?_⟩
    obtain ⟨-, rfl⟩ := create_eq_ok.1 hg
    decide +kernel

end Guard
end Guardhouse
