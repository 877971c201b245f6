import Guardhouse.Navigator.Fixed
import Guardhouse.Proofs.Guard.Step

/-!
# Runs of a guard

`Reachable` are the guards that a host can have: everything that a host can do with a guard is one
of its constructors. All of them have the tree that they were built with and a sound memory
(`Reachable.sound`), so that in every frame a guard does its flat step, and remembers nothing that
makes no sense.
-/

namespace Guardhouse
namespace Guard

variable {P N R T : Type}

/-- What a guard does in a frame in which it sees a scene: time passes, and the first rule that
applies decides. -/
def step [Navigator N] (g : Guard P N R T) (frame : Frame) (v : Scene) : Effect :=
  { g.memory with clock := g.memory.clock + widen frame.dt }.step g.context.agent g.context.config
    g.context.route frame g.context.navigator v

/-- The guard whose referee has been updated by the host. -/
def mapReferee (g : Guard P N R T) (f : R → R) : Guard P N R T :=
  { g with context := { g.context with referee := f g.context.referee } }

variable [Perception P] [Navigator N] [Referee R]

/-! ### The invariant -/

theorem create_eq_ok {config : Config} {route : Array Vec3} {perception : P} {navigator : N}
    {referee : R} {g : Guard P N R T} :
    create config route perception navigator referee = .ok g ↔
      config.check = .ok () ∧
        { runner := { tree := Context.pursuit }
          context := .start config route perception navigator referee } = g := by
  unfold create
  cases config.check with
  | error e => exact ⟨fun h => (nomatch h), fun h => (nomatch h.1)⟩
  | ok => exact ⟨fun h => ⟨rfl, Except.ok.inj h⟩, fun h => congrArg Except.ok h.2⟩

/-- A guard with its tree as it was built and a sound memory. -/
structure Sound (g : Guard P N R T) : Prop where
  plan : g.runner.tree.plan = Context.pursuit.plan
  context : g.context.Sound

namespace Sound

variable {g : Guard P N R T} {frame : Frame} {v : Scene}

theorem of_create {config : Config} {route : Array Vec3} {perception : P} {navigator : N}
    {referee : R} (h : Guard.create config route perception navigator referee = .ok g) :
    g.Sound := by
  obtain ⟨hcheck, rfl⟩ := create_eq_ok.1 h
  exact ⟨rfl, Config.zero_le_chasePersistence hcheck, Memory.sound_fresh _ _ _⟩

theorem begin (h : g.Sound) (frame : Frame) : (g.context.begin frame).Sound :=
  ⟨h.context.config, h.context.memory.passTime _⟩

theorem reset (h : g.Sound) : g.reset.Sound := by
  have hplan : g.runner.tree.reset.plan = g.runner.tree.plan := Tree.plan_reset _
  exact ⟨hplan.trans h.plan, h.context.config, Memory.sound_fresh _ _ _⟩

variable [Trace.Sink T]

theorem evaluate (h : g.Sound) (frame : Frame) : (g.evaluate frame).guard.Sound := by
  obtain ⟨hcontext, -, hplan⟩ := evaluate_eq h.plan frame
  exact ⟨hplan, hcontext ▸ (h.begin frame).decision⟩

/-- A guard that sees a scene does its step. -/
theorem does_step (h : g.Sound) (hv : g.Sees frame v) :
    (g.context.begin frame).Does (g.evaluate frame).guard.context (g.step frame v) := by
  -- soundness does not look at the perception, so the scene may stand in for it
  have hscene : ((g.context.withPerception v).begin frame).Sound :=
    ⟨(h.begin frame).config, (h.begin frame).memory⟩
  have hdoes := Context.does_decision hscene
  rw [hv.decision_eq] at hdoes
  rw [(evaluate_eq h.plan frame).1]
  exact ⟨hdoes.memory, hdoes.navigator, hdoes.referee, hdoes.config, hdoes.route, hdoes.agent,
    hdoes.frame⟩

end Sound

/-! ### All guards -/

variable [Trace.Sink T]

/-- The guards that a host can have. It creates a guard, for a configuration that passes the check;
sets it up; changes what it perceives, where its body is and what its referee knows; evaluates it,
in frames that are admitted; and resets it. -/
inductive Reachable (admits : Guard P N R T → Frame → Prop) : Guard P N R T → Prop
  | create {config : Config} {route : Array Vec3} {perception : P} {navigator : N} {referee : R}
      {g : Guard P N R T} (h : create config route perception navigator referee = .ok g) :
      Reachable admits g
  | withAgent {g : Guard P N R T} (agent : UInt64) (h : Reachable admits g) :
      Reachable admits (g.withAgent agent)
  | withTrace {g : Guard P N R T} (trace : T) (h : Reachable admits g) :
      Reachable admits (g.withTrace trace)
  | withDebug {g : Guard P N R T} (debug : Bool) (h : Reachable admits g) :
      Reachable admits (g.withDebug debug)
  | mapPerception {g : Guard P N R T} (f : P → P) (h : Reachable admits g) :
      Reachable admits (g.mapPerception f)
  | mapNavigator {g : Guard P N R T} (f : N → N) (h : Reachable admits g) :
      Reachable admits (g.mapNavigator f)
  | mapReferee {g : Guard P N R T} (f : R → R) (h : Reachable admits g) :
      Reachable admits (g.mapReferee f)
  | evaluate {g : Guard P N R T} {frame : Frame} (h : Reachable admits g) (ha : admits g frame) :
      Reachable admits (g.evaluate frame).guard
  | reset {g : Guard P N R T} (h : Reachable admits g) : Reachable admits g.reset

namespace Reachable

variable {admits : Guard P N R T → Frame → Prop} {g : Guard P N R T}

theorem sound (h : Reachable admits g) : g.Sound := by
  induction h with
  | create h => exact .of_create h
  | withAgent agent _ ih => exact ⟨ih.plan, ih.context.config, ih.context.memory⟩
  | withTrace trace _ ih => exact ⟨ih.plan, ih.context⟩
  | withDebug debug _ ih => exact ⟨ih.plan, ih.context⟩
  | mapPerception f _ ih => exact ⟨ih.plan, ih.context.config, ih.context.memory⟩
  | mapNavigator f _ ih => exact ⟨ih.plan, ih.context.config, ih.context.memory⟩
  | mapReferee f _ ih => exact ⟨ih.plan, ih.context.config, ih.context.memory⟩
  | evaluate _ _ ih => exact ih.evaluate _
  | reset _ ih => exact ih.reset

/-- As long as no answer changes within a frame, a guard off patrol knows where the target was. -/
theorem known (hsteady : ∀ g frame, admits g frame → g.Steady frame) (h : Reachable admits g) :
    g.memory.Known := by
  induction h with
  | create h =>
    obtain ⟨-, rfl⟩ := create_eq_ok.1 h
    exact ⟨fun h => (nomatch h), fun h => absurd rfl h⟩
  | withAgent agent _ ih => exact ih
  | withTrace trace _ ih => exact ih
  | withDebug debug _ ih => exact ih
  | mapPerception f _ ih => exact ih
  | mapNavigator f _ ih => exact ih
  | mapReferee f _ ih => exact ih
  | @evaluate g frame h ha ih =>
    obtain ⟨v, hv⟩ := hsteady g frame ha
    show (g.evaluate frame).guard.context.memory.Known
    rw [(h.sound.does_step hv).memory]
    exact (h.sound.begin frame).memory.known_step ih ..
  | reset _ _ => exact ⟨fun h => (nomatch h), fun h => absurd rfl h⟩

end Reachable

variable {admits : Guard P N R T → Frame → Prop} {g : Guard P N R T}

/-- Whatever has happened to a guard: in a frame in which it sees a scene, it has the effect of its
step on its memory, on its body and on its referee, and on nothing else that it decides by, and it
reports the state that the step leads to. -/
theorem evaluate_refines_step {frame : Frame} {v : Scene} (h : Reachable admits g)
    (hv : g.Sees frame v) :
    (g.evaluate frame).state = (g.step frame v).memory.state ∧
      (g.evaluate frame).guard.memory = (g.step frame v).memory ∧
      (g.evaluate frame).guard.context.navigator =
        follow (g.step frame v).orders g.context.navigator ∧
      (g.evaluate frame).guard.context.referee =
        (g.step frame v).reports.foldl Report.deliver g.context.referee ∧
      (g.evaluate frame).guard.context.config = g.context.config ∧
      (g.evaluate frame).guard.context.route = g.context.route ∧
      (g.evaluate frame).guard.context.agent = g.context.agent := by
  have hdoes := h.sound.does_step hv
  have hmemory : (g.evaluate frame).guard.memory = (g.step frame v).memory := hdoes.memory
  exact ⟨congrArg Memory.state hmemory, hmemory, hdoes.navigator, hdoes.referee, hdoes.config,
    hdoes.route, hdoes.agent⟩

/-- A guard that sees its target nine units away chases and reports it. -/
theorem evaluate_refines_step_sighted :
    ∃ g : Guard Scene FixedNavigator Tallies Trace,
      create {} #[] ⟨true, some .zero⟩ ⟨⟨0, 0, 9⟩, none⟩ {} = .ok g ∧
        (g.evaluate ⟨1, 0.5, 7⟩).state = .chase ∧
        (g.evaluate ⟨1, 0.5, 7⟩).guard.context.navigator = ⟨⟨0, 0, 9⟩, some .zero⟩ ∧
        (g.evaluate ⟨1, 0.5, 7⟩).guard.context.referee = ⟨0, 1⟩ := by
  obtain ⟨g, hg⟩ : ∃ g : Guard Scene FixedNavigator Tallies Trace,
      create {} #[] ⟨true, some .zero⟩ ⟨⟨0, 0, 9⟩, none⟩ {} = .ok g :=
    ⟨_, create_eq_ok.2 ⟨by decide, rfl⟩⟩
  refine ⟨g, hg, ?_⟩
  have hreachable : Reachable Steady g := .create hg
  have hsees : g.Sees ⟨1, 0.5, 7⟩ g.context.perception := sees_of_still rfl rfl
  obtain ⟨hstate, -, hbody, hreferee, -⟩ := evaluate_refines_step hreachable hsees
  rw [hstate, hbody, hreferee]
  obtain ⟨-, rfl⟩ := create_eq_ok.1 hg
  decide +kernel

/-- What a guard remembers is coherent, whatever its perception answers. If no answer changes within
a frame, it knows where the target was if and only if it does not patrol. -/
theorem memory_coherent (h : Reachable admits g) :
    g.memory.Coherent ∧
      ((∀ g frame, admits g frame → g.Steady frame) → g.memory.Known) :=
  ⟨h.sound.context.memory.toCoherent, fun hsteady => h.known hsteady⟩

/-- A guard that has seen its target. -/
theorem memory_coherent_sighted :
    ∃ g : Guard Scene FixedNavigator Tallies Trace,
      create {} #[] ⟨true, some .zero⟩ ⟨⟨0, 0, 9⟩, none⟩ {} = .ok g ∧
        (g.evaluate ⟨1, 0.5, 7⟩).guard.memory.Coherent ∧
        (g.evaluate ⟨1, 0.5, 7⟩).guard.memory.Known := by
  obtain ⟨g, hg⟩ : ∃ g : Guard Scene FixedNavigator Tallies Trace,
      create {} #[] ⟨true, some .zero⟩ ⟨⟨0, 0, 9⟩, none⟩ {} = .ok g :=
    ⟨_, create_eq_ok.2 ⟨by decide, rfl⟩⟩
  refine ⟨g, hg, ?_⟩
  have hcreated : Reachable Steady g := .create hg
  have hsees : g.Sees ⟨1, 0.5, 7⟩ g.context.perception := sees_of_still rfl rfl
  have hcoherent := memory_coherent (hcreated.evaluate ⟨_, hsees⟩)
  exact ⟨hcoherent.1, hcoherent.2 fun _ _ h => h⟩

end Guard
end Guardhouse
