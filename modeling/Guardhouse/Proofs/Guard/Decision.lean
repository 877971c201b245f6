import Guardhouse.Guard
import Guardhouse.Proofs.Guard.Conduct
import Guardhouse.Proofs.Runner.Session
import Guardhouse.Proofs.Tree.Reaction

/-!
# The decision of a guard

The tree of a guard remembers nothing, so in every frame a guard does what `Context.decision` does
to its context, however often it was evaluated before (`Guard.evaluate_eq`).
-/

namespace Guardhouse
namespace Guard

open Step (ask perform)

variable {P N R T : Type} [Perception P] [Navigator N] [Referee R]

namespace Context

/-- The tree of a guard, as its outline is nested. -/
def pursuitShape : Shape Unit (Context P N R) Unit :=
  .composite () "Guard" .selector
    [.composite () "Catch" .sequence
      [.leaf () "InCatchRange" (.condition inCatchRange),
        .leaf () "ReportCaught" (.act reportCaught)],
    .composite () "Chase" .sequence
      [.leaf () "ShouldChase" (.condition shouldChase),
        .leaf () "RefreshChase" (.effect refreshChase),
        .leaf () "EnterChase" (.effect enterChase),
        .composite () "Pursue" (.parallel 2)
          [.leaf () "MoveToTarget" (.act moveToTarget),
            .leaf () "RaiseAlert" (.act raiseAlert)]],
    .composite () "Search" .sequence
      [.leaf () "ShouldSearch" (.condition shouldSearch),
        .leaf () "EnterSearch" (.effect enterSearch),
        .composite () "SearchArea" (.parallel 2)
          [.leaf () "SearchLastKnownPosition" (.act searchLastKnownPosition),
            .leaf () "CountDownSearch" (.act countDownSearch)]],
    .composite () "ReturnToPatrol" .sequence
      [.leaf () "ShouldReturn" (.condition fun c => (c.shouldReturn, c)),
        .leaf () "EnterReturn" (.effect enterReturn),
        .decorator () "NotArrived" .inverter
          (.leaf () "ReachedPatrolRoute" (.condition fun c => (c.reachedRoute, c))),
        .leaf () "TravelToRoute" (.act travelToRoute)],
    .composite () "Patrol" .sequence
      [.leaf () "EnterPatrol" (.effect enterPatrol),
        .leaf () "FollowRoute" (.act followRoute)]]

theorem outline_eq : (outline : List (Line (Context P N R) Unit)) = pursuitShape.lines := rfl

theorem forgetful_pursuitShape : (pursuitShape : Shape Unit (Context P N R) Unit).Forgetful := by
  simp [pursuitShape, Shape.Forgetful, Leaf.act, Leaf.effect]

/-! ### The branches -/

def catchTarget : Step (Context P N R) := Composite.inSequence [ask inCatchRange, reportCaught]

def chase : Step (Context P N R) :=
  Composite.inSequence
    [ask shouldChase, perform refreshChase, perform enterChase,
      Composite.inParallel 2 [moveToTarget, raiseAlert]]

def search : Step (Context P N R) :=
  Composite.inSequence
    [ask shouldSearch, perform enterSearch,
      Composite.inParallel 2 [searchLastKnownPosition, countDownSearch]]

def returnToRoute : Step (Context P N R) :=
  Composite.inSequence
    [ask fun c => (c.shouldReturn, c), perform enterReturn,
      fun c => (Status.invert (.ofBool c.reachedRoute), c), travelToRoute]

def patrol : Step (Context P N R) := Composite.inSequence [perform enterPatrol, followRoute]

/-- What a guard does in a frame that has begun. -/
def decision : Step (Context P N R) :=
  Composite.select [catchTarget, chase, search, returnToRoute, patrol]

theorem react_pursuitShape :
    (pursuitShape : Shape Unit (Context P N R) Unit).react = decision := rfl

section Lockstep

variable {P' N' R' : Type} [Perception P'] [Navigator N'] [Referee R']

/-- Every leaf answers alike in related contexts and leaves related contexts, or something bad
happens. -/
structure Conducts (bad : Context P N R → Prop) (r : Context P N R → Context P' N' R' → Prop) :
    Prop where
  inCatchRange : Tracks bad r inCatchRange inCatchRange
  reportCaught : Tracks bad r reportCaught reportCaught
  shouldChase : Tracks bad r shouldChase shouldChase
  refreshChase : Tracks bad r (perform refreshChase) (perform refreshChase)
  enterChase : Tracks bad r (perform enterChase) (perform enterChase)
  moveToTarget : Tracks bad r moveToTarget moveToTarget
  raiseAlert : Tracks bad r raiseAlert raiseAlert
  shouldSearch : Tracks bad r shouldSearch shouldSearch
  enterSearch : Tracks bad r (perform enterSearch) (perform enterSearch)
  searchLastKnownPosition : Tracks bad r searchLastKnownPosition searchLastKnownPosition
  countDownSearch : Tracks bad r countDownSearch countDownSearch
  shouldReturn : Tracks bad r (fun c => (c.shouldReturn, c)) (fun c => (c.shouldReturn, c))
  enterReturn : Tracks bad r (perform enterReturn) (perform enterReturn)
  reachedRoute : Tracks bad r (fun c => (c.reachedRoute, c)) (fun c => (c.reachedRoute, c))
  travelToRoute : Tracks bad r travelToRoute travelToRoute
  enterPatrol : Tracks bad r (perform enterPatrol) (perform enterPatrol)
  followRoute : Tracks bad r followRoute followRoute

variable {bad : Context P N R → Prop} {r : Context P N R → Context P' N' R' → Prop}

/-- What every leaf does, the decision does. -/
theorem Conducts.decision (h : Conducts bad r) : Tracks bad r decision decision := by
  have hcatch : Tracks bad r catchTarget catchTarget :=
    Composite.tracks .sequence
      (.cons (h.inCatchRange.map Status.ofBool) (.cons h.reportCaught .nil))
  have hpursue : Tracks bad r (Composite.inParallel 2 [Context.moveToTarget, Context.raiseAlert])
      (Composite.inParallel 2 [Context.moveToTarget, Context.raiseAlert]) :=
    Composite.tracks (.parallel 2) (.cons h.moveToTarget (.cons h.raiseAlert .nil))
  have hchase : Tracks bad r chase chase :=
    Composite.tracks .sequence
      (.cons (h.shouldChase.map Status.ofBool) (.cons h.refreshChase
        (.cons h.enterChase (.cons hpursue .nil))))
  have harea : Tracks bad r
      (Composite.inParallel 2 [Context.searchLastKnownPosition, Context.countDownSearch])
      (Composite.inParallel 2 [Context.searchLastKnownPosition, Context.countDownSearch]) :=
    Composite.tracks (.parallel 2)
      (.cons h.searchLastKnownPosition (.cons h.countDownSearch .nil))
  have hsearch : Tracks bad r search search :=
    Composite.tracks .sequence
      (.cons (h.shouldSearch.map Status.ofBool) (.cons h.enterSearch (.cons harea .nil)))
  have hreturn : Tracks bad r returnToRoute returnToRoute :=
    Composite.tracks .sequence
      (.cons (h.shouldReturn.map Status.ofBool) (.cons h.enterReturn
        (.cons (h.reachedRoute.map fun reached => Status.invert (.ofBool reached))
          (.cons h.travelToRoute .nil))))
  have hpatrol : Tracks bad r patrol patrol :=
    Composite.tracks .sequence (.cons h.enterPatrol (.cons h.followRoute .nil))
  exact Composite.tracks .selector
    (.cons hcatch (.cons hchase (.cons hsearch (.cons hreturn (.cons hpatrol .nil)))))

end Lockstep

theorem plan_pursuit :
    (pursuit : Tree (Context P N R) Unit).plan = .ofLines pursuitShape.lines := by
  rw [← outline_eq, pursuit]
  exact Tree.plan_ofLines _

end Context

/-- A guard does what `Context.decision` does to its context, and has the same tree afterwards. -/
theorem evaluate_eq [Trace.Sink T] {g : Guard P N R T}
    (h : g.runner.tree.plan = Context.pursuit.plan) (frame : Frame) :
    (g.evaluate frame).guard.context = (Context.decision (g.context.begin frame)).2 ∧
      (g.evaluate frame).state = (Context.decision (g.context.begin frame)).2.memory.state ∧
      (g.evaluate frame).guard.runner.tree.plan = Context.pursuit.plan := by
  obtain ⟨hroot, hreact⟩ := Tree.evaluate_of_forgetful Context.forgetful_pursuitShape
    (h.trans Context.plan_pursuit) (g.context.begin frame)
  obtain ⟨-, hcontext, hrunner⟩ := g.runner.tick_eq (g.context.begin frame)
  have hdecision : (g.runner.tick (g.context.begin frame)).context =
      (Context.decision (g.context.begin frame)).2 := by
    rw [hcontext, Tree.evaluate, hroot]
    exact congrArg Prod.snd hreact
  refine ⟨hdecision, congrArg (·.memory.state) hdecision, ?_⟩
  show (g.runner.tick (g.context.begin frame)).runner.tree.plan = _
  rw [hrunner]
  exact (Tree.plan_evaluate _ _).trans h

end Guard
end Guardhouse
