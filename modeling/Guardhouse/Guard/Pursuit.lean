import Guardhouse.Guard.Conduct
import Guardhouse.Tree.Builder

/-!
# Pursuit

The tree of a guard. Its branches are tried in order of their priority: to catch a target in range,
to chase one, to search for one that was lost, to return to the route; patrolling is what remains.
-/

namespace Guardhouse
namespace Guard
namespace Context

variable {P N R : Type} [Perception P] [Navigator N] [Referee R]

/-- A condition that only looks at the context. -/
private def condition (test : Context P N R → Bool) : Leaf (Context P N R) Unit :=
  .condition fun c => (test c, c)

/-- The outline of the tree of a guard. -/
def outline : List (Line (Context P N R) Unit) :=
  [.composite "Guard" .selector,
    .composite "Catch" .sequence,
      .leaf "InCatchRange" (.condition inCatchRange),
      .leaf "ReportCaught" (.act reportCaught),
    .close,
    .composite "Chase" .sequence,
      .leaf "ShouldChase" (.condition shouldChase),
      .leaf "RefreshChase" (.effect refreshChase),
      .leaf "EnterChase" (.effect enterChase),
      .composite "Pursue" (.parallel 2),
        .leaf "MoveToTarget" (.act moveToTarget),
        .leaf "RaiseAlert" (.act raiseAlert),
      .close,
    .close,
    .composite "Search" .sequence,
      .leaf "ShouldSearch" (.condition shouldSearch),
      .leaf "EnterSearch" (.effect enterSearch),
      .composite "SearchArea" (.parallel 2),
        .leaf "SearchLastKnownPosition" (.act searchLastKnownPosition),
        .leaf "CountDownSearch" (.act countDownSearch),
      .close,
    .close,
    .composite "ReturnToPatrol" .sequence,
      .leaf "ShouldReturn" (condition shouldReturn),
      .leaf "EnterReturn" (.effect enterReturn),
      .decorator "NotArrived" .inverter,
      .leaf "ReachedPatrolRoute" (condition reachedRoute),
      .leaf "TravelToRoute" (.act travelToRoute),
    .close,
    .composite "Patrol" .sequence,
      .leaf "EnterPatrol" (.effect enterPatrol),
      .leaf "FollowRoute" (.act followRoute),
    .close,
  .close]

/-- The tree of a guard. -/
def pursuit : Tree (Context P N R) Unit := .ofLines outline

end Context
end Guard
end Guardhouse
