import Guardhouse.Proofs.Guard.Decision
import Guardhouse.Proofs.Guard.Effect

/-!
# The branches of the decision

A branch of the tree of a guard asks whether it applies. If it does not, it fails and has done
nothing else; if it does, it has the effect that is described here.
-/

namespace Guardhouse
namespace Guard

open Step (ask perform)

/-! ### Effects of whole branches -/

namespace Memory

/-- Chases: remembers where the target is perceived or counts down, and heads for where it is
sighted, or else for the last known position. Reports the pursuit, once. -/
def pursue (config : Config) (dt : Float32) (target sighted : Option Vec3) (m : Memory) : Effect :=
  let refreshed := m.refresh config dt target
  { memory := { refreshed.enter config .chase with alertRaised := true }
    orders :=
      refreshed.paceFor config .chase ++
        (sighted.or refreshed.lastKnownPosition).toList.map .goTo
    reports := if m.alertRaised then [] else [.spotted] }

/-- Searches around a point for `dt`, first towards a side. -/
def seek {N : Type} [Navigator N] (config : Config) (dt side : Float32) (body : N) (point : Vec3)
    (m : Memory) : Effect :=
  let pace := m.paceFor config .search
  let e := (m.beginSearch config side).searchAt config dt (follow pace body) point
  { e with
    memory :=
      { e.memory with searchTimeRemaining := atLeastZero (e.memory.searchTimeRemaining - dt) }
    orders := pace ++ e.orders }

/-- Returns to the route, or is on its way. -/
def giveUp (config : Config) (route : Array Vec3) (m : Memory) : Effect :=
  { memory := m.enter config .returnToPatrol
    orders :=
      if m.state = .returnToPatrol then []
      else .pace config.returnSpeedMultiplier :: (m.waypoint? route).toList.map .goTo }

/-- Patrols. -/
def patrol {N : Type} [Navigator N] (config : Config) (route : Array Vec3) (body : N) (m : Memory) :
    Effect :=
  let pace := m.paceFor config .patrol
  let e := (m.beginPatrol config).followRoute config route (follow pace body)
  { e with orders := pace ++ e.orders }

end Memory

namespace Context

variable {P N R : Type} [Navigator N]

/-! ### When they apply -/

theorem returnToRoute_eq (c : Context P N R) :
    c.returnToRoute =
      if c.shouldReturn then
        if c.enterReturn.reachedRoute then (.failure, c.enterReturn)
        else c.enterReturn.travelToRoute
      else (.failure, c) := by
  unfold returnToRoute
  rw [Composite.inSequence_ask, Composite.inSequence_perform, Composite.inSequence]
  cases c.enterReturn.reachedRoute <;> rfl

theorem patrol_eq (c : Context P N R) : c.patrol = c.enterPatrol.followRoute := by
  unfold patrol
  rw [Composite.inSequence_perform, Composite.inSequence_single]

/-- What a search does once it goes on. -/
def lookFor (c : Context P N R) : Status × Context P N R :=
  (c.enterSearch.searchLastKnownPosition.1,
    c.enterSearch.searchLastKnownPosition.2.countDownSearch.2)

section Asking

variable [Perception P]

theorem search_eq (c : Context P N R) :
    c.search =
      if c.shouldSearch.1 then c.shouldSearch.2.lookFor else (.failure, c.shouldSearch.2) := by
  have hcount (c : Context P N R) : c.countDownSearch.1 = .success := rfl
  unfold search
  rw [Composite.inSequence_ask, Composite.inSequence_perform, Composite.inSequence_single,
    Composite.inParallel_two (hcount _)]
  rfl

variable [Referee R]

theorem catchTarget_eq (c : Context P N R) :
    c.catchTarget =
      if inRangeOf c.askPosition.1 c.askPosition.2 then
        (.success, c.askPosition.2.reportCaught.2)
      else (.failure, c.askPosition.2) := by
  unfold catchTarget
  rw [Composite.inSequence_ask, Composite.inSequence_single, inCatchRange_eq]
  rfl

/-- What a chase does once it goes on. -/
def goAfter (c : Context P N R) : Status × Context P N R :=
  (c.refreshChase.enterChase.moveToTarget.1, c.refreshChase.enterChase.moveToTarget.2.raiseAlert.2)

theorem chase_eq (c : Context P N R) :
    c.chase =
      if pursuing c.perceive.1 c.perceive.2 then c.perceive.2.goAfter
      else (.failure, c.perceive.2) := by
  have hraise (c : Context P N R) : c.raiseAlert.1 = .success := by
    unfold raiseAlert
    split <;> rfl
  unfold chase
  rw [Composite.inSequence_ask, Composite.inSequence_perform, Composite.inSequence_perform,
    Composite.inSequence_single, Composite.inParallel_two (hraise _), shouldChase_eq]
  rfl

end Asking

/-! ### What they do then -/

variable [Referee R]

theorem does_lookFor (c : Context P N R) {point : Vec3}
    (h : c.memory.lastKnownPosition = some point) :
    c.Does c.lookFor.2
      (c.memory.seek c.config c.dt (c.frame.random c.agent lookAroundStream).sign.1 c.navigator
        point) := by
  have henter := does_enterSearch c
  have hpoint : c.enterSearch.memory.lastKnownPosition = some point := by
    rw [henter.memory]
    exact (Memory.lastKnownPosition_beginSearch ..).trans h
  have hsearch := does_searchAt c.enterSearch point
  rw [dt, henter.memory, henter.config, henter.frame, henter.navigator] at hsearch
  have hcount := does_countDownSearch (searchAt (some point) c.enterSearch).2
  rw [dt, hsearch.memory, hsearch.frame, henter.frame] at hcount
  unfold lookFor
  rw [searchLastKnownPosition_eq, hpoint]
  exact (henter.trans hsearch).trans_silent hcount

theorem does_giveUp (c : Context P N R) (h : c.memory.returnStarted = false) :
    c.Does c.enterReturn.travelToRoute.2 (c.memory.giveUp c.config c.route) := by
  have htravel (c : Context P N R) : c.Does c.travelToRoute.2
      ⟨{ c.memory with returnStarted := false }, [], []⟩ := by
    constructor <;> rfl
  -- the mark that the return has begun is set and cleared in the same frame
  rw [enterReturn_eq]
  unfold Memory.giveUp Memory.enter
  split
  · have hstay := htravel c
    rwa [← h] at hstay
  · let d : Context P N R := { c.switch .returnToPatrol with memory.returnStarted := true }
    have hswitch : c.Does d ⟨d.memory, [.pace c.config.returnSpeedMultiplier], []⟩ := by
      constructor <;> rfl
    have hhead := hswitch.trans (does_headForWaypoint d)
    have hdone := hhead.trans_silent (htravel _)
    rw [hhead.memory] at hdone
    rw [← h] at hdone
    exact hdone

theorem does_patrol (c : Context P N R) :
    c.Does c.patrol.2 (c.memory.patrol c.config c.route c.navigator) := by
  have henter := does_enterPatrol c
  have hfollow := does_followRoute c.enterPatrol
  rw [henter.memory, henter.config, henter.route, henter.navigator] at hfollow
  rw [patrol_eq]
  exact henter.trans hfollow

/-- A chase that goes on may perceive its target at two different places, or only once. -/
theorem does_goAfter [Perception P] (c : Context P N R) :
    c.Does c.goAfter.2
      (c.memory.pursue c.config c.dt c.perceive.1 c.refreshChase.enterChase.perceive.1) := by
  let m := c.memory.refresh c.config c.dt c.perceive.1
  -- from here on the target is asked for once more
  let d := c.refreshChase.enterChase
  have hrefresh := does_refreshChase c
  have henter := does_enterChase c.refreshChase
  rw [hrefresh.memory, hrefresh.config] at henter
  have hchase : c.Does d ⟨m.enter c.config .chase, m.paceFor c.config .chase, []⟩ :=
    hrefresh.trans henter
  have hsee := does_perceive d
  rw [hchase.memory] at hsee
  have hperceive := hchase.trans_silent hsee
  have hknown : d.perceive.2.memory.lastKnownPosition = m.lastKnownPosition := by
    rw [hperceive.memory]
    exact Memory.lastKnownPosition_enter ..
  have hmove : c.Does d.moveToTarget.2 ⟨m.enter c.config .chase,
      m.paceFor c.config .chase ++ (d.perceive.1.or m.lastKnownPosition).toList.map .goTo, []⟩ := by
    have hhead := does_headForSome d.perceive.2 (d.perceive.1.or m.lastKnownPosition)
    rw [hperceive.memory] at hhead
    rw [moveToTarget_eq, hknown]
    exact hperceive.trans hhead
  have halert := does_raiseAlert d.moveToTarget.2
  have hraised : d.moveToTarget.2.memory.alertRaised = c.memory.alertRaised := by
    rw [hmove.memory]
    exact (Memory.alertRaised_enter ..).trans (Memory.alertRaised_refresh ..)
  rw [hraised, hmove.memory] at halert
  exact hmove.trans_report halert

end Context
end Guard
end Guardhouse
