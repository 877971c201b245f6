import Guardhouse.Proofs.Guard.Rule
import Guardhouse.Proofs.Guard.Run

/-!
# What a guard does in a frame, whatever is answered

A guard that sees a scene follows one rule. A perception that changes its mind within a frame can do
more: it can start a chase and then give it nowhere to go, and the patrol comes after that.
`Memory.Acts` lists all effects that a frame can have (`Guard.Sound.acts`), and `Memory.Moves` all
that can become of a memory (`Guard.Sound.moves`), so that what holds in every frame is shown case
by case.
-/

namespace Guardhouse
namespace Guard

/-- Chases without knowing where to go, and so patrols after that. -/
def Memory.falter {N : Type} [Navigator N] (config : Config) (route : Array Vec3) (dt : Float32)
    (body : N) (m : Memory) : Effect :=
  let chase := m.pursue config dt none none
  let e := chase.memory.patrol config route (follow chase.orders body)
  { e with orders := chase.orders ++ e.orders, reports := chase.reports ++ e.reports }

/-- What a guard can do in a frame of length `dt`, where `side` is the side to which a search
begins. The last two are whether the target is in catch range, and the effect. -/
inductive Memory.Acts {N : Type} [Navigator N] (config : Config) (route : Array Vec3)
    (dt side : Float32) (body : N) (m : Memory) : Bool → Effect → Prop
  | caught :
      Acts config route dt side body m true
        { memory := { m with caughtReports := m.caughtReports + 1 }, reports := [.caught] }
  | pursued (target sighted : Option Vec3) :
      Acts config route dt side body m false (m.pursue config dt target sighted)
  | sought {point : Vec3} (hstate : m.state ≠ .patrol) (hknown : m.lastKnownPosition = some point) :
      Acts config route dt side body m false (m.seek config dt side body point)
  | gaveUp (hlost : m.state = .search ∨ m.state = .returnToPatrol) :
      Acts config route dt side body m false (m.giveUp config route)
  | patrolled : Acts config route dt side body m false (m.patrol config route body)
  | faltered (hknown : m.lastKnownPosition = none) :
      Acts config route dt side body m false (m.falter config route dt body)

/-- What can become of a memory in a frame of length `dt`, where `side` is the side to which a
search begins. -/
inductive Memory.Moves (N : Type) [Navigator N] (config : Config) (route : Array Vec3)
    (dt side : Float32) (m : Memory) : Memory → Prop
  | caught : Moves N config route dt side m { m with caughtReports := m.caughtReports + 1 }
  | pursued (target sighted : Option Vec3) :
      Moves N config route dt side m (m.pursue config dt target sighted).memory
  | sought (body : N) {point : Vec3} (hstate : m.state ≠ .patrol)
      (hknown : m.lastKnownPosition = some point) :
      Moves N config route dt side m (m.seek config dt side body point).memory
  | gaveUp (hlost : m.state = .search ∨ m.state = .returnToPatrol) :
      Moves N config route dt side m (m.giveUp config route).memory
  | patrolled (body : N) : Moves N config route dt side m (m.patrol config route body).memory
  /-- A chase that has begun, but does not know where to go, and the patrol after it. -/
  | dropped (target sighted : Option Vec3) (body : N) :
      Moves N config route dt side m
        ((m.pursue config dt target sighted).memory.patrol config route body).memory

theorem Memory.Acts.moves {N : Type} [Navigator N] {config : Config} {route : Array Vec3}
    {dt side : Float32} {body : N} {m : Memory} {near : Bool} {e : Effect}
    (h : m.Acts config route dt side body near e) : m.Moves N config route dt side e.memory := by
  cases h with
  | caught => exact .caught
  | pursued target sighted => exact .pursued target sighted
  | sought hstate hknown => exact .sought body hstate hknown
  | gaveUp hlost => exact .gaveUp hlost
  | patrolled => exact .patrolled body
  | faltered => exact .dropped none none _

namespace Context

variable {P N R : Type} [Navigator N]

/-- After a chase without a known position nothing but the patrol applies. -/
theorem select_of_lost [Perception P] {c : Context P N R} (hstate : c.memory.state = .chase)
    (hknown : c.memory.lastKnownPosition = none) :
    (Composite.select [search, returnToRoute, patrol] c).2 = c.patrol.2 := by
  have hsearch := search_eq c
  have hshould : c.shouldSearch = (false, c) := by
    rw [shouldSearch_eq]
    simp [ranOut, searching, hstate, hknown]
  have hreturn := returnToRoute_eq c
  have hstay : c.shouldReturn = false := by simp [shouldReturn, hstate]
  rw [hshould] at hsearch
  rw [hstay] at hreturn
  rw [Composite.select_of_failed hsearch, Composite.select_of_failed hreturn,
    Composite.snd_select_single]

variable [Referee R]

/-- One context becomes another by what a guard can do in the frame that has begun. -/
def Acts (near : Bool) (c c' : Context P N R) : Prop :=
  ∃ e, c.Does c' e ∧
    c.memory.Acts c.config c.route c.dt (c.frame.random c.agent lookAroundStream).sign.1 c.navigator
      near e

/-- One context becomes another in the frame that has begun. -/
def Moves (c c' : Context P N R) : Prop :=
  ∃ e, c.Does c' e ∧
    c.memory.Moves N c.config c.route c.dt (c.frame.random c.agent lookAroundStream).sign.1 e.memory

/-- Nothing is done as long as nothing is done but asking. -/
theorem Does.acts {near : Bool} {c c' c'' : Context P N R} (h : c.Does c' ⟨c.memory, [], []⟩)
    (hacts : Acts near c' c'') : Acts near c c'' := by
  obtain ⟨e, hdoes, he⟩ := hacts
  have hbody : c'.navigator = c.navigator := h.navigator
  unfold dt at he
  rw [h.memory, h.config, h.route, h.frame, h.agent, hbody] at he
  exact ⟨_, h.trans hdoes, he⟩

theorem acts_patrol (c : Context P N R) : Acts false c c.patrol.2 := ⟨_, does_patrol c, .patrolled⟩

/-- From a return on. -/
theorem acts_homeward {c : Context P N R} (h : c.Sound) :
    Acts false c (Composite.select [returnToRoute, patrol] c).2 := by
  have hreturn := returnToRoute_eq c
  split at hreturn
  · next hshould =>
    split at hreturn
    · next hreached =>
      rw [Composite.select_of_failed hreturn, Composite.snd_select_single]
      -- only a guard that was on its way already can have arrived, and it enters nothing
      rw [enterReturn_eq] at hreached ⊢
      split at hreached
      · next hstate =>
        rw [if_pos hstate]
        exact acts_patrol c
      · rw [reachedRoute_startReturn] at hreached
        cases hreached
    · have hstatus : c.returnToRoute.1 ≠ .failure := by
        rw [hreturn]
        exact Status.noConfusion
      rw [Composite.select_of_decided hstatus, hreturn]
      exact ⟨_, does_giveUp c h.memory.settled, .gaveUp (lost_of_shouldReturn hshould)⟩
  · rw [Composite.select_of_failed hreturn, Composite.snd_select_single]
    exact acts_patrol c

variable [Perception P]

/-- From a search on. -/
theorem acts_onward {c : Context P N R} (h : c.Sound) :
    Acts false c (Composite.select [search, returnToRoute, patrol] c).2 := by
  have hask := does_shouldSearch c
  have hsound := h.of_does hask h.memory
  have hsearch := search_eq c
  split at hsearch
  · next hshould =>
    obtain ⟨hstate, hknown⟩ := h.known_of_shouldSearch hshould
    obtain ⟨point, hpoint⟩ := Option.isSome_iff_exists.1 hknown
    have hmemory : c.shouldSearch.2.memory = c.memory := hask.memory
    rw [← hmemory] at hpoint hstate
    rw [Composite.select_of_decided (hsearch ▸ lookFor_ne_failure hpoint), hsearch]
    exact hask.acts ⟨_, does_lookFor _ hpoint, .sought hstate hpoint⟩
  · rw [Composite.select_of_failed hsearch]
    exact hask.acts (acts_homeward hsound)

/-- A chase that fails has not perceived its target while it went on, and knows no position. -/
theorem lost_of_goAfter {c : Context P N R} (h : c.goAfter.1 = .failure) :
    c.perceive.1 = none ∧ c.refreshChase.enterChase.perceive.1 = none ∧
      c.memory.lastKnownPosition = none := by
  let d := c.refreshChase.enterChase
  have hmove : (headForSome (d.perceive.1.or d.perceive.2.memory.lastKnownPosition)
      d.perceive.2).1 = .failure := h
  have hknown : d.perceive.2.memory.lastKnownPosition =
      (c.memory.refresh c.config c.dt c.perceive.1).lastKnownPosition := by
    rw [(does_perceive d).memory, (does_enterChase c.refreshChase).memory,
      Memory.lastKnownPosition_enter, (does_refreshChase c).memory]
  rw [hknown] at hmove
  cases hdestination : d.perceive.1.or
      (c.memory.refresh c.config c.dt c.perceive.1).lastKnownPosition with
  | some destination =>
    rw [hdestination] at hmove
    cases hmove
  | none =>
    obtain ⟨hsighted, hlast⟩ := Option.or_eq_none_iff.1 hdestination
    cases htarget : c.perceive.1 with
    | some target =>
      rw [htarget] at hlast
      cases hlast
    | none =>
      rw [htarget] at hlast
      exact ⟨rfl, hsighted, hlast⟩

/-- Whatever its perception answers, a guard acts in one of these ways. -/
theorem acts_decision {c : Context P N R} (h : c.Sound) :
    Acts (inRangeOf c.askPosition.1 c.askPosition.2) c c.decision.2 := by
  have hask := does_askPosition c
  have hcatch := catchTarget_eq c
  unfold decision
  split at hcatch
  · next hnear =>
    have hstatus : c.catchTarget.1 ≠ .failure := by
      rw [hcatch]
      exact Status.noConfusion
    rw [Composite.select_of_decided hstatus, hcatch, hnear]
    exact hask.acts ⟨_, does_reportCaught _, .caught⟩
  next hfar =>
  rw [Composite.select_of_failed hcatch, Bool.eq_false_iff.2 hfar]
  refine hask.acts ?_
  have hsound := h.of_does hask h.memory
  generalize c.askPosition.2 = c at hsound
  have hlook := does_perceive c
  have hseen := hsound.of_does hlook hsound.memory
  have hchase := chase_eq c
  split at hchase
  · refine hlook.acts ?_
    have hgo := does_goAfter c.perceive.2
    by_cases hfailed : c.perceive.2.goAfter.1 = .failure
    · obtain ⟨htarget, hsighted, hknown⟩ := lost_of_goAfter hfailed
      rw [htarget, hsighted] at hgo
      have hstate : c.perceive.2.goAfter.2.memory.state = .chase := by
        rw [hgo.memory]
        exact Memory.state_pursue ..
      have hlost : c.perceive.2.goAfter.2.memory.lastKnownPosition = none := by
        rw [hgo.memory]
        exact (Memory.lastKnownPosition_enter ..).trans hknown
      have hfails : c.chase = (.failure, c.perceive.2.goAfter.2) := by
        rw [hchase, ← hfailed]
      have hpatrol := does_patrol c.perceive.2.goAfter.2
      rw [hgo.memory, hgo.config, hgo.route, hgo.navigator] at hpatrol
      rw [Composite.select_of_failed hfails, select_of_lost hstate hlost]
      exact ⟨_, hgo.trans hpatrol, .faltered hknown⟩
    · rw [Composite.select_of_decided (hchase ▸ hfailed), hchase]
      exact ⟨_, hgo, .pursued _ _⟩
  · rw [Composite.select_of_failed hchase]
    exact hlook.acts (acts_onward hseen)

end Context

variable {P N R T : Type} [Perception P] [Navigator N]

/-- There is a target nearer to the body than the catch distance as a frame begins, perceived or
not. -/
def InReach (g : Guard P N R T) : Prop :=
  ∃ target, (Perception.targetPosition g.context.perception).1 = some target ∧
    (Navigator.position g.context.navigator).distance target < g.context.config.catchDistance

theorem inReach_iff {g : Guard P N R T} (frame : Frame) :
    g.InReach ↔ Context.inRangeOf (g.context.begin frame).askPosition.1
      (g.context.begin frame).askPosition.2 = true := by
  rw [Context.inRangeOf_eq_any, Option.any_eq_true]
  simp only [decide_eq_true_eq]
  rfl

variable [Referee R] [Trace.Sink T]

/-- Whatever its perception answers, a guard acts in one of these ways, after time has passed. -/
theorem Sound.acts {g : Guard P N R T} (h : g.Sound) (frame : Frame) :
    ∃ near, (near = true ↔ g.InReach) ∧
      Context.Acts near (g.context.begin frame) (g.evaluate frame).guard.context := by
  rw [(evaluate_eq h.plan frame).1]
  exact ⟨_, (inReach_iff frame).symm, Context.acts_decision (h.begin frame)⟩

/-- Whatever its perception answers, a guard moves in one of these ways, after time has passed. -/
theorem Sound.moves {g : Guard P N R T} (h : g.Sound) (frame : Frame) :
    (g.context.begin frame).Moves (g.evaluate frame).guard.context := by
  obtain ⟨near, -, e, hdoes, hacts⟩ := h.acts frame
  exact ⟨e, hdoes, hacts.moves⟩

theorem Sound.config_evaluate {g : Guard P N R T} (h : g.Sound) (frame : Frame) :
    (g.evaluate frame).guard.context.config = g.context.config := by
  obtain ⟨e, hdoes, -⟩ := h.moves frame
  exact hdoes.config

end Guard
end Guardhouse
