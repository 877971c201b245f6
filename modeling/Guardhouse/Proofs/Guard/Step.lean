import Guardhouse.Proofs.Guard.Coherence
import Guardhouse.Proofs.Guard.Scene

/-!
# The step of a guard

`Memory.step` is a guard as a flat state machine: the first of five rules that applies decides. A
guard that sees a scene does just that (`Context.does_decision`), as long as its memory is sound:
then no branch of its tree begins something and fails half-way, so nothing falls through to the
next one.
-/

namespace Guardhouse

/-- Where the target is perceived. -/
def Scene.sighting (v : Scene) : Option Vec3 := if v.seen then v.target else none

namespace Guard

/-! ### The rules -/

namespace Memory

/-- Where a guard without a sighting has to search: where it saw the target last, if its chase or
its search has not come to an end. -/
def lead? (m : Memory) : Option Vec3 :=
  if m.state = .chase ∨ m.state = .search ∧ 0 < m.searchTimeRemaining then m.lastKnownPosition
  else none

theorem lastKnownPosition_of_lead {m : Memory} {point : Vec3} (h : m.lead? = some point) :
    m.lastKnownPosition = some point := by
  unfold lead? at h
  split at h
  · exact h
  · cases h

/-- Whether a guard without a lead has still to get back to its route. -/
def astray {N : Type} [Navigator N] (route : Array Vec3) (body : N) (m : Memory) : Bool :=
  m.state == .search ||
    m.state == .returnToPatrol && !(route.isEmpty || Navigator.hasReachedDestination body)

/-- What a guard does in a frame. It catches a target in catch range and does nothing else then;
chases a target that it sees, or that it has seen lately; searches where it has a lead; returns to
its route; and otherwise patrols. -/
def step {N : Type} [Navigator N] (agent : UInt64) (config : Config) (route : Array Vec3)
    (frame : Frame) (body : N) (v : Scene) (m : Memory) : Effect :=
  if v.target.any fun target =>
      (Navigator.position body).distance target < config.catchDistance then
    { memory := { m with caughtReports := m.caughtReports + 1 }, reports := [.caught] }
  else if v.sighting.isSome || m.state == .chase && decide (0 < m.chaseTimeRemaining) then
    m.pursue config frame.dt v.sighting v.sighting
  else
    match m.lead? with
    | some point =>
      m.seek config frame.dt (frame.random agent Context.lookAroundStream).sign.1 body point
    | none => if m.astray route body then m.giveUp config route else m.patrol config route body

end Memory

namespace Context

variable {N R : Type}

/-! ### Asking a scene -/

theorem perceive_scene (c : Context Scene N R) : c.perceive = (c.perception.sighting, c) := by
  unfold perceive Scene.sighting
  cases h : c.perception.seen <;> simp only [Perception.canPerceiveTarget, h] <;> rfl

/-- A chase that goes on without a sighting knows where to go. -/
theorem Sound.known_of_pursuing {c : Context Scene N R} (h : c.Sound)
    (hs : c.perception.sighting = none) (hp : pursuing c.perception.sighting c = true) :
    c.memory.lastKnownPosition.isSome = true := by
  rw [hs] at hp
  simp only [pursuing, Option.isSome_none, Bool.false_or, Bool.and_eq_true, decide_eq_true_eq] at hp
  cases hknown : c.memory.lastKnownPosition with
  | some point => rfl
  | none =>
    have hpos := hp.2
    rw [h.memory.idle hknown] at hpos
    exact absurd hpos (by decide)

/-- A guard that does not chase searches if it has a lead. -/
theorem Sound.shouldSearch_scene {c : Context Scene N R} (h : c.Sound)
    (hp : ¬pursuing c.perception.sighting c = true) :
    c.shouldSearch = (c.memory.lead?.isSome, c) := by
  simp only [pursuing, Bool.or_eq_true, Bool.and_eq_true, beq_iff_eq, decide_eq_true_eq, not_or,
    not_and, Option.not_isSome_iff_eq_none] at hp
  obtain ⟨hsighting, htimer⟩ := hp
  rw [shouldSearch_eq, perceive_scene, hsighting]
  unfold ranOut searching Memory.lead?
  cases hstate : c.memory.state with
  | patrol => simp
  | chase =>
    -- the timer has run out, or the guard would still be pursuing
    have hover := (Single.pos_or_nonpos h.memory.chaseTime).resolve_left (htimer hstate)
    cases hknown : c.memory.lastKnownPosition <;> simp [hover]
  | search =>
    -- without a last known position a search would begin and then fail
    obtain ⟨point, hpoint⟩ := Option.isSome_iff_exists.1 (h.memory.lost (.inl hstate))
    by_cases htime : 0 < c.memory.searchTimeRemaining <;> simp [htime, hpoint]
  | returnToPatrol => simp

variable [Navigator N] {c : Context Scene N R}

theorem perception_enterChase (c : Context Scene N R) : c.enterChase.perception = c.perception := by
  rw [enterChase_eq]
  split <;> rfl

theorem perceive_enterChase_refreshChase (c : Context Scene N R) :
    c.refreshChase.enterChase.perceive = (c.perception.sighting, c.refreshChase.enterChase) := by
  rw [perceive_scene, perception_enterChase, refreshChase_eq, perceive_scene]

theorem inRangeOf_eq_any {P : Type} (target : Option Vec3) (c : Context P N R) :
    inRangeOf target c = target.any fun target =>
      (Navigator.position c.navigator).distance target < c.config.catchDistance := by
  cases target <;> rfl

/-! ### No branch fails half-way -/

/-- A chase that has a last known position goes on, whatever its perception answers. -/
theorem goAfter_ne_failure [Referee R] {P : Type} [Perception P] {c : Context P N R}
    (h : c.memory.lastKnownPosition.isSome = true) : c.goAfter.1 ≠ .failure := by
  let d := c.refreshChase.enterChase
  have hknown : d.perceive.2.memory.lastKnownPosition.isSome = true := by
    rw [(does_perceive d).memory, (does_enterChase c.refreshChase).memory,
      Memory.lastKnownPosition_enter, (does_refreshChase c).memory]
    exact Memory.isSome_lastKnownPosition_refresh _ _ _ _ h
  obtain ⟨point, hpoint⟩ := Option.isSome_iff_exists.1 hknown
  show d.moveToTarget.1 ≠ .failure
  rw [moveToTarget_eq, hpoint]
  cases d.perceive.1 <;> exact Status.noConfusion

theorem Sound.goAfter_ne_failure [Referee R] (h : c.Sound)
    (hp : pursuing c.perception.sighting c = true) : c.goAfter.1 ≠ .failure := by
  cases hs : c.perception.sighting with
  | some target =>
    unfold goAfter
    rw [moveToTarget_eq, perceive_enterChase_refreshChase, hs]
    exact Status.noConfusion
  | none => exact Context.goAfter_ne_failure (h.known_of_pursuing hs hp)

theorem lookFor_ne_failure [Referee R] {P : Type} {c : Context P N R} {point : Vec3}
    (h : c.memory.lastKnownPosition = some point) : c.lookFor.1 ≠ .failure := by
  have hpoint : c.enterSearch.memory.lastKnownPosition = some point := by
    rw [(does_enterSearch c).memory]
    exact (Memory.lastKnownPosition_beginSearch ..).trans h
  unfold lookFor
  rw [searchLastKnownPosition_eq, hpoint, searchAt]
  split <;> exact Status.noConfusion

/-- A guard without a lead is on its way back to the route, or does not return at all. -/
theorem Sound.returnToRoute_of_lead (h : c.Sound) (hl : c.memory.lead? = none) :
    c.returnToRoute =
      if c.memory.astray c.route c.navigator then c.enterReturn.travelToRoute
      else (.failure, c) := by
  rw [returnToRoute_eq, enterReturn_eq]
  unfold shouldReturn Memory.astray
  cases hstate : c.memory.state with
  | patrol => simp
  | chase => simp
  | search =>
    -- a search with time left would have been a lead
    have hover : c.memory.searchTimeRemaining ≤ 0 := by
      refine (Single.pos_or_nonpos h.memory.searchTime).resolve_left fun hpos => ?_
      obtain ⟨point, hpoint⟩ := Option.isSome_iff_exists.1 (h.memory.lost (.inl hstate))
      rw [Memory.lead?, if_pos (.inr ⟨hstate, hpos⟩), hpoint] at hl
      cases hl
    simp [hover, reachedRoute_startReturn]
  | returnToPatrol =>
    have hreached : c.reachedRoute =
        (c.route.isEmpty || Navigator.hasReachedDestination c.navigator) := by
      rw [reachedRoute, h.memory.settled]
      rfl
    cases hempty : c.route.isEmpty || Navigator.hasReachedDestination c.navigator <;>
      simp [hreached, hempty]

/-! ### One rule after the other -/

theorem select_homeward (h : c.Sound) (hl : c.memory.lead? = none) :
    (Composite.select [returnToRoute, patrol] c).2 =
      if c.memory.astray c.route c.navigator then c.enterReturn.travelToRoute.2
      else c.patrol.2 := by
  have hreturn := h.returnToRoute_of_lead hl
  split
  · next hastray =>
    rw [if_pos hastray] at hreturn
    have hstatus : c.returnToRoute.1 ≠ .failure := by
      rw [hreturn]
      exact Status.noConfusion
    rw [Composite.select_of_decided hstatus, hreturn]
  · next hastray =>
    rw [if_neg hastray] at hreturn
    rw [Composite.select_of_failed hreturn, Composite.snd_select_single]

variable [Referee R]

/-- The branch that a guard takes, and nothing else. -/
def taken (c : Context Scene N R) : Context Scene N R :=
  if c.perception.target.any fun target =>
      (Navigator.position c.navigator).distance target < c.config.catchDistance then
    c.reportCaught.2
  else if c.perception.sighting.isSome ||
      c.memory.state == .chase && decide (0 < c.memory.chaseTimeRemaining) then
    c.goAfter.2
  else
    match c.memory.lead? with
    | some _ => c.lookFor.2
    | none =>
      if c.memory.astray c.route c.navigator then c.enterReturn.travelToRoute.2 else c.patrol.2

theorem select_onward (h : c.Sound) (hp : ¬pursuing c.perception.sighting c = true) :
    (Composite.select [search, returnToRoute, patrol] c).2 =
      match c.memory.lead? with
      | some _ => c.lookFor.2
      | none =>
        if c.memory.astray c.route c.navigator then c.enterReturn.travelToRoute.2
        else c.patrol.2 := by
  have hsearch := search_eq c
  rw [h.shouldSearch_scene hp] at hsearch
  cases hl : c.memory.lead? with
  | none =>
    rw [hl] at hsearch
    rw [Composite.select_of_failed hsearch]
    exact select_homeward h hl
  | some point =>
    rw [hl] at hsearch
    change c.search = c.lookFor at hsearch
    have hknown := Memory.lastKnownPosition_of_lead hl
    rw [Composite.select_of_decided (hsearch ▸ lookFor_ne_failure hknown), hsearch]

/-- A guard that sees a scene, and whose memory is sound, takes one branch of its tree. -/
theorem decision_eq_taken (h : c.Sound) : c.decision.2 = c.taken := by
  have hcatch : c.catchTarget =
      if inRangeOf c.perception.target c then (.success, c.reportCaught.2) else (.failure, c) :=
    catchTarget_eq c
  rw [inRangeOf_eq_any] at hcatch
  have hchase := chase_eq c
  rw [perceive_scene] at hchase
  unfold decision taken
  -- a branch that does not apply has only asked, and a scene does not change by that
  split
  · next hrange =>
    rw [if_pos hrange] at hcatch
    have hstatus : c.catchTarget.1 ≠ .failure := by
      rw [hcatch]
      exact Status.noConfusion
    rw [Composite.select_of_decided hstatus, hcatch]
  next hrange =>
  rw [if_neg hrange] at hcatch
  rw [Composite.select_of_failed hcatch]
  split
  · next hp =>
    have hgo : c.chase = c.goAfter := hchase.trans (if_pos hp)
    rw [Composite.select_of_decided (hgo ▸ h.goAfter_ne_failure hp), hgo]
  · next hp =>
    rw [Composite.select_of_failed (hchase.trans (if_neg hp))]
    exact select_onward h hp

/-- A guard that sees a scene, and whose memory is sound, does its step. -/
theorem does_decision (h : c.Sound) :
    c.Does c.decision.2
      (c.memory.step c.agent c.config c.route c.frame c.navigator c.perception) := by
  rw [decision_eq_taken h]
  unfold taken Memory.step
  split
  · exact does_reportCaught c
  split
  · have hdoes := does_goAfter c
    rw [perceive_scene, perceive_enterChase_refreshChase] at hdoes
    exact hdoes
  split
  · next point hl => exact does_lookFor c (Memory.lastKnownPosition_of_lead hl)
  split
  · exact does_giveUp c h.memory.settled
  · exact does_patrol c

end Context

/-! ### What a guard off patrol knows -/

namespace Memory

/-- A guard knows where the target was if and only if it does not patrol. -/
def Known (m : Memory) : Prop := m.lastKnownPosition.isSome = true ↔ m.state ≠ .patrol

theorem known_patrol {N : Type} [Navigator N] (config : Config) (route : Array Vec3) (body : N)
    (m : Memory) : (m.patrol config route body).memory.Known := by
  obtain ⟨index, issued, hfollow⟩ :=
    exists_followRoute config route (follow (m.paceFor config .patrol) body) (m.beginPatrol config)
  have hbegin : (m.beginPatrol config).lastKnownPosition = none ∧
      (m.beginPatrol config).state = .patrol := by
    unfold Memory.beginPatrol
    split
    · next hstate => exact ⟨rfl, hstate⟩
    · obtain ⟨multiplier, henter⟩ := exists_enter config .patrol m
      rw [henter]
      exact ⟨rfl, rfl⟩
  show ((m.beginPatrol config).followRoute config route _).memory.Known
  rw [hfollow]
  show (m.beginPatrol config).lastKnownPosition.isSome = true ↔
    (m.beginPatrol config).state ≠ .patrol
  rw [hbegin.1, hbegin.2]
  exact ⟨fun h => (nomatch h), fun h => absurd rfl h⟩

/-- A step keeps what a guard knows. -/
theorem Sound.known_step {N : Type} [Navigator N] {m : Memory} (h : m.Sound) (hk : m.Known)
    (agent : UInt64) (config : Config) (route : Array Vec3) (frame : Frame) (body : N) (v : Scene) :
    (m.step agent config route frame body v).memory.Known := by
  have hknown {m : Memory} (hstate : m.state ≠ .patrol)
      (hpoint : m.lastKnownPosition.isSome = true) : m.Known :=
    ⟨fun _ => hstate, fun _ => hpoint⟩
  unfold Memory.step
  -- one case for each rule, in their order
  split
  · exact hk
  split
  · next hp =>
    obtain ⟨multiplier, hpursue⟩ := exists_pursue config frame.dt v.sighting v.sighting m
    rw [hpursue]
    refine hknown State.noConfusion ?_
    cases hs : v.sighting with
    | some target => rfl
    | none =>
      simp only [hs, Option.isSome_none, Bool.false_or, Bool.and_eq_true, beq_iff_eq] at hp
      exact hk.2 (by rw [hp.1]; exact State.noConfusion)
  split
  · next point hl =>
    obtain ⟨multiplier, time, direction, rotation, hseek⟩ := exists_seek config frame.dt
      (frame.random agent Context.lookAroundStream).sign.1 body point m
    rw [hseek]
    refine hknown State.noConfusion ?_
    show m.lastKnownPosition.isSome = true
    rw [lastKnownPosition_of_lead hl]
    rfl
  split
  · next hastray =>
    obtain ⟨multiplier, henter⟩ := exists_enter config .returnToPatrol m
    show (m.enter config .returnToPatrol).Known
    rw [henter]
    simp only [astray, Bool.or_eq_true, Bool.and_eq_true, beq_iff_eq] at hastray
    exact hknown State.noConfusion (h.lost (hastray.imp_right And.left))
  · exact known_patrol config route body m

end Memory
end Guard
end Guardhouse
