import Guardhouse.Proofs.Guard.Rule
import Guardhouse.Proofs.Guard.Run

/-!
# Glimpses

A perception may change its mind between two questions of a frame. A guard whose chase has run out
asks for its target twice: to see whether to chase on, and if not, whether to search. A target that
is not there the first time and there the second (`Guard.Glimpses`) fits neither branch, so the
guard goes back to patrol and forgets the pursuit. In every other frame without a catch it chases on
or searches (`Guard.drops_chase`).
-/

namespace Guardhouse

/-- Where the target is perceived, with the perception after the questions. -/
def Perception.glance {P : Type} [Perception P] (p : P) : Option Vec3 × P :=
  let (seen, p) := canPerceiveTarget p
  if seen then targetPosition p else (none, p)

namespace Guard

theorem Memory.isSome_lastKnownPosition_pursue (config : Config) (dt : Float32)
    (target sighted : Option Vec3) (m : Memory) (h : m.lastKnownPosition.isSome = true) :
    (m.pursue config dt target sighted).memory.lastKnownPosition.isSome = true := by
  obtain ⟨multiplier, hpursue⟩ := exists_pursue config dt target sighted m
  rw [hpursue]
  exact m.isSome_lastKnownPosition_refresh config dt target h

variable {P N R T : Type} [Perception P]

namespace Context

theorem perceive_eq (c : Context P N R) :
    c.perceive = ((Perception.glance c.perception).1,
      { c with perception := (Perception.glance c.perception).2 }) := by
  unfold perceive Perception.glance
  dsimp only
  split <;> rfl

/-! ### Two questions -/

/-- What a guard learns that asks whether to chase. Before that it has asked where the target is, to
catch it. -/
def first (c : Context P N R) : Option Vec3 × Context P N R := c.askPosition.2.perceive

/-- What a guard learns that asks whether to search, after it has asked whether to chase. -/
def second (c : Context P N R) : Option Vec3 × Context P N R := c.first.2.perceive

@[simp] theorem memory_first [Navigator N] [Referee R] (c : Context P N R) :
    c.first.2.memory = c.memory :=
  (does_perceive c.askPosition.2).memory

@[simp] theorem memory_second [Navigator N] [Referee R] (c : Context P N R) :
    c.second.2.memory = c.memory :=
  (does_perceive c.first.2).memory.trans c.memory_first

variable [Navigator N] [Referee R] {c : Context P N R}

section Chasing

variable (h : c.Sound) (hstate : c.memory.state = .chase)
  (hknown : c.memory.lastKnownPosition.isSome = true)
  (hrange : ¬inRangeOf c.askPosition.1 c.askPosition.2 = true)

include h hstate hknown hrange

/-- A chasing guard that knows where the target was, and does not catch it, takes one of three
branches. -/
theorem decision_of_chase :
    c.decision.2 =
      if pursuing c.first.1 c.first.2 then c.first.2.goAfter.2
      else if c.second.1.isSome then c.second.2.patrol.2
      else c.second.2.lookFor.2 := by
  have hcatch := catchTarget_eq c
  rw [if_neg hrange] at hcatch
  have hchase : c.askPosition.2.chase =
      if pursuing c.first.1 c.first.2 then c.first.2.goAfter else (.failure, c.first.2) :=
    chase_eq c.askPosition.2
  unfold decision
  rw [Composite.select_of_failed hcatch]
  split
  · next hp =>
    rw [if_pos hp] at hchase
    have hstatus : c.first.2.goAfter.1 ≠ .failure :=
      goAfter_ne_failure (c.memory_first.symm ▸ hknown)
    rw [Composite.select_of_decided (hchase ▸ hstatus), hchase]
  next hp =>
  rw [if_neg hp] at hchase
  rw [Composite.select_of_failed hchase]
  -- the chase has run out, so the search asks once more
  have hover : c.memory.chaseTimeRemaining ≤ 0 := by
    refine (Single.pos_or_nonpos h.memory.chaseTime).resolve_left fun hpos => hp ?_
    simp [pursuing, hstate, hpos]
  have hran : c.first.2.ranOut = true := by simp [ranOut, hstate, hover, hknown]
  have hidle : c.second.2.searching = false := by simp [searching, hstate]
  have hsearch : c.first.2.search =
      if c.second.1.isSome then (.failure, c.second.2) else c.second.2.lookFor := by
    rw [search_eq, shouldSearch_eq, if_pos hran]
    show (if (c.second.1.isNone || c.second.2.searching) = true then _ else _) = _
    rw [hidle, Bool.or_false]
    cases c.second.1 <;> rfl
  split
  · next hseen =>
    rw [if_pos hseen] at hsearch
    -- a chase is never on its way back to the route
    have hreturn : c.second.2.returnToRoute = (.failure, c.second.2) := by
      rw [returnToRoute_eq]
      simp [shouldReturn, hstate]
    rw [Composite.select_of_failed hsearch, Composite.select_of_failed hreturn,
      Composite.snd_select_single]
  · next hunseen =>
    rw [if_neg hunseen] at hsearch
    obtain ⟨point, hpoint⟩ := Option.isSome_iff_exists.1 hknown
    have hstatus : c.second.2.lookFor.1 ≠ .failure :=
      lookFor_ne_failure (c.memory_second.symm ▸ hpoint)
    rw [Composite.select_of_decided (hsearch ▸ hstatus), hsearch]

theorem chases_on (hp : pursuing c.first.1 c.first.2 = true) :
    c.decision.2.memory.state = .chase ∧
      c.decision.2.memory.lastKnownPosition.isSome = true := by
  rw [decision_of_chase h hstate hknown hrange, if_pos hp, (does_goAfter c.first.2).memory]
  refine ⟨Memory.state_pursue .., Memory.isSome_lastKnownPosition_pursue _ _ _ _ _ ?_⟩
  rwa [memory_first]

theorem begins_search (hp : ¬pursuing c.first.1 c.first.2 = true)
    (hunseen : ¬c.second.1.isSome = true) : c.decision.2.memory.state = .search := by
  obtain ⟨point, hpoint⟩ := Option.isSome_iff_exists.1 hknown
  rw [← c.memory_second] at hpoint
  rw [decision_of_chase h hstate hknown hrange, if_neg hp, if_neg hunseen,
    (does_lookFor c.second.2 hpoint).memory]
  exact Memory.state_seek ..

theorem falls_through (hp : ¬pursuing c.first.1 c.first.2 = true)
    (hseen : c.second.1.isSome = true) : c.decision.2.memory.state = .patrol := by
  rw [decision_of_chase h hstate hknown hrange, if_neg hp, if_pos hseen,
    (does_patrol c.second.2).memory]
  exact Memory.state_patrol ..

end Chasing

end Context

/-- The chase of the guard has run out, and its target is not there when the guard asks whether to
chase on, and there when it asks whether to search. Before that it has asked where the target is, to
catch it. -/
def Glimpses (g : Guard P N R T) : Prop :=
  let chased := Perception.glance (Perception.targetPosition g.context.perception).2
  ¬0 < g.memory.chaseTimeRemaining ∧ chased.1 = none ∧
    (Perception.glance chased.2).1.isSome = true

theorem glimpses_iff {g : Guard P N R T} (frame : Frame) (hstate : g.state = .chase) :
    g.Glimpses ↔
      ¬Context.pursuing (g.context.begin frame).first.1 (g.context.begin frame).first.2 = true ∧
        (g.context.begin frame).second.1.isSome = true := by
  have hchase : (g.context.begin frame).askPosition.2.memory.state = .chase := hstate
  unfold Glimpses Context.second Context.first
  rw [Context.perceive_eq, Context.perceive_eq]
  simp only [Context.pursuing, hchase, beq_self_eq_true, Bool.true_and, Bool.or_eq_true,
    decide_eq_true_eq, not_or, Option.not_isSome_iff_eq_none]
  constructor
  · rintro ⟨htimer, hnone, hsome⟩
    exact ⟨⟨hnone, htimer⟩, hsome⟩
  · rintro ⟨⟨hnone, htimer⟩, hsome⟩
    exact ⟨htimer, hnone, hsome⟩

variable [Navigator N] [Referee R] [Trace.Sink T] {admits : Guard P N R T → Frame → Prop}
  {g : Guard P N R T}

/-- A chasing guard that knows where the target was, in a frame in which it does not catch it: it
goes back to patrol and forgets the pursuit if it glimpses the target, and chases on or searches if
it does not. -/
theorem drops_chase {frame : Frame} (h : Reachable admits g) (hstate : g.state = .chase)
    (hknown : g.memory.lastKnownPosition.isSome = true)
    (hrange : ∀ target ∈ (Perception.targetPosition g.context.perception).1,
      ¬(Navigator.position g.context.navigator).distance target < g.context.config.catchDistance) :
    let o := g.evaluate frame
    (g.Glimpses → o.state = .patrol ∧ o.guard.memory.lastKnownPosition = none) ∧
      (¬g.Glimpses → (o.state = .chase ∨ o.state = .search) ∧
        o.guard.memory.lastKnownPosition.isSome = true) := by
  intro o
  let c := g.context.begin frame
  have hfar : ¬Context.inRangeOf c.askPosition.1 c.askPosition.2 = true := by
    rw [Context.inRangeOf_eq_any, Option.any_eq_true]
    rintro ⟨target, htarget, hnear⟩
    exact hrange target htarget (of_decide_eq_true hnear)
  have hbegin := h.sound.begin frame
  obtain ⟨hcontext, houtcome, -⟩ := evaluate_eq h.sound.plan frame
  have hmemory : o.guard.memory = c.decision.2.memory := congrArg Context.memory hcontext
  have hsound : c.decision.2.memory.Sound := hbegin.decision.memory
  rw [houtcome, hmemory, glimpses_iff frame hstate]
  by_cases hp : Context.pursuing c.first.1 c.first.2 = true
  · obtain ⟨hchase, hpoint⟩ := Context.chases_on hbegin hstate hknown hfar hp
    exact ⟨fun hg => absurd hp hg.1, fun _ => ⟨.inl hchase, hpoint⟩⟩
  by_cases hseen : c.second.1.isSome = true
  · have hpatrol := Context.falls_through hbegin hstate hknown hfar hp hseen
    exact ⟨fun _ => ⟨hpatrol, (hsound.patrol hpatrol).1⟩, fun hg => absurd ⟨hp, hseen⟩ hg⟩
  · have hsearch := Context.begins_search hbegin hstate hknown hfar hp hseen
    exact ⟨fun hg => absurd hg.2 hseen, fun _ => ⟨.inr hsearch, hsound.lost (.inl hsearch)⟩⟩

/-- A guard without patience whose target is gone when it looks once more. -/
theorem drops_chase_unseen :
    ∃ g : Guard ScriptedPerception FixedNavigator Tallies Trace,
      create { chasePersistence := 0 } #[] ⟨[true, true, true, false], some ⟨0, 0, 20⟩, 0⟩
          ⟨.zero, none⟩ {} = .ok g ∧
        let chasing := (g.evaluate ⟨1, 0.5, 7⟩).guard
        let o := chasing.evaluate ⟨2, 0.5, 7⟩
        chasing.state = .chase ∧ ¬chasing.Glimpses ∧ (o.state = .chase ∨ o.state = .search) ∧
          o.guard.memory.lastKnownPosition.isSome = true := by
  obtain ⟨g, hg⟩ : ∃ g : Guard ScriptedPerception FixedNavigator Tallies Trace,
      create { chasePersistence := 0 } #[] ⟨[true, true, true, false], some ⟨0, 0, 20⟩, 0⟩
          ⟨.zero, none⟩ {} = .ok g :=
    ⟨_, create_eq_ok.2 ⟨by decide +kernel, rfl⟩⟩
  have hcreated : Reachable (fun _ _ => True) g := .create hg
  have hchasing : Reachable (fun _ _ => True) (g.evaluate ⟨1, 0.5, 7⟩).guard :=
    hcreated.evaluate trivial
  have hstate : (g.evaluate ⟨1, 0.5, 7⟩).guard.state = .chase := by
    obtain ⟨-, rfl⟩ := create_eq_ok.1 hg
    decide +kernel
  have hunseen : ¬(g.evaluate ⟨1, 0.5, 7⟩).guard.Glimpses := by
    obtain ⟨-, rfl⟩ := create_eq_ok.1 hg
    unfold Glimpses
    decide +kernel
  refine ⟨g, hg, hstate, hunseen, (drops_chase hchasing hstate ?_ ?_).2 hunseen⟩
  all_goals
    obtain ⟨-, rfl⟩ := create_eq_ok.1 hg
    decide +kernel

/-- A guard without patience glimpses its target: it sees it, does not see it, and sees it again
when the chase is over. -/
theorem drops_chase_glimpsed :
    ∃ g : Guard ScriptedPerception FixedNavigator Tallies Trace,
      create { chasePersistence := 0 } #[] ⟨[true, true, true, false, true], some ⟨0, 0, 20⟩, 0⟩
          ⟨.zero, none⟩ {} = .ok g ∧
        let chasing := (g.evaluate ⟨1, 0.5, 7⟩).guard
        Reachable (fun _ _ => True) chasing ∧ chasing.state = .chase ∧
          chasing.memory.lastKnownPosition = some ⟨0, 0, 20⟩ ∧
          ¬(Navigator.position chasing.context.navigator).distance ⟨0, 0, 20⟩ <
            chasing.context.config.catchDistance ∧
          (chasing.evaluate ⟨2, 0.5, 7⟩).state = .patrol ∧
          (chasing.evaluate ⟨2, 0.5, 7⟩).guard.memory.lastKnownPosition = none := by
  obtain ⟨g, hg⟩ : ∃ g : Guard ScriptedPerception FixedNavigator Tallies Trace,
      create { chasePersistence := 0 } #[] ⟨[true, true, true, false, true], some ⟨0, 0, 20⟩, 0⟩
          ⟨.zero, none⟩ {} = .ok g :=
    ⟨_, create_eq_ok.2 ⟨by decide +kernel, rfl⟩⟩
  have hcreated : Reachable (fun _ _ => True) g := .create hg
  refine ⟨g, hg, hcreated.evaluate trivial, ?_⟩
  obtain ⟨-, rfl⟩ := create_eq_ok.1 hg
  decide +kernel

end Guard
end Guardhouse
