import Guardhouse.Proofs.Guard.Route

/-!
# The pace after a reset

A guard remembers the speed multiplier of its state, always. It tells its body when it enters a
state, and once more where it sets off on its route. A reset tells the body nothing, and leaves the
guard on patrol, so that it never enters it: the body is told when the guard sets off, unless there
is no route to set off on. So after a reset the body is at the pace that the guard remembers from
the first frame on that ends on patrol and is no catch, if the route is not empty
(`paces_after_reset`). On an empty route it goes on at the pace of the pursuit that was forgotten
(`paces_after_reset_nowhere`).
-/

namespace Guardhouse
namespace Guard

namespace Memory

variable {N : Type} [Navigator N] {config : Config} {route : Array Vec3} {dt side : Float32}
  {body : N} {m : Memory}

/-- The speed that the guard remembers is that of its state. -/
def Paced (config : Config) (m : Memory) : Prop :=
  m.speedMultiplier = config.pace m.state

namespace Paced

theorem enter (h : m.Paced config) (next : State) : (m.enter config next).Paced config := by
  rw [enter_of_speed h]
  rfl

theorem pursue (h : m.Paced config) (dt : Float32) (target sighted : Option Vec3) :
    (m.pursue config dt target sighted).memory.Paced config := by
  have hrefresh : (m.refresh config dt target).Paced config := by
    cases target <;> exact h
  exact hrefresh.enter .chase

theorem seek (h : m.Paced config) (dt side : Float32) (body : N) (point : Vec3) :
    (m.seek config dt side body point).memory.Paced config := by
  rw [Paced, speedMultiplier_seek, state_seek, enter_of_speed h]

theorem patrol (h : m.Paced config) (route : Array Vec3) (body : N) :
    (m.patrol config route body).memory.Paced config := by
  have hbegin : (m.beginPatrol config).Paced config := by
    unfold beginPatrol
    split
    · exact h
    · exact h.enter .patrol
  obtain ⟨index, issued, hfollow⟩ :=
    exists_followRoute config route (follow (m.paceFor config .patrol) body) (m.beginPatrol config)
  show ((m.beginPatrol config).followRoute config route _).memory.Paced config
  rw [hfollow]
  exact hbegin

end Paced

theorem Acts.paced {near : Bool} {e : Effect} (h : m.Acts config route dt side body near e)
    (hm : m.Paced config) : e.memory.Paced config := by
  cases h with
  | caught => exact hm
  | pursued target sighted => exact hm.pursue dt target sighted
  | sought => exact hm.seek dt side body _
  | gaveUp => exact hm.enter .returnToPatrol
  | patrolled => exact hm.patrol route body
  | faltered => exact (hm.pursue dt none none).patrol route _

theorem lastPace_pace_goTo (multiplier : Float32) (destination : Option Vec3) :
    lastPace (.pace multiplier :: destination.toList.map .goTo) = some multiplier := by
  cases destination <;> rfl

/-- Following a route sets no other pace than that of the patrol. -/
theorem lastPace_followRoute_or (config : Config) (route : Array Vec3) (body : N) (m : Memory) :
    (lastPace (m.followRoute config route body).orders).or (some config.patrolSpeedMultiplier) =
      some config.patrolSpeedMultiplier := by
  unfold followRoute
  split
  · rfl
  split
  · dsimp only
    rw [lastPace_pace_goTo]
    rfl
  split
  · dsimp only
    rw [lastPace_goTo]
    rfl
  · rfl

/-- A guard that begins to patrol tells its body. -/
theorem lastPace_patrol_of_ne (route : Array Vec3) (body : N) (hstate : m.state ≠ .patrol) :
    lastPace (m.patrol config route body).orders = some config.patrolSpeedMultiplier := by
  show lastPace (m.paceFor config .patrol ++ Effect.orders (Memory.followRoute ..)) = _
  rw [lastPace_append, lastPace_paceFor, if_neg hstate]
  exact lastPace_followRoute_or ..

theorem lastPace_falter (config : Config) (route : Array Vec3) (dt : Float32) (body : N)
    (m : Memory) :
    lastPace (m.falter config route dt body).orders = some config.patrolSpeedMultiplier := by
  have hchase : (m.pursue config dt none none).memory.state ≠ .patrol := by simp
  rw [falter, lastPace_append, lastPace_patrol_of_ne route _ hchase]
  rfl

/-- A guard on patrol that has not been sent to its waypoint yet tells its body as it sets off. If
there is no route, it tells it nothing. -/
theorem lastPace_patrol_unissued (config : Config) (route : Array Vec3) (body : N)
    (hstate : m.state = .patrol) (hissued : m.patrolDestinationIssued = false) :
    lastPace (m.patrol config route body).orders = some config.patrolSpeedMultiplier ∨
      route.size = 0 ∧ (m.patrol config route body).orders = [] := by
  rw [patrol_of_state hstate]
  rcases Nat.eq_zero_or_pos route.size with hempty | hroute
  · exact .inr ⟨hempty, by rw [followRoute_of_empty hempty]⟩
  · have hsome : ¬route.isEmpty = true := by simpa using Nat.ne_of_gt hroute
    rw [followRoute, if_neg hsome, if_pos (by simp [hissued])]
    exact .inl (lastPace_pace_goTo ..)

end Memory

variable {P N R T : Type} [Perception P] [Navigator N] [Referee R]

/-- A guard that has not told its body the pace of its patrol yet, if it is on patrol. -/
structure Untold (config : Config) (route : Array Vec3) (g : Guard P N R T) : Prop where
  sound : g.Sound
  config_eq : g.context.config = config
  route_eq : g.context.route = route
  paced : g.memory.Paced config
  issued : g.state = .patrol → g.memory.patrolDestinationIssued = false

namespace Untold

variable {config : Config} {route : Array Vec3} {g g' : Guard P N R T}

theorem of_reset (h : g.Sound) : Untold g.context.config g.context.route g.reset :=
  ⟨h.reset, rfl, rfl, rfl, fun _ => rfl⟩

theorem handle (h : Untold config route g) (hh : Handled g g') : Untold config route g' := by
  have hsame := hh.sameGuard
  refine ⟨hh.sound h.sound, hsame.config.trans h.config_eq, hsame.route.trans h.route_eq, ?_, ?_⟩
  · exact hsame.memory ▸ h.paced
  · rw [hsame.state_eq, hsame.memory]
    exact h.issued

variable [Trace.Sink T]

/-- A round that does not end on patrol keeps a guard so, and a catch does. -/
theorem round {r : Round P N R T} (h : Untold config route r.guard)
    (hr : r.state = .patrol → r.guard.InReach) : Untold config route r.after := by
  obtain ⟨near, side, e, hnear, hdoes, hacts⟩ := Round.exists_acts h.sound
  have hmemory : r.after.memory = e.memory := hdoes.memory
  have hpaced : r.memory.Paced r.guard.context.config := h.config_eq.symm ▸ h.paced
  refine ⟨h.sound.evaluate _, hdoes.config.trans h.config_eq, hdoes.route.trans h.route_eq, ?_, ?_⟩
  · rw [hmemory, ← h.config_eq]
    exact hacts.paced hpaced
  · intro hstate
    obtain rfl := hnear.2 (hr hstate)
    rw [hmemory]
    have hends : e.memory.state = .patrol := hmemory ▸ hstate
    cases hacts
    exact h.issued hends

/-- The first round that ends on patrol and is no catch. -/
theorem lastPace_orders {r : Round P (Noted N) R T} (h : Untold config route r.guard)
    (hstate : r.state = .patrol) (hfar : ¬r.guard.InReach) :
    lastPace r.orders = some config.patrolSpeedMultiplier ∨
      route.size = 0 ∧ r.guard.state = .patrol ∧ r.orders = [] := by
  obtain ⟨near, side, e, hnear, hdoes, hacts⟩ := Round.exists_acts h.sound
  have hends : e.memory.state = .patrol := (congrArg Memory.state hdoes.memory).symm.trans hstate
  rw [Round.orders_of_does hdoes, ← h.config_eq, ← h.route_eq]
  cases hacts with
  | caught => exact absurd (hnear.1 rfl) hfar
  | pursued => simp at hends
  | sought => simp at hends
  | gaveUp => simp at hends
  | patrolled =>
    by_cases hpatrol : r.memory.state = .patrol
    · have hunissued : r.memory.patrolDestinationIssued = false := h.issued hpatrol
      have htold := Memory.lastPace_patrol_unissued r.guard.context.config r.guard.context.route
        r.guard.context.navigator hpatrol hunissued
      exact htold.imp_right fun hempty => ⟨hempty.1, hpatrol, hempty.2⟩
    · exact .inl (Memory.lastPace_patrol_of_ne _ _ hpatrol)
  | faltered => exact .inl (Memory.lastPace_falter ..)

theorem afterAll (h : Untold config route g) {ops : List (Operation P N R)}
    (hops : ∀ r ∈ g.rounds ops, r.state = .patrol → r.guard.InReach) :
    Untold config route (g.afterAll ops) := by
  refine afterAll_keeps (fun hh h => h.handle hh) ?_ (fun r hr h => h.round (hops r hr)) h
  rintro - g h
  have hreset := of_reset h.sound
  rwa [h.config_eq, h.route_eq] at hreset

end Untold

variable [Trace.Sink T]

/-- After a reset, consider the first frame that ends on patrol and is no catch. After it the guard
remembers the speed of the patrol. If the route is not empty, this is also the last speed that its
body was given. On an empty route it is too if the guard begins to patrol in that frame; otherwise
the guard has been on patrol since the reset, and gives its body no order. -/
theorem paces_after_reset {admits : Guard P (Noted N) R T → Frame → Prop}
    {g : Guard P (Noted N) R T} (h : Reachable admits g) {ops : List (Operation P (Noted N) R)}
    (hops : ∀ r ∈ g.reset.rounds ops, r.state = .patrol → r.guard.InReach) {frame : Frame} :
    let r : Round P (Noted N) R T := ⟨g.reset.afterAll ops, frame⟩
    let speed := g.context.config.patrolSpeedMultiplier
    let told := lastPace r.after.context.navigator.orders
    r.state = .patrol → ¬r.guard.InReach →
      r.after.memory.speedMultiplier = speed ∧
        (0 < g.context.route.size → told = some speed) ∧
        (g.context.route.size = 0 →
          told = some speed ∨ r.guard.state = .patrol ∧ r.orders = []) := by
  intro r speed told hstate hfar
  have huntold : Untold g.context.config g.context.route r.guard :=
    (Untold.of_reset h.sound).afterAll hops
  obtain ⟨near, side, e, -, hdoes, hacts⟩ := Round.exists_acts huntold.sound
  have hspeed : r.after.memory.speedMultiplier = speed := by
    have hpaced : r.memory.Paced r.guard.context.config := huntold.config_eq.symm ▸ huntold.paced
    have hmemory : r.after.memory = e.memory := hdoes.memory
    have hends : e.memory.state = .patrol := hmemory ▸ hstate
    rw [hmemory, hacts.paced hpaced, hends, huntold.config_eq]
    rfl
  have htold {multiplier : Float32} (hlast : lastPace r.orders = some multiplier) :
      told = some multiplier := by
    show lastPace r.after.context.navigator.orders = _
    rw [Round.orders_after hdoes, lastPace_append, hlast]
    rfl
  obtain hlast | ⟨hempty, hpatrol, hnone⟩ := huntold.lastPace_orders hstate hfar
  · exact ⟨hspeed, fun _ => htold hlast, fun _ => .inl (htold hlast)⟩
  · exact ⟨hspeed, fun hroute => absurd hempty (Nat.ne_of_gt hroute),
      fun _ => .inr ⟨hpatrol, hnone⟩⟩

/-- A guard that is reset while it chases, and loses sight of its target, tells its body as it sets
off on its route. -/
theorem paces_after_reset_chasing :
    ∃ g : Guard Scene (Noted RecordingNavigator) Tallies Trace,
      create {} #[⟨0, 0, 4⟩] ⟨true, some ⟨0, 0, 20⟩⟩ ⟨{ position := .zero }, []⟩ {} = .ok g ∧
        let chasing := (g.evaluate ⟨1, 0.5, 7⟩).guard
        let r : Round Scene (Noted RecordingNavigator) Tallies Trace :=
          ⟨chasing.reset.afterAll [.mapPerception fun _ => ⟨false, none⟩], ⟨2, 0.5, 7⟩⟩
        lastPace chasing.context.navigator.orders = some 1.5 ∧ r.state = .patrol ∧
          r.after.memory.speedMultiplier = 1 ∧
          lastPace r.after.context.navigator.orders = some 1 := by
  obtain ⟨g, hg⟩ : ∃ g : Guard Scene (Noted RecordingNavigator) Tallies Trace,
      create {} #[⟨0, 0, 4⟩] ⟨true, some ⟨0, 0, 20⟩⟩ ⟨{ position := .zero }, []⟩ {} = .ok g :=
    ⟨_, create_eq_ok.2 ⟨by decide +kernel, rfl⟩⟩
  have hcreated : Reachable (fun _ _ => True) g := .create hg
  refine ⟨g, hg, ?_⟩
  intro chasing r
  have hchasing : Reachable (fun _ _ => True) chasing := hcreated.evaluate trivial
  have hops : ∀ r ∈ chasing.reset.rounds [.mapPerception fun _ => ⟨false, none⟩],
      r.state = .patrol → r.guard.InReach := fun r hr => nomatch hr
  obtain ⟨hfast, hpatrol, hblind, hroute, hspeed⟩ :
      lastPace chasing.context.navigator.orders = some 1.5 ∧ r.state = .patrol ∧
        (Perception.targetPosition r.guard.context.perception).1 = none ∧
        0 < chasing.context.route.size ∧ chasing.context.config.patrolSpeedMultiplier = 1 := by
    obtain ⟨-, rfl⟩ := create_eq_ok.1 hg
    decide +kernel
  have hfar : ¬r.guard.InReach := by
    rintro ⟨target, htarget, -⟩
    exact nomatch hblind.symm.trans htarget
  obtain ⟨hremembers, htold, -⟩ := paces_after_reset hchasing hops hpatrol hfar
  exact ⟨hfast, hpatrol, hremembers.trans hspeed, (htold hroute).trans (congrArg some hspeed)⟩

/-- Without a route it is not told, and goes on at the pace of the chase. -/
theorem paces_after_reset_nowhere :
    ∃ g : Guard Scene (Noted RecordingNavigator) Tallies Trace,
      create {} #[] ⟨true, some ⟨0, 0, 20⟩⟩ ⟨{ position := .zero }, []⟩ {} = .ok g ∧
        let chasing := (g.evaluate ⟨1, 0.5, 7⟩).guard
        let r : Round Scene (Noted RecordingNavigator) Tallies Trace :=
          ⟨chasing.reset.afterAll [.mapPerception fun _ => ⟨false, none⟩], ⟨2, 0.5, 7⟩⟩
        Reachable (fun _ _ => True) chasing ∧ r.state = .patrol ∧ ¬r.guard.InReach ∧
          r.after.memory.speedMultiplier = 1 ∧
          lastPace r.after.context.navigator.orders = some 1.5 := by
  obtain ⟨g, hg⟩ : ∃ g : Guard Scene (Noted RecordingNavigator) Tallies Trace,
      create {} #[] ⟨true, some ⟨0, 0, 20⟩⟩ ⟨{ position := .zero }, []⟩ {} = .ok g :=
    ⟨_, create_eq_ok.2 ⟨by decide +kernel, rfl⟩⟩
  have hcreated : Reachable (fun _ _ => True) g := .create hg
  refine ⟨g, hg, ?_⟩
  intro chasing r
  obtain ⟨hpatrol, hblind, hremembers, htold⟩ :
      r.state = .patrol ∧ (Perception.targetPosition r.guard.context.perception).1 = none ∧
        r.after.memory.speedMultiplier = 1 ∧
        lastPace r.after.context.navigator.orders = some 1.5 := by
    obtain ⟨-, rfl⟩ := create_eq_ok.1 hg
    decide +kernel
  refine ⟨hcreated.evaluate trivial, hpatrol, ?_, hremembers, htold⟩
  rintro ⟨target, htarget, -⟩
  exact nomatch hblind.symm.trans htarget

end Guard
end Guardhouse
