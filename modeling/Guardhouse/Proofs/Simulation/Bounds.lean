import Guardhouse.Proofs.Guard.Goals
import Guardhouse.Proofs.Guard.Orders
import Guardhouse.Proofs.Guard.Vision
import Guardhouse.Proofs.Simulation.Legs
import Guardhouse.Proofs.Simulation.Rounds

/-!
# Bounds of a simulation

Nobody leaves the box around the points of a scenario: the target walks from one point of its path
to the next, and the guard goes to waypoints and to where it has perceived the target. So all
coordinates stay finite (`Simulation.isFinite_step`), as long as every way is that somebody may have
to walk: the legs of the path, and the ways from all points to the waypoints (`Scenario.Passable`).
The ways of a pursuit need no assumption. The guard sees no target that is further away than its cone
reaches, and where it has seen it last it goes at once (`Memory.HeadsFor`), so what is left of that
way is never longer.

A scenario is sound without all that, and then a step may well end nowhere
(`Simulation.lost_between_far_points`).
-/

namespace Guardhouse

/-! ### Orders to a body that walks straight -/

namespace DirectNavigator

variable {orders : List Guard.Order} {body : DirectNavigator}

theorem destination_follow (orders : List Guard.Order) (body : DirectNavigator) :
    (Guard.follow orders body).destination = (Guard.lastDestination orders).or body.destination := by
  induction orders using List.reverseRecOn with
  | nil => rfl
  | append_singleton orders order ih =>
    rw [Guard.lastDestination_append, Option.or_assoc, ← ih]
    unfold Guard.follow
    rw [List.foldl_concat]
    cases order <;> rfl

theorem mem_destination_follow {points : Set Vec3}
    (hgoes : ∀ p, Guard.Order.goTo p ∈ orders → p ∈ points)
    (hbody : ∀ p ∈ body.destination, p ∈ points) :
    ∀ p ∈ (Guard.follow orders body).destination, p ∈ points := by
  intro p hp
  rw [destination_follow] at hp
  rcases Option.or_eq_some_iff.1 hp with hlast | ⟨-, hp⟩
  · obtain ⟨order, horder, hgoal⟩ := List.mem_filterMap.1 (List.mem_of_getLast? hlast)
    cases order <;> cases hgoal
    exact hgoes p horder
  · exact hbody p hp

theorem zero_le_follow (h : 0 ≤ body.speedMultiplier) :
    0 ≤ (Guard.follow orders body).speedMultiplier := by
  induction orders generalizing body with
  | nil => exact h
  | cons order orders ih =>
    apply ih
    cases order with
    | goTo destination => exact h
    | pace multiplier => exact zero_le_atLeastZero multiplier
    | turn degrees => exact h

/-- A step ends between where it began and the destination. -/
theorem between_step {destination : Vec3} {dt : Float32} (hposition : body.position.isFinite = true)
    (hdestination : body.destination = some destination)
    (hway : (destination - body.position).isFinite = true)
    (hspeed : body.baseSpeed.isFinite = true ∧ 0 < body.baseSpeed)
    (hmultiplier : 0 ≤ body.speedMultiplier) (hdt : dt.isFinite = true) :
    Vec3.Between body.position destination (body.step dt).position := by
  have hstay : Vec3.Between body.position destination body.position :=
    .of_same_left hposition (.refl _)
  unfold step
  rw [hdestination]
  dsimp only
  split
  · exact hstay
  next hwalks =>
  rw [Bool.or_eq_true, decide_eq_true_eq, not_or] at hwalks
  have hpos : 0 < dt :=
    (Single.not_le (Single.isNumber_of_isFinite hdt) Single.isNumber_zero).1 hwalks.2
  have hfast : 0 ≤ body.speed :=
    Single.zero_le_mul (Single.le_of_lt hspeed.2) hmultiplier (.inl hspeed.1) (.inr hspeed.2)
  have hstep : 0 ≤ body.speed * dt :=
    Single.zero_le_mul hfast (Single.le_of_lt hpos) (.inr hpos) (.inl hdt)
  exact Vec3.moveTowards_between hposition (Vec3.isFinite_of_sub hway).1 hway hstep

/-- A body on a finite way to a point of a box stays in the box, and may go on. -/
theorem walk {points : List Vec3} {dt : Float32} (hposition : body.position ∈ Vec3.box points)
    (hdestination : ∀ p ∈ body.destination,
      p ∈ Vec3.box points ∧ (p - body.position).isFinite = true)
    (hspeed : body.baseSpeed.isFinite = true ∧ 0 < body.baseSpeed)
    (hmultiplier : 0 ≤ body.speedMultiplier) (hdt : dt.isFinite = true) :
    (body.step dt).position ∈ Vec3.box points ∧ ∀ p ∈ body.destination,
      p ∈ Vec3.box points ∧ (p - (body.step dt).position).isFinite = true := by
  cases hgoal : body.destination with
  | none =>
    have hstep : body.step dt = body := by
      unfold step
      rw [hgoal]
    rw [hstep]
    exact ⟨hposition, fun p hp => absurd hp (Option.not_mem_none p)⟩
  | some destination =>
    obtain ⟨hbox, hway⟩ := hdestination destination hgoal
    have hbetween :=
      between_step (Vec3.isFinite_of_mem_box hposition) hgoal hway hspeed hmultiplier hdt
    refine ⟨hbetween.mem_box hposition hbox, ?_⟩
    rintro _ ⟨⟩
    exact ⟨hbox, hbetween.isFinite_sub hway⟩

end DirectNavigator

/-! ### Where a hunt leads -/

namespace Guard.Memory

variable {m : Memory} {config : Config} {route : Array Vec3} {frame : Frame} {agent : UInt64}
  {body : DirectNavigator} {v : Scene} {e : Effect}

/-- A guard that hunts is on its way to where it has seen the target last. -/
def HeadsFor (m : Memory) (destination : Option Vec3) : Prop :=
  m.Hunts → ∀ p ∈ m.lastKnownPosition, ∃ d ∈ destination, d.Same p

theorem headsFor_pursue (target : Option Vec3) :
    (m.pursue config frame.dt target target).memory.HeadsFor
      (follow (m.pursue config frame.dt target target).orders body).destination := by
  rintro - p hp
  obtain ⟨multiplier, hpursue⟩ := exists_pursue config frame.dt target target m
  rw [hpursue] at hp
  refine ⟨p, ?_, .refl p⟩
  have hlast : (m.refresh config frame.dt target).lastKnownPosition = some p := hp
  have hgoal : target.or (m.refresh config frame.dt target).lastKnownPosition = some p := by
    cases target <;> simpa [refresh] using hlast
  rw [DirectNavigator.destination_follow]
  unfold pursue
  dsimp only
  rw [lastDestination_append, lastDestination_goTo, hgoal]
  rfl

theorem headsFor_seek {side : Float32} {point : Vec3} (hpoint : m.lastKnownPosition = some point) :
    (m.seek config frame.dt side body point).memory.HeadsFor
      (follow (m.seek config frame.dt side body point).orders body).destination := by
  rintro - p hp
  obtain ⟨multiplier, time, direction, rotation, hseek⟩ :=
    exists_seek config frame.dt side body point m
  rw [hseek] at hp
  cases hpoint.symm.trans hp
  have hpace : (follow (m.paceFor config .search) body).destination = body.destination := by
    rw [DirectNavigator.destination_follow, lastDestination_paceFor]
    rfl
  have hlast : lastDestination (m.seek config frame.dt side body point).orders =
      lastDestination (walkTo (follow (m.paceFor config .search) body) point) := by
    unfold seek
    dsimp only
    rw [lastDestination_append, lastDestination_searchAt, lastDestination_paceFor, Option.or_none]
  rw [DirectNavigator.destination_follow, hlast]
  unfold walkTo
  split
  · next hthere =>
    -- the body is on its way there, up to the signs of zeros
    change ((follow (m.paceFor config .search) body).destination == some point) = true at hthere
    rw [hpace] at hthere
    cases hdestination : body.destination with
    | none =>
      rw [hdestination] at hthere
      cases hthere
    | some d =>
      rw [hdestination] at hthere
      exact ⟨d, rfl, Vec3.same_of_beq hthere⟩
  · exact ⟨point, rfl, .refl point⟩

theorem Ruled.headsFor (h : m.Ruled agent config route frame body v e)
    (hm : m.HeadsFor body.destination) : e.memory.HeadsFor (follow e.orders body).destination := by
  cases h with
  | caught => exact hm
  | pursued => exact headsFor_pursue _
  | sought _ _ hpoint => exact headsFor_seek hpoint
  | gaveUp =>
    intro hhunts
    simp [Hunts] at hhunts
  | patrolled =>
    intro hhunts
    simp [Hunts] at hhunts

end Guard.Memory

namespace Simulation

variable {w : Simulation} {s : Scenario} {seed : UInt64} {dt : Float32}

/-! ### Points and ways -/

/-- All points that a scenario names. -/
def Scenario.places (s : Scenario) : List Vec3 :=
  s.guardStart :: (s.route.toList ++ s.target.path.toList)

theorem Scenario.mem_places_of_route {p : Vec3} (hp : p ∈ s.route) : p ∈ s.places :=
  List.mem_cons_of_mem _ (List.mem_append_left _ hp.val)

theorem Scenario.mem_places_of_path {p : Vec3} (hp : p ∈ s.target.path) : p ∈ s.places :=
  List.mem_cons_of_mem _ (List.mem_append_right _ hp.val)

/-- The ways that a scenario asks for are finite: the target walks the legs of its path, and the
guard comes to its waypoints from anywhere. -/
structure Scenario.Passable (s : Scenario) : Prop where
  places : ∀ p ∈ s.places, p.isFinite = true
  legs : ∀ a b, (a, b) ∈ s.target.legs → (b - a).isFinite = true
  waypoints : ∀ p ∈ s.route, ∀ a ∈ s.places, (p - a).isFinite = true

/-- Where the guard may go: into the box of a scenario, by a finite way. -/
def ahead (w : Simulation) (s : Scenario) : Set Vec3 :=
  {p | p ∈ Vec3.box s.places ∧ (p - w.guard.context.navigator.position).isFinite = true}

/-- Everybody is in the box of a scenario and goes where he may go. -/
structure Within (s : Scenario) (w : Simulation) : Prop where
  position : w.guard.context.navigator.position ∈ Vec3.box s.places
  destination : ∀ p ∈ w.guard.context.navigator.destination, p ∈ w.ahead s
  known : w.guard.memory.Hunts → ∀ p ∈ w.guard.memory.lastKnownPosition, p ∈ Vec3.box s.places
  headsFor : w.guard.memory.HeadsFor w.guard.context.navigator.destination
  multiplier : 0 ≤ w.guard.context.navigator.speedMultiplier
  target : ∀ p ∈ w.target.position, p ∈ Vec3.box s.places
  onLeg : w.target.OnLeg

theorem within_start (hpass : s.Passable) (hw : start s seed dt = .ok w) : w.Within s := by
  obtain ⟨guard, hguard, rfl⟩ := start_eq_ok.1 hw
  obtain ⟨-, rfl⟩ := Guard.create_eq_ok.1 hguard
  have hidle (hhunts : Guard.Memory.Hunts { speedMultiplier := s.guard.patrolSpeedMultiplier }) :
      False := by simp [Guard.Memory.Hunts] at hhunts
  have hplaces : ∀ p ∈ s.places, p ∈ Vec3.box s.places :=
    fun p hp => Vec3.mem_box hp (hpass.places p hp)
  constructor
  case position => exact hplaces _ List.mem_cons_self
  case destination => exact fun p hp => absurd hp (Option.not_mem_none p)
  case known => exact fun hhunts => (hidle hhunts).elim
  case headsFor => exact fun hhunts => (hidle hhunts).elim
  case multiplier => exact (by decide : (0 : Float32) ≤ 1)
  case target =>
    exact fun p hp => hplaces p (Scenario.mem_places_of_path (Array.mem_of_getElem? hp))
  case onLeg =>
    exact Target.onLeg_start fun p hp => hpass.places p (Scenario.mem_places_of_path hp)

namespace Within

/-- The guard may go to any waypoint, wherever it is. -/
theorem mem_ahead_of_route (h : w.Within s) (hpass : s.Passable) {p : Vec3} (hp : p ∈ s.route) :
    p ∈ w.ahead s := by
  have hplace := Scenario.mem_places_of_route hp
  have hfinite := hpass.places p hplace
  exact ⟨Vec3.mem_box hplace hfinite,
    Vec3.isFinite_sub_of_mem_box hfinite (hpass.waypoints p hp) h.position⟩

/-- It may go to where it sees the target, since it does not see farther than it can go. -/
theorem mem_ahead_of_sighting (h : w.Within s) (hgoes : w.GoesBy s) (hs : s.guard.check = .ok ())
    {p : Vec3} (hp : p ∈ w.scene.sighting) : p ∈ w.ahead s := by
  unfold Scene.sighting at hp
  split at hp
  · next hseen =>
    have htarget : w.target.position = some p := hp
    have hbox := h.target p htarget
    refine ⟨hbox, ?_⟩
    have hrule := Guard.Config.check_eq_ok.1 hs (.viewDistance, .positive) (by decide)
    simp only [Guard.Config.Rule.holds, Bool.and_eq_true] at hrule
    have hrange : w.guard.context.perception.cone.distance.isFinite = true := by
      rw [hgoes.cone]
      exact hrule.1
    have hsees : (w.look w.guard.context.perception).seesTarget = true := hseen
    unfold ConePerception.seesTarget at hsees
    rw [show (w.look w.guard.context.perception).target = some p from htarget] at hsees
    exact VisionCone.isFinite_sub_of_sees hrange (Vec3.isFinite_of_mem_box h.position)
      (Vec3.isFinite_of_mem_box hbox) hsees
  · cases hp

/-- On a hunt it may go to where it has seen the target last, since it is on its way there. -/
theorem mem_ahead_of_known (h : w.Within s) (hhunts : w.guard.memory.Hunts) {p : Vec3}
    (hp : p ∈ w.guard.memory.lastKnownPosition) : p ∈ w.ahead s := by
  have hbox := h.known hhunts p hp
  obtain ⟨d, hd, hsame⟩ := h.headsFor hhunts p hp
  exact ⟨hbox, hsame.isFinite_sub (Vec3.isFinite_of_mem_box hbox) (h.destination d hd).2⟩

/-- What the guard decides leaves everybody within the scenario. -/
theorem after (h : w.Within s) (hgoes : w.GoesBy s) (hs : s.guard.check = .ok ())
    (hpass : s.Passable) : Within s { w with guard := w.round.after } := by
  obtain ⟨e, hruled, hdoes⟩ := hgoes.reachable.exists_does
  have hbody : w.round.after.context.navigator = Guard.follow e.orders w.guard.context.navigator :=
    hdoes.navigator
  have hmemory : w.round.after.memory = e.memory := hdoes.memory
  have hposition : w.round.after.context.navigator.position =
      w.guard.context.navigator.position := by
    rw [hbody]
    exact (follow_direct e.orders _).1
  have hkeeps : e.KeepsTo (w.ahead s) := by
    refine hruled.keepsTo ?_ (fun p hp => h.mem_ahead_of_sighting hgoes hs hp)
      fun hhunts p hp => h.mem_ahead_of_known hhunts hp
    rw [hgoes.route]
    exact fun p hp => h.mem_ahead_of_route hpass hp
  constructor
  case position => exact hposition.symm ▸ h.position
  case destination =>
    unfold ahead
    dsimp only
    rw [hposition, hbody]
    exact DirectNavigator.mem_destination_follow hkeeps.goes h.destination
  case known =>
    dsimp only
    rw [hmemory]
    exact fun hhunts p hp => (hkeeps.knows hhunts p hp).1
  case headsFor =>
    dsimp only
    rw [hmemory, hbody]
    exact hruled.headsFor h.headsFor
  case multiplier => exact hbody.symm ▸ DirectNavigator.zero_le_follow h.multiplier
  case target => exact h.target
  case onLeg => exact h.onLeg

/-- And so does the step of its body. -/
theorem walk (h : w.Within s) (hspeed : w.guard.context.navigator.baseSpeed.isFinite = true ∧
      0 < w.guard.context.navigator.baseSpeed) (hdt : dt.isFinite = true) :
    Within s { w with guard := w.guard.mapNavigator (·.step dt) } := by
  obtain ⟨hdestination, -, hmultiplier, -⟩ := step_direct w.guard.context.navigator dt
  obtain ⟨hwalk, hway⟩ :=
    DirectNavigator.walk h.position h.destination hspeed h.multiplier hdt
  constructor
  case position => exact hwalk
  case destination =>
    show ∀ p ∈ (w.guard.context.navigator.step dt).destination, _
    rw [hdestination]
    exact hway
  case known => exact h.known
  case headsFor =>
    show w.guard.memory.HeadsFor (w.guard.context.navigator.step dt).destination
    rw [hdestination]
    exact h.headsFor
  case multiplier => exact hmultiplier.symm ▸ h.multiplier
  case target => exact h.target
  case onLeg => exact h.onLeg

/-- And so does the step of the target. -/
theorem advance (h : w.Within s) (hscript : w.target.script = s.target) (hpass : s.Passable)
    (hstep : 0 ≤ s.target.speed * dt) : Within s { w with target := w.target.advance dt } := by
  rw [← hscript] at hstep
  have hlegs : ∀ a b, (a, b) ∈ w.target.script.legs → (b - a).isFinite = true :=
    hscript.symm ▸ hpass.legs
  have hpath : ∀ p ∈ w.target.script.path, p ∈ Vec3.box s.places := by
    rw [hscript]
    intro p hp
    have hplace := Scenario.mem_places_of_path hp
    exact Vec3.mem_box hplace (hpass.places p hplace)
  exact { h with
    target := h.onLeg.advance_mem_box hlegs hstep h.target hpath
    onLeg := h.onLeg.advance hlegs hstep }

theorem step (h : w.Within s) (hgoes : w.GoesBy s) (hs : s.check = .ok ()) (hpass : s.Passable) :
    w.step.simulation.Within s := by
  obtain ⟨hguard, hguardSpeed, htargetSpeed⟩ := Scenario.check_eq_ok.1 hs
  have hbase : w.round.after.context.navigator.baseSpeed = s.guardSpeed := by
    rw [← (step_direct w.round.after.context.navigator w.frame.dt).2.1]
    exact hgoes.step.baseSpeed.trans (if_pos hguardSpeed.2)
  have hlength : 0 ≤ s.target.speed * w.frame.dt :=
    Single.zero_le_mul htargetSpeed.2 w.frame.zero_le_dt (.inl htargetSpeed.1)
      (.inl w.frame.isFinite_dt)
  have hafter := h.after hgoes hguard hpass
  have hwalked := hafter.walk (hbase.symm ▸ hguardSpeed) w.frame.isFinite_dt
  have hadvanced := hwalked.advance hgoes.script hpass hlength
  exact { hadvanced with }

end Within

theorem within_run (hs : s.check = .ok ()) (hpass : s.Passable) (hw : start s seed dt = .ok w)
    (n : Nat) : (w.run n).Within s := by
  have hboth : (w.run n).GoesBy s ∧ (w.run n).Within s := by
    refine run_induction (p := fun w => w.GoesBy s ∧ w.Within s) ?_ ?_ n
    · exact fun w h => ⟨h.1.step, h.2.step h.1 hs hpass⟩
    · exact ⟨goesBy_start hw, within_start hpass hw⟩
  exact hboth.2

/-- In a simulation of a sound scenario with ways that are finite, whatever the time between its
frames is, no step reports a coordinate that is not a finite number. -/
theorem isFinite_step (hs : s.check = .ok ()) (hpass : s.Passable) (hw : start s seed dt = .ok w)
    (n : Nat) :
    (w.run n).step.step.guard.isFinite = true ∧
      ∀ p ∈ (w.run n).step.step.target, p.isFinite = true := by
  have hwithin := within_run hs hpass hw (n + 1)
  rw [run_succ] at hwithin
  refine ⟨Vec3.isFinite_of_mem_box hwithin.position, ?_⟩
  exact fun p hp => Vec3.isFinite_of_mem_box (hwithin.target p hp)

/-- A target that walks almost as far as singles reach to either side, and not from one side to the
other at once. -/
theorem isFinite_step_far :
    let s : Scenario :=
      { route := #[⟨0, 0, 5⟩], target.path := #[⟨-3e38, 0, 0⟩, ⟨0, 0, 9⟩, ⟨3e38, 0, 0⟩] }
    ∃ w, start s 0 1e38 = .ok w ∧
      (w.run 2).step.step.guard.isFinite = true ∧
      ∀ p ∈ (w.run 2).step.step.target, p.isFinite = true := by
  intro s
  obtain ⟨w, hw⟩ : ∃ w, start s 0 1e38 = .ok w :=
    ⟨_, start_eq_ok.2 ⟨_, Guard.create_eq_ok.2 ⟨by decide +kernel, rfl⟩, rfl⟩⟩
  have hlegs : ∀ leg ∈ s.target.legs, (leg.2 - leg.1).isFinite = true := by decide +kernel
  have hpass : s.Passable :=
    ⟨by decide +kernel, fun a b hleg => hlegs (a, b) hleg, by decide +kernel⟩
  exact ⟨w, hw, isFinite_step (by decide +kernel) hpass hw 2⟩

/-- Straight from one side to the other, the first step of the target ends nowhere. -/
theorem lost_between_far_points :
    ∃ s : Scenario, s = { target.path := #[⟨-3e38, 0, 0⟩, ⟨3e38, 0, 0⟩] } ∧ s.check = .ok () ∧
      ∃ w, start s 0 0.5 = .ok w ∧ ∃ p ∈ w.step.step.target, p.x.isNaN = true :=
  ⟨_, rfl, by decide +kernel, _, rfl, _, rfl, by decide +kernel⟩

end Simulation
end Guardhouse
