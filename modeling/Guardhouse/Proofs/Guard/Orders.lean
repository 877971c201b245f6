import Guardhouse.Proofs.Guard.Rounds

/-!
# Orders

A guard gives an order only when something changes: its pace with its state, its destination where
it begins to go somewhere else. Nothing is repeated, and neither a catch nor a reset gives an order
at all. `Noted` is a body that notes its orders, so that the last ones can be compared with what the
guard reports: the body was sent where the guard is heading (`Memory.goal?`), at the pace of the
state it is in (`Guard.orders_agree`).

Between two frames this may fail only for a guard on patrol that has not given its orders yet, a new
one or one that was reset (`Memory.Ordered`).
-/

namespace Guardhouse

/-- A body with the orders that it was given, the last one at the end. -/
structure Noted (N : Type) where
  body : N
  orders : List Guard.Order := []

namespace Noted

variable {N : Type} [Navigator N]

def note (n : Noted N) (order : Guard.Order) : Noted N := ⟨order.obey n.body, n.orders ++ [order]⟩

instance : Navigator (Noted N) where
  position n := Navigator.position n.body
  destination n := Navigator.destination n.body
  hasReachedDestination n := Navigator.hasReachedDestination n.body
  forward n := Navigator.forward n.body
  setDestination n destination := n.note (.goTo destination)
  setSpeedMultiplier n multiplier := n.note (.pace multiplier)
  rotateBy n degrees := n.note (.turn degrees)

theorem obey_eq_note (n : Noted N) (order : Guard.Order) : order.obey n = n.note order := by
  cases order <;> rfl

theorem follow_eq (orders : List Guard.Order) (n : Noted N) :
    Guard.follow orders n = ⟨Guard.follow orders n.body, n.orders ++ orders⟩ := by
  induction orders generalizing n with
  | nil => rw [List.append_nil]; rfl
  | cons order orders ih =>
    show Guard.follow orders (order.obey n) = _
    rw [obey_eq_note, ih, note, List.append_assoc]
    rfl

end Noted

namespace Guard

/-! ### The last orders -/

namespace Order

def destination? : Order → Option Vec3
  | goTo destination => some destination
  | pace _ => none
  | turn _ => none

def multiplier? : Order → Option Float32
  | goTo _ => none
  | pace multiplier => some multiplier
  | turn _ => none

end Order

/-- Where the last of the orders that send a body somewhere sends it. -/
def lastDestination (orders : List Order) : Option Vec3 :=
  (orders.filterMap Order.destination?).getLast?

/-- The last speed multiplier of some orders. -/
def lastPace (orders : List Order) : Option Float32 :=
  (orders.filterMap Order.multiplier?).getLast?

section Last

variable (orders orders' : List Order) (config : Config) (m : Memory)

@[simp] theorem lastDestination_append :
    lastDestination (orders ++ orders') =
      (lastDestination orders').or (lastDestination orders) := by
  simp only [lastDestination, List.filterMap_append, List.getLast?_append]

@[simp] theorem lastPace_append :
    lastPace (orders ++ orders') = (lastPace orders').or (lastPace orders) := by
  simp only [lastPace, List.filterMap_append, List.getLast?_append]

@[simp] theorem lastDestination_goTo (destination : Option Vec3) :
    lastDestination (destination.toList.map .goTo) = destination := by
  cases destination <;> rfl

@[simp] theorem lastPace_goTo (destination : Option Vec3) :
    lastPace (destination.toList.map .goTo) = none := by
  cases destination <;> rfl

@[simp] theorem lastDestination_paceFor (next : State) :
    lastDestination (m.paceFor config next) = none := by
  unfold Memory.paceFor
  split <;> rfl

@[simp] theorem lastPace_paceFor (next : State) :
    lastPace (m.paceFor config next) =
      if m.state = next then none else some (config.pace next) := by
  unfold Memory.paceFor
  split <;> rfl

end Last

namespace Memory

/-- Where a guard is heading in a state. -/
def goal? (route : Array Vec3) (m : Memory) : State → Option Vec3
  | .patrol => route[m.patrolIndex]?
  | .chase => m.lastKnownPosition
  | .search => m.lastKnownPosition
  | .returnToPatrol => route[m.patrolIndex]?

/-- The last orders say where the guard is heading, at the pace of its state. -/
structure Told (config : Config) (route : Array Vec3) (m : Memory) (orders : List Order) :
    Prop where
  speed : m.speedMultiplier = config.pace m.state
  index : m.patrolIndex < route.size
  destination : lastDestination orders = m.goal? route m.state
  pace : lastPace orders = some m.speedMultiplier

/-- The same between two frames. A guard on patrol may still have to give its orders. -/
structure Ordered (config : Config) (route : Array Vec3) (m : Memory) (orders : List Order) :
    Prop where
  speed : m.speedMultiplier = config.pace m.state
  index : m.patrolIndex < route.size
  told : (m.state = .patrol → m.patrolDestinationIssued = true) → m.Told config route orders

/-- In a memory with the speed of its state, entering a state is setting both. -/
theorem enter_of_speed {config : Config} {m : Memory}
    (h : m.speedMultiplier = config.pace m.state) (next : State) :
    m.enter config next =
      { m with state := next, speedMultiplier := config.pace next } := by
  unfold enter
  split
  · next hstate => rw [← hstate, ← h]
  · rfl

section Searching

variable {N : Type} [Navigator N] (config : Config) (dt : Float32) (body : N) (point : Vec3)
  (m : Memory)

theorem speedMultiplier_seek (side : Float32) :
    (m.seek config dt side body point).memory.speedMultiplier =
      (m.enter config .search).speedMultiplier := by
  have hbegin : (m.beginSearch config side).speedMultiplier =
      (m.enter config .search).speedMultiplier := by
    unfold beginSearch
    split
    · next hstate => rw [enter, if_pos hstate]
    · rfl
  obtain ⟨direction, rotation, hseek⟩ := exists_seek_beginSearch config dt side body point m
  rw [hseek, ← hbegin]

theorem lastDestination_searchAt :
    lastDestination (m.searchAt config dt body point).orders =
      lastDestination (walkTo body point) := by
  unfold searchAt
  split
  · rw [lastDestination_append]
    unfold lookAround
    dsimp only
    split <;> rfl
  · rfl

theorem lastPace_searchAt : lastPace (m.searchAt config dt body point).orders = none := by
  have hwalk : lastPace (walkTo body point) = none := by
    unfold walkTo
    split <;> rfl
  unfold searchAt
  split
  · rw [lastPace_append, hwalk]
    unfold lookAround
    dsimp only
    split <;> rfl
  · exact hwalk

theorem lastDestination_walkTo_or :
    (lastDestination (walkTo body point)).or (some point) = some point := by
  unfold walkTo
  split <;> rfl

end Searching

variable {config : Config} {route : Array Vec3} {m : Memory} {orders : List Order}

/-- Sent to the waypoint of a guard, a body is where a guard on its route is heading. -/
theorem lastDestination_waypoint (h : m.patrolIndex < route.size) :
    lastDestination (orders ++ (m.waypoint? route).toList.map .goTo) = route[m.patrolIndex]? := by
  rw [lastDestination_append, lastDestination_goTo, waypoint?, Nat.mod_eq_of_lt h,
    Array.getElem?_eq_getElem h, Option.some_or]

theorem Told.isSome_goal (h : m.Told config route orders) (hknown : m.Known) :
    (m.goal? route m.state).isSome = true := by
  cases hstate : m.state with
  | patrol => simpa [goal?] using h.index
  | chase => exact hknown.2 (by simp [hstate])
  | search => exact hknown.2 (by simp [hstate])
  | returnToPatrol => simpa [goal?] using h.index

theorem Told.ordered (h : m.Told config route orders) : m.Ordered config route orders :=
  ⟨h.speed, h.index, fun _ => h⟩

namespace Ordered

theorem told_of_ne (h : m.Ordered config route orders) (hstate : m.state ≠ .patrol) :
    m.Told config route orders :=
  h.told fun hpatrol => absurd hpatrol hstate

/-- Neither the time nor the catches matter. -/
theorem keep (h : m.Ordered config route orders) (clock : Float) (reports : UInt64) :
    { m with clock := clock, caughtReports := reports }.Ordered config route orders := by
  refine ⟨h.speed, h.index, ?_⟩
  intro hissued
  have htold := h.told hissued
  exact ⟨htold.speed, htold.index, htold.destination, htold.pace⟩

/-- A change of the state comes with an order of its pace. -/
theorem lastPace_enter (h : m.Ordered config route orders) {next : State} (hnext : next ≠ .patrol) :
    lastPace (orders ++ m.paceFor config next) = some (config.pace next) := by
  rw [lastPace_append, lastPace_paceFor]
  split
  · next hstate =>
    have htold := h.told_of_ne (hstate ▸ hnext)
    rw [htold.pace, htold.speed, hstate]
    rfl
  · rfl

theorem pursue (h : m.Ordered config route orders) (dt : Float32) {target : Option Vec3}
    (hstate : target = none → m.state = .chase) :
    (m.pursue config dt target target).memory.Told config route
      (orders ++ (m.pursue config dt target target).orders) := by
  have hspeed : (m.refresh config dt target).speedMultiplier =
      config.pace (m.refresh config dt target).state := by
    cases target <;> exact h.speed
  have hpace : (m.refresh config dt target).paceFor config .chase = m.paceFor config .chase := by
    cases target <;> rfl
  unfold Memory.pursue
  dsimp only
  rw [enter_of_speed hspeed, hpace, ← List.append_assoc]
  refine ⟨rfl, ?_, ?_, ?_⟩
  · cases target <;> exact h.index
  · rw [lastDestination_append, lastDestination_goTo, lastDestination_append,
      lastDestination_paceFor]
    cases target with
    | some target => rfl
    | none =>
      -- the body has been sent to the last known position already
      have hchase := hstate rfl
      have htold := h.told_of_ne (by simp [hchase])
      rw [htold.destination, hchase]
      show (none.or m.lastKnownPosition).or (none.or m.lastKnownPosition) = m.lastKnownPosition
      simp
  · rw [lastPace_append, lastPace_goTo]
    exact h.lastPace_enter (by simp)

theorem seek {N : Type} [Navigator N] (h : m.Ordered config route orders) {point : Vec3}
    (hstate : m.state = .chase ∨ m.state = .search) (hknown : m.lastKnownPosition = some point)
    (dt side : Float32) (body : N) :
    (m.seek config dt side body point).memory.Told config route
      (orders ++ (m.seek config dt side body point).orders) := by
  have htold := h.told_of_ne (by rcases hstate with hs | hs <;> simp [hs])
  have hgoal : lastDestination orders = some point := by
    rw [htold.destination, ← hknown]
    rcases hstate with hs | hs <;> rw [hs] <;> rfl
  have hspeed : (m.seek config dt side body point).memory.speedMultiplier =
      config.pace .search := by
    rw [speedMultiplier_seek, enter_of_speed h.speed]
  obtain ⟨multiplier, time, direction, rotation, hseek⟩ :=
    exists_seek config dt side body point m
  rw [hseek] at hspeed ⊢
  have horders : (m.seek config dt side body point).orders =
      m.paceFor config .search ++
        ((m.beginSearch config side).searchAt config dt (follow (m.paceFor config .search) body)
          point).orders := rfl
  rw [horders, ← List.append_assoc]
  -- whether the body is sent to the point again or not, it was sent there last
  refine ⟨hspeed, h.index, ?_, ?_⟩
  · rw [lastDestination_append, lastDestination_searchAt, lastDestination_append,
      lastDestination_paceFor, hgoal]
    exact (lastDestination_walkTo_or _ point).trans hknown.symm
  · rw [lastPace_append, lastPace_searchAt]
    exact (h.lastPace_enter (by simp)).trans (congrArg some hspeed.symm)

theorem giveUp (h : m.Ordered config route orders)
    (hstate : m.state = .search ∨ m.state = .returnToPatrol) :
    (m.giveUp config route).memory.Told config route
      (orders ++ (m.giveUp config route).orders) := by
  unfold Memory.giveUp
  dsimp only
  rw [enter_of_speed h.speed]
  rcases hstate with hsearch | hreturn
  · -- the return begins
    rw [if_neg (by simp [hsearch]), List.append_cons]
    refine ⟨rfl, h.index, lastDestination_waypoint h.index, ?_⟩
    rw [lastPace_append, lastPace_goTo, lastPace_append]
    rfl
  · -- the body is on its way already
    have htold := h.told_of_ne (by simp [hreturn])
    rw [if_pos hreturn, List.append_nil]
    refine ⟨rfl, h.index, ?_, ?_⟩
    · rw [htold.destination, hreturn]
      rfl
    · rw [htold.pace, htold.speed, hreturn]

theorem followRoute {N : Type} [Navigator N] (h : m.Ordered config route orders)
    (hstate : m.state = .patrol) (body : N) :
    (m.followRoute config route body).memory.Told config route
      (orders ++ (m.followRoute config route body).orders) := by
  have hsize : 0 < route.size := Nat.zero_lt_of_lt h.index
  have hspeed : m.speedMultiplier = config.patrolSpeedMultiplier := by rw [h.speed, hstate]; rfl
  have hroute : ¬route.isEmpty = true := by simpa using Nat.ne_of_gt hsize
  unfold Memory.followRoute
  rw [if_neg hroute]
  -- the patrol begins; it goes on from a waypoint; or the body is on its way to one
  split
  · have hindex : m.patrolIndex % route.size < route.size := Nat.mod_lt _ hsize
    dsimp only
    rw [List.append_cons]
    refine ⟨h.speed, hindex, ?_, ?_⟩
    · rw [lastDestination_waypoint hindex]
      simp only [hstate, goal?]
    · rw [lastPace_append, lastPace_goTo, lastPace_append, hspeed]
      rfl
  next hissued =>
  have htold := h.told fun _ => by simpa using hissued
  split
  · have hindex : (m.patrolIndex + 1) % route.size < route.size := Nat.mod_lt _ hsize
    refine ⟨h.speed, hindex, ?_, ?_⟩
    · rw [lastDestination_waypoint hindex]
      simp only [hstate, goal?]
    · rw [lastPace_append, lastPace_goTo]
      exact htold.pace
  · rw [List.append_nil]
    exact htold

theorem beginPatrol (h : m.Ordered config route orders) :
    (m.beginPatrol config).Ordered config route (orders ++ m.paceFor config .patrol) := by
  unfold Memory.beginPatrol Memory.paceFor
  split
  · next hpatrol =>
    rw [List.append_nil]
    refine ⟨h.speed, h.index, ?_⟩
    intro hissued
    have htold := h.told hissued
    refine ⟨htold.speed, htold.index, ?_, htold.pace⟩
    rw [htold.destination, hpatrol]
    rfl
  · -- the orders are still to come
    rw [enter_of_speed h.speed]
    refine ⟨rfl, h.index, ?_⟩
    intro hissued
    cases hissued rfl

theorem patrol {N : Type} [Navigator N] (h : m.Ordered config route orders) (body : N) :
    (m.patrol config route body).memory.Told config route
      (orders ++ (m.patrol config route body).orders) := by
  have hfollow := h.beginPatrol.followRoute (m.state_beginPatrol config)
    (follow (m.paceFor config .patrol) body)
  rw [List.append_assoc] at hfollow
  exact hfollow

end Ordered

namespace Ruled

variable {N : Type} [Navigator N] {agent : UInt64} {frame : Frame} {body : N} {v : Scene}
  {e : Effect}

theorem told (hr : m.Ruled agent config route frame body v e) (hfar : ¬v.InReach config body)
    (h : m.Ordered config route orders) : e.memory.Told config route (orders ++ e.orders) := by
  cases hr with
  | caught hreach => exact absurd hreach hfar
  | pursued _ hchase =>
    refine h.pursue frame.dt ?_
    intro hunseen
    exact (hchase.resolve_left (by simp [hunseen])).1
  | sought _ _ hknown hsearch =>
    exact h.seek (hsearch.imp And.left And.left) hknown frame.dt _ body
  | gaveUp _ _ hreturn => exact h.giveUp (hreturn.imp And.left And.left)
  | patrolled => exact h.patrol body

theorem ordered (hr : m.Ruled agent config route frame body v e)
    (h : m.Ordered config route orders) : e.memory.Ordered config route (orders ++ e.orders) := by
  by_cases hreach : v.InReach config body
  · cases hr with
    | caught =>
      rw [List.append_nil]
      exact h.keep _ _
    | pursued hfar => exact absurd hreach hfar
    | sought hfar => exact absurd hreach hfar
    | gaveUp hfar => exact absurd hreach hfar
    | patrolled hfar => exact absurd hreach hfar
  · exact (hr.told hreach h).ordered

end Ruled
end Memory

/-! ### Runs -/

section Running

variable {P N R T : Type} [Perception P] [Navigator N] [Referee R] [Trace.Sink T]

/-- The guards of a host that has the orders noted and leaves the notes alone. Otherwise it does as
it likes with the body, and with the rest of what it may change. -/
inductive Tended : Guard P (Noted N) R T → Prop
  | create {config : Config} {route : Array Vec3} {perception : P} {body : N} {referee : R}
      {g : Guard P (Noted N) R T}
      (h : Guard.create config route perception ⟨body, []⟩ referee = .ok g) : Tended g
  | handle {g g' : Guard P (Noted N) R T} (h : Tended g) (hh : Handled g g')
      (horders : g'.context.navigator.orders = g.context.navigator.orders) : Tended g'
  | evaluate {g : Guard P (Noted N) R T} {frame : Frame} (h : Tended g) (hs : g.Steady frame) :
      Tended (g.evaluate frame).guard
  | reset {g : Guard P (Noted N) R T} (h : Tended g) : Tended g.reset

/-- The body of a guard has the orders that it should have between two frames. -/
def Ordered (g : Guard P (Noted N) R T) : Prop :=
  g.memory.Ordered g.context.config g.context.route g.context.navigator.orders

/-- The body of a guard has the orders that it should have after a frame. -/
def Told (g : Guard P (Noted N) R T) : Prop :=
  g.memory.Told g.context.config g.context.route g.context.navigator.orders

theorem Round.ordered_after {r : Round P (Noted N) R T} {v : Scene}
    (hr : Reachable Steady r.guard) (h : r.guard.Ordered) (hv : r.Sees v) :
    r.after.Ordered ∧ (¬r.InReach v → r.after.Told) := by
  obtain ⟨e, hruled, hmemory, -, hbody, hconfig, hroute⟩ := exists_ruled hr hv
  have hbegun : r.memory.Ordered r.guard.context.config r.guard.context.route
      r.guard.context.navigator.orders := h.keep _ _
  unfold Guard.Ordered Guard.Told
  rw [hmemory, hconfig, hroute, hbody, Noted.follow_eq]
  exact ⟨hruled.ordered hbegun, fun hfar => hruled.told hfar hbegun⟩

variable {g : Guard P (Noted N) R T} {frame : Frame} {v : Scene}

namespace Tended

theorem reachable (h : Tended g) : Reachable Steady g := by
  induction h with
  | create h => exact .create h
  | handle _ hh _ ih => exact ih.of_handled (.single hh)
  | evaluate _ hs ih => exact ih.evaluate hs
  | reset _ ih => exact ih.reset

theorem ordered (h : Tended g) (hroute : 0 < g.context.route.size) : g.Ordered := by
  induction h with
  | create h =>
    obtain ⟨-, rfl⟩ := create_eq_ok.1 h
    exact ⟨rfl, hroute, fun hissued => (nomatch hissued rfl)⟩
  | handle _ hh horders ih =>
    have hsame := hh.sameGuard
    unfold Guard.Ordered
    rw [hsame.memory, hsame.config, hsame.route, horders]
    exact ih (hsame.route ▸ hroute)
  | @evaluate g frame h hs ih =>
    let r : Round P (Noted N) R T := ⟨g, frame⟩
    obtain ⟨v, hv⟩ := hs
    obtain ⟨e, -, -, -, -, -, hsame⟩ := Round.exists_ruled (r := r) h.reachable hv
    have hordered : r.guard.Ordered := ih (hsame ▸ hroute)
    exact (Round.ordered_after h.reachable hordered hv).1
  | reset _ ih =>
    exact ⟨rfl, (ih hroute).index, fun hissued => (nomatch hissued rfl)⟩

end Tended

/-- After every frame in which the target was not caught, the last destination that the body of a
guard was given is where the guard is heading in the state that it reports, be it the waypoint or
the last known position, and the last speed multiplier is the one that it remembers and that the
configuration has for that state. -/
theorem orders_agree (h : Tended g) (hroute : 0 < g.context.route.size) (hv : g.Sees frame v)
    (hfar : ¬v.InReach g.context.config g.context.navigator) :
    let o := g.evaluate frame
    let orders := o.guard.context.navigator.orders
    (∃ destination, o.guard.memory.goal? o.guard.context.route o.state = some destination ∧
        lastDestination orders = some destination) ∧
      lastPace orders = some o.guard.memory.speedMultiplier ∧
      o.guard.memory.speedMultiplier =
        match o.state with
        | .patrol => o.guard.context.config.patrolSpeedMultiplier
        | .chase => o.guard.context.config.chaseSpeedMultiplier
        | .search => o.guard.context.config.searchSpeedMultiplier
        | .returnToPatrol => o.guard.context.config.returnSpeedMultiplier := by
  intro o orders
  let r : Round P (Noted N) R T := ⟨g, frame⟩
  have hordered : r.guard.Ordered := h.ordered hroute
  have htold : o.guard.Told := (Round.ordered_after h.reachable hordered hv).2 hfar
  have hknown : o.guard.memory.Known :=
    (h.reachable.evaluate ⟨v, hv⟩).known fun _ _ hs => hs
  obtain ⟨destination, hdestination⟩ := Option.isSome_iff_exists.1 (htold.isSome_goal hknown)
  refine ⟨⟨destination, hdestination, ?_⟩, htold.pace, htold.speed⟩
  exact htold.destination.trans hdestination

end Running

/-- A guard that gives chase at once runs to its target, and looks for it more slowly when it is out
of sight. If it is reset in the middle of the chase instead, it walks to its waypoint again. -/
theorem orders_agree_reset :
    ∃ g : Guard Scene (Noted FixedNavigator) Tallies Trace,
      create { chasePersistence := 0 } #[⟨5, 0, 0⟩] ⟨true, some .zero⟩ ⟨⟨⟨0, 0, 9⟩, none⟩, []⟩ {} =
          .ok g ∧
        let chase := g.evaluate ⟨1, 0.5, 7⟩
        let search := (chase.guard.mapPerception fun _ => ⟨false, none⟩).evaluate ⟨2, 0.5, 7⟩
        let resumed :=
          (chase.guard.reset.mapPerception fun _ => ⟨false, none⟩).evaluate ⟨2, 0.5, 7⟩
        let destination o := lastDestination o.guard.context.navigator.orders
        let pace o := lastPace o.guard.context.navigator.orders
        (chase.state = .chase ∧ destination chase = some .zero ∧ pace chase = some 1.5) ∧
          (search.state = .search ∧ destination search = some .zero ∧ pace search = some 0.8) ∧
          resumed.state = .patrol ∧ destination resumed = some ⟨5, 0, 0⟩ ∧
            pace resumed = some 1 := by
  obtain ⟨g, hg⟩ : ∃ g : Guard Scene (Noted FixedNavigator) Tallies Trace,
      create { chasePersistence := 0 } #[⟨5, 0, 0⟩] ⟨true, some .zero⟩ ⟨⟨⟨0, 0, 9⟩, none⟩, []⟩ {} =
        .ok g :=
    ⟨_, create_eq_ok.2 ⟨by decide +kernel, rfl⟩⟩
  refine ⟨g, hg, ?_⟩
  intro chase search resumed destination pace
  have hnew : Tended g := .create hg
  have hseen : g.Sees ⟨1, 0.5, 7⟩ g.context.perception := sees_of_still rfl rfl
  have hchase : Tended chase.guard := hnew.evaluate ⟨_, hseen⟩
  have hsearch : Tended (chase.guard.mapPerception fun _ => ⟨false, none⟩) :=
    hchase.handle (.mapPerception _) rfl
  have hresumed : Tended (chase.guard.reset.mapPerception fun _ => ⟨false, none⟩) :=
    hchase.reset.handle (.mapPerception _) rfl
  have hblind : (chase.guard.mapPerception fun _ => ⟨false, none⟩).Sees ⟨2, 0.5, 7⟩ ⟨false, none⟩ :=
    sees_of_still rfl rfl
  have hblind' : (chase.guard.reset.mapPerception fun _ => ⟨false, none⟩).Sees ⟨2, 0.5, 7⟩
      ⟨false, none⟩ := sees_of_still rfl rfl
  obtain ⟨-, rfl⟩ := create_eq_ok.1 hg
  have hfar : ¬Scene.InReach ⟨true, some .zero⟩ { chasePersistence := 0 }
      (⟨⟨⟨0, 0, 9⟩, none⟩, []⟩ : Noted FixedNavigator) := by
    rintro ⟨target, ⟨⟩, hnear⟩
    exact absurd hnear (by decide +kernel)
  obtain ⟨⟨to₁, hgoal₁, hlast₁⟩, hpace₁, hspeed₁⟩ :=
    orders_agree hnew (by decide +kernel) hseen hfar
  obtain ⟨⟨to₂, hgoal₂, hlast₂⟩, hpace₂, hspeed₂⟩ :=
    orders_agree hsearch (by decide +kernel) hblind
      (by rintro ⟨target, htarget, -⟩; cases htarget)
  obtain ⟨⟨to₃, hgoal₃, hlast₃⟩, hpace₃, hspeed₃⟩ :=
    orders_agree hresumed (by decide +kernel) hblind'
      (by rintro ⟨target, htarget, -⟩; cases htarget)
  refine ⟨⟨by decide +kernel, hlast₁.trans (hgoal₁.symm.trans ?_), ?_⟩,
    ⟨by decide +kernel, hlast₂.trans (hgoal₂.symm.trans ?_), ?_⟩,
    by decide +kernel, hlast₃.trans (hgoal₃.symm.trans ?_), ?_⟩
  case refine_2 => exact hpace₁.trans ((congrArg some hspeed₁).trans (by decide +kernel))
  case refine_4 => exact hpace₂.trans ((congrArg some hspeed₂).trans (by decide +kernel))
  case refine_6 => exact hpace₃.trans ((congrArg some hspeed₃).trans (by decide +kernel))
  all_goals decide +kernel

end Guard
end Guardhouse
