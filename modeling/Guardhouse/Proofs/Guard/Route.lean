import Guardhouse.Proofs.Guard.Operations

/-!
# The walk along the route

A guard walks its route waypoint by waypoint. It is sent to a waypoint once, and does not go on to
the next one before it has arrived; after a pursuit or a reset it is sent to the same waypoint
again. What a round makes of this is one of five cases (`Round.Strides`). Which of them it is
depends on a flag that the guard keeps, and the flag says what the host has seen happen: that the
guard was sent to its waypoint since it began to patrol (`SentTo`), or that it has done nothing but
catch since it was created or reset (`OnlyCaught`). With this in hand, `walks_route` says when a
guard goes on and when it sends its body somewhere, without a word of the flag.
-/

namespace Guardhouse
namespace Guard

/-! ### Destinations -/

/-- Where orders send a body, in their order. -/
def destinations (orders : List Order) : List Vec3 := orders.filterMap Order.destination?

@[simp] theorem destinations_nil : destinations [] = [] := rfl

@[simp] theorem destinations_append (orders orders' : List Order) :
    destinations (orders ++ orders') = destinations orders ++ destinations orders' :=
  List.filterMap_append

@[simp] theorem destinations_pace (multiplier : Float32) (orders : List Order) :
    destinations (.pace multiplier :: orders) = destinations orders := rfl

@[simp] theorem destinations_goTo (destination : Option Vec3) :
    destinations (destination.toList.map .goTo) = destination.toList := by
  cases destination <;> rfl

namespace Memory

variable {N : Type} [Navigator N] {config : Config} {route : Array Vec3} {body : N} {m : Memory}

@[simp] theorem destinations_paceFor (config : Config) (next : State) (m : Memory) :
    destinations (m.paceFor config next) = [] := by
  unfold paceFor
  split <;> rfl

/-! ### One frame -/

/-- A guard that has not been sent to its waypoint yet is sent there. -/
theorem followRoute_unissued (h : m.patrolIndex < route.size)
    (hissued : m.patrolDestinationIssued = false) :
    m.followRoute config route body =
      { memory := { m with patrolDestinationIssued := true }
        orders :=
          .pace config.patrolSpeedMultiplier :: route[m.patrolIndex]?.toList.map .goTo } := by
  have hroute : ¬route.isEmpty = true := by simpa using Nat.ne_zero_of_lt h
  unfold followRoute
  rw [if_neg hroute, if_pos (by simp [hissued])]
  simp only [waypoint?, Nat.mod_eq_of_lt h]

/-- A guard that is on patrol already only follows its route. -/
theorem patrol_of_state (hstate : m.state = .patrol) :
    m.patrol config route body =
      { m with lastKnownPosition := none }.followRoute config route body := by
  unfold patrol paceFor beginPatrol
  rw [if_pos hstate, if_pos hstate]
  rfl

theorem patrol_unissued (hstate : m.state = .patrol) (h : m.patrolIndex < route.size)
    (hissued : m.patrolDestinationIssued = false) :
    m.patrol config route body =
      { memory := { m with patrolDestinationIssued := true, lastKnownPosition := none }
        orders := .pace config.patrolSpeedMultiplier :: route[m.patrolIndex]?.toList.map .goTo } :=
  (patrol_of_state hstate).trans (followRoute_unissued h hissued)

/-- A guard that has arrived at its waypoint goes on to the next one. -/
theorem patrol_arrived (hstate : m.state = .patrol) (h : m.patrolIndex < route.size)
    (hissued : m.patrolDestinationIssued = true)
    (harrived : Navigator.hasReachedDestination body = true) :
    m.patrol config route body =
      { memory :=
          { m with patrolIndex := (m.patrolIndex + 1) % route.size, lastKnownPosition := none }
        orders := route[(m.patrolIndex + 1) % route.size]?.toList.map .goTo } := by
  have hroute : ¬route.isEmpty = true := by simpa using Nat.ne_zero_of_lt h
  rw [patrol_of_state hstate, followRoute, if_neg hroute, if_neg (by simp [hissued]),
    if_pos harrived]
  simp only [waypoint?, Nat.mod_mod]

/-- A guard on its way to its waypoint is left alone. -/
theorem patrol_underway (hstate : m.state = .patrol) (h : m.patrolIndex < route.size)
    (hissued : m.patrolDestinationIssued = true)
    (harrived : Navigator.hasReachedDestination body = false) :
    m.patrol config route body = { memory := { m with lastKnownPosition := none } } := by
  have hroute : ¬route.isEmpty = true := by simpa using Nat.ne_zero_of_lt h
  rw [patrol_of_state hstate, followRoute, if_neg hroute, if_neg (by simp [hissued]),
    if_neg (by simp [harrived])]

@[simp] theorem patrolIndex_beginPatrol (config : Config) (m : Memory) :
    (m.beginPatrol config).patrolIndex = m.patrolIndex := by
  unfold beginPatrol
  split
  · rfl
  · obtain ⟨multiplier, henter⟩ := exists_enter config .patrol m
    rw [henter]

/-- A guard that begins to patrol goes to the waypoint that it was heading for before. -/
theorem patrol_of_ne (hstate : m.state ≠ .patrol) (h : m.patrolIndex < route.size) :
    m.patrol config route body =
      { memory := { m.beginPatrol config with patrolDestinationIssued := true }
        orders :=
          m.paceFor config .patrol ++
            .pace config.patrolSpeedMultiplier :: route[m.patrolIndex]?.toList.map .goTo } := by
  have hindex := m.patrolIndex_beginPatrol config
  have hissued : (m.beginPatrol config).patrolDestinationIssued = false := by
    rw [beginPatrol, if_neg hstate]
  unfold patrol
  dsimp only
  rw [followRoute_unissued (hindex.symm ▸ h) hissued, hindex]

theorem destinations_patrol_of_ne (hstate : m.state ≠ .patrol) (h : m.patrolIndex < route.size) :
    destinations (m.patrol config route body).orders = route[m.patrolIndex]?.toList := by
  rw [patrol_of_ne hstate h]
  simp

theorem followRoute_of_empty (h : route.size = 0) :
    m.followRoute config route body = { memory := m } :=
  if_pos (by simpa using h)

section Index

variable (config : Config) (dt : Float32) (m : Memory)

@[simp] theorem patrolIndex_enter (next : State) :
    (m.enter config next).patrolIndex = m.patrolIndex := by
  obtain ⟨multiplier, henter⟩ := exists_enter config next m
  rw [henter]

@[simp] theorem patrolIndex_pursue (target sighted : Option Vec3) :
    (m.pursue config dt target sighted).memory.patrolIndex = m.patrolIndex := by
  obtain ⟨multiplier, hpursue⟩ := exists_pursue config dt target sighted m
  rw [hpursue]
  cases target <;> rfl

@[simp] theorem patrolIndex_seek (side : Float32) (body : N) (point : Vec3) :
    (m.seek config dt side body point).memory.patrolIndex = m.patrolIndex := by
  obtain ⟨multiplier, time, direction, rotation, hseek⟩ :=
    exists_seek config dt side body point m
  rw [hseek]

@[simp] theorem patrolIndex_giveUp (route : Array Vec3) :
    (m.giveUp config route).memory.patrolIndex = m.patrolIndex :=
  m.patrolIndex_enter config .returnToPatrol

end Index

/-- A chase that does not know where to go sends the body nowhere. -/
theorem destinations_pursue_none (config : Config) (dt : Float32) {m : Memory}
    (hknown : m.lastKnownPosition = none) :
    destinations (m.pursue config dt none none).orders = [] := by
  show destinations (_ ++ (none.or m.lastKnownPosition).toList.map .goTo) = []
  rw [hknown, destinations_append, destinations_paceFor]
  rfl

/-- So does a guard that chases without knowing where to go. It reports a pursuit if it was on
patrol. -/
theorem Coherent.falter_sets_off (hm : m.Coherent) (config : Config) (dt : Float32) (body : N)
    (hknown : m.lastKnownPosition = none) (h : m.patrolIndex < route.size) :
    let e := m.falter config route dt body
    e.memory.patrolIndex = m.patrolIndex ∧ e.memory.patrolDestinationIssued = true ∧
      destinations e.orders = route[m.patrolIndex]?.toList ∧
      (m.state = .patrol → .spotted ∈ e.reports) := by
  intro e
  let chase := m.pursue config dt none none
  have hindex : chase.memory.patrolIndex = m.patrolIndex := m.patrolIndex_pursue config dt none none
  have hstate : chase.memory.state ≠ .patrol := by simp [chase]
  have he : e = m.falter config route dt body := rfl
  rw [falter, patrol_of_ne hstate (hindex.symm ▸ h)] at he
  rw [he]
  refine ⟨?_, rfl, ?_, ?_⟩
  · exact (patrolIndex_beginPatrol ..).trans hindex
  · simp [chase, destinations_pursue_none config dt hknown]
  · intro hbefore
    have halert : m.alertRaised = false := by simpa [hbefore] using hm.alert
    simp [pursue, halert]

end Memory

section Running

variable {P N R T : Type} [Trace.Sink T]

/-! ### What has happened -/

namespace Round

/-- Where the guard sends its body in this round. -/
def destinations (r : Round P (Noted N) R T) : List Vec3 := Guard.destinations r.orders

/-- The guard begins to patrol in this round: it was off patrol, or leaves it for a pursuit that
comes to nothing at once. -/
def EntersPatrol (r : Round P N (Minuted R) T) : Prop :=
  r.state = .patrol ∧ (r.guard.state ≠ .patrol ∨ .spotted ∈ r.reports)

/-- A guard that ends a round on patrol without having begun to patrol was on patrol before. -/
theorem patrol_of_stays {r : Round P N (Minuted R) T} (hstate : r.state = .patrol)
    (hstays : ¬r.EntersPatrol) : r.guard.state = .patrol :=
  not_not.1 fun hleft => hstays ⟨hstate, .inl hleft⟩

end Round

/-- Since the guard was sent to a point on patrol, it has neither been reset nor begun to patrol. -/
def SentTo (g : Guard P (Noted N) (Minuted R) T)
    (ops : List (Operation P (Noted N) (Minuted R))) (point : Vec3) : Prop :=
  ∃ before frame after, ops = before ++ .evaluate frame :: after ∧
    let r : Round P (Noted N) (Minuted R) T := ⟨g.afterAll before, frame⟩
    r.state = .patrol ∧ r.destinations = [point] ∧ .reset ∉ after ∧
      ∀ r' ∈ r.after.rounds after, ¬r'.EntersPatrol

section

variable {g : Guard P (Noted N) (Minuted R) T} {ops : List (Operation P (Noted N) (Minuted R))}
  {op : Operation P (Noted N) (Minuted R)} {point : Vec3}

theorem SentTo.concat (h : g.SentTo ops point) (hop : op ≠ .reset)
    (hround : ∀ r ∈ (g.afterAll ops).roundOf op, ¬r.EntersPatrol) :
    g.SentTo (ops ++ [op]) point := by
  obtain ⟨before, frame, after, rfl, hstate, hsent, hreset, hlater⟩ := h
  refine ⟨before, frame, after ++ [op], by simp, hstate, hsent, by simp [hreset, hop.symm], ?_⟩
  rw [rounds_append, rounds_singleton, List.forall_mem_append]
  rw [afterAll_append] at hround
  exact ⟨hlater, fun r hr => hround r (Option.mem_toList.1 hr)⟩

/-- A frame that sends the guard to a point. -/
theorem sentTo_concat {frame : Frame} :
    let r : Round P (Noted N) (Minuted R) T := ⟨g.afterAll ops, frame⟩
    r.state = .patrol → r.destinations = [point] → g.SentTo (ops ++ [.evaluate frame]) point := by
  intro r hstate hsent
  exact ⟨ops, frame, [], rfl, hstate, hsent, List.not_mem_nil, fun r' hr' => nomatch hr'⟩

end

variable [Perception P] [Navigator N]

/-- Since the guard was created, or since a reset, it has done nothing but catch. -/
def OnlyCaught (g : Guard P N R T) (ops : List (Operation P N R)) : Prop :=
  ∃ before after, ops = before ++ after ∧ (before = [] ∨ ∃ earlier, before = earlier ++ [.reset]) ∧
    ∀ r ∈ (g.afterAll before).rounds after, r.guard.InReach

theorem OnlyCaught.concat {g : Guard P N R T} {ops : List (Operation P N R)}
    {op : Operation P N R} (h : g.OnlyCaught ops)
    (hround : ∀ r ∈ (g.afterAll ops).roundOf op, r.guard.InReach) :
    g.OnlyCaught (ops ++ [op]) := by
  obtain ⟨before, after, rfl, hbefore, hcaught⟩ := h
  refine ⟨before, after ++ [op], by simp, hbefore, ?_⟩
  rw [rounds_append, rounds_singleton, List.forall_mem_append]
  rw [afterAll_append] at hround
  exact ⟨hcaught, fun r hr => hround r (Option.mem_toList.1 hr)⟩

/-! ### One round -/

namespace Round

/-- What a round does to the walk along a route. -/
inductive Strides (r : Round P (Noted N) (Minuted R) T) : Prop
  | stood (hreach : r.guard.InReach) (hstate : r.state = r.guard.state)
      (hspotted : .spotted ∉ r.reports)
      (hindex : r.after.memory.patrolIndex = r.guard.memory.patrolIndex)
      (hissued : r.after.memory.patrolDestinationIssued = r.guard.memory.patrolDestinationIssued)
      (hsent : r.destinations = [])
  | away (hfar : ¬r.guard.InReach) (hstate : r.state ≠ .patrol)
      (hindex : r.after.memory.patrolIndex = r.guard.memory.patrolIndex)
  | setOff (hfar : ¬r.guard.InReach) (hstate : r.state = .patrol)
      (hwhy : r.EntersPatrol ∨ r.guard.state = .patrol ∧
        r.guard.memory.patrolDestinationIssued = false)
      (hindex : r.after.memory.patrolIndex = r.guard.memory.patrolIndex)
      (hissued : r.after.memory.patrolDestinationIssued = true)
      (hsent : r.destinations = r.guard.context.route[r.guard.memory.patrolIndex]?.toList)
  | wentOn (hfar : ¬r.guard.InReach) (hstate : r.state = .patrol) (hstays : ¬r.EntersPatrol)
      (hbefore : r.guard.memory.patrolDestinationIssued = true)
      (harrived : Navigator.hasReachedDestination r.guard.context.navigator = true)
      (hindex : r.after.memory.patrolIndex =
        (r.guard.memory.patrolIndex + 1) % r.guard.context.route.size)
      (hissued : r.after.memory.patrolDestinationIssued = true)
      (hsent : r.destinations = r.guard.context.route[r.after.memory.patrolIndex]?.toList)
  | underway (hfar : ¬r.guard.InReach) (hstate : r.state = .patrol) (hstays : ¬r.EntersPatrol)
      (hbefore : r.guard.memory.patrolDestinationIssued = true)
      (harrived : Navigator.hasReachedDestination r.guard.context.navigator = false)
      (hindex : r.after.memory.patrolIndex = r.guard.memory.patrolIndex)
      (hissued : r.after.memory.patrolDestinationIssued = true)
      (hsent : r.destinations = [])

namespace Strides

variable {r : Round P (Noted N) (Minuted R) T}

/-- A round keeps the waypoint, or goes on to the next one in a frame on patrol that is no catch. -/
theorem index_or (h : r.Strides) :
    r.after.memory.patrolIndex = r.guard.memory.patrolIndex ∨
      (r.guard.state = .patrol ∧ r.state = .patrol ∧ ¬r.guard.InReach) ∧
        r.after.memory.patrolIndex =
          (r.guard.memory.patrolIndex + 1) % r.guard.context.route.size := by
  cases h with
  | stood _ _ _ hindex => exact .inl hindex
  | away _ _ hindex => exact .inl hindex
  | setOff _ _ _ hindex => exact .inl hindex
  | wentOn hfar hstate hstays _ _ hindex =>
    exact .inr ⟨⟨patrol_of_stays hstate hstays, hstate, hfar⟩, hindex⟩
  | underway _ _ _ _ _ hindex => exact .inl hindex

/-- A guard that ends a round on patrol has been sent to its waypoint by then, unless it has caught
its target there. -/
theorem issued_or (h : r.Strides) (hstate : r.state = .patrol) :
    r.after.memory.patrolDestinationIssued = true ∨
      r.guard.InReach ∧ r.guard.state = .patrol ∧ r.destinations = [] ∧
        r.after.memory.patrolDestinationIssued = r.guard.memory.patrolDestinationIssued := by
  cases h with
  | stood hreach hsame _ _ hissued hsent =>
    exact .inr ⟨hreach, hsame.symm.trans hstate, hsent, hissued⟩
  | away _ hleft => exact absurd hstate hleft
  | setOff _ _ _ _ hissued => exact .inl hissued
  | wentOn _ _ _ _ _ _ hissued => exact .inl hissued
  | underway _ _ _ _ _ _ hissued => exact .inl hissued

theorem stands (h : r.Strides) (hreach : r.guard.InReach) :
    r.state = r.guard.state ∧
      r.after.memory.patrolDestinationIssued = r.guard.memory.patrolDestinationIssued := by
  cases h with
  | stood _ hstate _ _ hissued => exact ⟨hstate, hissued⟩
  | away hfar => exact absurd hreach hfar
  | setOff hfar => exact absurd hreach hfar
  | wentOn hfar => exact absurd hreach hfar
  | underway hfar => exact absurd hreach hfar

end Strides

/-- A guard that was on patrol before, and patrols, goes by its flag, and by its body once it was
sent somewhere. -/
theorem strides_of_patrol {r : Round P (Noted N) (Minuted R) T}
    (hindex : r.memory.patrolIndex < r.guard.context.route.size)
    (hpatrol : r.memory.state = .patrol) (hfar : ¬r.guard.InReach)
    (hmemory : r.after.memory = (r.memory.patrol r.guard.context.config r.guard.context.route
      r.guard.context.navigator).memory)
    (hsent : r.destinations = Guard.destinations (r.memory.patrol r.guard.context.config
      r.guard.context.route r.guard.context.navigator).orders)
    (hreports : r.reports = []) : r.Strides := by
  have hends : r.state = .patrol := by
    show r.after.memory.state = .patrol
    simp [hmemory]
  have hstays : ¬r.EntersPatrol := by
    rintro ⟨-, hleft | hspotted⟩
    · exact hleft hpatrol
    · simp [hreports] at hspotted
  cases hissued : r.memory.patrolDestinationIssued with
  | false =>
    rw [Memory.patrol_unissued hpatrol hindex hissued] at hmemory hsent
    exact .setOff hfar hends (.inr ⟨hpatrol, hissued⟩) (by rw [hmemory]; rfl) (by rw [hmemory])
      (hsent.trans (destinations_goTo _))
  | true =>
    cases harrived : Navigator.hasReachedDestination r.guard.context.navigator with
    | true =>
      rw [Memory.patrol_arrived hpatrol hindex hissued harrived] at hmemory hsent
      exact .wentOn hfar hends hstays hissued harrived (by rw [hmemory]; rfl)
        (by rw [hmemory]; exact hissued) (by rw [hmemory]; exact hsent.trans (destinations_goTo _))
    | false =>
      rw [Memory.patrol_underway hpatrol hindex hissued harrived] at hmemory hsent
      exact .underway hfar hends hstays hissued harrived (by rw [hmemory]; rfl)
        (by rw [hmemory]; exact hissued) hsent

variable [Referee R]

/-- On a route that is not empty, a round is one of these. -/
theorem strides {r : Round P (Noted N) (Minuted R) T} (h : r.guard.Sound)
    (hindex : r.memory.patrolIndex < r.guard.context.route.size) : r.Strides := by
  obtain ⟨near, side, e, hnear, hdoes, hacts⟩ := exists_acts h
  have hmemory : r.after.memory = e.memory := hdoes.memory
  have hstate : r.state = e.memory.state := congrArg Memory.state hdoes.memory
  have hsent : r.destinations = Guard.destinations e.orders :=
    congrArg Guard.destinations (orders_of_does hdoes)
  have hreports : r.reports = e.reports := reports_of_does hdoes
  have hfar (hfalse : near = false) : ¬r.guard.InReach :=
    fun hreach => nomatch hfalse.symm.trans (hnear.2 hreach)
  cases hacts with
  | caught =>
    exact .stood (hnear.1 rfl) hstate (by simp [hreports]) (by rw [hmemory]; rfl)
      (by rw [hmemory]; rfl) hsent
  | pursued target sighted =>
    exact .away (hfar rfl) (by simp [hstate]) (by rw [hmemory]; exact Memory.patrolIndex_pursue ..)
  | sought =>
    exact .away (hfar rfl) (by simp [hstate]) (by rw [hmemory]; exact Memory.patrolIndex_seek ..)
  | gaveUp =>
    exact .away (hfar rfl) (by simp [hstate]) (by rw [hmemory]; exact Memory.patrolIndex_giveUp ..)
  | patrolled =>
    by_cases hpatrol : r.memory.state = .patrol
    · exact strides_of_patrol hindex hpatrol (hfar rfl) hmemory hsent (by simp [hreports])
    · have hends : r.state = .patrol := by simp [hstate]
      have hgoes := hsent.trans (Memory.destinations_patrol_of_ne hpatrol hindex)
      rw [Memory.patrol_of_ne hpatrol hindex] at hmemory
      exact .setOff (hfar rfl) hends (.inl ⟨hends, .inl hpatrol⟩)
        (by rw [hmemory]; exact Memory.patrolIndex_beginPatrol ..) (by rw [hmemory]) hgoes
  | faltered hknown =>
    have hends : r.state = .patrol := by simp [hstate, Memory.falter]
    have hcoherent : r.memory.Coherent := (h.begin r.frame).memory.toCoherent
    obtain ⟨hkeeps, hissued, hgoes, hspotted⟩ := hcoherent.falter_sets_off
      r.guard.context.config r.frame.dt r.guard.context.navigator hknown hindex
    rw [← hmemory] at hkeeps hissued
    rw [← hreports] at hspotted
    -- a pursuit that comes to nothing shows only in its report
    refine .setOff (hfar rfl) hends (.inl ⟨hends, ?_⟩) hkeeps hissued (hsent.trans hgoes)
    exact (em (r.guard.state = .patrol)).symm.imp_right hspotted

/-- On an empty route there is nowhere to go, and nothing to count. -/
theorem idle_of_empty {r : Round P (Noted N) (Minuted R) T} (h : r.guard.Sound)
    (hempty : r.guard.context.route.size = 0) :
    r.after.memory.patrolIndex = r.memory.patrolIndex ∧
      (r.state = .patrol ∨ r.state = .returnToPatrol → r.destinations = []) := by
  obtain ⟨near, side, e, -, hdoes, hacts⟩ := exists_acts h
  have hmemory : r.after.memory = e.memory := hdoes.memory
  have hstate : r.state = e.memory.state := congrArg Memory.state hdoes.memory
  have hsent : r.destinations = Guard.destinations e.orders :=
    congrArg Guard.destinations (orders_of_does hdoes)
  rw [hmemory, hstate, hsent]
  cases hacts with
  | caught => exact ⟨rfl, fun _ => rfl⟩
  | pursued target sighted => exact ⟨Memory.patrolIndex_pursue .., by simp⟩
  | sought => exact ⟨Memory.patrolIndex_seek .., by simp⟩
  | gaveUp =>
    refine ⟨Memory.patrolIndex_giveUp .., fun _ => ?_⟩
    have hnowhere : r.memory.waypoint? r.guard.context.route = none := by
      simp [Memory.waypoint?, hempty]
    unfold Memory.giveUp
    rw [hnowhere]
    dsimp only
    split <;> rfl
  | patrolled =>
    rw [Memory.patrol, Memory.followRoute_of_empty hempty]
    exact ⟨Memory.patrolIndex_beginPatrol .., fun _ => by simp⟩
  | faltered hknown =>
    rw [Memory.falter, Memory.patrol, Memory.followRoute_of_empty hempty]
    refine ⟨?_, fun _ => ?_⟩
    · exact (Memory.patrolIndex_beginPatrol ..).trans (Memory.patrolIndex_pursue ..)
    · simp [Memory.destinations_pursue_none _ _ hknown]

end Round

end Running

/-! ### All rounds -/

section Walking

variable {P N R T : Type} [Perception P] [Navigator N] [Referee R]

/-- A guard that has a place on a route: a waypoint, if there is one. -/
structure Placed (route : Array Vec3) (g : Guard P (Noted N) (Minuted R) T) : Prop where
  sound : g.Sound
  route_eq : g.context.route = route
  index : g.memory.patrolIndex = 0 ∨ g.memory.patrolIndex < route.size

namespace Placed

variable {route : Array Vec3} {g g' : Guard P (Noted N) (Minuted R) T}

theorem index_lt (h : Placed route g) (hroute : 0 < route.size) :
    g.memory.patrolIndex < route.size := by
  rcases h.index with hindex | hindex
  · rwa [hindex]
  · exact hindex

theorem handle (h : Placed route g) (hh : Handled g g') : Placed route g' := by
  have hsame := hh.sameGuard
  refine ⟨hh.sound h.sound, hsame.route.trans h.route_eq, ?_⟩
  rw [hsame.memory]
  exact h.index

theorem reset (h : Placed route g) : Placed route g.reset := ⟨h.sound.reset, h.route_eq, h.index⟩

variable [Trace.Sink T]

theorem strides {r : Round P (Noted N) (Minuted R) T} (h : Placed route r.guard)
    (hroute : 0 < route.size) : r.Strides := by
  refine Round.strides h.sound ?_
  rw [h.route_eq]
  exact h.index_lt hroute

theorem round {r : Round P (Noted N) (Minuted R) T} (h : Placed route r.guard) :
    Placed route r.after := by
  obtain ⟨_, _, _, -, hdoes, -⟩ := Round.exists_acts h.sound
  refine ⟨h.sound.evaluate _, hdoes.route.trans h.route_eq, ?_⟩
  rcases Nat.eq_zero_or_pos route.size with hempty | hroute
  · have hkeeps := (Round.idle_of_empty h.sound (h.route_eq ▸ hempty)).1
    rw [hkeeps]
    exact h.index
  · rcases (h.strides hroute).index_or with hkeeps | ⟨-, hnext⟩
    · rw [hkeeps]
      exact h.index
    · rw [hnext, h.route_eq]
      exact .inr (Nat.mod_lt _ hroute)

theorem afterAll (h : Placed route g) (ops : List (Operation P (Noted N) (Minuted R))) :
    Placed route (g.afterAll ops) :=
  afterAll_keeps (fun hh h => h.handle hh) (fun _ => .reset) (fun _ _ => .round) h

/-- As long as no frame but catches begins and ends on patrol, a guard keeps its waypoint. -/
theorem index_afterAll (h : Placed route g) (hroute : 0 < route.size)
    {ops : List (Operation P (Noted N) (Minuted R))}
    (hops : ∀ r ∈ g.rounds ops, r.guard.state = .patrol → r.state = .patrol → r.guard.InReach) :
    (g.afterAll ops).memory.patrolIndex = g.memory.patrolIndex := by
  refine (afterAll_keeps (motive := fun g' => Placed route g' ∧
    g'.memory.patrolIndex = g.memory.patrolIndex) ?_ ?_ ?_ ⟨h, rfl⟩).2
  · rintro g' g'' hh ⟨hplaced, hindex⟩
    exact ⟨hplaced.handle hh, hh.sameGuard.memory ▸ hindex⟩
  · rintro - g' ⟨hplaced, hindex⟩
    exact ⟨hplaced.reset, hindex⟩
  · rintro r hr ⟨hplaced, hindex⟩
    refine ⟨hplaced.round, ?_⟩
    rcases (hplaced.strides hroute).index_or with hkeeps | ⟨⟨hbefore, hafter, hfar⟩, -⟩
    · exact hkeeps.trans hindex
    · exact absurd (hops r hr hbefore hafter) hfar

end Placed

/-- A guard as it is before its first frame. -/
structure Unused (route : Array Vec3) (g : Guard P (Noted N) (Minuted R) T) : Prop
    extends Placed route g where
  state : g.state = .patrol
  issued : g.memory.patrolDestinationIssued = false

theorem unused_of_create {config : Config} {route : Array Vec3} {perception : P}
    {navigator : Noted N} {referee : Minuted R} {g g' : Guard P (Noted N) (Minuted R) T}
    (h : create config route perception navigator referee = .ok g)
    (hg : Relation.ReflTransGen Handled g g') : Unused route g' := by
  have hsound : g'.Sound := by
    induction hg with
    | refl => exact .of_create h
    | tail _ hlast ih => exact hlast.sound ih
  have hsame := sameGuard_of_handled hg
  obtain ⟨-, rfl⟩ := create_eq_ok.1 h
  exact ⟨⟨hsound, hsame.route, .inl (congrArg Memory.patrolIndex hsame.memory)⟩,
    congrArg Memory.state hsame.memory, congrArg Memory.patrolDestinationIssued hsame.memory⟩

variable [Trace.Sink T]

/-- A guard whose flag tells what has happened to it. -/
structure Walks (route : Array Vec3) (g : Guard P (Noted N) (Minuted R) T)
    (ops : List (Operation P (Noted N) (Minuted R))) : Prop where
  placed : Placed route (g.afterAll ops)
  sent : (g.afterAll ops).state = .patrol →
    (g.afterAll ops).memory.patrolDestinationIssued = true →
      ∃ waypoint, route[(g.afterAll ops).memory.patrolIndex]? = some waypoint ∧
        g.SentTo ops waypoint
  caught : (g.afterAll ops).state = .patrol →
    (g.afterAll ops).memory.patrolDestinationIssued = false → g.OnlyCaught ops

section Flag

variable {route : Array Vec3} {g : Guard P (Noted N) (Minuted R) T}
  {ops : List (Operation P (Noted N) (Minuted R))}

namespace Walks

/-- The waypoint that a guard is sent to. -/
theorem exists_sentTo {frame : Frame} (h : Walks route g ops) (hroute : 0 < route.size) :
    let r : Round P (Noted N) (Minuted R) T := ⟨g.afterAll ops, frame⟩
    r.state = .patrol → r.destinations = route[r.after.memory.patrolIndex]?.toList →
      ∃ waypoint, route[r.after.memory.patrolIndex]? = some waypoint ∧
        r.destinations = [waypoint] ∧ g.SentTo (ops ++ [.evaluate frame]) waypoint := by
  intro r hstate hsent
  have hlt := (h.placed.round (r := r)).index_lt hroute
  rw [Array.getElem?_eq_getElem hlt] at hsent ⊢
  exact ⟨_, rfl, hsent, sentTo_concat hstate hsent⟩

/-- What the flag tells after a frame. -/
theorem evaluate (h : Walks route g ops) (hroute : 0 < route.size) (frame : Frame) :
    Walks route g (ops ++ [.evaluate frame]) := by
  let r : Round P (Noted N) (Minuted R) T := ⟨g.afterAll ops, frame⟩
  have hafter : g.afterAll (ops ++ [.evaluate frame]) = r.after := afterAll_append ..
  -- what was true before the frame stays so if the frame does not begin a patrol
  have hgoes {waypoint : Vec3} (hstays : ¬r.EntersPatrol) (hsent : g.SentTo ops waypoint) :
      g.SentTo (ops ++ [.evaluate frame]) waypoint := by
    refine hsent.concat nofun ?_
    rintro _ ⟨⟩
    exact hstays
  constructor
  all_goals rw [hafter]
  case placed => exact h.placed.round (r := r)
  case sent =>
    intro hstate hissued
    cases h.placed.strides (r := r) hroute with
    | stood hreach hsame hspotted hindex hissued' =>
      have hbefore : r.guard.state = .patrol := hsame.symm.trans hstate
      obtain ⟨waypoint, hwaypoint, hsent⟩ := h.sent hbefore (hissued'.symm.trans hissued)
      refine ⟨waypoint, hindex ▸ hwaypoint, hgoes ?_ hsent⟩
      exact fun henters => henters.2.elim (fun hleft => hleft hbefore) hspotted
    | away _ hleft => exact absurd hstate hleft
    | setOff _ _ _ hindex _ hsent =>
      rw [h.placed.route_eq, ← hindex] at hsent
      obtain ⟨waypoint, hwaypoint, -, hsent⟩ := h.exists_sentTo hroute hstate hsent
      exact ⟨waypoint, hwaypoint, hsent⟩
    | wentOn _ _ _ _ _ _ _ hsent =>
      rw [h.placed.route_eq] at hsent
      obtain ⟨waypoint, hwaypoint, -, hsent⟩ := h.exists_sentTo hroute hstate hsent
      exact ⟨waypoint, hwaypoint, hsent⟩
    | underway _ _ hstays hbefore _ hindex =>
      obtain ⟨waypoint, hwaypoint, hsent⟩ :=
        h.sent (Round.patrol_of_stays hstate hstays) hbefore
      exact ⟨waypoint, hindex ▸ hwaypoint, hgoes hstays hsent⟩
  case caught =>
    intro hstate hissued
    rcases (h.placed.strides (r := r) hroute).issued_or hstate with
      hset | ⟨hreach, hbefore, -, hsame⟩
    · exact nomatch hissued.symm.trans hset
    · refine (h.caught hbefore (hsame.symm.trans hissued)).concat ?_
      rintro _ ⟨⟩
      exact hreach

theorem concat (h : Walks route g ops) (hroute : 0 < route.size)
    (op : Operation P (Noted N) (Minuted R)) : Walks route g (ops ++ [op]) := by
  obtain ⟨frame, rfl⟩ | rfl | ⟨hop, hround, hh⟩ := (g.afterAll ops).perform_cases op
  · exact h.evaluate hroute frame
  · have hafter : g.afterAll (ops ++ [.reset]) = (g.afterAll ops).reset := afterAll_append ..
    constructor
    all_goals rw [hafter]
    case placed => exact h.placed.reset
    case sent => exact fun _ hissued => nomatch hissued
    case caught =>
      exact fun _ _ => ⟨ops ++ [.reset], [], by simp, .inr ⟨ops, rfl⟩, fun r hr => nomatch hr⟩
  · have hafter : g.afterAll (ops ++ [op]) = ((g.afterAll ops).perform op).2 := afterAll_append ..
    have hmemory := hh.sameGuard.memory
    have hstate := hh.sameGuard.state_eq
    constructor
    all_goals rw [hafter]
    case placed => exact h.placed.handle hh
    case sent =>
      rw [hstate, hmemory]
      intro hpatrol hissued
      obtain ⟨waypoint, hwaypoint, hsent⟩ := h.sent hpatrol hissued
      exact ⟨waypoint, hwaypoint, hsent.concat hop (by simp [hround])⟩
    case caught =>
      rw [hstate, hmemory]
      intro hpatrol hissued
      exact (h.caught hpatrol hissued).concat (by simp [hround])

end Walks

namespace Unused

theorem walks_nil (h : Unused route g) : Walks route g [] := by
  refine ⟨h.toPlaced, ?_, fun _ _ => ⟨[], [], rfl, .inl rfl, fun r hr => nomatch hr⟩⟩
  intro _ hissued
  exact nomatch h.issued.symm.trans hissued

/-- Whatever is done to a guard, its flag tells what has happened. -/
theorem walks (h : Unused route g) (hroute : 0 < route.size)
    (ops : List (Operation P (Noted N) (Minuted R))) : Walks route g ops := by
  -- on the operations from the last one on, since the flag tells of what is past
  induction ops using List.reverseRecOn with
  | nil => exact h.walks_nil
  | append_singleton ops op ih => exact ih.concat hroute op

/-- A guard that was sent to a point knows so, as long as it is on patrol. -/
theorem issued_of_sentTo (h : Unused route g) (hroute : 0 < route.size) {point : Vec3}
    (hsent : g.SentTo ops point) (hstate : (g.afterAll ops).state = .patrol) :
    (g.afterAll ops).memory.patrolDestinationIssued = true := by
  obtain ⟨before, frame, after, rfl, hpatrol, hpoint, hreset, -⟩ := hsent
  let r : Round P (Noted N) (Minuted R) T := ⟨g.afterAll before, frame⟩
  have hplaced : Placed route r.guard := h.afterAll before
  have hissued : r.after.memory.patrolDestinationIssued = true := by
    rcases (hplaced.strides (r := r) hroute).issued_or hpatrol with hset | ⟨-, -, hnowhere, -⟩
    · exact hset
    · exact nomatch hnowhere.symm.trans hpoint
  -- only a reset clears the flag of a guard that stays on patrol, and a guard that leaves it sets
  -- the flag again as it comes back
  have hlater : Placed route (r.after.afterAll after) ∧
      ((r.after.afterAll after).state = .patrol →
        (r.after.afterAll after).memory.patrolDestinationIssued = true) := by
    refine afterAll_keeps (motive := fun g => Placed route g ∧
      (g.state = .patrol → g.memory.patrolDestinationIssued = true)) ?_
      (fun hmem => absurd hmem hreset) ?_ ⟨hplaced.round, fun _ => hissued⟩
    · rintro g g' hh ⟨hplaced, hkeeps⟩
      refine ⟨hplaced.handle hh, ?_⟩
      rw [hh.sameGuard.state_eq, hh.sameGuard.memory]
      exact hkeeps
    · rintro r - ⟨hplaced, hkeeps⟩
      refine ⟨hplaced.round, fun hpatrol => ?_⟩
      rcases (hplaced.strides hroute).issued_or hpatrol with hset | ⟨-, hbefore, -, hsame⟩
      · exact hset
      · exact hsame.trans (hkeeps hbefore)
  rw [afterAll_append] at hstate ⊢
  exact hlater.2 hstate

/-- A guard that has done nothing but catch is on patrol, and knows that it has not been sent
anywhere. -/
theorem idle_of_onlyCaught (h : Unused route g) (hroute : 0 < route.size)
    (hcaught : g.OnlyCaught ops) :
    (g.afterAll ops).state = .patrol ∧
      (g.afterAll ops).memory.patrolDestinationIssued = false := by
  obtain ⟨before, after, rfl, hbefore, hcaught⟩ := hcaught
  have hidle : (g.afterAll before).state = .patrol ∧
      (g.afterAll before).memory.patrolDestinationIssued = false := by
    obtain rfl | ⟨earlier, rfl⟩ := hbefore
    · exact ⟨h.state, h.issued⟩
    · rw [afterAll_append]
      exact ⟨rfl, rfl⟩
  rw [afterAll_append]
  refine (afterAll_keeps (motive := fun g => Placed route g ∧ g.state = .patrol ∧
    g.memory.patrolDestinationIssued = false) ?_ ?_ ?_ ⟨h.afterAll before, hidle⟩).2
  · rintro g g' hh ⟨hplaced, hkeeps⟩
    refine ⟨hplaced.handle hh, ?_⟩
    rw [hh.sameGuard.state_eq, hh.sameGuard.memory]
    exact hkeeps
  · rintro - g ⟨hplaced, -⟩
    exact ⟨hplaced.reset, rfl, rfl⟩
  · rintro r hr ⟨hplaced, hpatrol, hissued⟩
    obtain ⟨hstate, hkeeps⟩ := (hplaced.strides hroute).stands (hcaught r hr)
    exact ⟨hplaced.round, hstate.trans hpatrol, hkeeps.trans hissued⟩

end Unused
end Flag

/-- In a frame after some operations the guard goes on to the next waypoint: it is on patrol and
stays there, catches nothing, was sent to its waypoint before, and finds that it has arrived. -/
structure GoesOn (g : Guard P (Noted N) (Minuted R) T)
    (ops : List (Operation P (Noted N) (Minuted R))) (r : Round P (Noted N) (Minuted R) T) :
    Prop where
  before : r.guard.state = .patrol
  after : r.state = .patrol
  stays : ¬r.EntersPatrol
  far : ¬r.guard.InReach
  arrived : Navigator.hasReachedDestination r.guard.context.navigator = true
  sent : ∃ waypoint, r.guard.context.route[r.guard.memory.patrolIndex]? = some waypoint ∧
    g.SentTo ops waypoint

/-- In a frame after some operations the guard sets off: it begins to patrol, or is on patrol and
has done nothing but catch so far, and does not catch any more. -/
def SetsOff (g : Guard P (Noted N) (Minuted R) T)
    (ops : List (Operation P (Noted N) (Minuted R))) (r : Round P (Noted N) (Minuted R) T) : Prop :=
  r.EntersPatrol ∨ r.state = .patrol ∧ ¬r.guard.InReach ∧ g.OnlyCaught ops

namespace Unused

variable {route : Array Vec3} {g : Guard P (Noted N) (Minuted R) T}

/-- A frame either goes on to the next waypoint, or sets off to the one that the guard was heading
for, or leaves the walk alone. -/
theorem goes (h : Unused route g) (hroute : 0 < route.size)
    (ops : List (Operation P (Noted N) (Minuted R))) (frame : Frame) :
    let r : Round P (Noted N) (Minuted R) T := ⟨g.afterAll ops, frame⟩
    let index := r.guard.memory.patrolIndex
    let next := r.after.memory.patrolIndex
    let sent := ∃ waypoint, route[next]? = some waypoint ∧ r.destinations = [waypoint]
    g.GoesOn ops r ∧ next = (index + 1) % route.size ∧ sent ∨
      g.SetsOff ops r ∧ ¬g.GoesOn ops r ∧ next = index ∧ sent ∨
      ¬g.SetsOff ops r ∧ ¬g.GoesOn ops r ∧ next = index ∧
        (r.state = .patrol → r.destinations = []) := by
  intro r index next sent
  have hwalks : Walks route g ops := h.walks hroute ops
  have hplaced : Placed route r.guard := hwalks.placed
  have hidle (hcaught : g.OnlyCaught ops) : r.guard.memory.patrolDestinationIssued = false :=
    (h.idle_of_onlyCaught hroute hcaught).2
  have hsends (hstate : r.state = .patrol) (hsent : r.destinations = route[next]?.toList) :
      sent := by
    obtain ⟨waypoint, hwaypoint, hone, -⟩ := hwalks.exists_sentTo hroute hstate hsent
    exact ⟨waypoint, hwaypoint, hone⟩
  cases hplaced.strides hroute with
  | stood hreach hsame hspotted hindex _ hsent =>
    refine .inr (.inr ⟨?_, fun hgoes => hgoes.far hreach, hindex, fun _ => hsent⟩)
    rintro (⟨hstate, hleft | hnew⟩ | ⟨-, hfar, -⟩)
    · exact hleft (hsame.symm.trans hstate)
    · exact hspotted hnew
    · exact hfar hreach
  | away _ hleft hindex =>
    refine .inr (.inr ⟨?_, fun hgoes => hleft hgoes.after, hindex, fun hstate => ?_⟩)
    · exact fun hsets => hleft (hsets.elim And.left And.left)
    · exact absurd hstate hleft
  | setOff hfar hstate hwhy hindex _ hsent =>
    rw [hplaced.route_eq, ← hindex] at hsent
    refine .inr (.inl ⟨?_, fun hgoes => ?_, hindex, hsends hstate hsent⟩)
    · exact hwhy.imp_right fun hbefore => ⟨hstate, hfar, hwalks.caught hbefore.1 hbefore.2⟩
    · obtain ⟨waypoint, -, hsentTo⟩ := hgoes.sent
      have hissued := h.issued_of_sentTo hroute hsentTo hgoes.before
      exact hwhy.elim hgoes.stays fun hbefore => nomatch hissued.symm.trans hbefore.2
  | wentOn hfar hstate hstays hbefore harrived hindex _ hsent =>
    rw [hplaced.route_eq] at hindex hsent
    have hpatrol : r.guard.state = .patrol := Round.patrol_of_stays hstate hstays
    refine .inl ⟨⟨hpatrol, hstate, hstays, hfar, harrived, ?_⟩, hindex, hsends hstate hsent⟩
    rw [hplaced.route_eq]
    exact hwalks.sent hpatrol hbefore
  | underway _ hstate hstays hbefore harrived hindex _ hsent =>
    refine .inr (.inr ⟨?_, fun hgoes => ?_, hindex, fun _ => hsent⟩)
    · rintro (henters | ⟨-, -, hcaught⟩)
      · exact hstays henters
      · exact nomatch hbefore.symm.trans (hidle hcaught)
    · exact nomatch harrived.symm.trans hgoes.arrived

end Unused

/-- A guard walks its route without skipping a waypoint, whatever its perception and its body
answer.

After any operations the waypoint that it is heading for is on the route. In a frame it goes on to
the next one, after the last one to the first, if the frame begins and ends on patrol without having
begun a patrol, catches nothing, and finds the body arrived after it was sent to the waypoint in an
earlier frame, since when the guard was neither reset nor began to patrol. In any other frame it
keeps its waypoint. So it keeps it through any operations among which no frame but catches begins
and ends on patrol, such as a pursuit, a return or a reset, and is sent there again as it begins to
patrol.

A frame that ends on patrol sends the body to the waypoint, once, if the guard begins to patrol, has
done nothing but catch since it was created or reset, or goes on to the next waypoint, and sends it
nowhere otherwise.

On an empty route nothing is counted, and a frame that ends on patrol or on the way back sends the
body nowhere. -/
theorem walks_route {config : Config} {route : Array Vec3} {perception : P} {navigator : Noted N}
    {referee : Minuted R} {g₀ g : Guard P (Noted N) (Minuted R) T}
    (h : create config route perception navigator referee = .ok g₀)
    (hg : Relation.ReflTransGen Handled g₀ g)
    (ops : List (Operation P (Noted N) (Minuted R))) :
    let here := g.afterAll ops
    let index := here.memory.patrolIndex
    (route.size = 0 →
      index = 0 ∧ ∀ frame,
        let r : Round P (Noted N) (Minuted R) T := ⟨here, frame⟩
        r.state = .patrol ∨ r.state = .returnToPatrol → r.destinations = []) ∧
    (0 < route.size →
      index < route.size ∧
      (∀ frame,
        let r : Round P (Noted N) (Minuted R) T := ⟨here, frame⟩
        let next := r.after.memory.patrolIndex
        (g.GoesOn ops r → next = (index + 1) % route.size) ∧
        (¬g.GoesOn ops r → next = index) ∧
        (g.SetsOff ops r ∨ g.GoesOn ops r →
          ∃ waypoint, route[next]? = some waypoint ∧ r.destinations = [waypoint]) ∧
        (r.state = .patrol → ¬(g.SetsOff ops r ∨ g.GoesOn ops r) → r.destinations = [])) ∧
      ∀ more, (∀ r ∈ here.rounds more,
          r.guard.state = .patrol → r.state = .patrol → r.guard.InReach) →
        (here.afterAll more).memory.patrolIndex = index ∧ ∀ frame,
          let r : Round P (Noted N) (Minuted R) T := ⟨here.afterAll more, frame⟩
          r.EntersPatrol →
            ∃ waypoint, route[index]? = some waypoint ∧ r.destinations = [waypoint]) := by
  intro here index
  have hunused : Unused route g := unused_of_create h hg
  have hplaced : Placed route here := hunused.afterAll ops
  refine ⟨fun hempty => ⟨?_, fun frame => ?_⟩, fun hroute => ⟨?_, fun frame => ?_, ?_⟩⟩
  · exact hplaced.index.resolve_right (by simp [hempty])
  · exact (Round.idle_of_empty hplaced.sound (hplaced.route_eq ▸ hempty)).2
  · exact hplaced.index_lt hroute
  · intro r next
    obtain ⟨hgoes, hnext, hsent⟩ | ⟨hsets, hno, hnext, hsent⟩ | ⟨hnot, hno, hnext, hnone⟩ :=
      hunused.goes hroute ops frame
    · exact ⟨fun _ => hnext, fun hno => absurd hgoes hno, fun _ => hsent,
        fun _ hneither => absurd (.inr hgoes) hneither⟩
    · exact ⟨fun hgoes => absurd hgoes hno, fun _ => hnext, fun _ => hsent,
        fun _ hneither => absurd (.inl hsets) hneither⟩
    · exact ⟨fun hgoes => absurd hgoes hno, fun _ => hnext,
        fun heither => absurd heither (not_or.2 ⟨hnot, hno⟩), fun hstate _ => hnone hstate⟩
  · intro more hmore
    have hkept := hplaced.index_afterAll hroute hmore
    refine ⟨hkept, fun frame => ?_⟩
    intro r henters
    have hgoes := hunused.goes hroute (ops ++ more) frame
    rw [afterAll_append] at hgoes
    obtain ⟨hgoes, -⟩ | ⟨-, -, hnext, hsent⟩ | ⟨hnot, -⟩ := hgoes
    · exact absurd henters hgoes.stays
    · have hnext : r.after.memory.patrolIndex = index := hnext.trans hkept
      rwa [hnext] at hsent
    · exact absurd (.inl henters) hnot

end Walking

/-- A guard without patience goes on from the first of two waypoints to the second, pursues its
target from there, and goes to the second waypoint again. -/
theorem walks_route_interrupted :
    ∃ g : Guard Scene (Noted RecordingNavigator) (Minuted Tallies) Trace,
      create { chasePersistence := 0, searchDuration := 0 } #[⟨0, 0, 4⟩, ⟨4, 0, 4⟩] ⟨false, none⟩
          ⟨{ position := .zero }, []⟩ ⟨{}, []⟩ = .ok g ∧
        let frame : Frame := ⟨1, 0.5, 7⟩
        let begun : List (Operation Scene (Noted RecordingNavigator) (Minuted Tallies)) :=
          [.evaluate frame, .mapNavigator fun n => { n with body.reached := true }]
        let pursuit : List (Operation Scene (Noted RecordingNavigator) (Minuted Tallies)) :=
          [.mapPerception fun _ => ⟨true, some ⟨0, 0, 20⟩⟩, .evaluate frame,
            .mapPerception fun _ => ⟨false, none⟩, .evaluate frame, .evaluate frame]
        let there := g.afterAll begun
        let back := (g.afterAll (begun ++ [.evaluate frame])).afterAll pursuit
        Round.destinations ⟨there, frame⟩ = [⟨4, 0, 4⟩] ∧ back.state = .returnToPatrol ∧
          Round.destinations ⟨back, frame⟩ = [⟨4, 0, 4⟩] := by
  obtain ⟨g, hg⟩ : ∃ g : Guard Scene (Noted RecordingNavigator) (Minuted Tallies) Trace,
      create { chasePersistence := 0, searchDuration := 0 } #[⟨0, 0, 4⟩, ⟨4, 0, 4⟩] ⟨false, none⟩
          ⟨{ position := .zero }, []⟩ ⟨{}, []⟩ = .ok g :=
    ⟨_, create_eq_ok.2 ⟨by decide +kernel, rfl⟩⟩
  refine ⟨g, hg, ?_⟩
  intro frame begun pursuit there back
  let r : Round Scene (Noted RecordingNavigator) (Minuted Tallies) Trace := ⟨there, frame⟩
  let s : Round Scene (Noted RecordingNavigator) (Minuted Tallies) Trace := ⟨back, frame⟩
  obtain ⟨⟨hbefore, hafter, hquiet⟩, hblind, harrived, hhere, hnext⟩ :
      (there.state = .patrol ∧ r.state = .patrol ∧ r.reports = []) ∧
        (Perception.targetPosition there.context.perception).1 = none ∧
        Navigator.hasReachedDestination there.context.navigator = true ∧
        there.context.route[there.memory.patrolIndex]? = some ⟨0, 0, 4⟩ ∧
        r.after.memory.patrolIndex = 1 := by
    obtain ⟨-, rfl⟩ := create_eq_ok.1 hg
    decide +kernel
  have hgoes : g.GoesOn begun r := by
    refine ⟨hbefore, hafter, ?_, ?_, harrived, ⟨0, 0, 4⟩, hhere, ?_⟩
    · rintro ⟨-, hleft | hspotted⟩
      · exact hleft hbefore
      · rw [hquiet] at hspotted
        cases hspotted
    · rintro ⟨target, htarget, -⟩
      exact nomatch hblind.symm.trans htarget
    · refine ⟨[], frame, [.mapNavigator fun n => { n with body.reached := true }], rfl, ?_⟩
      obtain ⟨-, rfl⟩ := create_eq_ok.1 hg
      exact ⟨by decide +kernel, by decide +kernel, by simp, fun r' hr' => nomatch hr'⟩
  obtain ⟨waypoint, hwaypoint, hsent⟩ :=
    (((walks_route hg .refl begun).2 (by decide)).2.1 frame).2.2.1 (.inr hgoes)
  obtain ⟨haway, hreturns, hback, hends, hindex⟩ :
      (((g.afterAll (begun ++ [.evaluate frame])).rounds pursuit).all
        fun r => r.guard.state ≠ .patrol ∨ r.state ≠ .patrol) = true ∧
        back.state = .returnToPatrol ∧ back.state ≠ .patrol ∧ s.state = .patrol ∧
        (g.afterAll (begun ++ [.evaluate frame])).memory.patrolIndex = 1 := by
    obtain ⟨-, rfl⟩ := create_eq_ok.1 hg
    decide +kernel
  have hkeeps : ∀ r ∈ (g.afterAll (begun ++ [.evaluate frame])).rounds pursuit,
      r.guard.state = .patrol → r.state = .patrol → r.guard.InReach := by
    intro r hr hbefore hafter
    have hleft := List.all_eq_true.1 haway r hr
    simp [hbefore, hafter] at hleft
  have henters : s.EntersPatrol := ⟨hends, .inl hback⟩
  have hresumes := ((walks_route hg .refl (begun ++ [.evaluate frame])).2 (by decide)).2.2
  obtain ⟨waypoint', hwaypoint', hsent'⟩ := (hresumes pursuit hkeeps).2 frame henters
  rw [hnext] at hwaypoint
  rw [hindex] at hwaypoint'
  have hsecond : waypoint = ⟨4, 0, 4⟩ := (Option.some.inj hwaypoint).symm
  have hsecond' : waypoint' = ⟨4, 0, 4⟩ := (Option.some.inj hwaypoint').symm
  exact ⟨hsecond ▸ hsent, hreturns, hsecond' ▸ hsent'⟩

end Guard
end Guardhouse
