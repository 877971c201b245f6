import Guardhouse.Proofs.Guard.Answers

/-!
# Guards on the same course

How a guard looks around is between it and its body: two memories are on the same course if they
differ in nothing else (`Memory.SameCourse`), and two bodies are if turning either of them makes no
difference to what they answer (`Oblivious`). A decision keeps guards on the same course, whatever
agents they are and whatever they draw by chance (`Context.inStep_decision`), leaf by leaf.
-/

namespace Guardhouse

/-- Related bodies give the same answers, and stay related when both are given an order, or when
either is turned. Which way a body faces is not asked for. -/
structure Oblivious {N N' : Type} [Navigator N] [Navigator N'] (r : N → N' → Prop) : Prop where
  position : ∀ {n n'}, r n n' → Navigator.position n = Navigator.position n'
  destination : ∀ {n n'}, r n n' → Navigator.destination n = Navigator.destination n'
  hasReachedDestination : ∀ {n n'}, r n n' →
    Navigator.hasReachedDestination n = Navigator.hasReachedDestination n'
  setDestination : ∀ {n n'} (point : Vec3), r n n' →
    r (Navigator.setDestination n point) (Navigator.setDestination n' point)
  setSpeedMultiplier : ∀ {n n'} (multiplier : Float32), r n n' →
    r (Navigator.setSpeedMultiplier n multiplier) (Navigator.setSpeedMultiplier n' multiplier)
  rotate_left : ∀ {n n'} (degrees : Float32), r n n' → r (Navigator.rotateBy n degrees) n'
  rotate_right : ∀ {n n'} (degrees : Float32), r n n' → r n (Navigator.rotateBy n' degrees)

/-- Related referees stay related when both are told the same. -/
structure Heedful {R R' : Type} [Referee R] [Referee R'] (r : R → R' → Prop) : Prop where
  caught : ∀ {s s'}, r s s' → r (Referee.reportCaught s).1 (Referee.reportCaught s').1
  spotted : ∀ {s s'}, r s s' → r (Referee.reportSpotted s).1 (Referee.reportSpotted s').1

namespace Oblivious

variable {N N' : Type} [Navigator N] [Navigator N'] {r : N → N' → Prop} {n : N} {n' : N'}

/-- Each of the bodies may be turned or not. -/
theorem turn (h : Oblivious r) (hr : r n n') (b b' : Bool) (degrees degrees' : Float32) :
    r (if b then Navigator.rotateBy n degrees else n)
      (if b' then Navigator.rotateBy n' degrees' else n') := by
  have hleft : r (if b then Navigator.rotateBy n degrees else n) n' := by
    split
    · exact h.rotate_left degrees hr
    · exact hr
  cases b' with
  | true => exact h.rotate_right degrees' hleft
  | false => exact hleft

theorem headFor (h : Oblivious r) (hr : r n n') (destination : Option Vec3) :
    r (destination.elim n (Navigator.setDestination n))
      (destination.elim n' (Navigator.setDestination n')) := by
  cases destination with
  | none => exact hr
  | some destination => exact h.setDestination destination hr

end Oblivious

namespace Guard

/-- The memories differ at most in how the guard looks around. -/
def Memory.SameCourse (m m' : Memory) : Prop :=
  m' = { m with lookDirection := m'.lookDirection, lookRotation := m'.lookRotation }

theorem Memory.sameCourse_iff {m m' : Memory} :
    m.SameCourse m' ↔ ∃ direction rotation,
      m' = { m with lookDirection := direction, lookRotation := rotation } := by
  constructor
  · intro h
    exact ⟨_, _, h⟩
  · rintro ⟨direction, rotation, rfl⟩
    rfl

namespace Context

open Step (perform)

variable {P P' N N' R R' A : Type}

section Relation

variable (rp : P → P' → Prop) (rn : N → N' → Prop) (rr : R → R' → Prop)

/-- The contexts have tuning, route and the time that passes in common, their memories are on the
same course, and what they were given is related. Agents, ticks and seeds are arbitrary. -/
inductive SameCourse : Context P N R → Context P' N' R' → Prop
  | intro {c : Context P N R} {agent : UInt64} {direction rotation : Float32} {perception : P'}
      {navigator : N'} {referee : R'} {frame : Frame} {journal : Journal}
      (hperception : rp c.perception perception) (hnavigator : rn c.navigator navigator)
      (hreferee : rr c.referee referee) (hdt : c.frame.dt = frame.dt) :
      SameCourse c
        { agent
          config := c.config
          route := c.route
          memory := { c.memory with lookDirection := direction, lookRotation := rotation }
          perception
          navigator
          referee
          frame
          journal }

/-- `f` and `g` answer alike on the same course, and keep it. -/
abbrev InStep (f : Context P N R → A × Context P N R)
    (g : Context P' N' R' → A × Context P' N' R') : Prop :=
  Tracks (fun _ => False) (SameCourse rp rn rr) f g

end Relation

variable {rp : P → P' → Prop} {rn : N → N' → Prop} {rr : R → R' → Prop}
variable {c : Context P N R} {c' : Context P' N' R'}

/-- What contexts on the same course have in common, field by field. -/
theorem sameCourse_iff :
    SameCourse rp rn rr c c' ↔
      (c'.config = c.config ∧ c'.route = c.route ∧ c.memory.SameCourse c'.memory) ∧
        rp c.perception c'.perception ∧ rn c.navigator c'.navigator ∧ rr c.referee c'.referee ∧
          c.frame.dt = c'.frame.dt := by
  constructor
  · rintro ⟨hperception, hnavigator, hreferee, hdt⟩
    exact ⟨⟨rfl, rfl, rfl⟩, hperception, hnavigator, hreferee, hdt⟩
  · obtain ⟨agent, config, route, memory, perception, navigator, referee, frame, journal⟩ := c'
    rintro ⟨⟨hconfig, hroute, hmemory⟩, hperception, hnavigator, hreferee, hdt⟩
    obtain ⟨direction, rotation, hmemory⟩ := Memory.sameCourse_iff.1 hmemory
    cases hconfig
    cases hroute
    cases hmemory
    exact .intro hperception hnavigator hreferee hdt

theorem InStep.of {f : Context P N R → A × Context P N R}
    {g : Context P' N' R' → A × Context P' N' R'}
    (h : ∀ c c', SameCourse rp rn rr c c' →
      (f c).1 = (g c').1 ∧ SameCourse rp rn rr (f c).2 (g c').2) :
    InStep rp rn rr f g :=
  ⟨fun _ hc => hc, fun c c' hc => .inr (h c c' hc)⟩

/-! ### Asking -/

section Asking

variable [Perception P] [Perception P']

theorem inStep_askPosition (h : Mimics (fun _ => False) rp) :
    InStep rp rn rr askPosition askPosition := by
  apply InStep.of
  intro c c' hc
  obtain ⟨hperception, hnavigator, hreferee, hdt⟩ := hc
  obtain ⟨hanswer, hr⟩ := (h.position.step _ _ hperception).resolve_left id
  exact ⟨hanswer, .intro hr hnavigator hreferee hdt⟩

theorem inStep_perceive (h : Mimics (fun _ => False) rp) :
    InStep rp rn rr perceive perceive := by
  have hsees : InStep rp rn rr
      (fun c => ((Perception.canPerceiveTarget c.perception).1,
        { c with perception := (Perception.canPerceiveTarget c.perception).2 }))
      (fun c => ((Perception.canPerceiveTarget c.perception).1,
        { c with perception := (Perception.canPerceiveTarget c.perception).2 })) := by
    apply InStep.of
    intro c c' hc
    obtain ⟨hperception, hnavigator, hreferee, hdt⟩ := hc
    obtain ⟨hanswer, hr⟩ := (h.perceives.step _ _ hperception).resolve_left id
    exact ⟨hanswer, .intro hr hnavigator hreferee hdt⟩
  refine hsees.bind (k := fun seen c => if seen then c.askPosition else (none, c))
    (l := fun seen c => if seen then c.askPosition else (none, c)) fun seen => ?_
  cases seen with
  | true => exact inStep_askPosition h
  | false => exact InStep.of fun c c' hc => ⟨rfl, hc⟩

end Asking

/-! ### What the leaves are made of -/

namespace SameCourse

theorem startSearch (h : SameCourse rp rn rr c c') :
    SameCourse rp rn rr c.startSearch c'.startSearch := by
  obtain ⟨hperception, hnavigator, hreferee, hdt⟩ := h
  exact .intro hperception hnavigator hreferee hdt

theorem forget (h : SameCourse rp rn rr c c') : SameCourse rp rn rr c.forget c'.forget := by
  obtain ⟨hperception, hnavigator, hreferee, hdt⟩ := h
  exact .intro hperception hnavigator hreferee hdt

theorem forgetPursuit (h : SameCourse rp rn rr c c') :
    SameCourse rp rn rr c.forgetPursuit c'.forgetPursuit := by
  obtain ⟨hperception, hnavigator, hreferee, hdt⟩ := h
  exact .intro hperception hnavigator hreferee hdt

theorem refresh (h : SameCourse rp rn rr c c') (target : Option Vec3) :
    SameCourse rp rn rr { c with memory := c.memory.refresh c.config c.dt target }
      { c' with memory := c'.memory.refresh c'.config c'.dt target } := by
  obtain ⟨hperception, hnavigator, hreferee, hdt⟩ := h
  cases target with
  | some target => exact .intro hperception hnavigator hreferee hdt
  | none =>
    simp only [Memory.refresh, dt, ← hdt]
    exact .intro hperception hnavigator hreferee hdt

variable [Navigator N] [Navigator N']

theorem switch (hn : Oblivious rn) (h : SameCourse rp rn rr c c') (next : State) :
    SameCourse rp rn rr (c.switch next) (c'.switch next) := by
  obtain ⟨hperception, hnavigator, hreferee, hdt⟩ := h
  exact .intro hperception (hn.setSpeedMultiplier _ hnavigator) hreferee hdt

theorem headForSome (hn : Oblivious rn) (h : SameCourse rp rn rr c c') (destination : Option Vec3) :
    (Context.headForSome destination c).1 = (Context.headForSome destination c').1 ∧
      SameCourse rp rn rr (Context.headForSome destination c).2
        (Context.headForSome destination c').2 := by
  obtain ⟨hperception, hnavigator, hreferee, hdt⟩ := h
  cases destination with
  | none => exact ⟨rfl, .intro hperception hnavigator hreferee hdt⟩
  | some destination =>
    exact ⟨rfl, .intro hperception (hn.setDestination _ hnavigator) hreferee hdt⟩

theorem headForWaypoint (hn : Oblivious rn) (h : SameCourse rp rn rr c c') :
    SameCourse rp rn rr c.headForWaypoint c'.headForWaypoint := by
  obtain ⟨hperception, hnavigator, hreferee, hdt⟩ := h
  rw [headForWaypoint_eq, headForWaypoint_eq]
  exact .intro hperception (hn.headFor hnavigator _) hreferee hdt

theorem approach (hn : Oblivious rn) (h : SameCourse rp rn rr c c') (point : Vec3) :
    SameCourse rp rn rr (c.approach point) (c'.approach point) := by
  obtain ⟨hperception, hnavigator, hreferee, hdt⟩ := h
  unfold Context.approach
  simp only [← hn.destination hnavigator]
  split
  · exact .intro hperception hnavigator hreferee hdt
  · exact .intro hperception (hn.setDestination _ hnavigator) hreferee hdt

theorem arrived (hn : Oblivious rn) (h : SameCourse rp rn rr c c') : c.arrived = c'.arrived := by
  obtain ⟨-, hnavigator, -, -⟩ := h
  exact hn.hasReachedDestination hnavigator

theorem startReturn (hn : Oblivious rn) (h : SameCourse rp rn rr c c') :
    SameCourse rp rn rr c.startReturn c'.startReturn := by
  apply headForWaypoint hn
  obtain ⟨hperception, hnavigator, hreferee, hdt⟩ := h
  exact .intro hperception hnavigator hreferee hdt

/-- Here the guards turn, perhaps to different sides. -/
theorem lookAround (hn : Oblivious rn) (h : SameCourse rp rn rr c c') :
    SameCourse rp rn rr c.lookAround c'.lookAround := by
  obtain ⟨direction, rotation, hsweep⟩ := Memory.exists_sweep c.config c.dt c.memory
  obtain ⟨direction', rotation', hsweep'⟩ := Memory.exists_sweep c'.config c'.dt c'.memory
  rw [lookAround_eq, lookAround_eq, hsweep, hsweep']
  obtain ⟨hperception, hnavigator, hreferee, hdt⟩ := h
  exact .intro hperception (hn.turn hnavigator _ _ _ _) hreferee hdt

end SameCourse

/-! ### The leaves -/

section Leaves

theorem inStep_countDownSearch : InStep rp rn rr countDownSearch countDownSearch := by
  apply InStep.of
  intro c c' hc
  refine ⟨rfl, ?_⟩
  obtain ⟨hperception, hnavigator, hreferee, hdt⟩ := hc
  simp only [countDownSearch, dt, ← hdt]
  exact .intro hperception hnavigator hreferee hdt

theorem inStep_shouldReturn :
    InStep rp rn rr (fun c => (c.shouldReturn, c)) (fun c => (c.shouldReturn, c)) := by
  apply InStep.of
  intro c c' hc
  refine ⟨?_, hc⟩
  obtain ⟨⟩ := hc
  rfl

theorem inStep_travelToRoute : InStep rp rn rr travelToRoute travelToRoute := by
  apply InStep.of
  intro c c' hc
  obtain ⟨hperception, hnavigator, hreferee, hdt⟩ := hc
  exact ⟨rfl, .intro hperception hnavigator hreferee hdt⟩

section Reports

variable [Referee R] [Referee R']

theorem inStep_reportCaught (hr : Heedful rr) : InStep rp rn rr reportCaught reportCaught := by
  apply InStep.of
  intro c c' hc
  obtain ⟨hperception, hnavigator, hreferee, hdt⟩ := hc
  exact ⟨rfl, .intro hperception hnavigator (hr.caught hreferee) hdt⟩

theorem inStep_raiseAlert (hr : Heedful rr) : InStep rp rn rr raiseAlert raiseAlert := by
  unfold raiseAlert
  refine Tracks.ite ?_ (InStep.of fun c c' hc => ⟨rfl, hc⟩) (InStep.of fun c c' hc => ?_)
  · rintro c c' ⟨⟩
    exact Iff.rfl
  · obtain ⟨hperception, hnavigator, hreferee, hdt⟩ := hc
    exact ⟨rfl, .intro hperception hnavigator (hr.spotted hreferee) hdt⟩

end Reports

section Questions

variable [Perception P] [Perception P']

theorem inStep_shouldChase (h : Mimics (fun _ => False) rp) :
    InStep rp rn rr shouldChase shouldChase := by
  simp only [funext shouldChase_eq]
  refine (inStep_perceive h).bind (k := fun target c => (pursuing target c, c))
    (l := fun target c => (pursuing target c, c)) fun target => InStep.of fun c c' hc => ⟨?_, hc⟩
  obtain ⟨⟩ := hc
  rfl

theorem inStep_refreshChase (h : Mimics (fun _ => False) rp) :
    InStep rp rn rr (perform refreshChase) (perform refreshChase) := by
  unfold perform
  simp only [refreshChase_eq]
  refine (inStep_perceive h).bind
    (k := fun target (c : Context P N R) =>
      (Status.success, { c with memory := c.memory.refresh c.config c.dt target }))
    (l := fun target (c : Context P' N' R') =>
      (Status.success, { c with memory := c.memory.refresh c.config c.dt target }))
    fun target => ?_
  exact InStep.of fun c c' hc => ⟨rfl, hc.refresh target⟩

theorem inStep_shouldSearch (h : Mimics (fun _ => False) rp) :
    InStep rp rn rr shouldSearch shouldSearch := by
  simp only [funext shouldSearch_eq]
  refine Tracks.ite ?_ ?_ (InStep.of fun c c' hc => ⟨?_, hc⟩)
  · rintro c c' ⟨⟩
    exact Iff.rfl
  · refine (inStep_perceive h).bind (k := fun target c => (target.isNone || c.searching, c))
      (l := fun target c => (target.isNone || c.searching, c))
      fun target => InStep.of fun c c' hc => ⟨?_, hc⟩
    obtain ⟨⟩ := hc
    rfl
  · obtain ⟨⟩ := hc
    rfl

end Questions

variable [Navigator N] [Navigator N']

/-- Entering a state, whatever is done if the guard is in it already and if it is not. -/
theorem inStep_enter (hn : Oblivious rn) (next : State) {f g : Context P N R → Context P N R}
    {f' g' : Context P' N' R' → Context P' N' R'}
    (hf : ∀ {c c'}, SameCourse rp rn rr c c' → SameCourse rp rn rr (f c) (f' c'))
    (hg : ∀ {c c'}, SameCourse rp rn rr c c' → SameCourse rp rn rr (g c) (g' c')) :
    InStep rp rn rr (perform fun c => if c.memory.state = next then f c else g (c.switch next))
      (perform fun c => if c.memory.state = next then f' c else g' (c.switch next)) := by
  unfold perform
  simp only [apply_ite (Prod.mk Status.success)]
  refine Tracks.ite ?_ (InStep.of fun c c' hc => ⟨rfl, hf hc⟩) ?_
  · rintro c c' ⟨⟩
    exact Iff.rfl
  · exact InStep.of fun c c' hc => ⟨rfl, hg (hc.switch hn next)⟩

theorem inStep_searchLastKnownPosition (hn : Oblivious rn) :
    InStep rp rn rr searchLastKnownPosition searchLastKnownPosition := by
  have hpoint : InStep rp rn rr (fun c => (c.memory.lastKnownPosition, c))
      (fun c => (c.memory.lastKnownPosition, c)) := by
    refine InStep.of fun c c' hc => ⟨?_, hc⟩
    obtain ⟨⟩ := hc
    rfl
  simp only [funext searchLastKnownPosition_eq]
  refine hpoint.bind (k := searchAt) (l := searchAt) fun point => ?_
  unfold searchAt
  cases point with
  | none => exact InStep.of fun c c' hc => ⟨rfl, hc⟩
  | some point =>
    refine Tracks.ite ?_ ?_ ?_
    · intro c c' hc
      rw [(hc.approach hn point).arrived hn]
    · exact InStep.of fun c c' hc => ⟨rfl, (hc.approach hn point).lookAround hn⟩
    · exact InStep.of fun c c' hc => ⟨rfl, hc.approach hn point⟩

theorem inStep_reachedRoute (hn : Oblivious rn) :
    InStep rp rn rr (fun c => (c.reachedRoute, c)) (fun c => (c.reachedRoute, c)) := by
  refine InStep.of fun c c' hc => ⟨?_, hc⟩
  have harrived := hc.arrived hn
  simp only [reachedRoute, harrived]
  obtain ⟨⟩ := hc
  rfl

theorem inStep_followRoute (hn : Oblivious rn) : InStep rp rn rr followRoute followRoute := by
  unfold followRoute
  refine Tracks.ite ?_ (InStep.of fun c c' hc => ⟨rfl, hc⟩) ?_
  · rintro c c' ⟨⟩
    exact Iff.rfl
  refine Tracks.ite ?_ (InStep.of fun c c' hc => ⟨rfl, SameCourse.headForWaypoint hn ?_⟩) ?_
  · rintro c c' ⟨⟩
    exact Iff.rfl
  · obtain ⟨hperception, hnavigator, hreferee, hdt⟩ := hc
    exact .intro hperception (hn.setSpeedMultiplier _ hnavigator) hreferee hdt
  refine Tracks.ite ?_ (InStep.of fun c c' hc => ⟨rfl, SameCourse.headForWaypoint hn ?_⟩)
    (InStep.of fun c c' hc => ⟨rfl, hc⟩)
  · intro c c' hc
    rw [hc.arrived hn]
  · obtain ⟨hperception, hnavigator, hreferee, hdt⟩ := hc
    exact .intro hperception hnavigator hreferee hdt

variable [Perception P] [Perception P']

theorem inStep_inCatchRange (h : Mimics (fun _ => False) rp) (hn : Oblivious rn) :
    InStep rp rn rr inCatchRange inCatchRange := by
  simp only [funext inCatchRange_eq]
  refine (inStep_askPosition h).bind (k := fun target c => (inRangeOf target c, c))
    (l := fun target c => (inRangeOf target c, c)) fun target => InStep.of fun c c' hc => ⟨?_, hc⟩
  obtain ⟨-, hnavigator, -, -⟩ := hc
  cases target with
  | none => rfl
  | some target => simp only [inRangeOf, hn.position hnavigator]

theorem inStep_moveToTarget (h : Mimics (fun _ => False) rp) (hn : Oblivious rn) :
    InStep rp rn rr moveToTarget moveToTarget := by
  simp only [funext moveToTarget_eq]
  refine (inStep_perceive h).bind
    (k := fun target (c : Context P N R) => headForSome (target.or c.memory.lastKnownPosition) c)
    (l := fun target (c : Context P' N' R') => headForSome (target.or c.memory.lastKnownPosition) c)
    fun target => InStep.of fun c c' hc => ?_
  have hlead : c.memory.lastKnownPosition = c'.memory.lastKnownPosition := by
    obtain ⟨⟩ := hc
    rfl
  rw [← hlead]
  exact hc.headForSome hn _

end Leaves

/-- A decision keeps guards on the same course: chance decides how they look around, and nothing
else. -/
theorem inStep_decision [Perception P] [Perception P'] [Navigator N] [Navigator N'] [Referee R]
    [Referee R'] (hp : Mimics (fun _ => False) rp) (hn : Oblivious rn) (hr : Heedful rr) :
    InStep rp rn rr decision decision := by
  apply Conducts.decision
  constructor
  case inCatchRange => exact inStep_inCatchRange hp hn
  case reportCaught => exact inStep_reportCaught hr
  case shouldChase => exact inStep_shouldChase hp
  case refreshChase => exact inStep_refreshChase hp
  case enterChase =>
    rw [funext enterChase_eq, funext enterChase_eq]
    exact inStep_enter hn .chase id id
  case moveToTarget => exact inStep_moveToTarget hp hn
  case raiseAlert => exact inStep_raiseAlert hr
  case shouldSearch => exact inStep_shouldSearch hp
  case enterSearch =>
    rw [funext enterSearch_eq, funext enterSearch_eq]
    exact inStep_enter hn .search id SameCourse.startSearch
  case searchLastKnownPosition => exact inStep_searchLastKnownPosition hn
  case countDownSearch => exact inStep_countDownSearch
  case shouldReturn => exact inStep_shouldReturn
  case enterReturn =>
    rw [funext enterReturn_eq, funext enterReturn_eq]
    exact inStep_enter hn .returnToPatrol id (SameCourse.startReturn hn)
  case reachedRoute => exact inStep_reachedRoute hn
  case travelToRoute => exact inStep_travelToRoute
  case enterPatrol =>
    rw [funext enterPatrol_eq, funext enterPatrol_eq]
    exact inStep_enter hn .patrol SameCourse.forget SameCourse.forgetPursuit
  case followRoute => exact inStep_followRoute hn

end Context
end Guard
end Guardhouse
