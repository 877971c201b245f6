import Guardhouse.Proofs.Guard.Decision

/-!
# What a guard learns from its perception

A guard knows its perception by the answers to its questions alone. Two perceptions that answer
alike (`Mimics`) make it act alike (`Context.agree_decision`), action by action: an action that
asks nothing does the same whatever the perception, and one that asks does the same after the same
answer.
-/

namespace Guardhouse

/-- `P'` answers as `P` does, until something bad happens. -/
structure Mimics {P P' : Type} [Perception P] [Perception P'] (bad : P → Prop) (r : P → P' → Prop) :
    Prop where
  perceives : Tracks bad r Perception.canPerceiveTarget Perception.canPerceiveTarget
  position : Tracks bad r Perception.targetPosition Perception.targetPosition

namespace Guard
namespace Context

open Step (ask perform)

variable {P P' N R A : Type}

/-- The context with another perception. -/
def withPerception (c : Context P N R) (perception : P') : Context P' N R :=
  { c with perception }

/-- Two contexts that differ in their perceptions, which are related. -/
def Alike (r : P → P' → Prop) (c : Context P N R) (c' : Context P' N R) : Prop :=
  ∃ p', c' = c.withPerception p' ∧ r c.perception p'

/-- `g` does with one perception what `f` does with another. -/
abbrev Agree (bad : P → Prop) (r : P → P' → Prop) (f : Context P N R → A × Context P N R)
    (g : Context P' N R → A × Context P' N R) : Prop :=
  Tracks (fun c => bad c.perception) (Alike r) f g

section Questions

variable {bad : P → Prop} {r : P → P' → Prop}

/-- What does not ask does the same with any perception. -/
theorem Agree.blind {f : Context P N R → A × Context P N R}
    {g : Context P' N R → A × Context P' N R} (hf : ∀ c, (f c).2.perception = c.perception)
    (h : ∀ c p', g (c.withPerception p') = ((f c).1, (f c).2.withPerception p')) :
    Agree bad r f g := by
  refine ⟨fun c hc => by rw [hf]; exact hc, ?_⟩
  rintro c _ ⟨p', rfl, hr⟩
  rw [h c p', hf]
  exact .inr ⟨rfl, p', rfl, by rw [hf]; exact hr⟩

theorem Agree.ite {f f' : Context P N R → A × Context P N R}
    {g g' : Context P' N R → A × Context P' N R} {b : Context P N R → Prop}
    {d : Context P' N R → Prop} [DecidablePred b] [DecidablePred d]
    (hb : ∀ c p', b c ↔ d (c.withPerception p')) (h : Agree bad r f g) (h' : Agree bad r f' g') :
    Agree bad r (fun c => if b c then f c else f' c) (fun c => if d c then g c else g' c) := by
  refine Tracks.ite ?_ h h'
  rintro c _ ⟨p', rfl, -⟩
  exact hb c p'

variable [Perception P] [Perception P']

theorem Mimics.askPosition (h : Mimics bad r) :
    Agree (N := N) (R := R) bad r Context.askPosition Context.askPosition := by
  refine ⟨fun c hc => h.position.stays _ hc, ?_⟩
  rintro c _ ⟨p', rfl, hr⟩
  rcases h.position.step _ _ hr with hbad | ⟨hanswer, hr⟩
  · exact .inl hbad
  · exact .inr ⟨hanswer, _, rfl, hr⟩

theorem Mimics.perceive (h : Mimics bad r) :
    Agree (N := N) (R := R) bad r Context.perceive Context.perceive := by
  have hsees : Agree (N := N) (R := R) bad r
      (fun c => ((Perception.canPerceiveTarget c.perception).1,
        { c with perception := (Perception.canPerceiveTarget c.perception).2 }))
      (fun c => ((Perception.canPerceiveTarget c.perception).1,
        { c with perception := (Perception.canPerceiveTarget c.perception).2 })) := by
    refine ⟨fun c hc => h.perceives.stays _ hc, ?_⟩
    rintro c _ ⟨p', rfl, hr⟩
    rcases h.perceives.step _ _ hr with hbad | ⟨hanswer, hr⟩
    · exact .inl hbad
    · exact .inr ⟨hanswer, _, rfl, hr⟩
  -- the second question is asked only after a yes to the first
  refine hsees.bind (k := fun seen c => if seen then c.askPosition else (none, c))
    (l := fun seen c => if seen then c.askPosition else (none, c)) fun seen => ?_
  cases seen with
  | true => exact Mimics.askPosition h
  | false => exact Agree.blind (fun _ => rfl) fun _ _ => rfl

end Questions

/-! ### The leaves -/

section Leaves

variable {bad : P → Prop} {r : P → P' → Prop}

theorem agree_reportCaught [Referee R] : Agree (N := N) (R := R) bad r reportCaught reportCaught :=
  .blind (fun _ => rfl) fun _ _ => rfl

theorem agree_raiseAlert [Referee R] : Agree (N := N) (R := R) bad r raiseAlert raiseAlert := by
  unfold raiseAlert
  refine .ite (fun _ _ => Iff.rfl) (.blind (fun _ => rfl) fun _ _ => rfl) ?_
  exact .blind (fun _ => rfl) fun _ _ => rfl

theorem agree_countDownSearch : Agree (N := N) (R := R) bad r countDownSearch countDownSearch :=
  .blind (fun _ => rfl) fun _ _ => rfl

variable [Navigator N]

theorem agree_enterChase :
    Agree (N := N) (R := R) bad r (perform enterChase) (perform enterChase) := by
  unfold perform
  simp only [enterChase_eq, apply_ite (Prod.mk Status.success)]
  refine .ite (fun _ _ => Iff.rfl) (.blind (fun _ => rfl) fun _ _ => rfl) ?_
  exact .blind (fun _ => rfl) fun _ _ => rfl

theorem agree_enterSearch :
    Agree (N := N) (R := R) bad r (perform enterSearch) (perform enterSearch) := by
  unfold perform
  simp only [enterSearch_eq, apply_ite (Prod.mk Status.success)]
  refine .ite (fun _ _ => Iff.rfl) (.blind (fun _ => rfl) fun _ _ => rfl) ?_
  exact .blind (fun _ => rfl) fun _ _ => rfl

theorem agree_enterReturn :
    Agree (N := N) (R := R) bad r (perform enterReturn) (perform enterReturn) := by
  unfold perform
  simp only [enterReturn_eq, startReturn, headForWaypoint_eq, apply_ite (Prod.mk Status.success)]
  refine .ite (fun _ _ => Iff.rfl) (.blind (fun _ => rfl) fun _ _ => rfl) ?_
  exact .blind (fun _ => rfl) fun _ _ => rfl

theorem agree_enterPatrol :
    Agree (N := N) (R := R) bad r (perform enterPatrol) (perform enterPatrol) := by
  unfold perform
  simp only [enterPatrol_eq, apply_ite (Prod.mk Status.success)]
  refine .ite (fun _ _ => Iff.rfl) (.blind (fun _ => rfl) fun _ _ => rfl) ?_
  exact .blind (fun _ => rfl) fun _ _ => rfl

theorem agree_searchLastKnownPosition :
    Agree (N := N) (R := R) bad r searchLastKnownPosition searchLastKnownPosition := by
  have hpoint : Agree (N := N) (R := R) bad r (fun c => (c.memory.lastKnownPosition, c))
      (fun c => (c.memory.lastKnownPosition, c)) := .blind (fun _ => rfl) fun _ _ => rfl
  simp only [funext searchLastKnownPosition_eq]
  refine hpoint.bind (k := searchAt) (l := searchAt) fun point => ?_
  unfold searchAt
  cases point with
  | none => exact Agree.blind (fun _ => rfl) fun _ _ => rfl
  | some point =>
    simp only [lookAround_eq]
    refine Agree.ite (fun _ _ => Iff.rfl) (.blind (fun _ => rfl) fun _ _ => rfl) ?_
    exact .blind (fun _ => rfl) fun _ _ => rfl

theorem agree_followRoute : Agree (N := N) (R := R) bad r followRoute followRoute := by
  unfold followRoute
  simp only [headForWaypoint_eq]
  refine .ite (fun _ _ => Iff.rfl) (.blind (fun _ => rfl) fun _ _ => rfl) ?_
  refine .ite (fun _ _ => Iff.rfl) (.blind (fun _ => rfl) fun _ _ => rfl) ?_
  refine .ite (fun _ _ => Iff.rfl) (.blind (fun _ => rfl) fun _ _ => rfl) ?_
  exact .blind (fun _ => rfl) fun _ _ => rfl

variable [Perception P] [Perception P']

theorem agree_inCatchRange (h : Mimics bad r) :
    Agree (N := N) (R := R) bad r inCatchRange inCatchRange := by
  simp only [funext inCatchRange_eq]
  refine (Mimics.askPosition h).bind (k := fun target c => (inRangeOf target c, c))
    (l := fun target c => (inRangeOf target c, c)) fun target => ?_
  exact Agree.blind (fun _ => rfl) fun _ _ => rfl

theorem agree_moveToTarget (h : Mimics bad r) :
    Agree (N := N) (R := R) bad r moveToTarget moveToTarget := by
  simp only [funext moveToTarget_eq]
  refine (Mimics.perceive h).bind
    (k := fun target (c : Context P N R) => headForSome (target.or c.memory.lastKnownPosition) c)
    (l := fun target (c : Context P' N R) => headForSome (target.or c.memory.lastKnownPosition) c)
    fun target => ?_
  have hknown : Agree (N := N) (R := R) bad r
      (fun c => (target.or c.memory.lastKnownPosition, c))
      (fun c => (target.or c.memory.lastKnownPosition, c)) := .blind (fun _ => rfl) fun _ _ => rfl
  refine hknown.bind (k := headForSome) (l := headForSome) fun destination => ?_
  cases destination <;> exact Agree.blind (fun _ => rfl) fun _ _ => rfl

omit [Navigator N] in
theorem agree_shouldChase (h : Mimics bad r) :
    Agree (N := N) (R := R) bad r shouldChase shouldChase := by
  simp only [funext shouldChase_eq]
  refine (Mimics.perceive h).bind (k := fun target c => (pursuing target c, c))
    (l := fun target c => (pursuing target c, c)) fun target => ?_
  exact Agree.blind (fun _ => rfl) fun _ _ => rfl

omit [Navigator N] in
theorem agree_refreshChase (h : Mimics bad r) :
    Agree (N := N) (R := R) bad r (perform refreshChase) (perform refreshChase) := by
  unfold perform
  simp only [refreshChase_eq]
  refine (Mimics.perceive h).bind
    (k := fun target (c : Context P N R) =>
      (Status.success, { c with memory := c.memory.refresh c.config c.dt target }))
    (l := fun target (c : Context P' N R) =>
      (Status.success, { c with memory := c.memory.refresh c.config c.dt target }))
    fun target => ?_
  exact Agree.blind (fun _ => rfl) fun _ _ => rfl

omit [Navigator N] in
theorem agree_shouldSearch (h : Mimics bad r) :
    Agree (N := N) (R := R) bad r shouldSearch shouldSearch := by
  simp only [funext shouldSearch_eq]
  refine Agree.ite (fun _ _ => Iff.rfl) ?_ (.blind (fun _ => rfl) fun _ _ => rfl)
  refine (Mimics.perceive h).bind (k := fun target c => (target.isNone || c.searching, c))
    (l := fun target c => (target.isNone || c.searching, c)) fun target => ?_
  exact Agree.blind (fun _ => rfl) fun _ _ => rfl

end Leaves

/-! ### The decision -/

/-- Guards whose perceptions answer alike act alike. -/
theorem agree_decision [Perception P] [Perception P'] [Navigator N] [Referee R] {bad : P → Prop}
    {r : P → P' → Prop} (h : Mimics bad r) : Agree (N := N) (R := R) bad r decision decision := by
  apply Conducts.decision
  constructor
  case inCatchRange => exact agree_inCatchRange h
  case reportCaught => exact agree_reportCaught
  case shouldChase => exact agree_shouldChase h
  case refreshChase => exact agree_refreshChase h
  case enterChase => exact agree_enterChase
  case moveToTarget => exact agree_moveToTarget h
  case raiseAlert => exact agree_raiseAlert
  case shouldSearch => exact agree_shouldSearch h
  case enterSearch => exact agree_enterSearch
  case searchLastKnownPosition => exact agree_searchLastKnownPosition
  case countDownSearch => exact agree_countDownSearch
  case shouldReturn => exact Agree.blind (fun _ => rfl) fun _ _ => rfl
  case enterReturn => exact agree_enterReturn
  case reachedRoute => exact Agree.blind (fun _ => rfl) fun _ _ => rfl
  case travelToRoute => exact Agree.blind (fun _ => rfl) fun _ _ => rfl
  case enterPatrol => exact agree_enterPatrol
  case followRoute => exact agree_followRoute

end Context
end Guard
end Guardhouse
