import Guardhouse.Proofs.Guard.Moves
import Guardhouse.Proofs.Number.Sign

/-!
# Ranges of timers and of looking around

A timer stays between zero and what it starts from, and a guard that looks around stays within its
sweep, whatever its perception answers and however long its frames are (`Guard.ranges`). The product
that says how far it turns may well be infinite; it is still a number, so that comparing the new
rotation with the sweep does not fail.
-/

namespace Guardhouse
namespace Guard

open Single (IsNumber IsUnit value)

/-- A number that may not be negative is finite and is not. -/
theorem Config.of_notNegative {config : Config} (h : config.check = .ok ()) {f : Config.Field}
    (hf : (f, .notNegative) ∈ Config.rules) :
    (f.get config).isFinite = true ∧ 0 ≤ f.get config := by
  have hrule := Config.check_eq_ok.1 h _ hf
  simpa only [Rule.holds, Bool.and_eq_true, decide_eq_true_eq] using hrule

/-- A timer of a chase or a search between its start and its end. -/
def Timed (limit time : Float32) : Prop := 0 ≤ time ∧ time ≤ limit

namespace Timed

variable {limit time dt : Float32}

theorem zero (h : 0 ≤ limit) : Timed limit 0 := ⟨by decide, h⟩

theorem start (h : 0 ≤ limit) : Timed limit limit := by
  have hnumber := (Single.zero_le_iff.1 h).1
  exact ⟨h, Single.le_iff_value.2 ⟨hnumber, hnumber, le_rfl⟩⟩

theorem isFinite (h : Timed limit time) (hlimit : limit.isFinite = true) : time.isFinite = true :=
  Single.isFinite_of_le h.1 h.2 hlimit

theorem countDown (h : Timed limit time) (hlimit : limit.isFinite = true) (hdt : 0 ≤ dt)
    (hdt' : dt.isFinite = true) : Timed limit (atLeastZero (time - dt)) := by
  refine ⟨zero_le_atLeastZero _, ?_⟩
  unfold atLeastZero
  split
  · have hle := Single.sub_le (h.isFinite hlimit) hdt' hdt
    rw [Single.le_iff_value] at hle ⊢
    obtain ⟨-, hnumber, hlast⟩ := Single.le_iff_value.1 h.2
    exact ⟨hle.1, hnumber, hle.2.2.trans hlast⟩
  · exact (zero (Single.zero_le_iff.2 ⟨Single.isNumber_of_isFinite hlimit,
      (Single.zero_le_iff.1 h.1).2.trans (Single.le_iff_value.1 h.2).2.2⟩)).2

end Timed

namespace Memory

/-- The timers of a memory and which way the guard looks, within what the configuration allows. -/
structure InRange (config : Config) (m : Memory) : Prop where
  chaseTime : Timed config.chasePersistence m.chaseTimeRemaining
  searchTime : Timed config.searchDuration m.searchTimeRemaining
  rotation : m.lookRotation.abs ≤ config.lookAroundSweep
  direction : IsUnit m.lookDirection

/-- Where a guard that looks around for `dt` would turn if there were no end of the sweep. -/
def wanted (config : Config) (dt : Float32) (m : Memory) : Float32 :=
  m.lookRotation + config.lookAroundSpeed * dt * m.lookDirection

variable {config : Config} {dt side : Float32} {m m' : Memory}

theorem sweep_eq (config : Config) (dt : Float32) (m : Memory) :
    m.sweep config dt =
      if config.lookAroundSweep ≤ (m.wanted config dt).abs then
        { m with
          lookDirection := -m.lookDirection
          lookRotation := withSignOf config.lookAroundSweep (m.wanted config dt) }
      else { m with lookRotation := m.wanted config dt } := rfl

theorem abs_zero_le (h : 0 ≤ config.lookAroundSweep) :
    (0 : Float32).abs ≤ config.lookAroundSweep := by
  obtain ⟨hnumber, hpos⟩ := Single.zero_le_iff.1 h
  refine Single.abs_le_iff.2 ⟨Single.isNumber_zero, hnumber, ?_⟩
  rw [Single.value_zero, abs_zero]
  exact hpos

namespace InRange

theorem isFinite_lookRotation (h : m.InRange config) (hcheck : config.check = .ok ()) :
    m.lookRotation.isFinite = true :=
  Single.isFinite_of_abs_le h.rotation
    (Config.of_notNegative hcheck (f := .lookAroundSweep) (by decide)).1

/-- However long the frame is, the guard wants to turn somewhere, and not back. -/
theorem wanted (h : m.InRange config) (hcheck : config.check = .ok ()) (hdt : 0 ≤ dt)
    (hdt' : dt.isFinite = true) :
    IsNumber (m.wanted config dt) ∧
      (m.lookDirection = 1 → value m.lookRotation ≤ value (m.wanted config dt)) ∧
      (m.lookDirection = -1 → value (m.wanted config dt) ≤ value m.lookRotation) := by
  obtain ⟨hspeed, hspeed'⟩ := Config.of_notNegative hcheck (f := .lookAroundSpeed) (by decide)
  -- both are finite, so the product is a number even where it overflows
  have hturn : 0 ≤ config.lookAroundSpeed * dt :=
    Single.zero_le_mul hspeed' hdt (.inl hspeed) (.inl hdt')
  obtain ⟨hnumber, hpos⟩ := Single.zero_le_iff.1 hturn
  obtain ⟨hstep, hvalue⟩ := Single.mul_unit hnumber h.direction
  obtain ⟨hwanted, hup, hdown⟩ := Single.add_of_isFinite (h.isFinite_lookRotation hcheck) hstep
  refine ⟨hwanted, fun hdirection => hup ?_, fun hdirection => hdown ?_⟩
  · rw [hvalue, hdirection, Single.value_one, mul_one]
    exact hpos
  · rw [hvalue, hdirection, Single.value_neg_one, mul_neg_one]
    exact neg_nonpos.2 hpos

/-- Looking around ends at the end of the sweep. -/
theorem sweep (h : m.InRange config) (hcheck : config.check = .ok ()) (hdt : 0 ≤ dt)
    (hdt' : dt.isFinite = true) : (m.sweep config dt).InRange config := by
  obtain ⟨hsweep, hsweep'⟩ := Config.of_notNegative hcheck (f := .lookAroundSweep) (by decide)
  have hnumber := Single.isNumber_of_isFinite hsweep
  obtain ⟨hwanted, -, -⟩ := h.wanted hcheck hdt hdt'
  rw [sweep_eq]
  split
  · refine ⟨h.chaseTime, h.searchTime, ?_, h.direction.neg⟩
    have hsize := Single.abs_value_withSignOf hnumber (m.wanted config dt)
    rw [abs_of_nonneg (Single.zero_le_iff.1 hsweep').2] at hsize
    exact Single.abs_le_iff.2 ⟨hnumber.withSignOf _, hnumber, hsize.le⟩
  · next hinside =>
    refine ⟨h.chaseTime, h.searchTime, ?_, h.direction⟩
    exact Single.le_of_lt ((Single.not_le hnumber hwanted.abs).1 hinside)

theorem passTime (h : m.InRange config) (clock : Float) :
    { m with clock := clock }.InRange config :=
  ⟨h.chaseTime, h.searchTime, h.rotation, h.direction⟩

theorem enter (h : m.InRange config) (next : State) : (m.enter config next).InRange config := by
  obtain ⟨multiplier, henter⟩ := exists_enter config next m
  rw [henter]
  exact ⟨h.chaseTime, h.searchTime, h.rotation, h.direction⟩

/-- A guard that has not pursued anything yet. -/
theorem fresh (hcheck : config.check = .ok ()) (index : Nat) (clock : Float)
    (multiplier : Float32) :
    Memory.InRange config { patrolIndex := index, clock, speedMultiplier := multiplier } where
  chaseTime := .zero (Config.of_notNegative hcheck (f := .chasePersistence) (by decide)).2
  searchTime := .zero (Config.of_notNegative hcheck (f := .searchDuration) (by decide)).2
  rotation := abs_zero_le (Config.of_notNegative hcheck (f := .lookAroundSweep) (by decide)).2
  direction := .inl rfl

/-! ### Every branch keeps to the ranges -/

theorem pursue (h : m.InRange config) (hcheck : config.check = .ok ()) (hdt : 0 ≤ dt)
    (hdt' : dt.isFinite = true) (target sighted : Option Vec3) :
    (m.pursue config dt target sighted).memory.InRange config := by
  obtain ⟨hlimit, hlimit'⟩ := Config.of_notNegative hcheck (f := .chasePersistence) (by decide)
  obtain ⟨multiplier, hpursue⟩ := exists_pursue config dt target sighted m
  rw [hpursue]
  cases target with
  | some target => exact ⟨.start hlimit', h.searchTime, h.rotation, h.direction⟩
  | none =>
    exact ⟨h.chaseTime.countDown hlimit hdt hdt', h.searchTime, h.rotation, h.direction⟩

theorem beginSearch (h : m.InRange config) (hcheck : config.check = .ok ()) (hside : IsUnit side) :
    (m.beginSearch config side).InRange config := by
  have hduration := (Config.of_notNegative hcheck (f := .searchDuration) (by decide)).2
  have hsweep := (Config.of_notNegative hcheck (f := .lookAroundSweep) (by decide)).2
  unfold Memory.beginSearch
  split
  · exact h
  · exact ⟨(h.enter .search).chaseTime, .start hduration, abs_zero_le hsweep, hside⟩

theorem seek {N : Type} [Navigator N] (h : m.InRange config) (hcheck : config.check = .ok ())
    (hdt : 0 ≤ dt) (hdt' : dt.isFinite = true) (hside : IsUnit side) (body : N) (point : Vec3) :
    (m.seek config dt side body point).memory.InRange config := by
  have hduration := (Config.of_notNegative hcheck (f := .searchDuration) (by decide)).1
  have hbegin := h.beginSearch hcheck hside
  have hcount {m : Memory} (h : m.InRange config) :
      { m with searchTimeRemaining := atLeastZero (m.searchTimeRemaining - dt) }.InRange config :=
    ⟨h.chaseTime, h.searchTime.countDown hduration hdt hdt', h.rotation, h.direction⟩
  unfold Memory.seek Memory.searchAt
  dsimp only
  split
  · exact hcount (hbegin.sweep hcheck hdt hdt')
  · exact hcount hbegin

theorem patrol {N : Type} [Navigator N] (h : m.InRange config) (hcheck : config.check = .ok ())
    (route : Array Vec3) (body : N) : (m.patrol config route body).memory.InRange config := by
  have hbegin : (m.beginPatrol config).InRange config := by
    unfold Memory.beginPatrol
    split
    · exact ⟨h.chaseTime, h.searchTime, h.rotation, h.direction⟩
    · have hfresh := fresh hcheck 0 0 0
      exact ⟨hfresh.chaseTime, hfresh.searchTime, hfresh.rotation, (h.enter .patrol).direction⟩
  obtain ⟨index, issued, hfollow⟩ :=
    exists_followRoute config route (follow (m.paceFor config .patrol) body) (m.beginPatrol config)
  show ((m.beginPatrol config).followRoute config route _).memory.InRange config
  rw [hfollow]
  exact ⟨hbegin.chaseTime, hbegin.searchTime, hbegin.rotation, hbegin.direction⟩

/-- Whatever becomes of a memory in a frame. -/
theorem moves {N : Type} [Navigator N] {route : Array Vec3} (h : m.InRange config)
    (hcheck : config.check = .ok ()) (hdt : 0 ≤ dt) (hdt' : dt.isFinite = true)
    (hside : IsUnit side) (hmoves : m.Moves N config route dt side m') : m'.InRange config := by
  cases hmoves with
  | caught => exact ⟨h.chaseTime, h.searchTime, h.rotation, h.direction⟩
  | pursued target sighted => exact h.pursue hcheck hdt hdt' target sighted
  | sought body => exact h.seek hcheck hdt hdt' hside body _
  | gaveUp => exact h.enter .returnToPatrol
  | patrolled body => exact h.patrol hcheck route body
  | dropped target sighted body =>
    exact (h.pursue hcheck hdt hdt' target sighted).patrol hcheck route body

end InRange
end Memory

/-! ### Every guard -/

/-- Either side to which a search may begin. -/
theorem isUnit_sign (r : Random) : IsUnit r.sign.1 := by
  unfold Random.sign
  dsimp only
  split
  · exact .inl rfl
  · exact .inr rfl

variable {P N R T : Type} [Perception P] [Navigator N] [Referee R] [Trace.Sink T]
  {admits : Guard P N R T → Frame → Prop} {g : Guard P N R T}

theorem Reachable.check_config (h : Reachable admits g) : g.context.config.check = .ok () := by
  induction h with
  | create h =>
    obtain ⟨hcheck, rfl⟩ := create_eq_ok.1 h
    exact hcheck
  | withAgent agent _ ih => exact ih
  | withTrace trace _ ih => exact ih
  | withDebug debug _ ih => exact ih
  | mapPerception f _ ih => exact ih
  | mapNavigator f _ ih => exact ih
  | mapReferee f _ ih => exact ih
  | evaluate h _ ih =>
    rw [h.sound.config_evaluate]
    exact ih
  | reset _ ih => exact ih

theorem Reachable.inRange (h : Reachable admits g) : g.memory.InRange g.context.config := by
  induction h with
  | create h =>
    obtain ⟨hcheck, rfl⟩ := create_eq_ok.1 h
    exact .fresh hcheck 0 0 _
  | withAgent agent _ ih => exact ih
  | withTrace trace _ ih => exact ih
  | withDebug debug _ ih => exact ih
  | mapPerception f _ ih => exact ih
  | mapNavigator f _ ih => exact ih
  | mapReferee f _ ih => exact ih
  | @evaluate g frame h _ ih =>
    obtain ⟨e, hdoes, hmoves⟩ := h.sound.moves frame
    have hbegun : (g.context.begin frame).memory.InRange g.context.config := ih.passTime _
    show (g.evaluate frame).guard.context.memory.InRange (g.evaluate frame).guard.context.config
    rw [hdoes.memory, hdoes.config]
    exact hbegun.moves h.check_config frame.zero_le_dt frame.isFinite_dt (isUnit_sign _) hmoves
  | reset h _ => exact .fresh h.check_config _ _ _

/-- Whatever has happened to a guard, and however long its frames were: its timers are between zero
and what they start from, it looks no further to a side than its sweep, it turns one way or the
other, and all of these are finite. -/
theorem ranges (h : Reachable admits g) :
    g.memory.InRange g.context.config ∧
      g.memory.chaseTimeRemaining.isFinite = true ∧ g.memory.searchTimeRemaining.isFinite = true ∧
      g.memory.lookRotation.isFinite = true ∧ g.memory.lookDirection.isFinite = true := by
  have hcheck := h.check_config
  have hrange := h.inRange
  refine ⟨hrange, ?_, ?_, hrange.isFinite_lookRotation hcheck, hrange.direction.isFinite⟩
  · exact hrange.chaseTime.isFinite
      (Config.of_notNegative hcheck (f := .chasePersistence) (by decide)).1
  · exact hrange.searchTime.isFinite
      (Config.of_notNegative hcheck (f := .searchDuration) (by decide)).1

/-- A guard that has just seen its target. -/
theorem ranges_sighted :
    ∃ g : Guard Scene FixedNavigator Tallies Trace,
      create {} #[] ⟨true, some .zero⟩ ⟨⟨0, 0, 9⟩, none⟩ {} = .ok g ∧
        let m := (g.evaluate ⟨1, 0.5, 7⟩).guard.memory
        m.InRange (g.evaluate ⟨1, 0.5, 7⟩).guard.context.config ∧
          m.chaseTimeRemaining.isFinite = true ∧ m.searchTimeRemaining.isFinite = true ∧
          m.lookRotation.isFinite = true ∧ m.lookDirection.isFinite = true := by
  obtain ⟨g, hg⟩ : ∃ g : Guard Scene FixedNavigator Tallies Trace,
      create {} #[] ⟨true, some .zero⟩ ⟨⟨0, 0, 9⟩, none⟩ {} = .ok g :=
    ⟨_, create_eq_ok.2 ⟨by decide +kernel, rfl⟩⟩
  have hcreated : Reachable (fun _ _ => True) g := .create hg
  exact ⟨g, hg, ranges (hcreated.evaluate trivial)⟩

end Guard
end Guardhouse
