import Guardhouse.Proofs.Guard.Step

/-!
# The rules of a step

Five rules make up the step of a guard. `Memory.Ruled` has one constructor for each of them, with
all that is known when it applies and the effect that it has, so that what holds of a step is shown
rule by rule. It covers every step of a guard that knows where the target was whenever it is off
patrol (`Memory.Known.ruled_step`).
-/

namespace Guardhouse

/-- There is a target nearer to the body than the catch distance, perceived or not. -/
def Scene.InReach {N : Type} [Navigator N] (v : Scene) (config : Guard.Config) (body : N) : Prop :=
  ∃ target, v.target = some target ∧
    (Navigator.position body).distance target < config.catchDistance

namespace Guard

/-- Whether nothing is left of the way back to the route: the body has arrived, or there is no
route. -/
def backOnRoute {N : Type} [Navigator N] (route : Array Vec3) (body : N) : Bool :=
  route.isEmpty || Navigator.hasReachedDestination body

namespace Memory

section Rules

variable {N : Type} [Navigator N]

/-- The effects of a step. -/
inductive Ruled (agent : UInt64) (config : Config) (route : Array Vec3) (frame : Frame) (body : N)
    (v : Scene) (m : Memory) : Effect → Prop
  | caught (hreach : v.InReach config body) :
      Ruled agent config route frame body v m
        { memory := { m with caughtReports := m.caughtReports + 1 }, reports := [.caught] }
  | pursued (hfar : ¬v.InReach config body)
      (hchase : v.sighting.isSome = true ∨ m.state = .chase ∧ 0 < m.chaseTimeRemaining) :
      Ruled agent config route frame body v m
        (m.pursue config frame.dt v.sighting v.sighting)
  | sought (hfar : ¬v.InReach config body) (hunseen : v.sighting = none) {point : Vec3}
      (hknown : m.lastKnownPosition = some point)
      (hsearch : m.state = .chase ∧ ¬0 < m.chaseTimeRemaining ∨
        m.state = .search ∧ 0 < m.searchTimeRemaining) :
      Ruled agent config route frame body v m
        (m.seek config frame.dt (frame.random agent Context.lookAroundStream).sign.1 body point)
  | gaveUp (hfar : ¬v.InReach config body) (hunseen : v.sighting = none)
      (hreturn : m.state = .search ∧ ¬0 < m.searchTimeRemaining ∨
        m.state = .returnToPatrol ∧ backOnRoute route body = false) :
      Ruled agent config route frame body v m (m.giveUp config route)
  | patrolled (hfar : ¬v.InReach config body) (hunseen : v.sighting = none)
      (hpatrol : m.state = .patrol ∨
        m.state = .returnToPatrol ∧ backOnRoute route body = true) :
      Ruled agent config route frame body v m (m.patrol config route body)

/-- A step follows one of the rules. -/
theorem Known.ruled_step {m : Memory} (h : m.Known) (agent : UInt64) (config : Config)
    (route : Array Vec3) (frame : Frame) (body : N) (v : Scene) :
    m.Ruled agent config route frame body v (m.step agent config route frame body v) := by
  have hlost (hstate : m.state ≠ .patrol) : ∃ point, m.lastKnownPosition = some point :=
    Option.isSome_iff_exists.1 (h.2 hstate)
  unfold step
  split
  · next hreach =>
    rw [Option.any_eq_true] at hreach
    exact .caught (by simpa [Scene.InReach] using hreach)
  next hfar =>
  have hfar : ¬v.InReach config body := by
    rw [Option.any_eq_true] at hfar
    simpa [Scene.InReach] using hfar
  split
  · next hp =>
    exact .pursued hfar (by simpa using hp)
  next hp =>
  simp only [Bool.or_eq_true, Bool.and_eq_true, beq_iff_eq, decide_eq_true_eq, not_or, not_and,
    Option.not_isSome_iff_eq_none] at hp
  obtain ⟨hunseen, htimer⟩ := hp
  split
  · next point hl =>
    refine .sought hfar hunseen (lastKnownPosition_of_lead hl) ?_
    unfold lead? at hl
    split at hl
    · next hstate => exact hstate.imp_left fun hstate => ⟨hstate, htimer hstate⟩
    · cases hl
  next hl =>
  -- a guard off patrol knows where to search, so it has no lead only if it may not search any more
  have hidle : ¬(m.state = .chase ∨ m.state = .search ∧ 0 < m.searchTimeRemaining) := by
    intro hsearch
    obtain ⟨point, hpoint⟩ := hlost (by rcases hsearch with hs | ⟨hs, -⟩ <;> simp [hs])
    rw [lead?, if_pos hsearch, hpoint] at hl
    cases hl
  cases hstate : m.state with
  | patrol =>
    rw [if_neg (by simp [astray, hstate])]
    exact .patrolled hfar hunseen (.inl hstate)
  | chase => exact absurd (.inl hstate) hidle
  | search =>
    rw [if_pos (by simp [astray, hstate])]
    exact .gaveUp hfar hunseen (.inl ⟨hstate, fun htime => hidle (.inr ⟨hstate, htime⟩)⟩)
  | returnToPatrol =>
    have hastray : m.astray route body = !backOnRoute route body := by
      simp [astray, hstate, backOnRoute]
    rw [hastray]
    cases hback : backOnRoute route body with
    | false => exact .gaveUp hfar hunseen (.inr ⟨hstate, hback⟩)
    | true => exact .patrolled hfar hunseen (.inr ⟨hstate, hback⟩)

end Rules

/-! ### The state that a rule leads to -/

section States

variable (config : Config) (dt : Float32) (m : Memory)

@[simp] theorem state_enter (next : State) : (m.enter config next).state = next := by
  unfold enter
  split
  · assumption
  · rfl

@[simp] theorem state_pursue (target sighted : Option Vec3) :
    (m.pursue config dt target sighted).memory.state = .chase := by
  obtain ⟨multiplier, hpursue⟩ := exists_pursue config dt target sighted m
  rw [hpursue]

variable {N : Type} [Navigator N]

@[simp] theorem state_seek (side : Float32) (body : N) (point : Vec3) :
    (m.seek config dt side body point).memory.state = .search := by
  obtain ⟨multiplier, time, direction, rotation, hseek⟩ :=
    exists_seek config dt side body point m
  rw [hseek]

@[simp] theorem state_giveUp (route : Array Vec3) :
    (m.giveUp config route).memory.state = .returnToPatrol :=
  m.state_enter config .returnToPatrol

@[simp] theorem state_beginPatrol : (m.beginPatrol config).state = .patrol := by
  unfold beginPatrol
  split
  · assumption
  · exact m.state_enter config .patrol

@[simp] theorem state_patrol (route : Array Vec3) (body : N) :
    (m.patrol config route body).memory.state = .patrol := by
  obtain ⟨index, issued, hfollow⟩ :=
    exists_followRoute config route (follow (m.paceFor config .patrol) body) (m.beginPatrol config)
  show ((m.beginPatrol config).followRoute config route _).memory.state = _
  rw [hfollow]
  exact m.state_beginPatrol config

end States

end Memory
end Guard
end Guardhouse
