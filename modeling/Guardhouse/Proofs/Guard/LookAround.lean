import Guardhouse.Proofs.Guard.Ranges

/-!
# Looking around

A guard that looks around turns until it comes to an end of its sweep, and reverses there. Whether
it has come to an end is decided by where it is, not by where it came from. So a guard that is at an
end already and gets nowhere, because the frame takes no time or because the step is too small to
change the rotation, is reversed once more, and turns outwards (`Guard.looks_outwards_after_pause`).
That is the only way in which a guard that searches can come to turn outwards
(`Guard.looks_inwards`).
-/

namespace Guardhouse
namespace Guard

open Single (IsNumber IsUnit value)

namespace Memory

/-- A guard at an end of its sweep turns back inwards next. -/
structure LooksInwards (config : Config) (m : Memory) : Prop where
  right : (m.lookRotation == config.lookAroundSweep) = true → m.lookDirection = -1
  left : (m.lookRotation == -config.lookAroundSweep) = true → m.lookDirection = 1

/-- The guard is at an end of its sweep. -/
def AtEnd (config : Config) (m : Memory) : Prop :=
  (m.lookRotation.abs == config.lookAroundSweep) = true

/-- The guard is at an end of its sweep, and looking around gets it nowhere. -/
structure Stalls (config : Config) (dt : Float32) (m : Memory) : Prop where
  atEnd : m.AtEnd config
  stays : (m.wanted config dt == m.lookRotation) = true

/-- The guard is where it was and turns the other way. -/
structure Flips (m m' : Memory) : Prop where
  rotation : (m'.lookRotation == m.lookRotation) = true
  direction : m'.lookDirection = -m.lookDirection

section Values

variable {config : Config} {dt : Float32} {m : Memory}

theorem InRange.isNumber (h : m.InRange config) : IsNumber m.lookRotation :=
  (Single.abs_le_iff.1 h.rotation).1

theorem InRange.isNumber_sweep (h : m.InRange config) : IsNumber config.lookAroundSweep :=
  (Single.abs_le_iff.1 h.rotation).2.1

theorem InRange.abs_le (h : m.InRange config) :
    |value m.lookRotation| ≤ value config.lookAroundSweep :=
  (Single.abs_le_iff.1 h.rotation).2.2

theorem InRange.atEnd_iff (h : m.InRange config) :
    m.AtEnd config ↔ |value m.lookRotation| = value config.lookAroundSweep := by
  obtain ⟨hnumber, hsweep, -⟩ := Single.abs_le_iff.1 h.rotation
  unfold AtEnd
  rw [Single.beq_iff_value, Single.value_abs hnumber]
  simp [hnumber.abs, hsweep]

theorem InRange.value_direction (h : m.InRange config) :
    value m.lookDirection = 1 ∨ value m.lookDirection = -1 := by
  rcases h.direction with hright | hleft
  · rw [hright, Single.value_one]
    exact .inl rfl
  · rw [hleft, Single.value_neg_one]
    exact .inr rfl

/-- Inwards is against the side of the end. -/
theorem InRange.looksInwards_iff (h : m.InRange config)
    (hpos : 0 < value config.lookAroundSweep) :
    m.LooksInwards config ↔
      (|value m.lookRotation| = value config.lookAroundSweep →
        value m.lookRotation = -(value config.lookAroundSweep * value m.lookDirection)) := by
  obtain ⟨hnumber, hsweep, -⟩ := Single.abs_le_iff.1 h.rotation
  have hright : (m.lookRotation == config.lookAroundSweep) = true ↔
      value m.lookRotation = value config.lookAroundSweep := by
    rw [Single.beq_iff_value]
    simp [hnumber, hsweep]
  have hleft : (m.lookRotation == -config.lookAroundSweep) = true ↔
      value m.lookRotation = -value config.lookAroundSweep := by
    rw [Single.beq_iff_value, Single.value_neg hsweep]
    simp [hnumber, hsweep.neg]
  constructor
  · intro hinwards hend
    rcases (abs_eq hpos.le).1 hend with hend | hend
    · rw [hinwards.right (hright.2 hend), Single.value_neg_one, mul_neg_one, neg_neg]
      exact hend
    · rw [hinwards.left (hleft.2 hend), Single.value_one, mul_one]
      exact hend
  · intro hinwards
    constructor
    case right =>
      intro hend
      rw [hright] at hend
      have hagainst := hinwards (by rw [hend, abs_of_pos hpos])
      refine h.direction.resolve_left fun hdirection => ?_
      rw [hdirection, Single.value_one] at hagainst
      linarith
    case left =>
      intro hend
      rw [hleft] at hend
      have hagainst := hinwards (by rw [hend, abs_neg, abs_of_pos hpos])
      refine h.direction.resolve_right fun hdirection => ?_
      rw [hdirection, Single.value_neg_one] at hagainst
      linarith

/-- A guard within its sweep has no end to turn back from. -/
theorem InRange.looksInwards_of_lt (h : m.InRange config)
    (hlt : |value m.lookRotation| < value config.lookAroundSweep) : m.LooksInwards config := by
  rw [h.looksInwards_iff ((abs_nonneg _).trans_lt hlt)]
  intro hend
  exact absurd hend hlt.ne

/-! ### One turn -/

/-- A guard does not turn back by itself. -/
theorem InRange.forward (h : m.InRange config) (hcheck : config.check = .ok ()) (hdt : 0 ≤ dt)
    (hdt' : dt.isFinite = true) :
    value m.lookRotation * value m.lookDirection ≤
      value (m.wanted config dt) * value m.lookDirection := by
  obtain ⟨-, hup, hdown⟩ := h.wanted hcheck hdt hdt'
  rcases h.direction with hright | hleft
  · have hle := hup hright
    rw [hright, Single.value_one]
    linarith
  · have hle := hdown hleft
    rw [hleft, Single.value_neg_one]
    linarith

/-- A guard that does not come to an end goes on as it was going. -/
theorem InRange.sweep_inside (h : m.InRange config) (hcheck : config.check = .ok ())
    (hdt : 0 ≤ dt) (hdt' : dt.isFinite = true)
    (hinside : ¬config.lookAroundSweep ≤ (m.wanted config dt).abs) :
    m.sweep config dt = { m with lookRotation := m.wanted config dt } ∧
      |value (m.sweep config dt).lookRotation| < value config.lookAroundSweep := by
  have hwanted := (h.wanted hcheck hdt hdt').1
  have heq : m.sweep config dt = { m with lookRotation := m.wanted config dt } := by
    rw [sweep_eq, if_neg hinside]
  refine ⟨heq, ?_⟩
  rw [heq, ← Single.value_abs hwanted]
  exact (Single.lt_iff_value.1 ((Single.not_le h.isNumber_sweep hwanted.abs).1 hinside)).2.2

/-- A guard that comes to an end reverses there. -/
theorem sweep_ended (hended : config.lookAroundSweep ≤ (m.wanted config dt).abs) :
    m.sweep config dt =
      { m with
        lookDirection := -m.lookDirection
        lookRotation := withSignOf config.lookAroundSweep (m.wanted config dt) } := by
  rw [sweep_eq, if_pos hended]

/-- A guard that reverses where it was going to looks inwards. -/
theorem InRange.value_withSignOf_onward (h : m.InRange config)
    (hpos : 0 < value config.lookAroundSweep)
    (honward : 0 < value (m.wanted config dt) * value m.lookDirection) :
    value (withSignOf config.lookAroundSweep (m.wanted config dt)) =
      -(value config.lookAroundSweep * value (-m.lookDirection)) := by
  have hsweep := h.isNumber_sweep
  rw [Single.value_neg (Single.isNumber_of_isFinite h.direction.isFinite)]
  rcases h.value_direction with hd | hd
  · rw [hd, mul_one] at honward
    rw [Single.value_withSignOf_of_pos hsweep honward, abs_of_pos hpos, hd]
    ring
  · rw [hd, mul_neg_one, neg_pos] at honward
    rw [Single.value_withSignOf_of_neg hsweep honward, abs_of_pos hpos, hd]
    ring

/-- Who has come to an end that is not ahead was there before. -/
theorem eq_of_not_onward {r w s d : ℚ} (hd : d = 1 ∨ d = -1) (hr : |r| ≤ s)
    (hforward : r * d ≤ w * d) (hfar : s ≤ |w|) (hback : ¬0 < w * d) : w = r ∧ r = -(s * d) := by
  obtain ⟨hlow, hhigh⟩ := abs_le.1 hr
  rcases hd with rfl | rfl
  · rw [mul_one, not_lt] at hback
    rw [abs_of_nonpos hback] at hfar
    constructor <;> linarith
  · rw [mul_neg_one, not_lt, neg_nonpos] at hback
    rw [abs_of_nonneg hback] at hfar
    constructor <;> linarith

/-- A guard that reverses at an end where it was stays there. -/
theorem InRange.withSignOf_stays (h : m.InRange config) (hpos : 0 < value config.lookAroundSweep)
    (hend : |value m.lookRotation| = value config.lookAroundSweep)
    (hstays : value (m.wanted config dt) = value m.lookRotation) :
    (withSignOf config.lookAroundSweep (m.wanted config dt) == m.lookRotation) = true := by
  have hsweep := h.isNumber_sweep
  have hsize : |value (m.wanted config dt)| = |value config.lookAroundSweep| := by
    rw [hstays, hend, abs_of_pos hpos]
  have hne : value (m.wanted config dt) ≠ 0 := by
    rw [← abs_pos, hsize, abs_of_pos hpos]
    exact hpos
  have hsame := Single.value_withSignOf_of_abs_eq hsweep hsize hne
  exact Single.beq_iff_value.2 ⟨hsweep.withSignOf _, h.isNumber, hsame.trans hstays⟩

/-- A guard that comes to an end that is not ahead was there, looked inwards, and is reversed. -/
theorem InRange.sweep_stalled (h : m.InRange config) (hcheck : config.check = .ok ())
    (hdt : 0 ≤ dt) (hdt' : dt.isFinite = true) (hpos : 0 < value config.lookAroundSweep)
    (hended : config.lookAroundSweep ≤ (m.wanted config dt).abs)
    (hback : ¬0 < value (m.wanted config dt) * value m.lookDirection) :
    m.LooksInwards config ∧ m.Stalls config dt ∧ m.Flips (m.sweep config dt) := by
  have hwanted := (h.wanted hcheck hdt hdt').1
  have hfar := (Single.le_iff_value.1 hended).2.2
  rw [Single.value_abs hwanted] at hfar
  obtain ⟨hstays, hagainst⟩ :=
    eq_of_not_onward h.value_direction h.abs_le (h.forward hcheck hdt hdt') hfar hback
  have hend : |value m.lookRotation| = value config.lookAroundSweep := by
    rw [hagainst, abs_neg, abs_mul, abs_of_pos hpos]
    rcases h.value_direction with hd | hd <;> simp [hd]
  refine ⟨(h.looksInwards_iff hpos).2 fun _ => hagainst, ⟨h.atEnd_iff.2 hend, ?_⟩, ?_⟩
  · exact Single.beq_iff_value.2 ⟨hwanted, h.isNumber, hstays⟩
  · rw [sweep_ended hended]
    exact ⟨h.withSignOf_stays hpos hend hstays, rfl⟩

/-- After a turn a guard looks inwards, unless it did before and got nowhere. -/
theorem InRange.sweep_inwards (h : m.InRange config) (hcheck : config.check = .ok ())
    (hdt : 0 ≤ dt) (hdt' : dt.isFinite = true) (hpos : 0 < value config.lookAroundSweep) :
    (m.sweep config dt).LooksInwards config ∨
      m.LooksInwards config ∧ m.Stalls config dt ∧ m.Flips (m.sweep config dt) := by
  have hswept := h.sweep hcheck hdt hdt'
  by_cases hended : config.lookAroundSweep ≤ (m.wanted config dt).abs
  · -- the end may lie ahead, or the guard has not left the one behind it
    by_cases honward : 0 < value (m.wanted config dt) * value m.lookDirection
    · left
      rw [hswept.looksInwards_iff hpos, sweep_ended hended]
      intro _
      exact h.value_withSignOf_onward hpos honward
    · exact .inr (h.sweep_stalled hcheck hdt hdt' hpos hended honward)
  · exact .inl (hswept.looksInwards_of_lt (h.sweep_inside hcheck hdt hdt' hended).2)

/-- Nobody reverses but at an end. -/
theorem InRange.direction_sweep (h : m.InRange config) (hcheck : config.check = .ok ())
    (hdt : 0 ≤ dt) (hdt' : dt.isFinite = true) :
    (m.sweep config dt).lookDirection = m.lookDirection ∨
      (m.sweep config dt).lookDirection = -m.lookDirection ∧ (m.sweep config dt).AtEnd config := by
  have hnonneg : 0 ≤ config.lookAroundSweep :=
    (Config.of_notNegative hcheck (f := .lookAroundSweep) (by decide)).2
  by_cases hended : config.lookAroundSweep ≤ (m.wanted config dt).abs
  · right
    rw [(h.sweep hcheck hdt hdt').atEnd_iff, sweep_ended hended]
    refine ⟨rfl, ?_⟩
    have hsize := Single.abs_value_withSignOf h.isNumber_sweep (m.wanted config dt)
    rwa [abs_of_nonneg (Single.zero_le_iff.1 hnonneg).2] at hsize
  · left
    rw [(h.sweep_inside hcheck hdt hdt' hended).1]

/-- In no time a guard turns nowhere. -/
theorem InRange.value_wanted_zero (h : m.InRange config) (hcheck : config.check = .ok ()) :
    value (m.wanted config 0) = value m.lookRotation := by
  obtain ⟨hspeed, -⟩ := Config.of_notNegative hcheck (f := .lookAroundSpeed) (by decide)
  have hzero : (0 : Float32).isFinite = true := by decide
  have hturn : value (config.lookAroundSpeed * 0) = 0 := by
    have hcuts := Single.cuts_mul hspeed hzero
    rw [Single.value_zero, mul_zero, rounded_zero] at hcuts
    exact (hcuts.isFinite (by rw [abs_zero]; exact Single.bound_pos)).2
  have hnumber : IsNumber (config.lookAroundSpeed * 0) := (Single.cuts_mul hspeed hzero).number
  obtain ⟨hstep, hvalue⟩ := Single.mul_unit hnumber h.direction
  rw [hturn, zero_mul] at hvalue
  obtain ⟨-, hup, hdown⟩ := Single.add_of_isFinite (h.isFinite_lookRotation hcheck) hstep
  exact le_antisymm (hdown hvalue.le) (hup hvalue.ge)

/-- In no time a guard turns nowhere, and reverses only if it is at an end. -/
theorem InRange.sweep_zero (h : m.InRange config) (hcheck : config.check = .ok ())
    (hpos : 0 < value config.lookAroundSweep) :
    ((m.sweep config 0).lookRotation == m.lookRotation) = true ∧
      (¬m.AtEnd config → (m.sweep config 0).lookDirection = m.lookDirection) := by
  have hzero : (0 : Float32) ≤ 0 := by decide
  have hwanted := (h.wanted hcheck hzero (by decide)).1
  have hstays := h.value_wanted_zero hcheck
  by_cases hended : config.lookAroundSweep ≤ (m.wanted config 0).abs
  · have hfar := (Single.le_iff_value.1 hended).2.2
    rw [Single.value_abs hwanted, hstays] at hfar
    have hend := le_antisymm h.abs_le hfar
    rw [sweep_ended hended]
    exact ⟨h.withSignOf_stays hpos hend hstays,
      fun hinside => absurd (h.atEnd_iff.2 hend) hinside⟩
  · rw [(h.sweep_inside hcheck hzero (by decide) hended).1]
    exact ⟨Single.beq_iff_value.2 ⟨hwanted, h.isNumber, hstays⟩, fun _ => rfl⟩

end Values

/-! ### One frame -/

/-- Two memories of guards that look the same way. -/
structure LooksLike (m m' : Memory) : Prop where
  rotation : m'.lookRotation = m.lookRotation
  direction : m'.lookDirection = m.lookDirection

section Frames

variable {N : Type} [Navigator N] {config : Config} {route : Array Vec3} {dt side : Float32}
  {m m' m'' : Memory}

theorem LooksLike.inwards (h : m.LooksLike m') (hm : m.LooksInwards config) :
    m'.LooksInwards config := by
  constructor
  case right =>
    rw [h.rotation, h.direction]
    exact hm.right
  case left =>
    rw [h.rotation, h.direction]
    exact hm.left

theorem LooksLike.flips (h : m'.LooksLike m'') (hm : m.Flips m') : m.Flips m'' where
  rotation := h.rotation ▸ hm.rotation
  direction := h.direction.trans hm.direction

/-- After a frame that ends in a search, a guard looks the way it did when it began to search or
went on with it, or it has turned once. -/
theorem Moves.looksLike (h : m.Moves N config route dt side m') (hstate : m'.state = .search) :
    (m.beginSearch config side).LooksLike m' ∨
      ((m.beginSearch config side).sweep config dt).LooksLike m' := by
  cases h with
  | caught =>
    left
    rw [beginSearch, if_pos hstate]
    exact ⟨rfl, rfl⟩
  | pursued => simp at hstate
  | sought body =>
    unfold seek searchAt
    dsimp only
    split
    · exact .inr ⟨rfl, rfl⟩
    · exact .inl ⟨rfl, rfl⟩
  | gaveUp => simp at hstate
  | patrolled => simp at hstate
  | dropped => simp at hstate

/-- A search begins away from the ends of the sweep. -/
theorem InRange.beginSearch_inwards (h : m.InRange config) (hcheck : config.check = .ok ())
    (hside : IsUnit side) (hpos : 0 < value config.lookAroundSweep) (hstate : m.state ≠ .search) :
    ¬(m.beginSearch config side).AtEnd config ∧
      (m.beginSearch config side).LooksInwards config := by
  have hbegun := h.beginSearch hcheck hside
  have hrotation : (m.beginSearch config side).lookRotation = 0 := by
    rw [Memory.beginSearch, if_neg hstate]
  have hlt : |value (m.beginSearch config side).lookRotation| < value config.lookAroundSweep := by
    rw [hrotation, Single.value_zero, abs_zero]
    exact hpos
  rw [hbegun.atEnd_iff]
  exact ⟨hlt.ne, hbegun.looksInwards_of_lt hlt⟩

/-- A guard that ends a frame in a search looks inwards, if it did before in a search, unless it has
been turned around where it was. -/
theorem Moves.inwards (h : m.Moves N config route dt side m') (hm : m.InRange config)
    (hcheck : config.check = .ok ()) (hdt : 0 ≤ dt) (hdt' : dt.isFinite = true)
    (hside : IsUnit side) (hpos : 0 < value config.lookAroundSweep)
    (hbefore : m.state = .search → m.LooksInwards config) (hafter : m'.state = .search) :
    m'.LooksInwards config ∨ m.state = .search ∧ m.Stalls config dt ∧ m.Flips m' := by
  have hbegun := hm.beginSearch hcheck hside
  by_cases hstate : m.state = .search
  · have hgoes : m.beginSearch config side = m := if_pos hstate
    have hlooks := h.looksLike hafter
    rw [hgoes] at hlooks
    rcases hlooks with hlooks | hlooks
    · exact .inl (hlooks.inwards (hbefore hstate))
    · rcases hm.sweep_inwards hcheck hdt hdt' hpos with hinwards | ⟨-, hstalls, hflips⟩
      · exact .inl (hlooks.inwards hinwards)
      · exact .inr ⟨hstate, hstalls, hlooks.flips hflips⟩
  · obtain ⟨hinside, hinwards⟩ := hm.beginSearch_inwards hcheck hside hpos hstate
    rcases h.looksLike hafter with hlooks | hlooks
    · exact .inl (hlooks.inwards hinwards)
    · rcases hbegun.sweep_inwards hcheck hdt hdt' hpos with hinwards | ⟨-, hstalls, -⟩
      · exact .inl (hlooks.inwards hinwards)
      · exact absurd hstalls.atEnd hinside

/-- In a frame of a search a guard reverses only at an end, and in a frame that takes no time it
does not turn. -/
theorem Moves.reverses (h : m.Moves N config route dt side m') (hm : m.InRange config)
    (hcheck : config.check = .ok ()) (hdt : 0 ≤ dt) (hdt' : dt.isFinite = true)
    (hpos : 0 < value config.lookAroundSweep) (hbefore : m.state = .search)
    (hafter : m'.state = .search) :
    (m'.lookDirection = m.lookDirection ∨
      m'.lookDirection = -m.lookDirection ∧ m'.AtEnd config) ∧
      (dt = 0 → (m'.lookRotation == m.lookRotation) = true ∧
        (¬m.AtEnd config → m'.lookDirection = m.lookDirection)) := by
  have hgoes : m.beginSearch config side = m := if_pos hbefore
  have hlooks := h.looksLike hafter
  rw [hgoes] at hlooks
  rcases hlooks with hlooks | hlooks
  · refine ⟨.inl hlooks.direction, fun _ => ⟨?_, fun _ => hlooks.direction⟩⟩
    rw [hlooks.rotation]
    exact Single.beq_iff_value.2 ⟨hm.isNumber, hm.isNumber, rfl⟩
  · unfold AtEnd
    rw [hlooks.rotation, hlooks.direction]
    refine ⟨hm.direction_sweep hcheck hdt hdt', ?_⟩
    rintro rfl
    exact hm.sweep_zero hcheck hpos

end Frames
end Memory

/-! ### Runs -/

variable {P N R T : Type} [Perception P] [Navigator N] [Referee R] [Trace.Sink T]
  {admits : Guard P N R T → Frame → Prop} {g : Guard P N R T}

/-- What a frame makes of a reachable guard. -/
theorem Reachable.exists_moves (h : Reachable admits g) (frame : Frame) :
    ∃ side, IsUnit side ∧ (g.context.begin frame).memory.InRange g.context.config ∧
      (g.context.begin frame).memory.Moves N g.context.config g.context.route frame.dt side
        (g.evaluate frame).guard.memory := by
  obtain ⟨e, hdoes, hmoves⟩ := h.sound.moves frame
  have hmemory : (g.evaluate frame).guard.memory = e.memory := hdoes.memory
  rw [hmemory]
  exact ⟨_, isUnit_sign _, h.inRange.passTime _, hmoves⟩

theorem Reachable.evaluate_inwards (h : Reachable admits g)
    (hsweep : 0 < g.context.config.lookAroundSweep)
    (hbefore : g.state = .search → g.memory.LooksInwards g.context.config) (frame : Frame)
    (hafter : (g.evaluate frame).guard.memory.state = .search) :
    (g.evaluate frame).guard.memory.LooksInwards g.context.config ∨
      g.state = .search ∧ g.memory.Stalls g.context.config frame.dt ∧
        g.memory.Flips (g.evaluate frame).guard.memory := by
  obtain ⟨side, hside, hrange, hmoves⟩ := h.exists_moves frame
  have hpos := (Single.lt_iff_value.1 hsweep).2.2
  rw [Single.value_zero] at hpos
  -- the time that has passed does not matter to where the guard looks
  have hbegun : (g.context.begin frame).memory.state = .search →
      (g.context.begin frame).memory.LooksInwards g.context.config :=
    fun hstate => ⟨(hbefore hstate).right, (hbefore hstate).left⟩
  rcases hmoves.inwards hrange h.check_config frame.zero_le_dt frame.isFinite_dt hside hpos hbegun
    hafter with hinwards | ⟨hstate, hstalls, hflips⟩
  · exact .inl hinwards
  · exact .inr ⟨hstate, ⟨hstalls.atEnd, hstalls.stays⟩, hflips.rotation, hflips.direction⟩

/-- As long as no frame of a search finds the guard at an end and gets it nowhere, it looks inwards
there. -/
theorem Reachable.looksInwards (h : Reachable admits g)
    (hmoving : ∀ g frame, admits g frame → g.state = .search →
      ¬g.memory.Stalls g.context.config frame.dt)
    (hsweep : 0 < g.context.config.lookAroundSweep) (hstate : g.state = .search) :
    g.memory.LooksInwards g.context.config := by
  induction h with
  | create h =>
    obtain ⟨-, rfl⟩ := create_eq_ok.1 h
    cases hstate
  | withAgent agent _ ih => exact ih hsweep hstate
  | withTrace trace _ ih => exact ih hsweep hstate
  | withDebug debug _ ih => exact ih hsweep hstate
  | mapPerception f _ ih => exact ih hsweep hstate
  | mapNavigator f _ ih => exact ih hsweep hstate
  | mapReferee f _ ih => exact ih hsweep hstate
  | @evaluate g frame h ha ih =>
    rw [h.sound.config_evaluate] at hsweep ⊢
    rcases h.evaluate_inwards hsweep (ih hsweep) frame hstate with
      hinwards | ⟨hsearch, hstalls, -⟩
    · exact hinwards
    · exact absurd hstalls (hmoving g frame ha hsearch)
  | reset _ _ => cases hstate

/-- A guard that looked inwards in its search, or was not searching, looks inwards after every frame
that ends in a search, unless it was at an end, the frame got it nowhere and it was turned around
all the same. So it always looks inwards if no frame is like that. In a search it reverses only
where it is at an end, and a frame that takes no time does not turn it, nor reverse it within its
sweep. -/
theorem looks_inwards (h : Reachable admits g) (hsweep : 0 < g.context.config.lookAroundSweep) :
    let config := g.context.config
    ((∀ g frame, admits g frame → g.state = .search →
        ¬g.memory.Stalls g.context.config frame.dt) →
      g.state = .search → g.memory.LooksInwards config) ∧
    ∀ frame,
      let after := (g.evaluate frame).guard.memory
      after.state = .search →
        ((g.state = .search → g.memory.LooksInwards config) →
          after.LooksInwards config ∨
            g.state = .search ∧ g.memory.Stalls config frame.dt ∧ g.memory.Flips after) ∧
        (g.state = .search →
          (after.lookDirection = g.memory.lookDirection ∨
            after.lookDirection = -g.memory.lookDirection ∧ after.AtEnd config) ∧
          (frame.dt = 0 → (after.lookRotation == g.memory.lookRotation) = true ∧
            (¬g.memory.AtEnd config → after.lookDirection = g.memory.lookDirection))) := by
  refine ⟨fun hmoving hstate => h.looksInwards hmoving hsweep hstate, fun frame => ?_⟩
  intro after hafter
  constructor
  · intro hbefore
    exact h.evaluate_inwards hsweep hbefore frame hafter
  · intro hstate
    obtain ⟨side, -, hrange, hmoves⟩ := h.exists_moves frame
    have hpos := (Single.lt_iff_value.1 hsweep).2.2
    rw [Single.value_zero] at hpos
    exact hmoves.reverses hrange h.check_config frame.zero_le_dt frame.isFinite_dt hpos hstate
      hafter

/-- A guard without patience loses its target where it has arrived, and comes to an end of its sweep
in its first frame there. -/
theorem looks_inwards_arrived :
    ∃ g : Guard Scene RecordingNavigator Tallies Trace,
      create { chasePersistence := 0 } #[] ⟨true, some ⟨0, 0, 20⟩⟩
          { position := .zero, reached := true } {} = .ok g ∧
        let lost := (g.evaluate ⟨1, 1, 7⟩).guard.mapPerception fun _ => ⟨false, none⟩
        let o := lost.evaluate ⟨2, 1, 7⟩
        0 < lost.context.config.lookAroundSweep ∧ o.state = .search ∧
          o.guard.memory.AtEnd lost.context.config ∧
          o.guard.memory.LooksInwards lost.context.config := by
  obtain ⟨g, hg⟩ : ∃ g : Guard Scene RecordingNavigator Tallies Trace,
      create { chasePersistence := 0 } #[] ⟨true, some ⟨0, 0, 20⟩⟩
          { position := .zero, reached := true } {} = .ok g :=
    ⟨_, create_eq_ok.2 ⟨by decide +kernel, rfl⟩⟩
  have hcreated : Reachable (fun _ _ => True) g := .create hg
  refine ⟨g, hg, ?_⟩
  intro lost o
  have hlost : Reachable (fun _ _ => True) lost := (hcreated.evaluate trivial).mapPerception _
  obtain ⟨hsweep, hchase, hsearch, hend⟩ : 0 < lost.context.config.lookAroundSweep ∧
      lost.state = .chase ∧ o.state = .search ∧ o.guard.memory.AtEnd lost.context.config := by
    obtain ⟨-, rfl⟩ := create_eq_ok.1 hg
    unfold Memory.AtEnd
    decide +kernel
  have hidle : lost.state ≠ .search := by
    rw [hchase]
    decide
  have hinwards := ((looks_inwards hlost hsweep).2 ⟨2, 1, 7⟩ hsearch).1 fun h => absurd h hidle
  exact ⟨hsweep, hsearch, hend, hinwards.resolve_right fun h => hidle h.1⟩

/-- The same guard, paused at the end of its sweep, is reversed once more and turns outwards. -/
theorem looks_outwards_after_pause :
    ∃ g : Guard Scene RecordingNavigator Tallies Trace,
      create { chasePersistence := 0 } #[] ⟨true, some ⟨0, 0, 20⟩⟩
          { position := .zero, reached := true } {} = .ok g ∧
        let lost := (g.evaluate ⟨1, 1, 7⟩).guard.mapPerception fun _ => ⟨false, none⟩
        let ended := (lost.evaluate ⟨2, 1, 7⟩).guard
        let o := ended.evaluate ⟨3, 0, 7⟩
        Reachable (fun _ _ => True) ended ∧ 0 < ended.context.config.lookAroundSweep ∧
          ended.memory.LooksInwards ended.context.config ∧ o.state = .search ∧
          o.guard.memory.lookDirection ≠ ended.memory.lookDirection ∧
          ¬o.guard.memory.LooksInwards ended.context.config := by
  obtain ⟨g, hg⟩ : ∃ g : Guard Scene RecordingNavigator Tallies Trace,
      create { chasePersistence := 0 } #[] ⟨true, some ⟨0, 0, 20⟩⟩
          { position := .zero, reached := true } {} = .ok g :=
    ⟨_, create_eq_ok.2 ⟨by decide +kernel, rfl⟩⟩
  have hcreated : Reachable (fun _ _ => True) g := .create hg
  refine ⟨g, hg, ?_⟩
  intro lost ended o
  have hlost : Reachable (fun _ _ => True) lost := (hcreated.evaluate trivial).mapPerception _
  obtain ⟨hsweep, hleft, hback, hsearch, hstays, hturned⟩ :
      0 < ended.context.config.lookAroundSweep ∧
        (ended.memory.lookRotation == -ended.context.config.lookAroundSweep) = true ∧
        ended.memory.lookDirection = 1 ∧ o.state = .search ∧
        (o.guard.memory.lookRotation == -ended.context.config.lookAroundSweep) = true ∧
        o.guard.memory.lookDirection = -1 := by
    obtain ⟨-, rfl⟩ := create_eq_ok.1 hg
    decide +kernel
  have hright : ¬(ended.memory.lookRotation == ended.context.config.lookAroundSweep) = true := by
    obtain ⟨-, rfl⟩ := create_eq_ok.1 hg
    decide +kernel
  have hne : (-1 : Float32) ≠ 1 := by decide
  refine ⟨hlost.evaluate trivial, hsweep, ⟨fun h => absurd h hright, fun _ => hback⟩, hsearch, ?_,
    fun h => hne ?_⟩
  · rw [hturned, hback]
    exact hne
  · rw [← hturned, h.left hstays]

end Guard
end Guardhouse
