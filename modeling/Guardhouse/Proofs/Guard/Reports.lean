import Guardhouse.Proofs.Guard.Rounds

/-!
# Reports

A guard reports to its referee in rounds of two kinds: where it catches its target, and where it
begins a pursuit on patrol. `Minuted` is a referee that takes minutes, so that the reports of a
round can be told apart. However often a pursuit loses its target and finds it again, the guard
reports it once (`Guard.alert_per_pursuit`).
-/

namespace Guardhouse

/-- A referee with the reports that it was given, the last one at the end. It journals nothing of
its own, so the journal of its guard holds what the guard writes. -/
structure Minuted (R : Type) where
  referee : R
  minutes : List Guard.Report := []

namespace Minuted

variable {R : Type} [Referee R]

def note (m : Minuted R) (report : Guard.Report) : Minuted R :=
  ⟨report.deliver m.referee, m.minutes ++ [report]⟩

instance : Referee (Minuted R) where
  reportCaught m := (m.note .caught, #[])
  reportSpotted m := (m.note .spotted, #[])

theorem deliver_eq_note (m : Minuted R) (report : Guard.Report) :
    report.deliver m = m.note report := by
  cases report <;> rfl

theorem foldl_deliver (reports : List Guard.Report) (m : Minuted R) :
    reports.foldl Guard.Report.deliver m =
      ⟨reports.foldl Guard.Report.deliver m.referee, m.minutes ++ reports⟩ := by
  induction reports generalizing m with
  | nil => rw [List.append_nil]; rfl
  | cons report reports ih =>
    rw [List.foldl_cons, deliver_eq_note, ih, note, List.append_assoc]
    rfl

end Minuted

namespace Guard

/-! ### The reports of a step -/

namespace Memory

section Fields

variable {N : Type} [Navigator N] (config : Config) (dt : Float32) (m : Memory)

@[simp] theorem caughtReports_pursue (target sighted : Option Vec3) :
    (m.pursue config dt target sighted).memory.caughtReports = m.caughtReports := by
  obtain ⟨multiplier, hpursue⟩ := exists_pursue config dt target sighted m
  rw [hpursue]
  cases target <;> rfl

@[simp] theorem caughtReports_seek (side : Float32) (body : N) (point : Vec3) :
    (m.seek config dt side body point).memory.caughtReports = m.caughtReports := by
  obtain ⟨multiplier, time, direction, rotation, hseek⟩ :=
    exists_seek config dt side body point m
  rw [hseek]

@[simp] theorem caughtReports_enter (next : State) :
    (m.enter config next).caughtReports = m.caughtReports := by
  obtain ⟨multiplier, henter⟩ := exists_enter config next m
  rw [henter]

@[simp] theorem caughtReports_patrol (route : Array Vec3) (body : N) :
    (m.patrol config route body).memory.caughtReports = m.caughtReports := by
  have hbegin : (m.beginPatrol config).caughtReports = m.caughtReports := by
    unfold beginPatrol
    split
    · rfl
    · exact m.caughtReports_enter config .patrol
  obtain ⟨index, issued, hfollow⟩ :=
    exists_followRoute config route (follow (m.paceFor config .patrol) body) (m.beginPatrol config)
  show ((m.beginPatrol config).followRoute config route _).memory.caughtReports = _
  rw [hfollow]
  exact hbegin

@[simp] theorem reports_seek (side : Float32) (body : N) (point : Vec3) :
    (m.seek config dt side body point).reports = [] := by
  unfold seek searchAt
  dsimp only
  split <;> rfl

@[simp] theorem reports_patrol (route : Array Vec3) (body : N) :
    (m.patrol config route body).reports = [] := by
  unfold patrol followRoute
  dsimp only
  split
  · rfl
  split
  · rfl
  split <;> rfl

end Fields

/-- A step either catches and does nothing else that shows, or reports nothing but the beginning of
a pursuit on patrol. -/
theorem Ruled.notice {N : Type} [Navigator N] {agent : UInt64} {config : Config}
    {route : Array Vec3} {frame : Frame} {body : N} {v : Scene} {m : Memory} {e : Effect}
    (h : m.Ruled agent config route frame body v e)
    (halert : m.alertRaised = true ↔ m.state ≠ .patrol) :
    (e.memory.state = m.state ∧ e.memory.caughtReports = m.caughtReports + 1 ∧
        e.reports = [.caught]) ∨
      e.memory.caughtReports = m.caughtReports ∧
        e.reports = if m.state = .patrol ∧ e.memory.state = .chase then [.spotted] else [] := by
  cases h with
  | caught => exact .inl ⟨rfl, rfl, rfl⟩
  | pursued =>
    refine .inr ⟨m.caughtReports_pursue .., ?_⟩
    -- the alert is still to be raised on patrol, and only there
    show (if m.alertRaised then [] else [Report.spotted]) = _
    by_cases hpatrol : m.state = .patrol <;> simp [halert, hpatrol]
  | sought => exact .inr ⟨m.caughtReports_seek .., by simp⟩
  | gaveUp => exact .inr ⟨m.caughtReports_enter .., by simp [giveUp]⟩
  | patrolled => exact .inr ⟨m.caughtReports_patrol .., by simp⟩

end Memory

/-! ### The reports of a run -/

section Running

variable {P N R T : Type} [Perception P] [Navigator N] [Referee R] [Trace.Sink T]

namespace Round

/-- The reports of the guard in this round. -/
def reports (r : Round P N (Minuted R) T) : List Report :=
  r.after.context.referee.minutes.drop r.guard.context.referee.minutes.length

/-- In a round a guard either catches its target and stays in its state, or reports nothing but the
beginning of a pursuit. -/
theorem notice {r : Round P N (Minuted R) T} {v : Scene} (h : Reachable Steady r.guard)
    (hv : r.Sees v) :
    r.after.context.referee.minutes = r.guard.context.referee.minutes ++ r.reports ∧
      ((r.state = r.guard.state ∧
          r.after.memory.caughtReports = r.guard.memory.caughtReports + 1 ∧
          r.reports = [.caught]) ∨
        r.after.memory.caughtReports = r.guard.memory.caughtReports ∧
          r.reports = if r.guard.state = .patrol ∧ r.state = .chase then [.spotted] else []) := by
  obtain ⟨e, hruled, hdoes⟩ := exists_does h hv
  have hminutes : r.after.context.referee.minutes =
      r.guard.context.referee.minutes ++ e.reports := by
    rw [hdoes.referee, Minuted.foldl_deliver]
    rfl
  have hreports : r.reports = e.reports := by
    unfold reports
    rw [hminutes, List.drop_left]
  have hmemory : r.after.memory = e.memory := hdoes.memory
  have hstate : r.state = e.memory.state := congrArg Memory.state hdoes.memory
  rw [hreports, hmemory, hstate]
  exact ⟨hminutes, hruled.notice h.sound.context.memory.alert⟩

end Round

/-- In a run in which no answer changes within a frame, a guard reports that it has spotted its
target in the rounds that take it from patrol to chase, once in each of them, and in no other round.
So there are as many of these reports in the run as there are such rounds. -/
theorem alert_per_pursuit {rounds : List (Round P N (Minuted R) T)} (h : IsRun rounds) :
    (∀ r ∈ rounds,
        r.after.context.referee.minutes = r.guard.context.referee.minutes ++ r.reports ∧
        r.reports.count .spotted =
          if r.guard.state = .patrol ∧ r.state = .chase then 1 else 0) ∧
      (rounds.flatMap Round.reports).count .spotted =
        rounds.countP fun r => r.guard.state = .patrol ∧ r.state = .chase := by
  have hround : ∀ r ∈ rounds,
      r.after.context.referee.minutes = r.guard.context.referee.minutes ++ r.reports ∧
      r.reports.count .spotted = if r.guard.state = .patrol ∧ r.state = .chase then 1 else 0 := by
    intro r hr
    obtain ⟨v, hv⟩ := h.steady r hr
    obtain ⟨hminutes, hnotice⟩ := Round.notice (h.reachable_of_mem r hr) hv
    refine ⟨hminutes, ?_⟩
    rcases hnotice with ⟨hstay, -, hreports⟩ | ⟨-, hreports⟩
    · -- a catch changes no state
      have hnot : ¬(r.guard.state = .patrol ∧ r.state = .chase) := by
        rintro ⟨hpatrol, hchase⟩
        rw [hstay, hpatrol] at hchase
        cases hchase
      rw [hreports, if_neg hnot]
      rfl
    · rw [hreports]
      split <;> rfl
  have hcount : ∀ r ∈ rounds, r.reports.countP (· == .spotted) =
      [r].countP fun r => r.guard.state = .patrol ∧ r.state = .chase := by
    intro r hr
    simp only [List.countP_singleton, decide_eq_true_eq]
    exact (hround r hr).2
  have hsum := countP_flatMap_congr hcount
  rw [List.flatMap_singleton'] at hsum
  exact ⟨hround, hsum⟩

/-- A guard without patience: it chases, loses its target and finds it again, catches it, loses it
for good, patrols, and chases once more. -/
theorem alert_per_pursuit_twice :
    ∃ g : Guard Scene FixedNavigator (Minuted Tallies) Trace,
      create { chasePersistence := 0, searchDuration := 0 } #[] ⟨false, none⟩ ⟨⟨0, 0, 9⟩, none⟩
          ⟨{}, []⟩ = .ok g ∧
        ∃ film, IsRun (g.play film) ∧
          (g.play film).map Round.state =
            [.chase, .search, .chase, .chase, .search, .returnToPatrol, .patrol, .chase] ∧
          ((g.play film).flatMap Round.reports).count .spotted = 2 := by
  obtain ⟨g, hg⟩ : ∃ g : Guard Scene FixedNavigator (Minuted Tallies) Trace,
      create { chasePersistence := 0, searchDuration := 0 } #[] ⟨false, none⟩ ⟨⟨0, 0, 9⟩, none⟩
          ⟨{}, []⟩ = .ok g :=
    ⟨_, create_eq_ok.2 ⟨by decide +kernel, rfl⟩⟩
  let seen : Scene × Frame := (⟨true, some .zero⟩, ⟨1, 0.5, 7⟩)
  let near : Scene × Frame := (⟨true, some ⟨0, 0, 8⟩⟩, ⟨1, 0.5, 7⟩)
  let lost : Scene × Frame := (⟨false, none⟩, ⟨1, 0.5, 7⟩)
  have hrun : IsRun (g.play [seen, lost, seen, near, lost, lost, lost, seen]) :=
    isRun_play (.create hg) _
  refine ⟨g, hg, _, hrun, ?_, (alert_per_pursuit hrun).2.trans ?_⟩
  all_goals
    obtain ⟨-, rfl⟩ := create_eq_ok.1 hg
    decide +kernel

end Running

end Guard
end Guardhouse
