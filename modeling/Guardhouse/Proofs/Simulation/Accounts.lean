import Guardhouse.Proofs.Simulation.Rounds

/-!
# The books of a simulation

A frame is counted in four places: the summary counts it and the state that it reports, the referee
counts what was reported to it, the guard remembers its catches, and the trace keeps the events. They
are brought up to date at different points of a step and still agree after every one of them
(`Simulation.accounts_agree`): a frame in which the guard catches its target changes no state, and a
pursuit is reported in just those frames that take the guard from patrol to chase.
-/

namespace Guardhouse

namespace Simulation

variable {w : Simulation} {s : Scenario} {seed : UInt64} {dt : Float32} {steps : List Step}

/-! ### Frames -/

namespace Summary

/-- The frames that reported a state. -/
def ticksIn (s : Summary) : Guard.State → UInt64
  | .patrol => s.patrolTicks
  | .chase => s.chaseTicks
  | .search => s.searchTicks
  | .returnToPatrol => s.returnTicks

theorem ticksIn_record (s : Summary) (previous : Option Guard.State) (state q : Guard.State) :
    (s.record previous state).ticksIn q = s.ticksIn q + if state = q then 1 else 0 := by
  unfold record
  split <;> cases state <;> cases q <;> simp [ticksIn, countTick]

end Summary

/-- The number of steps that report a state. -/
def countIn (steps : List Step) (q : Guard.State) : Nat := steps.countP (·.state = q)

/-- Every step reports one of the four states. -/
theorem length_eq_countIn (steps : List Step) :
    steps.length = countIn steps .patrol + countIn steps .chase + countIn steps .search +
      countIn steps .returnToPatrol := by
  induction steps with
  | nil => rfl
  | cons step steps ih =>
    unfold countIn at ih ⊢
    simp only [List.length_cons, List.countP_cons, ih]
    cases step.state <;> simp <;> omega

theorem countIn_le_length (steps : List Step) (q : Guard.State) : countIn steps q ≤ steps.length :=
  List.countP_le_length

/-- The frame and the summary count the steps, and the summary those in each state. -/
structure Counted (steps : List Step) (w : Simulation) : Prop where
  tick : w.frame.tick = .ofNat steps.length
  ticks : w.summary.ticks = .ofNat steps.length
  states : ∀ q, w.summary.ticksIn q = .ofNat (countIn steps q)

theorem Counted.step (h : w.Counted steps) :
    w.step.simulation.Counted (steps ++ [w.step.step]) := by
  have hlength : UInt64.ofNat (steps ++ [w.step.step]).length = .ofNat steps.length + 1 := by
    rw [List.length_append, UInt64.ofNat_add]
    rfl
  refine ⟨?tick, ?ticks, fun q => ?states⟩
  case tick =>
    rw [hlength, ← h.tick]
    rfl
  case ticks =>
    rw [hlength, ← h.ticks]
    exact w.summary.ticks_record w.last w.step.step.state
  case states =>
    have hrecord := w.summary.ticksIn_record w.last w.step.step.state q
    have hcount : countIn (steps ++ [w.step.step]) q =
        countIn steps q + if w.step.step.state = q then 1 else 0 := by
      simp [countIn, List.countP_singleton]
    show (w.summary.record w.last w.step.step.state).ticksIn q = _
    rw [hrecord, h.states, hcount, UInt64.ofNat_add]
    split <;> rfl

theorem Counted.run (h : w.Counted []) (n : Nat) : (w.run n).Counted (w.steps n) := by
  induction n with
  | zero => exact h
  | succ n ih =>
    rw [run_succ, steps_succ]
    exact ih.step

/-! ### Reports -/

/-- What the referee has counted. -/
def tallies (w : Simulation) : Tallies := w.guard.context.referee.tallies

/-- The guard begins a pursuit on patrol in the next step. -/
abbrev Spots (w : Simulation) : Prop := w.guard.state = .patrol ∧ w.step.step.state = .chase

/-- Every step follows one of the rules, and tells the referee of it. -/
theorem Reachable.exists_ruled (h : w.Reachable) :
    ∃ e, w.round.memory.Ruled w.guard.context.agent w.guard.context.config w.guard.context.route
        w.frame w.guard.context.navigator w.scene e ∧
      w.step.step.state = e.memory.state ∧
      w.step.simulation.guard.memory = e.memory ∧
      w.step.simulation.tallies =
        (e.reports.foldl Guard.Report.deliver w.guard.context.referee).tallies := by
  obtain ⟨e, hruled, hdoes⟩ := h.exists_does
  exact ⟨e, hruled, congrArg Guard.Memory.state hdoes.memory, hdoes.memory,
    congrArg Announcer.tallies hdoes.referee⟩

/-- In a step the guard either catches its target and stays in its state, or reports nothing but the
beginning of a pursuit. -/
theorem Reachable.notice (h : w.Reachable) :
    (w.step.step.state = w.guard.state ∧
        w.step.simulation.guard.memory.caughtReports = w.guard.memory.caughtReports + 1 ∧
        w.step.simulation.tallies = { w.tallies with caught := w.tallies.caught + 1 }) ∨
      w.step.simulation.guard.memory.caughtReports = w.guard.memory.caughtReports ∧
        w.step.simulation.tallies =
          { w.tallies with spotted := w.tallies.spotted + if w.Spots then 1 else 0 } := by
  obtain ⟨e, hruled, hstate, hmemory, htallies⟩ := h.exists_ruled
  rw [hmemory, htallies]
  rcases hruled.notice h.sound.context.memory.alert with
    ⟨hstay, hcaught, hreports⟩ | ⟨hcaught, hreports⟩
  · exact .inl ⟨hstate.trans hstay, hcaught, by rw [hreports]; rfl⟩
  · refine .inr ⟨hcaught, ?_⟩
    have hspots : (w.round.memory.state = .patrol ∧ e.memory.state = .chase) ↔ w.Spots := by
      rw [Spots, hstate]
      rfl
    rw [hreports]
    simp only [hspots]
    split
    · rfl
    · rw [UInt64.add_zero]
      rfl

/-- The changes from patrol to chase that the trace tells of. -/
def pursuits (w : Simulation) : Nat := w.changes.countP fun e => e.a = 0 ∧ e.b = 1

/-- The catches that the trace tells of. -/
def catches (w : Simulation) : Nat := (w.trace.withTag "guard.caught").length

/-- Of the events of a frame the one of a change from patrol to chase is counted. -/
theorem countP_events (tick : UInt64) (source target : Guard.State) :
    (Guard.events tick source target false).countP (fun e => e.a = 0 ∧ e.b = 1) =
      if source = .patrol ∧ target = .chase then 1 else 0 := by
  cases source <;> cases target <;> rfl

theorem pursuits_step (h : w.guard.trace.isSome = true) :
    w.step.simulation.pursuits = w.pursuits + if w.Spots then 1 else 0 := by
  unfold pursuits
  rw [(changes_step h).2, List.countP_append, countP_events]

theorem catches_step (h : w.guard.trace.isSome = true) :
    w.step.simulation.catches = w.catches +
      if w.step.simulation.guard.memory.caughtReports != w.guard.memory.caughtReports then 1
      else 0 := by
  unfold catches Trace.withTag
  rw [(events_step h).2, List.filter_append, List.length_append]
  refine congrArg _ ((List.countP_eq_length_filter ..).symm.trans ?_)
  exact Guard.catches_events ..

/-- The summary, the guard and the trace agree on what was reported. -/
structure Reported (w : Simulation) : Prop where
  reachable : w.Reachable
  sink : w.guard.trace.isSome = true
  summary : w.tallies = ⟨w.summary.caught, w.summary.spotted⟩
  caught : w.summary.caught = .ofNat w.catches
  remembered : w.guard.memory.caughtReports = w.summary.caught
  spotted : w.summary.spotted = .ofNat w.pursuits

theorem Reported.step (h : w.Reported) : w.step.simulation.Reported := by
  have hsummary : w.step.simulation.tallies =
      ⟨w.step.simulation.summary.caught, w.step.simulation.summary.spotted⟩ := rfl
  have hcaught : w.step.simulation.summary.caught = w.step.simulation.tallies.caught := rfl
  have hspotted : w.step.simulation.summary.spotted = w.step.simulation.tallies.spotted := rfl
  have hsink := (events_step h.sink).1
  have hpursuits := pursuits_step h.sink
  have hcatches := catches_step h.sink
  rcases h.reachable.notice with ⟨hstay, hreports, htallies⟩ | ⟨hreports, htallies⟩
  · -- a catch changes no state, so no pursuit begins
    have hnot : ¬w.Spots := by
      rintro ⟨hpatrol, hchase⟩
      rw [hstay, hpatrol] at hchase
      cases hchase
    rw [if_neg hnot, Nat.add_zero] at hpursuits
    rw [hreports, if_pos (by simp)] at hcatches
    refine ⟨h.reachable.step, hsink, hsummary, ?_, ?_, ?_⟩
    · rw [hcaught, htallies, hcatches, UInt64.ofNat_add, ← h.caught, h.summary]
      rfl
    · rw [hreports, hcaught, htallies, h.remembered, h.summary]
    · rw [hspotted, htallies, hpursuits, ← h.spotted, h.summary]
  · rw [hreports, if_neg (by simp), Nat.add_zero] at hcatches
    refine ⟨h.reachable.step, hsink, hsummary, ?_, ?_, ?_⟩
    · rw [hcaught, htallies, hcatches, ← h.caught, h.summary]
    · rw [hreports, hcaught, htallies, h.remembered, h.summary]
    · rw [hspotted, htallies, hpursuits, UInt64.ofNat_add, ← h.spotted, h.summary]
      split <;> rfl

theorem Reported.run (h : w.Reported) (n : Nat) : (w.run n).Reported :=
  run_induction (fun _ => Reported.step) h n

/-! ### The order of the events -/

/-- The events come in the order of their ticks, at most one in a tick, all of them before frame
`n`. -/
structure InOrder (n : Nat) (events : List Trace.Event) : Prop where
  sorted : events.Pairwise (·.tick < ·.tick)
  below : ∀ e ∈ events, e.tick.toNat < n
  length_le : events.length ≤ n

/-- A frame emits one event at most, of its own tick. -/
theorem Reachable.atMostOne (h : w.Reachable) :
    Guard.AtMostOne w.frame.tick
      (Guard.events w.frame.tick w.guard.state w.step.step.state
        (w.step.simulation.guard.memory.caughtReports != w.guard.memory.caughtReports)) := by
  unfold Guard.events
  rcases h.notice with ⟨hstay, hreports, -⟩ | ⟨hreports, -⟩
  · rw [if_pos hstay, hreports, if_pos (by simp)]
    exact .catch _
  · rw [hreports, bne_self_eq_false]
    split
    · exact .none
    · exact .change _ _

theorem InOrder.succ {n : Nat} {events : List Trace.Event} (h : InOrder n events) :
    InOrder (n + 1) events :=
  ⟨h.sorted, fun e he => Nat.lt_succ_of_lt (h.below e he), Nat.le_succ_of_le h.length_le⟩

theorem InOrder.concat {n : Nat} {events : List Trace.Event} (h : InOrder n events)
    {e : Trace.Event} (he : e.tick.toNat = n) : InOrder (n + 1) (events ++ [e]) := by
  refine ⟨?sorted, ?below, ?length⟩
  case sorted =>
    refine List.pairwise_append.2 ⟨h.sorted, List.pairwise_singleton _ _, fun e' he' => ?_⟩
    rw [List.forall_mem_singleton, UInt64.lt_iff_toNat_lt, he]
    exact h.below e' he'
  case below =>
    refine List.forall_mem_append.2 ⟨h.succ.below, List.forall_mem_singleton.2 ?_⟩
    rw [he]
    exact n.lt_succ_self
  case length =>
    rw [List.length_append]
    exact Nat.succ_le_succ h.length_le

theorem InOrder.append {n : Nat} {tick : UInt64} {events new : List Trace.Event}
    (h : InOrder n events) (hnew : Guard.AtMostOne tick new) (htick : tick.toNat = n) :
    InOrder (n + 1) (events ++ new) := by
  cases hnew with
  | none =>
    rw [List.append_nil]
    exact h.succ
  | change a b => exact h.concat htick
  | _ a => exact h.concat htick

/-- As long as the counter of frames does not overflow, the events come in their order. -/
theorem inOrder_run (h : w.Reported) (hcount : w.Counted []) (htrace : w.trace.events.toList = [])
    {n : Nat} (hn : n < 2 ^ 64) : InOrder n (w.run n).trace.events.toList := by
  induction n with
  | zero =>
    show InOrder 0 w.trace.events.toList
    rw [htrace]
    exact ⟨.nil, fun e he => absurd he List.not_mem_nil, Nat.le_refl 0⟩
  | succ n ih =>
    have hbefore : n < 2 ^ 64 := Nat.lt_of_succ_lt hn
    have htick : (w.run n).frame.tick.toNat = n := by
      rw [(hcount.run n).tick, length_steps, UInt64.toNat_ofNat_of_lt' hbefore]
    rw [run_succ, (events_step (h.run n).sink).2]
    exact (ih hbefore).append (h.run n).reachable.atMostOne htick

/-! ### All books together -/

theorem accounts_start (hw : start s seed dt = .ok w) :
    w.Counted [] ∧ w.Reported ∧ w.trace.events.toList = [] := by
  have hreachable := reachable_of_start hw
  obtain ⟨guard, hguard, rfl⟩ := start_eq_ok.1 hw
  obtain ⟨-, rfl⟩ := Guard.create_eq_ok.1 hguard
  refine ⟨⟨rfl, rfl, fun q => ?_⟩, ⟨hreachable, rfl, rfl, rfl, rfl, rfl⟩, rfl⟩
  cases q <;> rfl

/-- After `n` frames the summary has counted `n` frames, each of them in the state that its step
reported; it has counted the catches that are in the trace and that the guard remembers, and the
pursuits that are in the trace. As long as no counter can overflow, these are plain numbers, and the
trace is sorted by ticks below `n`, with at most one event in each. -/
theorem accounts_agree (hw : start s seed dt = .ok w) (n : Nat) :
    let v := w.run n
    let count (q : Guard.State) := (w.steps n).countP (·.state = q)
    let caught := (v.trace.withTag "guard.caught").length
    let spotted := (v.trace.withTag "guard.transition").countP fun e => e.a = 0 ∧ e.b = 1
    (v.summary.ticks = .ofNat n ∧
        v.summary.ticks = v.summary.patrolTicks + v.summary.chaseTicks + v.summary.searchTicks +
          v.summary.returnTicks ∧
        (∀ q, v.summary.ticksIn q = .ofNat (count q)) ∧
        v.summary.caught = .ofNat caught ∧
        v.summary.caught = v.guard.memory.caughtReports ∧
        v.summary.spotted = .ofNat spotted) ∧
      (n < 2 ^ 64 →
        v.summary.ticks.toNat = n ∧
          v.summary.patrolTicks.toNat + v.summary.chaseTicks.toNat + v.summary.searchTicks.toNat +
            v.summary.returnTicks.toNat = n ∧
          (∀ q, (v.summary.ticksIn q).toNat = count q) ∧
          v.summary.caught.toNat = caught ∧
          v.summary.spotted.toNat = spotted ∧
          v.trace.events.toList.Pairwise (·.tick < ·.tick) ∧
          ∀ e ∈ v.trace.events, e.tick.toNat < n) := by
  intro v count caught spotted
  obtain ⟨hcounted, hreported, htrace⟩ := accounts_start hw
  have hframes : v.Counted (w.steps n) := hcounted.run n
  have hreports : v.Reported := hreported.run n
  have hticks : v.summary.ticks = .ofNat n := by rw [hframes.ticks, length_steps]
  have hcounts (q : Guard.State) : v.summary.ticksIn q = .ofNat (count q) := hframes.states q
  have hsum : n = count .patrol + count .chase + count .search + count .returnToPatrol := by
    rw [← w.length_steps n]
    exact length_eq_countIn _
  refine ⟨⟨hticks, ?_, hcounts, hreports.caught, hreports.remembered.symm, hreports.spotted⟩,
    fun hn => ?_⟩
  · rw [hticks, hsum, UInt64.ofNat_add, UInt64.ofNat_add, UInt64.ofNat_add, ← hcounts, ← hcounts,
      ← hcounts, ← hcounts]
    rfl
  have horder : InOrder n v.trace.events.toList := inOrder_run hreported hcounted htrace hn
  -- what is counted in `n` steps or in their events is at most `n`
  have hplain {k : Nat} (hk : k ≤ n) : (UInt64.ofNat k).toNat = k :=
    UInt64.toNat_ofNat_of_lt' (Nat.lt_of_le_of_lt hk hn)
  have hplainCounts (q : Guard.State) : (v.summary.ticksIn q).toNat = count q := by
    rw [hcounts]
    exact hplain (by rw [← w.length_steps n]; exact countIn_le_length _ q)
  have hcaught : caught ≤ n := (List.length_filter_le ..).trans horder.length_le
  have hspotted : spotted ≤ n :=
    List.countP_le_length.trans ((List.length_filter_le ..).trans horder.length_le)
  refine ⟨?_, ?_, hplainCounts, ?_, ?_, horder.sorted, ?_⟩
  · rw [hticks, hplain (Nat.le_refl n)]
  · rw [hsum, ← hplainCounts, ← hplainCounts, ← hplainCounts, ← hplainCounts]
    rfl
  · rw [hreports.caught]
    exact hplain hcaught
  · rw [hreports.spotted]
    exact hplain hspotted
  · exact fun e he => horder.below e (Array.mem_toList_iff.2 he)

/-- A guard that chases the target in front of it, and catches it in the fifth frame. -/
theorem accounts_agree_caught :
    ∃ w, start { target.path := #[⟨0, 0, 9⟩] } 0 0.5 = .ok w ∧
      (w.run 5).trace.events =
        #[⟨0, "guard.transition", 0, 1⟩, ⟨4, "guard.caught", 1, 0⟩] ∧
      (w.run 5).summary.ticks.toNat = 5 ∧
      (w.run 5).summary.caught = 1 ∧
      (w.run 5).guard.memory.caughtReports = 1 ∧
      (w.run 5).summary.spotted = 1 ∧
      (w.run 5).trace.events.toList.Pairwise (·.tick < ·.tick) := by
  obtain ⟨w, hw⟩ : ∃ w, start { target.path := #[⟨0, 0, 9⟩] } 0 0.5 = .ok w := ⟨_, rfl⟩
  have htrace : (w.run 5).trace.events =
      #[⟨0, "guard.transition", 0, 1⟩, ⟨4, "guard.caught", 1, 0⟩] := by
    cases hw
    decide +kernel
  obtain ⟨⟨-, -, -, hcaught, hremembered, hspotted⟩, hplain⟩ := accounts_agree hw 5
  obtain ⟨hticks, -, -, -, -, hsorted, -⟩ := hplain (by decide)
  unfold Trace.withTag at hcaught hspotted
  rw [htrace] at hcaught hspotted
  have hone : (w.run 5).summary.caught = 1 := hcaught.trans (by decide)
  exact ⟨w, hw, htrace, hticks, hone, hremembered.symm.trans hone, hspotted.trans (by decide),
    hsorted⟩

end Simulation
end Guardhouse
