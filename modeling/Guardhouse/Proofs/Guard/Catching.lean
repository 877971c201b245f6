import Guardhouse.Proofs.Guard.Moves
import Guardhouse.Proofs.Guard.Orders
import Guardhouse.Proofs.Guard.Reports

/-!
# Catching

Whether the target is in catch range is the first question of every frame, and it is asked once. If
it is, the guard reports that and does nothing else: it stays in its state, gives its body no order,
and remembers what it did before, but for the number of its catches and the time. In every other
frame it goes on to the branches after that, and none of them reports a catch
(`Guard.catches_exactly`).
-/

namespace Guardhouse
namespace Guard

namespace Memory

variable {N : Type} [Navigator N] {config : Config} {route : Array Vec3} {dt side : Float32}
  {body : N} {m : Memory} {e : Effect}

theorem caught_notMem_pursue (config : Config) (dt : Float32) (target sighted : Option Vec3)
    (m : Memory) : .caught ∉ (m.pursue config dt target sighted).reports := by
  show Report.caught ∉ if m.alertRaised then [] else [Report.spotted]
  split <;> simp

/-- What a guard does when it does not catch its target is no catch. -/
theorem Acts.no_catch (h : m.Acts config route dt side body false e) :
    .caught ∉ e.reports ∧ e.memory.caughtReports = m.caughtReports := by
  cases h with
  | pursued target sighted =>
    exact ⟨caught_notMem_pursue config dt target sighted m, m.caughtReports_pursue ..⟩
  | sought => exact ⟨by simp, m.caughtReports_seek ..⟩
  | gaveUp => exact ⟨List.not_mem_nil, m.caughtReports_enter ..⟩
  | patrolled => exact ⟨by simp, m.caughtReports_patrol ..⟩
  | faltered =>
    constructor
    · show Report.caught ∉ (m.pursue config dt none none).reports ++ Effect.reports _
      rw [reports_patrol, List.append_nil]
      exact caught_notMem_pursue config dt none none m
    · exact (caughtReports_patrol ..).trans (m.caughtReports_pursue ..)

end Memory

variable {P N R T : Type} [Perception P] [Navigator N] [Referee R] [Trace.Sink T]
  {admits : Guard P (Noted N) (Minuted R) T → Frame → Prop} {g : Guard P (Noted N) (Minuted R) T}

/-- In a frame that begins with a target in catch range, perceived or not, a guard reports that it
has caught it, once, and reports nothing else; it returns the state that it was in, its body is
given no order, and all of its memory is as it was, but for the count of the catches and the time
that has passed. In any other frame, also if there is no target or the distance to it is not a
number, it reports no catch and counts none. This holds whatever has happened to the guard, and
however often its perception changes its mind. -/
theorem catches_exactly (h : Reachable admits g) (frame : Frame) :
    let o := g.evaluate frame
    (g.InReach →
      o.guard.context.referee.minutes = g.context.referee.minutes ++ [.caught] ∧
        o.state = g.state ∧
        o.guard.memory =
          { g.memory with
            caughtReports := g.memory.caughtReports + 1
            clock := g.memory.clock + widen frame.dt } ∧
        o.guard.context.navigator = g.context.navigator) ∧
    (¬g.InReach →
      (∃ reports, o.guard.context.referee.minutes = g.context.referee.minutes ++ reports ∧
          .caught ∉ reports) ∧
        o.guard.memory.caughtReports = g.memory.caughtReports) := by
  intro o
  obtain ⟨near, hnear, e, hdoes, hacts⟩ := h.sound.acts frame
  have hminutes : o.guard.context.referee.minutes = g.context.referee.minutes ++ e.reports := by
    rw [hdoes.referee, Minuted.foldl_deliver]
    rfl
  have hmemory : o.guard.memory = e.memory := hdoes.memory
  have hstate : o.state = e.memory.state := congrArg Memory.state hdoes.memory
  constructor
  · intro hreach
    obtain rfl := hnear.2 hreach
    rw [hminutes, hstate, hmemory, hdoes.navigator]
    cases hacts
    exact ⟨rfl, rfl, rfl, rfl⟩
  · intro hfar
    obtain rfl := Bool.eq_false_iff.2 fun htrue => hfar (hnear.1 htrue)
    obtain ⟨hreports, hcaught⟩ := hacts.no_catch
    exact ⟨⟨e.reports, hminutes, hreports⟩, hmemory ▸ hcaught⟩

/-- A guard that searches catches a target that it does not see; one that is nowhere in particular
it does not catch. -/
theorem catches_exactly_unseen :
    ∃ g : Guard Scene (Noted FixedNavigator) (Minuted Tallies) Trace,
      create { chasePersistence := 0 } #[] ⟨true, some .zero⟩ ⟨⟨⟨0, 0, 9⟩, none⟩, []⟩ ⟨{}, []⟩ =
          .ok g ∧
        let chasing := (g.evaluate ⟨1, 0.5, 7⟩).guard
        let searching := ((chasing.mapPerception fun _ => ⟨false, none⟩).evaluate ⟨2, 0.5, 7⟩).guard
        let near := searching.mapPerception fun _ => ⟨false, some ⟨0, 0, 8⟩⟩
        let nowhere := searching.mapPerception fun _ => ⟨false, some ⟨0, 0, 0 / 0⟩⟩
        (near.evaluate ⟨3, 0.5, 7⟩).state = .search ∧
          (near.evaluate ⟨3, 0.5, 7⟩).guard.context.referee.minutes = [.spotted, .caught] ∧
          (near.evaluate ⟨3, 0.5, 7⟩).guard.memory.searchTimeRemaining = 2.5 ∧
          (nowhere.evaluate ⟨3, 0.5, 7⟩).guard.memory.caughtReports = 0 := by
  obtain ⟨g, hg⟩ : ∃ g : Guard Scene (Noted FixedNavigator) (Minuted Tallies) Trace,
      create { chasePersistence := 0 } #[] ⟨true, some .zero⟩ ⟨⟨⟨0, 0, 9⟩, none⟩, []⟩ ⟨{}, []⟩ =
        .ok g :=
    ⟨_, create_eq_ok.2 ⟨by decide +kernel, rfl⟩⟩
  refine ⟨g, hg, ?_⟩
  intro chasing searching near nowhere
  have hcreated : Reachable (fun _ _ => True) g := .create hg
  have hsearching : Reachable (fun _ _ => True) searching :=
    ((hcreated.evaluate trivial).mapPerception _).evaluate trivial
  have hnear : Reachable (fun _ _ => True) near := hsearching.mapPerception _
  have hnowhere : Reachable (fun _ _ => True) nowhere := hsearching.mapPerception _
  obtain ⟨hminutes, hstate, hmemory, -⟩ := (catches_exactly hnear ⟨3, 0.5, 7⟩).1 <| by
    refine ⟨⟨0, 0, 8⟩, rfl, ?_⟩
    obtain ⟨-, rfl⟩ := create_eq_ok.1 hg
    decide +kernel
  obtain ⟨-, hcaught⟩ := (catches_exactly hnowhere ⟨3, 0.5, 7⟩).2 <| by
    rintro ⟨target, htarget, hdistance⟩
    cases htarget
    revert hdistance
    obtain ⟨-, rfl⟩ := create_eq_ok.1 hg
    decide +kernel
  refine ⟨hstate.trans ?_, hminutes.trans ?_,
    (congrArg Memory.searchTimeRemaining hmemory).trans ?_, hcaught.trans ?_⟩
  all_goals
    obtain ⟨-, rfl⟩ := create_eq_ok.1 hg
    decide +kernel

end Guard
end Guardhouse
