import Guardhouse.Proofs.Guard.Diagnostics
import Guardhouse.Proofs.Guard.Moves

/-!
# Operations, one after the other

A host evaluates a guard, resets it, and handles it otherwise, in any order. What it does is a list
of operations, and `rounds` lists the evaluations among them, each with the guard that was
evaluated, so that one can speak of what has happened since. What every round keeps, and every reset
and all handling, is kept by any operations (`afterAll_keeps`).
-/

namespace Guardhouse
namespace Guard

variable {P N R T : Type}

theorem SameGuard.state_eq {g g' : Guard P N R T} (h : SameGuard g g') : g'.state = g.state :=
  congrArg Memory.state h.memory

/-- The round that an operation is, if it is one. -/
def roundOf (g : Guard P N R T) : Operation P N R → Option (Round P N R T)
  | .evaluate frame => some ⟨g, frame⟩
  | _ => none

variable [Trace.Sink T]

/-- The rounds among some operations that are done to a guard. -/
def rounds (g : Guard P N R T) : List (Operation P N R) → List (Round P N R T)
  | [] => []
  | op :: ops => (g.roundOf op).toList ++ (g.perform op).2.rounds ops

section Appending

variable (g : Guard P N R T) (op : Operation P N R) (ops ops' : List (Operation P N R))

@[simp] theorem afterAll_append : g.afterAll (ops ++ ops') = (g.afterAll ops).afterAll ops' :=
  List.foldl_append

theorem rounds_singleton : g.rounds [op] = (g.roundOf op).toList := List.append_nil _

@[simp] theorem rounds_append :
    g.rounds (ops ++ ops') = g.rounds ops ++ (g.afterAll ops).rounds ops' := by
  induction ops generalizing g with
  | nil => rfl
  | cons op ops ih =>
    show (g.roundOf op).toList ++ (g.perform op).2.rounds (ops ++ ops') = _
    rw [ih, ← List.append_assoc]
    rfl

/-- An operation is an evaluation, a reset, or handling. -/
theorem perform_cases :
    (∃ frame, op = .evaluate frame) ∨ op = .reset ∨
      (op ≠ .reset ∧ g.roundOf op = none ∧ Handled g (g.perform op).2) := by
  cases op with
  | evaluate frame => exact .inl ⟨frame, rfl⟩
  | reset => exact .inr (.inl rfl)
  | setDebug enabled => exact .inr (.inr ⟨nofun, rfl, .withDebug enabled⟩)
  | setAgent agent => exact .inr (.inr ⟨nofun, rfl, .withAgent agent⟩)
  | mapPerception f => exact .inr (.inr ⟨nofun, rfl, .mapPerception f⟩)
  | mapNavigator f => exact .inr (.inr ⟨nofun, rfl, .mapNavigator f⟩)
  | mapReferee f => exact .inr (.inr ⟨nofun, rfl, .mapReferee f⟩)

end Appending

/-- What all handling keeps, and every round among some operations, those operations keep, unless
there is a reset among them that does not keep it. -/
theorem afterAll_keeps {motive : Guard P N R T → Prop}
    (hhandle : ∀ {g g'}, Handled g g' → motive g → motive g') {g : Guard P N R T}
    {ops : List (Operation P N R)} (hreset : .reset ∈ ops → ∀ {g}, motive g → motive g.reset)
    (hround : ∀ r ∈ g.rounds ops, motive r.guard → motive r.after) (hg : motive g) :
    motive (g.afterAll ops) := by
  induction ops generalizing g with
  | nil => exact hg
  | cons op ops ih =>
    have hrest : ∀ r ∈ (g.perform op).2.rounds ops, motive r.guard → motive r.after :=
      fun r hr => hround r (List.mem_append_right _ hr)
    refine ih (fun hmem => hreset (.tail _ hmem)) hrest ?_
    obtain ⟨frame, rfl⟩ | rfl | ⟨-, -, hhandled⟩ := g.perform_cases op
    · exact hround ⟨g, frame⟩ (.head _) hg
    · exact hreset (.head _) hg
    · exact hhandle hhandled hg

variable [Navigator N] [Referee R]

namespace Round

/-- The orders that the guard gives its body in this round. -/
def orders (r : Round P (Noted N) R T) : List Order :=
  r.after.context.navigator.orders.drop r.guard.context.navigator.orders.length

theorem orders_of_does {r : Round P (Noted N) R T} {e : Effect}
    (h : (r.guard.context.begin r.frame).Does r.after.context e) : r.orders = e.orders := by
  unfold orders
  rw [h.navigator, Noted.follow_eq]
  exact List.drop_left

theorem orders_after {r : Round P (Noted N) R T} {e : Effect}
    (h : (r.guard.context.begin r.frame).Does r.after.context e) :
    r.after.context.navigator.orders = r.guard.context.navigator.orders ++ r.orders := by
  rw [orders_of_does h, h.navigator, Noted.follow_eq]
  rfl

theorem reports_of_does {r : Round P N (Minuted R) T} {e : Effect}
    (h : (r.guard.context.begin r.frame).Does r.after.context e) : r.reports = e.reports := by
  unfold reports
  rw [h.referee, Minuted.foldl_deliver]
  exact List.drop_left

end Round

variable [Perception P]

omit [Trace.Sink T] in
theorem Handled.sound {g g' : Guard P N R T} (hh : Handled g g') (h : g.Sound) : g'.Sound := by
  cases hh
  all_goals exact ⟨h.plan, h.context.config, h.context.memory⟩

/-- What a round does is one of the things that a guard can do. -/
theorem Round.exists_acts {r : Round P N R T} (h : r.guard.Sound) :
    ∃ near side e, (near = true ↔ r.guard.InReach) ∧
      (r.guard.context.begin r.frame).Does r.after.context e ∧
      r.memory.Acts r.guard.context.config r.guard.context.route r.frame.dt side
        r.guard.context.navigator near e := by
  obtain ⟨near, hnear, e, hdoes, hacts⟩ := h.acts r.frame
  exact ⟨near, _, e, hnear, hdoes, hacts⟩

end Guard
end Guardhouse
