import Guardhouse.Proofs.Guard.Rule
import Guardhouse.Proofs.Guard.Run

/-!
# Runs, round by round

A run is a list of rounds: each time the host hands the guard over for a frame, and in between it
does as it likes with it, short of resetting it. `IsRun` says that a list of rounds belongs to one
guard and that no answer changes within a frame. Then every round is one step of a guard that knows
what it has to (`Round.exists_ruled`), so a statement about all rounds is shown rule by rule.
-/

namespace Guardhouse
namespace Guard

/-- What is counted alike for each member of a list is counted alike for all of them. -/
theorem countP_flatMap_congr {α β γ : Type} {l : List α} {f : α → List β} {g : α → List γ}
    {p : β → Bool} {q : γ → Bool} (h : ∀ a ∈ l, (f a).countP p = (g a).countP q) :
    (l.flatMap f).countP p = (l.flatMap g).countP q := by
  rw [List.countP_flatMap, List.countP_flatMap]
  exact congrArg List.sum (List.map_congr_left h)

variable {P N R T : Type}

/-- What a host may do with a guard between two frames. -/
inductive Handled : Guard P N R T → Guard P N R T → Prop
  | withAgent {g : Guard P N R T} (agent : UInt64) : Handled g (g.withAgent agent)
  | withTrace {g : Guard P N R T} (trace : T) : Handled g (g.withTrace trace)
  | withDebug {g : Guard P N R T} (debug : Bool) : Handled g (g.withDebug debug)
  | mapPerception {g : Guard P N R T} (f : P → P) : Handled g (g.mapPerception f)
  | mapNavigator {g : Guard P N R T} (f : N → N) : Handled g (g.mapNavigator f)
  | mapReferee {g : Guard P N R T} (f : R → R) : Handled g (g.mapReferee f)

/-- What two guards have in common if one is the other, handled by a host. -/
structure SameGuard (g h : Guard P N R T) : Prop where
  memory : h.memory = g.memory
  config : h.context.config = g.context.config
  route : h.context.route = g.context.route

theorem Handled.sameGuard {g h : Guard P N R T} (hh : Handled g h) : SameGuard g h := by
  cases hh <;> exact ⟨rfl, rfl, rfl⟩

theorem sameGuard_of_handled {g h : Guard P N R T} (hh : Relation.ReflTransGen Handled g h) :
    SameGuard g h := by
  induction hh with
  | refl => exact ⟨rfl, rfl, rfl⟩
  | tail _ hlast ih =>
    have hsame := hlast.sameGuard
    exact ⟨hsame.memory.trans ih.memory, hsame.config.trans ih.config, hsame.route.trans ih.route⟩

/-- A host never gives a guard another tree. -/
theorem plan_of_handled {g h : Guard P N R T} (hh : Relation.ReflTransGen Handled g h) :
    h.runner.tree.plan = g.runner.tree.plan := by
  induction hh with
  | refl => rfl
  | tail _ hlast ih =>
    cases hlast
    all_goals exact ih

/-- A guard that is handed over for a frame. -/
structure Round (P N R T : Type) where
  guard : Guard P N R T
  frame : Frame

section Running

variable [Perception P] [Navigator N] [Referee R] [Trace.Sink T]

theorem Reachable.of_handled {admits : Guard P N R T → Frame → Prop} {g h : Guard P N R T}
    (hg : Reachable admits g) (hh : Relation.ReflTransGen Handled g h) : Reachable admits h := by
  induction hh with
  | refl => exact hg
  | tail _ hlast ih =>
    cases hlast with
    | withAgent agent => exact ih.withAgent agent
    | withTrace trace => exact ih.withTrace trace
    | withDebug debug => exact ih.withDebug debug
    | mapPerception f => exact ih.mapPerception f
    | mapNavigator f => exact ih.mapNavigator f
    | mapReferee f => exact ih.mapReferee f

namespace Round

variable (r : Round P N R T) (v : Scene)

/-- What the guard remembers as the round begins. -/
def memory : Memory := { r.guard.memory with clock := r.guard.memory.clock + widen r.frame.dt }

/-- The guard after the round. -/
def after : Guard P N R T := (r.guard.evaluate r.frame).guard

/-- The state that the guard reports. -/
def state : State := (r.guard.evaluate r.frame).state

/-- The guard sees a scene in this round. -/
def Sees : Prop := r.guard.Sees r.frame v

/-- A target is in catch range at the beginning of this round. -/
def InReach : Prop := v.InReach r.guard.context.config r.guard.context.navigator

/-- The host hands over for the second round what the first one has left. -/
def Next (r r' : Round P N R T) : Prop := Relation.ReflTransGen Handled r.after r'.guard

/-- What a round does is the effect of one of the rules. -/
theorem exists_does {r : Round P N R T} {v : Scene} (h : Reachable Steady r.guard)
    (hv : r.Sees v) :
    ∃ e, r.memory.Ruled r.guard.context.agent r.guard.context.config r.guard.context.route r.frame
        r.guard.context.navigator v e ∧
      (r.guard.context.begin r.frame).Does r.after.context e := by
  have hknown : r.memory.Known := h.known fun _ _ hs => hs
  exact ⟨r.guard.step r.frame v, hknown.ruled_step _ _ _ _ _ _, h.sound.does_step hv⟩

/-- A round follows one of the rules. -/
theorem exists_ruled {r : Round P N R T} {v : Scene} (h : Reachable Steady r.guard)
    (hv : r.Sees v) :
    ∃ e, r.memory.Ruled r.guard.context.agent r.guard.context.config r.guard.context.route r.frame
        r.guard.context.navigator v e ∧
      r.after.memory = e.memory ∧ r.state = e.memory.state ∧
      r.after.context.navigator = follow e.orders r.guard.context.navigator ∧
      r.after.context.config = r.guard.context.config ∧
      r.after.context.route = r.guard.context.route := by
  obtain ⟨e, hruled, hdoes⟩ := exists_does h hv
  exact ⟨e, hruled, hdoes.memory, congrArg Memory.state hdoes.memory, hdoes.navigator,
    hdoes.config, hdoes.route⟩

end Round

/-- The guard after some rounds, if it was `g` before them. -/
def finish (g : Guard P N R T) (rounds : List (Round P N R T)) : Guard P N R T :=
  rounds.foldl (fun _ r => r.after) g

/-- The rounds of one guard, in their order, if no answer changes within a frame. -/
structure IsRun (rounds : List (Round P N R T)) : Prop where
  reachable : ∀ r ∈ rounds.head?, Reachable Steady r.guard
  chain : rounds.IsChain Round.Next
  steady : ∀ r ∈ rounds, r.guard.Steady r.frame

namespace IsRun

variable {r r' : Round P N R T} {rounds : List (Round P N R T)}

theorem head (h : IsRun (r :: rounds)) : Reachable Steady r.guard := h.reachable r rfl

theorem next (h : IsRun (r :: r' :: rounds)) : SameGuard r.after r'.guard :=
  sameGuard_of_handled (List.isChain_cons_cons.1 h.chain).1

theorem tail (h : IsRun (r :: rounds)) : IsRun rounds := by
  refine ⟨?_, h.chain.tail, fun s hs => h.steady s (.tail _ hs)⟩
  intro s hs
  cases rounds with
  | nil => cases hs
  | cons r' rounds =>
    cases hs
    have hafter : Reachable Steady r.after := h.head.evaluate (h.steady r (.head _))
    exact hafter.of_handled (List.isChain_cons_cons.1 h.chain).1

/-- In a run the configuration stays. -/
theorem config_eq (h : IsRun (r :: r' :: rounds)) :
    r'.guard.context.config = r.guard.context.config := by
  obtain ⟨v, hv⟩ := h.steady r (.head _)
  obtain ⟨e, -, -, -, -, hconfig, -⟩ := Round.exists_ruled h.head hv
  exact h.next.config.trans hconfig

/-- In a run every guard is reachable. -/
theorem reachable_of_mem (h : IsRun rounds) : ∀ r ∈ rounds, Reachable Steady r.guard := by
  induction rounds with
  | nil => exact fun r hr => absurd hr List.not_mem_nil
  | cons r rounds ih => exact List.forall_mem_cons.2 ⟨h.head, ih h.tail⟩

/-- What is left behind round by round relates the memory before a run to the one after it, if it
does so for each round. -/
theorem accumulate {X : Type} {rel : Memory → List X → Memory → Prop} (hnil : ∀ m, rel m [] m)
    (happend : ∀ {m m' m'' xs ys}, rel m xs m' → rel m' ys m'' → rel m (xs ++ ys) m'')
    {left : Round P N R T → List X} (h : IsRun rounds)
    (hleft : ∀ r ∈ rounds, rel r.guard.memory (left r) r.after.memory) {g : Guard P N R T}
    (hg : ∀ r ∈ rounds.head?, r.guard.memory = g.memory) :
    rel g.memory (rounds.flatMap left) (g.finish rounds).memory := by
  induction rounds generalizing g with
  | nil => exact hnil _
  | cons r rounds ih =>
    obtain ⟨hr, hrounds⟩ := List.forall_mem_cons.1 hleft
    have hnext : ∀ r' ∈ rounds.head?, r'.guard.memory = r.after.memory := by
      intro r' hr'
      cases rounds with
      | nil => cases hr'
      | cons r' rounds =>
        cases hr'
        exact h.next.memory
    rw [List.flatMap_cons, ← hg r rfl]
    exact happend hr (ih h.tail hrounds hnext)

end IsRun

/-- The rounds of a guard that is shown one scene after the other, each for a frame. -/
def play (g : Guard Scene N R T) : List (Scene × Frame) → List (Round Scene N R T)
  | [] => []
  | (v, frame) :: film =>
    let shown := g.mapPerception fun _ => v
    ⟨shown, frame⟩ :: (shown.evaluate frame).guard.play film

theorem isRun_play {g : Guard Scene N R T} (h : Reachable Steady g) (film : List (Scene × Frame)) :
    IsRun (g.play film) := by
  induction film generalizing g with
  | nil => exact ⟨fun r hr => (nomatch hr), .nil, fun r hr => absurd hr List.not_mem_nil⟩
  | cons shot film ih =>
    obtain ⟨v, frame⟩ := shot
    have hshown : Reachable Steady (g.mapPerception fun _ => v) := h.mapPerception _
    have hsteady : (g.mapPerception fun _ => v).Steady frame := ⟨v, sees_of_still rfl rfl⟩
    have hrest := ih (hshown.evaluate hsteady)
    refine ⟨?_, ?_, ?_⟩
    · rintro r ⟨⟩
      exact hshown
    · cases film with
      | nil => exact .singleton _
      | cons shot film => exact .cons_cons (.single (.mapPerception fun _ => shot.1)) hrest.chain
    · exact List.forall_mem_cons.2 ⟨hsteady, hrest.steady⟩

end Running
end Guard
end Guardhouse
