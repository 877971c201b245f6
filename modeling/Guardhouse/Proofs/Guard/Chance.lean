import Guardhouse.Navigator.Direct
import Guardhouse.Proofs.Guard.Likeness
import Guardhouse.Proofs.Guard.Orders
import Guardhouse.Proofs.Guard.Reports

/-!
# Chance

The one thing that a guard leaves to chance is to which side it first looks around. Two guards that
see the same and pass the same time are in the same states, remember the same, command the same and
report the same in every frame, whatever agents they are, and whatever the ticks and the seeds of
their frames; only how they look around may differ, and how they turn (`chance_only_looks_around`).

For that, turning a body must make no difference to where it is and where it is going. It makes none
to a `DirectNavigator`, however it is walked between frames (`DirectNavigator.oblivious_turned`).
-/

namespace Guardhouse

namespace Guard

/-- Whether an order turns the body on the spot. -/
def Order.isTurn : Order → Bool
  | turn _ => true
  | _ => false

/-- Orders without the turns among them. -/
def walk (orders : List Order) : List Order := orders.filter fun order => !order.isTurn

section Walk

variable {orders orders' : List Order}

theorem walk_concat (h : walk orders = walk orders') (order : Order) :
    walk (orders ++ [order]) = walk (orders' ++ [order]) := by
  simp only [walk, List.filter_append] at h ⊢
  rw [h]

@[simp] theorem walk_turn (orders : List Order) (degrees : Float32) :
    walk (orders ++ [.turn degrees]) = walk orders := by
  simp [walk, Order.isTurn]

end Walk

end Guard

/-! ### Bodies and referees that keep records -/

namespace Noted

variable {N N' : Type}

/-- The bodies are related, and were given the same orders apart from turns. -/
def SameWalk (r : N → N' → Prop) (n : Noted N) (n' : Noted N') : Prop :=
  r n.body n'.body ∧ Guard.walk n.orders = Guard.walk n'.orders

theorem oblivious_sameWalk [Navigator N] [Navigator N'] {r : N → N' → Prop} (h : Oblivious r) :
    Oblivious (SameWalk r) := by
  constructor
  case position => exact fun hr => h.position hr.1
  case destination => exact fun hr => h.destination hr.1
  case hasReachedDestination => exact fun hr => h.hasReachedDestination hr.1
  case setDestination =>
    exact fun point hr => ⟨h.setDestination point hr.1, Guard.walk_concat hr.2 (.goTo point)⟩
  case setSpeedMultiplier =>
    exact fun multiplier hr =>
      ⟨h.setSpeedMultiplier multiplier hr.1, Guard.walk_concat hr.2 (.pace multiplier)⟩
  case rotate_left =>
    exact fun degrees hr =>
      ⟨h.rotate_left degrees hr.1, (Guard.walk_turn _ degrees).trans hr.2⟩
  case rotate_right =>
    exact fun degrees hr =>
      ⟨h.rotate_right degrees hr.1, hr.2.trans (Guard.walk_turn _ degrees).symm⟩

end Noted

namespace Minuted

variable {R R' : Type}

/-- The referees were told the same. -/
def SameMinutes (m : Minuted R) (m' : Minuted R') : Prop := m.minutes = m'.minutes

theorem heedful_sameMinutes [Referee R] [Referee R'] :
    Heedful (SameMinutes : Minuted R → Minuted R' → Prop) where
  caught h := congrArg (fun minutes => minutes ++ [Guard.Report.caught]) h
  spotted h := congrArg (fun minutes => minutes ++ [Guard.Report.spotted]) h

end Minuted

namespace DirectNavigator

/-- The bodies differ at most in where they face. -/
def Turned (n n' : DirectNavigator) : Prop := n' = { n with yawDegrees := n'.yawDegrees }

theorem oblivious_turned : Oblivious Turned := by
  constructor
  case position => exact fun h => (congrArg DirectNavigator.position h).symm
  case destination => exact fun h => (congrArg DirectNavigator.destination h).symm
  case hasReachedDestination =>
    intro n n' h
    rw [h]
    rfl
  case setDestination | setSpeedMultiplier | rotate_left | rotate_right =>
    intro n n' _ h
    rw [h]
    rfl

/-- The bodies walk alike. -/
theorem Turned.step {n n' : DirectNavigator} (h : n.Turned n') (dt : Float32) :
    (n.step dt).Turned (n'.step dt) := by
  have hite : ∀ (rests : Bool) {m m' : DirectNavigator}, m.Turned m' →
      (if rests then n else m).Turned (if rests then n' else m') := by
    intro rests m m' hm
    cases rests with
    | true => exact h
    | false => exact hm
  obtain ⟨position, facing, destination, baseSpeed, multiplier, arrivalDistance⟩ := n
  obtain ⟨yaw, rfl⟩ : ∃ yaw, n' = ⟨position, yaw, destination, baseSpeed, multiplier,
      arrivalDistance⟩ := ⟨_, h⟩
  cases destination with
  | none => exact h
  | some destination => exact hite _ rfl

end DirectNavigator

namespace Guard

/-! ### Two guards -/

section Pairs

variable {P P' N N' R R' T T' : Type} {rp : P → P' → Prop} {rn : N → N' → Prop} {rr : R → R' → Prop}

variable [Perception P] [Perception P'] [Navigator N] [Navigator N'] [Referee R] [Referee R']

/-- Two guards with their trees as they were built, whose contexts are on the same course but for
the frame. -/
structure Abreast (rp : P → P' → Prop) (rn : N → N' → Prop) (rr : R → R' → Prop)
    (g : Guard P N R T) (g' : Guard P' N' R' T') : Prop where
  plan : g.runner.tree.plan = Context.pursuit.plan
  plan' : g'.runner.tree.plan = Context.pursuit.plan
  course : g'.context.config = g.context.config ∧ g'.context.route = g.context.route ∧
    g.memory.SameCourse g'.memory
  perception : rp g.context.perception g'.context.perception
  navigator : rn g.context.navigator g'.context.navigator
  referee : rr g.context.referee g'.context.referee

/-- Two guards that a host runs side by side. It creates them for the same configuration and the
same route; hands them frames that take the same time; resets both; and between frames does as it
likes with either, as long as what they were given stays related. -/
inductive SideBySide [Trace.Sink T] [Trace.Sink T'] (rp : P → P' → Prop) (rn : N → N' → Prop)
    (rr : R → R' → Prop) : Guard P N R T → Guard P' N' R' T' → Prop
  | create {config : Config} {route : Array Vec3} {perception : P} {perception' : P'}
      {navigator : N} {navigator' : N'} {referee : R} {referee' : R'} {g : Guard P N R T}
      {g' : Guard P' N' R' T'}
      (h : create config route perception navigator referee = .ok g)
      (h' : create config route perception' navigator' referee' = .ok g')
      (hperception : rp perception perception') (hnavigator : rn navigator navigator')
      (hreferee : rr referee referee') : SideBySide rp rn rr g g'
  | handle {g h : Guard P N R T} {g' h' : Guard P' N' R' T'} (hg : SideBySide rp rn rr g g')
      (hh : Relation.ReflTransGen Handled g h) (hh' : Relation.ReflTransGen Handled g' h')
      (hperception : rp h.context.perception h'.context.perception)
      (hnavigator : rn h.context.navigator h'.context.navigator)
      (hreferee : rr h.context.referee h'.context.referee) : SideBySide rp rn rr h h'
  | evaluate {g : Guard P N R T} {g' : Guard P' N' R' T'} (hg : SideBySide rp rn rr g g')
      (frame frame' : Frame) (hdt : frame.dt = frame'.dt) :
      SideBySide rp rn rr (g.evaluate frame).guard (g'.evaluate frame').guard
  | reset {g : Guard P N R T} {g' : Guard P' N' R' T'} (hg : SideBySide rp rn rr g g') :
      SideBySide rp rn rr g.reset g'.reset

namespace Abreast

variable {g : Guard P N R T} {g' : Guard P' N' R' T'}

theorem begin (h : Abreast rp rn rr g g') {frame frame' : Frame} (hdt : frame.dt = frame'.dt) :
    Context.SameCourse rp rn rr (g.context.begin frame) (g'.context.begin frame') := by
  obtain ⟨hconfig, hroute, hmemory⟩ := h.course
  refine Context.sameCourse_iff.2
    ⟨⟨hconfig, hroute, ?_⟩, h.perception, h.navigator, h.referee, hdt⟩
  obtain ⟨direction, rotation, hmemory⟩ := Memory.sameCourse_iff.1 hmemory
  have hmemory : g'.context.memory = _ := hmemory
  refine Memory.sameCourse_iff.2 ⟨direction, rotation, ?_⟩
  simp only [Context.begin, hmemory, hdt]
  rfl

theorem evaluate [Trace.Sink T] [Trace.Sink T'] (hp : Mimics (fun _ => False) rp)
    (hn : Oblivious rn) (hr : Heedful rr) (h : Abreast rp rn rr g g') {frame frame' : Frame}
    (hdt : frame.dt = frame'.dt) :
    Abreast rp rn rr (g.evaluate frame).guard (g'.evaluate frame').guard := by
  obtain ⟨hcontext, -, hplan⟩ := evaluate_eq h.plan frame
  obtain ⟨hcontext', -, hplan'⟩ := evaluate_eq h.plan' frame'
  have hstep := (Context.inStep_decision hp hn hr).step _ _ (h.begin hdt)
  obtain ⟨-, hsame⟩ := hstep.resolve_left id
  rw [← hcontext, ← hcontext'] at hsame
  obtain ⟨hcourse, hperception, hnavigator, hreferee, -⟩ := Context.sameCourse_iff.1 hsame
  exact ⟨hplan, hplan', hcourse, hperception, hnavigator, hreferee⟩

theorem reset (h : Abreast rp rn rr g g') : Abreast rp rn rr g.reset g'.reset := by
  obtain ⟨hconfig, hroute, hmemory⟩ := h.course
  refine ⟨(Tree.plan_reset _).trans h.plan, (Tree.plan_reset _).trans h.plan',
    ⟨hconfig, hroute, ?_⟩, h.perception, h.navigator, h.referee⟩
  obtain ⟨direction, rotation, hmemory⟩ := Memory.sameCourse_iff.1 hmemory
  have hmemory : g'.context.memory = _ := hmemory
  simp only [memory, Guard.reset, hmemory, hconfig]
  rfl

end Abreast

/-- Guards that are run side by side stay abreast. -/
theorem SideBySide.abreast [Trace.Sink T] [Trace.Sink T'] (hp : Mimics (fun _ => False) rp)
    (hn : Oblivious rn) (hr : Heedful rr) {g : Guard P N R T} {g' : Guard P' N' R' T'}
    (h : SideBySide rp rn rr g g') : Abreast rp rn rr g g' := by
  induction h with
  | create hg hg' hperception hnavigator hreferee =>
    obtain ⟨-, rfl⟩ := create_eq_ok.1 hg
    obtain ⟨-, rfl⟩ := create_eq_ok.1 hg'
    exact ⟨rfl, rfl, ⟨rfl, rfl, rfl⟩, hperception, hnavigator, hreferee⟩
  | handle _ hh hh' hperception hnavigator hreferee ih =>
    have hsame := sameGuard_of_handled hh
    have hsame' := sameGuard_of_handled hh'
    obtain ⟨hconfig, hroute, hmemory⟩ := ih.course
    refine ⟨(plan_of_handled hh).trans ih.plan, (plan_of_handled hh').trans ih.plan', ?_,
      hperception, hnavigator, hreferee⟩
    rw [hsame.config, hsame.route, hsame.memory, hsame'.config, hsame'.route, hsame'.memory]
    exact ⟨hconfig, hroute, hmemory⟩
  | evaluate _ frame frame' hdt ih => exact ih.evaluate hp hn hr hdt
  | reset _ ih => exact ih.reset

end Pairs

/-- Chance only decides how a guard looks around. Two guards are created for the same configuration
and the same route, with bodies that note their orders and referees that take minutes; they see the
same, and turning makes no difference to where their bodies are and go. In every frame of every run,
whatever agents they are and whatever the ticks and the seeds, they are in the same state, their
memories differ in nothing but the direction and the rotation of the look, they have given the same
orders apart from turns, and they have reported the same. -/
theorem chance_only_looks_around {P P' N N' R R' T T' : Type} [Perception P] [Perception P']
    [Navigator N] [Navigator N'] [Referee R] [Referee R'] [Trace.Sink T] [Trace.Sink T']
    {rp : P → P' → Prop} {rn : N → N' → Prop} (hp : Mimics (fun _ => False) rp) (hn : Oblivious rn)
    {g : Guard P (Noted N) (Minuted R) T} {g' : Guard P' (Noted N') (Minuted R') T'}
    (h : SideBySide rp (Noted.SameWalk rn) Minuted.SameMinutes g g') {frame frame' : Frame}
    (hdt : frame.dt = frame'.dt) :
    let o := g.evaluate frame
    let o' := g'.evaluate frame'
    o.state = o'.state ∧ o.guard.memory.SameCourse o'.guard.memory ∧
      walk o.guard.context.navigator.orders = walk o'.guard.context.navigator.orders ∧
      o.guard.context.referee.minutes = o'.guard.context.referee.minutes := by
  intro o o'
  have hbodies := Noted.oblivious_sameWalk hn
  have hreferees : Heedful (Minuted.SameMinutes : Minuted R → Minuted R' → Prop) :=
    Minuted.heedful_sameMinutes
  have habreast := (h.abreast hp hbodies hreferees).evaluate hp hbodies hreferees hdt
  have hmemory : o.guard.memory.SameCourse o'.guard.memory := habreast.course.2.2
  have hstate : o.guard.memory.state = o'.guard.memory.state := (congrArg Memory.state hmemory).symm
  exact ⟨hstate, hmemory, habreast.navigator.2, habreast.referee⟩

/-- Two agents chase the same target and lose it. They search where it was, and turn to different
sides. -/
theorem chance_only_looks_around_apart :
    ∃ g : Guard Scene (Noted DirectNavigator) (Minuted Tallies) Trace,
      create { chasePersistence := 0 } #[] ⟨true, some ⟨0, 0, 3⟩⟩ ⟨.start .zero 1 5, []⟩ ⟨{}, []⟩ =
          .ok g ∧
        let lose (g : Guard Scene (Noted DirectNavigator) (Minuted Tallies) Trace) :=
          (g.mapPerception fun _ => ⟨false, none⟩).mapNavigator fun n => ⟨n.body.step 0.5, n.orders⟩
        let left := lose (g.evaluate ⟨1, 0.5, 7⟩).guard
        let right := lose ((g.withAgent 1).evaluate ⟨5, 0.5, 9⟩).guard
        let o := left.evaluate ⟨2, 0.5, 7⟩
        let o' := right.evaluate ⟨6, 0.5, 9⟩
        (o.state = o'.state ∧ o.guard.memory.SameCourse o'.guard.memory ∧
          walk o.guard.context.navigator.orders = walk o'.guard.context.navigator.orders ∧
          o.guard.context.referee.minutes = o'.guard.context.referee.minutes) ∧
        o.state = .search ∧ o.guard.memory.lookRotation = -45 ∧
          o'.guard.memory.lookRotation = 45 := by
  obtain ⟨g, hg⟩ : ∃ g : Guard Scene (Noted DirectNavigator) (Minuted Tallies) Trace,
      create { chasePersistence := 0 } #[] ⟨true, some ⟨0, 0, 3⟩⟩ ⟨.start .zero 1 5, []⟩ ⟨{}, []⟩ =
        .ok g :=
    ⟨_, create_eq_ok.2 ⟨by decide +kernel, rfl⟩⟩
  refine ⟨g, hg, ?_⟩
  intro lose left right o o'
  have hscene : Mimics (fun _ => False) (Eq : Scene → Scene → Prop) := by
    constructor
    all_goals
      refine ⟨fun _ h => h, ?_⟩
      rintro v _ rfl
      exact .inr ⟨rfl, rfl⟩
  have hbodies := Noted.oblivious_sameWalk DirectNavigator.oblivious_turned
  have hreferees : Heedful (Minuted.SameMinutes : Minuted Tallies → Minuted Tallies → Prop) :=
    Minuted.heedful_sameMinutes
  have hstart : SideBySide Eq (Noted.SameWalk DirectNavigator.Turned) Minuted.SameMinutes g
      (g.withAgent 1) :=
    .handle (.create hg hg rfl ⟨rfl, rfl⟩ rfl) .refl (.single (.withAgent 1)) rfl ⟨rfl, rfl⟩ rfl
  have hseen := hstart.evaluate ⟨1, 0.5, 7⟩ ⟨5, 0.5, 9⟩ rfl
  have habreast := hseen.abreast hscene hbodies hreferees
  have hlost : SideBySide Eq (Noted.SameWalk DirectNavigator.Turned) Minuted.SameMinutes left
      right := by
    apply hseen.handle
    · exact .tail (.single (.mapPerception _)) (.mapNavigator _)
    · exact .tail (.single (.mapPerception _)) (.mapNavigator _)
    · rfl
    · exact ⟨habreast.navigator.1.step 0.5, habreast.navigator.2⟩
    · exact habreast.referee
  refine ⟨chance_only_looks_around hscene DirectNavigator.oblivious_turned hlost rfl, ?_⟩
  obtain ⟨-, rfl⟩ := create_eq_ok.1 hg
  decide +kernel

end Guard
end Guardhouse
