import Guardhouse.Proofs.Guard.Answers

/-!
# What a guard sees in a frame

`Guard.answers` lists the answers that a guard is given in a frame. It sees a `Scene` in that frame
if none of the answers contradicts the scene (`Guard.Sees`); how the perception would have gone on
answering does not matter. A guard that sees a scene cannot tell its perception from the scene
itself (`Guard.Sees.decision_eq`).
-/

namespace Guardhouse

/-- Whether the target is perceived, and where it is. As a perception it never changes. -/
structure Scene where
  seen : Bool
  target : Option Vec3

instance : Perception Scene where
  canPerceiveTarget v := (v.seen, v)
  targetPosition v := (v.target, v)

/-- An answer of a perception. -/
inductive Answer where
  | perceived (seen : Bool)
  | position (target : Option Vec3)

/-- The answer says what the scene shows. -/
def Answer.Fits (v : Scene) : Answer → Prop
  | perceived seen => seen = v.seen
  | position target => target = v.target

/-- A perception that notes its answers, the latest first. -/
structure Watched (P : Type) where
  perception : P
  answers : List Answer := []

namespace Watched

variable {P : Type} [Perception P]

instance : Perception (Watched P) where
  canPerceiveTarget w :=
    let (seen, perception) := Perception.canPerceiveTarget w.perception
    (seen, ⟨perception, .perceived seen :: w.answers⟩)
  targetPosition w :=
    let (target, perception) := Perception.targetPosition w.perception
    (target, ⟨perception, .position target :: w.answers⟩)

/-- Watching a perception does not change its answers. -/
theorem mimics : Mimics (fun _ : Watched P => False) (fun w p => w.perception = p) where
  perceives := by
    refine ⟨fun _ h => h, ?_⟩
    rintro w _ rfl
    exact .inr ⟨rfl, rfl⟩
  position := by
    refine ⟨fun _ h => h, ?_⟩
    rintro w _ rfl
    exact .inr ⟨rfl, rfl⟩

/-- A perception is like a scene until it gives an answer that does not fit. -/
theorem mimics_scene (v : Scene) :
    Mimics (fun w : Watched P => ∃ a ∈ w.answers, ¬a.Fits v) (fun _ v' => v' = v) where
  perceives := by
    refine ⟨fun w ⟨a, ha, hv⟩ => ⟨a, .tail _ ha, hv⟩, fun w v' hv => ?_⟩
    rw [hv]
    by_cases h : (Perception.canPerceiveTarget w.perception).1 = v.seen
    · exact .inr ⟨h, rfl⟩
    · exact .inl ⟨_, .head _, h⟩
  position := by
    refine ⟨fun w ⟨a, ha, hv⟩ => ⟨a, .tail _ ha, hv⟩, fun w v' hv => ?_⟩
    rw [hv]
    by_cases h : (Perception.targetPosition w.perception).1 = v.target
    · exact .inr ⟨h, rfl⟩
    · exact .inl ⟨_, .head _, h⟩

/-- A perception that returns itself is like the scene that it shows. -/
theorem mimics_of_still {p : P} {v : Scene} (hseen : Perception.canPerceiveTarget p = (v.seen, p))
    (htarget : Perception.targetPosition p = (v.target, p)) :
    Mimics (fun _ : Watched P => False)
      (fun w v' => v' = v ∧ w.perception = p ∧ ∀ a ∈ w.answers, a.Fits v) where
  perceives := by
    refine ⟨fun _ h => h, ?_⟩
    rintro ⟨_, answers⟩ v' ⟨hv, rfl, hfits⟩
    right
    rw [hv]
    refine ⟨congrArg Prod.fst hseen, rfl, congrArg Prod.snd hseen, ?_⟩
    exact List.forall_mem_cons.2 ⟨congrArg Prod.fst hseen, hfits⟩
  position := by
    refine ⟨fun _ h => h, ?_⟩
    rintro ⟨_, answers⟩ v' ⟨hv, rfl, hfits⟩
    right
    rw [hv]
    refine ⟨congrArg Prod.fst htarget, rfl, congrArg Prod.snd htarget, ?_⟩
    exact List.forall_mem_cons.2 ⟨congrArg Prod.fst htarget, hfits⟩

end Watched

namespace Guard

variable {P N R T : Type} [Perception P] [Navigator N] [Referee R]

/-- The answers that the guard is given when it is evaluated for a frame, the latest first: its
tree, which remembers nothing, asks a perception that notes what it answers. -/
def answers (g : Guard P N R T) (frame : Frame) : List Answer :=
  let watched : Watched P := { perception := g.context.perception }
  let o := Context.pursuit.evaluate ((g.context.withPerception watched).begin frame)
  o.context.perception.answers

/-- All that the guard is told in a frame fits the scene. -/
def Sees (g : Guard P N R T) (frame : Frame) (v : Scene) : Prop := ∀ a ∈ g.answers frame, a.Fits v

/-- The answers that the guard is given in a frame do not change. -/
def Steady (g : Guard P N R T) (frame : Frame) : Prop := ∃ v, g.Sees frame v

variable {g : Guard P N R T} {frame : Frame} {v : Scene}

theorem answers_eq (g : Guard P N R T) (frame : Frame) :
    g.answers frame = (Context.decision ((g.context.withPerception
      (Watched.mk g.context.perception [])).begin frame)).2.perception.answers := by
  have htree := Tree.evaluate_of_forgetful Context.forgetful_pursuitShape Context.plan_pursuit
    ((g.context.withPerception (Watched.mk g.context.perception [])).begin frame)
  rw [Context.react_pursuitShape] at htree
  unfold answers Tree.evaluate
  rw [htree.1]
  exact congrArg (fun o => o.2.perception.answers) htree.2

/-- Watching its perception does not change what a guard does. -/
theorem decision_watched (g : Guard P N R T) (frame : Frame) :
    ∃ p, (Context.decision (g.context.begin frame)).2 =
      (Context.decision ((g.context.withPerception
        (Watched.mk g.context.perception [])).begin frame)).2.withPerception p := by
  have hplain := (Context.agree_decision (N := N) (R := R) Watched.mimics).step
    ((g.context.withPerception (Watched.mk g.context.perception [])).begin frame)
    (g.context.begin frame) ⟨g.context.perception, rfl, rfl⟩
  obtain ⟨-, p, hp, -⟩ := hplain.resolve_left id
  exact ⟨p, hp⟩

/-- A guard that sees a scene does what it would do if the scene were its perception. -/
theorem Sees.decision_eq (h : g.Sees frame v) :
    (Context.decision ((g.context.withPerception v).begin frame)).2 =
      (Context.decision (g.context.begin frame)).2.withPerception v := by
  unfold Sees at h
  rw [answers_eq] at h
  obtain ⟨p, hp⟩ := decision_watched g frame
  have hscene := (Context.agree_decision (N := N) (R := R) (Watched.mimics_scene v)).step
    ((g.context.withPerception (Watched.mk g.context.perception [])).begin frame)
    ((g.context.withPerception v).begin frame) ⟨v, rfl, rfl⟩
  -- the only way to differ from the scene is an answer that does not fit it
  rcases hscene with ⟨a, ha, hv⟩ | ⟨-, v', hv, rfl⟩
  · exact absurd (h a ha) hv
  · rw [hv, hp]
    rfl

/-- A guard whose perception returns itself sees what that answers. -/
theorem sees_of_still
    (hseen : Perception.canPerceiveTarget g.context.perception = (v.seen, g.context.perception))
    (htarget : Perception.targetPosition g.context.perception = (v.target, g.context.perception)) :
    g.Sees frame v := by
  unfold Sees
  rw [answers_eq]
  have hscene := (Context.agree_decision (N := N) (R := R)
    (Watched.mimics_of_still hseen htarget)).step
    ((g.context.withPerception (Watched.mk g.context.perception [])).begin frame)
    ((g.context.withPerception v).begin frame)
    ⟨v, rfl, rfl, rfl, fun _ h => absurd h List.not_mem_nil⟩
  obtain ⟨-, v', -, -, -, hfits⟩ := hscene.resolve_left id
  exact hfits

/-- A perception that returns itself stays as it is, whatever a guard asks it. -/
theorem perception_decision_of_still {p : P} (hseen : (Perception.canPerceiveTarget p).2 = p)
    (htarget : (Perception.targetPosition p).2 = p) {c : Context P N R} (hc : c.perception = p) :
    (Context.decision c).2.perception = p := by
  have hstays : Mimics (fun q : P => q = p) (fun (_ _ : P) => False) := by
    constructor
    case perceives => exact ⟨fun q hq => hq.symm ▸ hseen, fun _ _ h => h.elim⟩
    case position => exact ⟨fun q hq => hq.symm ▸ htarget, fun _ _ h => h.elim⟩
  exact (Context.agree_decision (N := N) (R := R) hstays).stays c hc

end Guard
end Guardhouse
