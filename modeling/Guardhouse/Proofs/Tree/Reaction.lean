import Guardhouse.Proofs.Tree.Written

/-!
# Trees that remember nothing

A tree without repeaters and waits whose leaves keep nothing for themselves does the same to equal
contexts, whenever it is evaluated. `Shape.react` is what it does; an arena in which it lies does
nothing else (`Shape.At.reacts`).

`Tracks` relates two steps that do the same, as far as a relation between their states goes, until
something bad happens. Composites keep it (`Composite.tracks`).
-/

namespace Guardhouse

/-! ### Steps -/

section Steps

variable {S : Type}

namespace Step

/-- Succeeds if the answer to a question is yes. -/
def ask (test : S → Bool × S) : Step S := fun s => (.ofBool (test s).1, (test s).2)

/-- Acts and succeeds. -/
def perform (f : S → S) : Step S := fun s => (.success, f s)

end Step

namespace Composite

theorem inSequence_ask (test : S → Bool × S) (rest : List (Step S)) (s : S) :
    inSequence (.ask test :: rest) s =
      if (test s).1 then inSequence rest (test s).2 else (.failure, (test s).2) := by
  rw [inSequence, Step.ask]
  cases (test s).1 <;> rfl

theorem inSequence_perform (f : S → S) (rest : List (Step S)) (s : S) :
    inSequence (.perform f :: rest) s = inSequence rest (f s) := rfl

theorem inSequence_single (step : Step S) (s : S) : inSequence [step] s = step s := by
  rw [inSequence]
  rcases step s with ⟨_ | _ | _, s⟩ <;> rfl

theorem select_of_failed {step : Step S} {rest : List (Step S)} {s s' : S}
    (h : step s = (.failure, s')) : select (step :: rest) s = select rest s' := by
  rw [select, h]

theorem select_of_decided {step : Step S} {rest : List (Step S)} {s : S}
    (h : (step s).1 ≠ .failure) : select (step :: rest) s = step s := by
  rw [select]
  rcases hstep : step s with ⟨_ | _ | _, s'⟩
  · rfl
  · exact absurd (congrArg Prod.fst hstep) h
  · rfl

theorem snd_select_single (step : Step S) (s : S) : (select [step] s).2 = (step s).2 := by
  rw [select]
  rcases step s with ⟨_ | _ | _, s⟩ <;> rfl

/-- A parallel that requires both of its children goes by the first if the second succeeds. -/
theorem inParallel_two {first second : Step S} {s : S}
    (h : (second (first s).2).1 = .success) :
    inParallel 2 [first, second] s = ((first s).1, (second (first s).2).2) := by
  simp only [inParallel, tally]
  rw [h]
  cases (first s).1 <;> rfl

end Composite
end Steps

/-! ### Steps that do the same -/

section Tracks

variable {S S' A B : Type}

/-- `f` answers and does to a state what `g` does to a related one, or something bad happens, for
good. -/
structure Tracks (bad : S → Prop) (r : S → S' → Prop) (f : S → A × S) (g : S' → A × S') :
    Prop where
  stays : ∀ s, bad s → bad (f s).2
  step : ∀ s s', r s s' → bad (f s).2 ∨ (f s).1 = (g s').1 ∧ r (f s).2 (g s').2

variable {bad : S → Prop} {r : S → S' → Prop}

/-- One after the other, where the second may depend on the answer of the first. -/
theorem Tracks.bind {f : S → A × S} {g : S' → A × S'} {k : A → S → B × S} {l : A → S' → B × S'}
    (h : Tracks bad r f g) (hk : ∀ a, Tracks bad r (k a) (l a)) :
    Tracks bad r (fun s => k (f s).1 (f s).2) (fun s' => l (g s').1 (g s').2) := by
  refine ⟨fun s hs => (hk _).stays _ (h.stays s hs), fun s s' hr => ?_⟩
  rcases h.step s s' hr with hbad | ⟨hanswer, hr⟩
  · exact .inl ((hk _).stays _ hbad)
  · show bad (k _ _).2 ∨ (k _ _).1 = (l (g s').1 _).1 ∧ r _ (l (g s').1 _).2
    rw [← hanswer]
    exact (hk _).step _ _ hr

theorem Tracks.map {f : S → A × S} {g : S' → A × S'} (h : Tracks bad r f g) (m : A → B) :
    Tracks bad r (fun s => (m (f s).1, (f s).2)) (fun s' => (m (g s').1, (g s').2)) :=
  h.bind (k := fun a s => (m a, s)) (l := fun a s' => (m a, s'))
    fun _ => ⟨fun _ h => h, fun _ _ hr => .inr ⟨rfl, hr⟩⟩

theorem Tracks.ite {f f' : S → A × S} {g g' : S' → A × S'} {b : S → Prop} {d : S' → Prop}
    [DecidablePred b] [DecidablePred d] (hb : ∀ s s', r s s' → (b s ↔ d s'))
    (h : Tracks bad r f g) (h' : Tracks bad r f' g') :
    Tracks bad r (fun s => if b s then f s else f' s) (fun s' => if d s' then g s' else g' s') := by
  refine ⟨fun s hs => ?_, fun s s' hr => ?_⟩
  · by_cases hs' : b s
    · simpa only [if_pos hs'] using h.stays s hs
    · simpa only [if_neg hs'] using h'.stays s hs
  · by_cases hs' : b s
    · simpa only [if_pos hs', if_pos ((hb s s' hr).1 hs')] using h.step s s' hr
    · simpa only [if_neg hs', if_neg (mt (hb s s' hr).2 hs')] using h'.step s s' hr

namespace Composite

variable {fs : List (Step S)} {gs : List (Step S')}

theorem collect_keeps (stops : Status → Bool) {kept : S → Prop}
    (h : ∀ f ∈ fs, ∀ s, kept s → kept (f s).2) (s : S) (hs : kept s) :
    kept (collect stops fs s).2 := by
  induction fs generalizing s with
  | nil => exact hs
  | cons f fs ih =>
    have hf := h f (.head _) s hs
    simp only [collect]
    split
    · exact hf
    · exact ih (fun g hg => h g (.tail _ hg)) _ hf

/-- A composite keeps what its children keep. -/
theorem keeps (rule : Composite) {kept : S → Prop} (h : ∀ f ∈ fs, ∀ s, kept s → kept (f s).2)
    (s : S) (hs : kept s) : kept (rule.run fs s).2 := by
  rw [run_eq]
  exact collect_keeps rule.stops h s hs

theorem stays_of_tracks (h : List.Forall₂ (Tracks bad r) fs gs) :
    ∀ f ∈ fs, ∀ s, bad s → bad (f s).2 := by
  induction h with
  | nil => exact fun f hf => absurd hf List.not_mem_nil
  | cons hf _ ih => exact List.forall_mem_cons.2 ⟨hf.stays, ih⟩

theorem collect_tracks (stops : Status → Bool) (h : List.Forall₂ (Tracks bad r) fs gs) {s : S}
    {s' : S'} (hr : r s s') :
    bad (collect stops fs s).2 ∨ (collect stops fs s).1 = (collect stops gs s').1 ∧
      r (collect stops fs s).2 (collect stops gs s').2 := by
  induction h generalizing s s' with
  | nil => exact .inr ⟨rfl, hr⟩
  | @cons f g fs gs hf hfs ih =>
    simp only [collect]
    rcases hf.step s s' hr with hbad | ⟨hstatus, hr⟩
    · -- the statuses may differ now, but what is bad stays bad
      left
      split
      · exact hbad
      · exact collect_keeps stops (stays_of_tracks hfs) _ hbad
    · rw [hstatus]
      split
      · exact .inr ⟨rfl, hr⟩
      · rcases ih hr with hbad | ⟨hstatuses, hr⟩
        · exact .inl hbad
        · exact .inr ⟨by rw [hstatuses], hr⟩

/-- A composite does the same as long as its children do. -/
theorem tracks (rule : Composite) (h : List.Forall₂ (Tracks bad r) fs gs) :
    Tracks bad r (rule.run fs) (rule.run gs) := by
  refine ⟨rule.keeps (stays_of_tracks h), fun s s' hr => ?_⟩
  rw [run_eq, run_eq]
  rcases collect_tracks rule.stops h hr with hbad | ⟨hstatuses, hr⟩
  · exact .inl hbad
  · exact .inr ⟨congrArg rule.judge hstatuses, hr⟩

end Composite
end Tracks

/-! ### Reactions -/

variable {α C : Type}

/-- What a leaf does to the context if it keeps nothing for itself. A wait does nothing. -/
def Leaf.react (action : Leaf C Unit) : Step C := fun c =>
  match action with
  | .condition test => (.ofBool (test c).1, (test c).2)
  | .action start act => ((act c start).1, (act c start).2.1)
  | .perform start act => (.success, (act c start).1)
  | .wait _ _ => (.failure, c)

namespace Shape

mutual

/-- What a shape does to the context if its nodes remember nothing. -/
def react : Shape α C Unit → Step C
  | .leaf _ _ action => action.react
  | .bare _ _ _ => fun c => (.failure, c)
  | .decorator _ _ rule child => fun c => (rule.respond (child.react c).1, (child.react c).2)
  | .composite _ _ rule children => rule.run (reactAll children)

/-- What the shapes do, each on its own. -/
def reactAll : List (Shape α C Unit) → List (Step C)
  | [] => []
  | t :: ts => t.react :: reactAll ts

end

theorem reactAll_eq_map (ts : List (Shape α C Unit)) : reactAll ts = ts.map react := by
  induction ts with
  | nil => rfl
  | cons t ts ih => rw [reactAll, ih, List.map_cons]

/-- No node of the shape is a repeater or a wait. -/
def Forgetful : Shape α C Unit → Prop
  | .leaf _ _ (.wait _ _) => False
  | .leaf _ _ _ => True
  | .bare _ _ _ => True
  | .decorator _ _ (.repeater _) _ => False
  | .decorator _ _ _ child => child.Forgetful
  | .composite _ _ _ children => ∀ t ∈ children, t.Forgetful

/-- An arena evaluates a forgetful shape that lies in it by reacting, whatever its cells hold. -/
theorem At.reacts {p : Plan C Unit} {mark : Nat → α} {t : Shape α C Unit} {i : Nat}
    (h : t.At p mark i) (hf : t.Forgetful) :
    Tracks (fun _ => False) (fun s c => s.context = c) (p.evaluate i) t.react := by
  refine ⟨fun _ h => h, ?_⟩
  rintro s _ rfl
  right
  induction t generalizing i s with
  | leaf m name action =>
    rw [At] at h
    rw [Plan.evaluate_leaf h.1, react, Leaf.evaluate_eq]
    cases action with
    | wait seconds clock =>
      rw [Forgetful] at hf
      exact hf.elim
    | _ => exact ⟨rfl, rfl⟩
  | bare m name rule =>
    rw [At] at h
    rw [Plan.evaluate_bare h.1, react]
    exact ⟨rfl, rfl⟩
  | decorator m name rule child ih =>
    rw [At] at h
    obtain ⟨c, hn, -, hc⟩ := h
    rw [Plan.evaluate_decorator hn, react]
    cases rule with
    | repeater count =>
      rw [Forgetful] at hf
      exact hf.elim
    | _ =>
      rw [Forgetful] at hf
      · obtain ⟨hstatus, hcontext⟩ := ih hc hf (s.enter i)
        simp only [Decorator.evaluate]
        exact ⟨congrArg (Decorator.respond _) hstatus, hcontext⟩
      · intro count h
        cases h
  | composite m name rule children ih =>
    rw [At] at h
    obtain ⟨cs, hn, -, hcs⟩ := h
    rw [Forgetful] at hf
    have hchildren : List.Forall₂ (Tracks (fun _ => False) fun s c => s.context = c)
        (cs.map p.evaluate) (reactAll children) := by
      rw [reactAll_eq_map, List.forall₂_map_left_iff, List.forall₂_map_right_iff]
      refine (hcs.forall₂ fun t ht c _ hat => ⟨fun _ h => h, ?_⟩).flip
      rintro s _ rfl
      exact .inr (ih t ht hat (hf t ht) s)
    rw [Plan.evaluate_composite hn, react]
    exact ((rule.tracks hchildren).step (s.enter i) _ rfl).resolve_left id

end Shape

theorem Tree.plan_ofLines {σ : Type} (lines : List (Line C σ)) :
    (Tree.ofLines lines).plan = .ofLines lines := rfl

/-- A tree that was outlined as a forgetful shape reacts, whatever its nodes remember. -/
theorem Tree.evaluate_of_forgetful {t : Shape Unit C Unit} (hf : t.Forgetful) {tree : Tree C Unit}
    (h : tree.plan = .ofLines t.lines) (c : C) :
    tree.plan.root = some 0 ∧
      ((tree.evaluateAt 0 c).status, (tree.evaluateAt 0 c).context) = t.react c := by
  obtain ⟨plan, cells⟩ := tree
  cases h
  obtain ⟨hroot, hat⟩ := t.at_ofLines
  have htracks := (hat.reacts hf).step { context := c, cells } c rfl
  obtain ⟨hstatus, hcontext⟩ := htracks.resolve_left id
  exact ⟨hroot, Prod.ext hstatus hcontext⟩

end Guardhouse
