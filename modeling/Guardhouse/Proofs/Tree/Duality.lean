import Guardhouse.Proofs.Tree.Correspondence

/-!
# Selectors and sequences are dual

A selector under an inverter does what a sequence does whose children are under inverters, and the
other way round. As a law of steps this holds whatever the steps do to their state
(`Composite.Dual.run_map_invert`): where one composite stops, so does the other. Trees inherit it
(`Shape.de_morgan`), with arbitrary subtrees as children, although the two trees have different
numbers of nodes.
-/

namespace Guardhouse

/-! ### Steps -/

section Steps

variable {S : Type}

/-- Does what a step does, and exchanges success and failure. -/
def Step.invert (f : Step S) : Step S := fun s => ((f s).1.invert, (f s).2)

@[simp] theorem Step.invert_invert (f : Step S) : f.invert.invert = f := by
  funext s
  simp [Step.invert]

namespace Composite

/-- The composites that an inverter exchanges. -/
inductive Dual : Composite → Composite → Prop
  | selector : Dual .selector .sequence
  | sequence : Dual .sequence .selector

/-- A sequence of inverted steps goes on exactly where a selector of the steps does. -/
theorem inSequence_map_invert (fs : List (Step S)) :
    inSequence (fs.map Step.invert) = (select fs).invert := by
  funext s
  induction fs generalizing s with
  | nil => rfl
  | cons f fs ih =>
    simp only [List.map_cons, inSequence, select, Step.invert]
    rcases f s with ⟨_ | _ | _, s'⟩
    · rfl
    · exact ih s'
    · rfl

theorem select_map_invert (fs : List (Step S)) :
    select (fs.map Step.invert) = (inSequence fs).invert := by
  have h := inSequence_map_invert (fs.map Step.invert)
  rw [List.map_map] at h
  have hmap : Step.invert ∘ Step.invert = (id : Step S → Step S) := funext Step.invert_invert
  rw [hmap, List.map_id] at h
  rw [h, Step.invert_invert]

/-- De Morgan's law of steps. -/
theorem Dual.run_map_invert {rule rule' : Composite} (h : Dual rule rule') (fs : List (Step S)) :
    rule'.run (fs.map Step.invert) = (rule.run fs).invert := by
  cases h with
  | selector => exact inSequence_map_invert fs
  | sequence => exact select_map_invert fs

end Composite
end Steps

/-! ### Inverters in a plan -/

variable {C σ : Type} {p q : Plan C σ} {m : Nat → Nat → Prop} {i k : Nat}

theorem Plan.evaluate_inverter {name : String} {c : Nat}
    (hn : p.node? i = some ⟨name, .decorator .inverter (some c)⟩) (s : Evaluation C σ p.size) :
    p.evaluate i s = Step.invert (p.evaluate c) (s.enter i) := by
  rw [Plan.evaluate_decorator hn]
  rfl

/-- Inverted steps correspond. -/
theorem Step.Corresponds.invert {f : Step (Evaluation C σ p.size)}
    {g : Step (Evaluation C σ q.size)} (h : Step.Corresponds p q m f g) :
    Step.Corresponds p q m f.invert g.invert :=
  Tracks.map h Status.invert

/-- An inverter does what its child does, inverted. -/
theorem Step.Corresponds.inverter {name : String} {d : Nat} {f : Step (Evaluation C σ p.size)}
    (h : Step.Corresponds p q m f (q.evaluate d))
    (hn : q.node? k = some ⟨name, .decorator .inverter (some d)⟩) :
    Step.Corresponds p q m f.invert (q.evaluate k) := by
  apply Step.Corresponds.of_forall
  intro s s' hs
  rw [Plan.evaluate_inverter hn]
  exact h.invert.apply (hs.enter_right (Plan.isLeaf_of_decorator hn))

namespace Shape

/-- A shape under an inverter, which has a name. -/
def inverted (t : String × Shape Unit C σ) : Shape Unit C σ := .decorator () t.1 .inverter t.2

/-- The children of inverters are what is inverted. -/
theorem AllAt.of_inverted {children : List (String × Shape Unit C σ)} {ds : List Nat}
    (h : AllAt q (fun _ => ()) (children.map inverted) ds) :
    AllAt q (fun _ => ()) (children.map Prod.snd) (ds.flatMap q.children) ∧
      List.Forall₂ (fun e d => ∃ name, q.node? d = some ⟨name, .decorator .inverter (some e)⟩)
        (ds.flatMap q.children) ds := by
  induction children generalizing ds with
  | nil =>
    cases allAt_nil.1 h
    exact ⟨allAt_nil.2 rfl, .nil⟩
  | cons t children ih =>
    obtain ⟨d, ds, rfl, hd, hds⟩ := allAt_cons.1 h
    obtain ⟨hlies, hinverters⟩ := ih hds
    rw [inverted, At] at hd
    obtain ⟨e, hn, -, he⟩ := hd
    have hchildren : (d :: ds).flatMap q.children = e :: ds.flatMap q.children := by
      rw [List.flatMap_cons, Plan.children_of_node? hn]
      rfl
    rw [hchildren]
    exact ⟨allAt_cons.2 ⟨e, _, rfl, he, hlies⟩, .cons ⟨_, hn⟩ hinverters⟩

/-- The parts of an inverted composite are two levels below its inverter. -/
theorem LiesAt.of_inverted_composite {rule : Composite} {a b : String}
    {parts : List (Shape Unit C σ)} (hroot : p.root = some i)
    (h : (decorator () a .inverter (.composite () b rule parts)).LiesAt p i) :
    ∃ c, p.node? i = some ⟨a, .decorator .inverter (some c)⟩ ∧
      p.node? c = some ⟨b, .composite rule (Plan.generation 2 p)⟩ ∧
      AllAt p (fun _ => ()) parts (Plan.generation 2 p) := by
  rw [LiesAt, At] at h
  obtain ⟨c, hn, -, hc⟩ := h
  rw [At] at hc
  obtain ⟨cs, hnc, -, hcs⟩ := hc
  have hgeneration : Plan.generation 2 p = cs := by
    simp [Plan.generation, hroot, Plan.children_of_node? hn, Plan.children_of_node? hnc,
      Node.children, Node.Kind.children]
  rw [hgeneration]
  exact ⟨c, hn, hnc, hcs⟩

/-- A composite at the root has its children one level below. -/
theorem LiesAt.of_composite {rule : Composite} {a : String} {parts : List (Shape Unit C σ)}
    (hroot : p.root = some i) (h : (composite () a rule parts).LiesAt p i) :
    p.node? i = some ⟨a, .composite rule (Plan.generation 1 p)⟩ ∧
      AllAt p (fun _ => ()) parts (Plan.generation 1 p) := by
  rw [LiesAt, At] at h
  obtain ⟨cs, hn, -, hcs⟩ := h
  have hgeneration : Plan.generation 1 p = cs := by
    simp [Plan.generation, hroot, Plan.children_of_node? hn, Node.children, Node.Kind.children]
  rw [hgeneration]
  exact ⟨hn, hcs⟩

theorem LiesAt.of_inverted_twice {a b : String} {t : Shape Unit C σ} (hroot : p.root = some i)
    (h : (decorator () a .inverter (.decorator () b .inverter t)).LiesAt p i) :
    ∃ c e, p.node? i = some ⟨a, .decorator .inverter (some c)⟩ ∧
      p.node? c = some ⟨b, .decorator .inverter (some e)⟩ ∧ t.LiesAt p e ∧
      Plan.generation 2 p = [e] := by
  rw [LiesAt, At] at h
  obtain ⟨c, hn, -, hc⟩ := h
  rw [At] at hc
  obtain ⟨e, hnc, -, he⟩ := hc
  refine ⟨c, e, hn, hnc, he, ?_⟩
  simp [Plan.generation, hroot, Plan.children_of_node? hn, Plan.children_of_node? hnc,
    Node.children, Node.Kind.children]

theorem allAt_single {t : Shape Unit C σ} : AllAt p (fun _ => ()) [t] [i] ↔ t.LiesAt p i := by
  rw [allAt_iff, List.forall₂_cons, and_iff_left .nil]

/-- An inverter over a composite does what the dual composite does over inverters. -/
theorem AllAt.corresponds_dual {rule rule' : Composite} (h : rule.Dual rule')
    (hunique : Relator.BiUnique m) {children : List (String × Shape Unit C σ)} {cs ds : List Nat}
    (hlies : AllAt p (fun _ => ()) (children.map Prod.snd) cs)
    (hlies' : AllAt q (fun _ => ()) (children.map inverted) ds)
    (hm : List.Forall₂ m (cs.flatMap p.preorder) ((ds.flatMap q.children).flatMap q.preorder)) :
    Step.Corresponds p q m (rule.run (cs.map p.evaluate)).invert
      (rule'.run (ds.map q.evaluate)) := by
  obtain ⟨hbelow, hinverters⟩ := hlies'.of_inverted
  have hparts := hlies.corresponds hunique hbelow hm
  rw [List.forall₂_map_left_iff, List.forall₂_map_right_iff] at hparts
  -- each child on the left belongs to the inverter on the right that has the same part below it
  have hchildren : List.Forall₂ (Step.Corresponds p q m) ((cs.map p.evaluate).map Step.invert)
      (ds.map q.evaluate) := by
    rw [List.forall₂_map_left_iff, List.forall₂_map_left_iff, List.forall₂_map_right_iff]
    refine (forall₂_join hparts.flip hinverters).imp ?_
    rintro c d ⟨e, -, hce, name, hn⟩
    exact Step.Corresponds.inverter hce hn
  rw [← h.run_map_invert]
  exact rule'.tracks hchildren

/-- An inverter over a composite and the dual composite over inverters can be interchanged. -/
theorem interchangeable_dual {rule rule' : Composite} (h : rule.Dual rule') (a b d : String)
    (children : List (String × Shape Unit C σ)) :
    Interchangeable (children.map Prod.snd)
      (.decorator () a .inverter (.composite () b rule (children.map Prod.snd)))
      (Plan.generation 2)
      (.composite () d rule' (children.map inverted)) (Plan.generation 2) := by
  obtain ⟨hroot, hat⟩ := at_ofLines
    (.decorator () a .inverter (.composite () b rule (children.map Prod.snd)))
  obtain ⟨hroot', hat'⟩ := at_ofLines (.composite () d rule' (children.map inverted))
  obtain ⟨c, hn, hnc, hlies⟩ := hat.of_inverted_composite hroot
  obtain ⟨hn', hds⟩ := hat'.of_composite hroot'
  apply interchangeable hlies hds.of_inverted.1
  · exact (Plan.layout_ofLines _).1.nodup_generation 2
  · exact (Plan.layout_ofLines _).1.nodup_generation 2
  · intro m hunique hm
    apply Step.Corresponds.of_forall
    intro s s' hs
    have hentered : Evaluation.Corresponds _ _ m ((s.enter 0).enter c) (s'.enter 0) :=
      ((hs.enter_left (Plan.isLeaf_of_decorator hn)).enter_left
        (Plan.isLeaf_of_composite hnc)).enter_right (Plan.isLeaf_of_composite hn')
    have hdual := (hlies.corresponds_dual h hunique hds hm).apply hentered
    rw [Plan.evaluate_inverter hn, Step.invert, Plan.evaluate_composite hnc,
      Plan.evaluate_composite hn']
    exact hdual

/-- Two inverters can be left out. -/
theorem interchangeable_inverters (a b : String) (t : Shape Unit C σ) :
    Interchangeable [t] (.decorator () a .inverter (.decorator () b .inverter t))
      (Plan.generation 2) t (Plan.generation 0) := by
  obtain ⟨hroot, hat⟩ := at_ofLines (.decorator () a .inverter (.decorator () b .inverter t))
  obtain ⟨hroot', hat'⟩ := t.at_ofLines
  obtain ⟨c, e, hn, hnc, hlies, hgeneration⟩ := hat.of_inverted_twice hroot
  have hgeneration' : Plan.generation 0 t.plan = [0] := by rw [Plan.generation, hroot']; rfl
  apply interchangeable
  · rw [hgeneration]
    exact allAt_single.2 hlies
  · rw [hgeneration']
    exact allAt_single.2 hat'
  · exact (Plan.layout_ofLines _).1.nodup_generation 2
  · exact (Plan.layout_ofLines _).1.nodup_generation 0
  · intro m hunique hm
    rw [hgeneration, hgeneration'] at hm
    simp only [List.flatMap_singleton] at hm
    apply Step.Corresponds.of_forall
    intro s s' hs
    have hentered : Evaluation.Corresponds _ _ m ((s.enter 0).enter c) s' :=
      (hs.enter_left (Plan.isLeaf_of_decorator hn)).enter_left (Plan.isLeaf_of_decorator hnc)
    have hsame := (LiesAt.corresponds hunique hlies hat' hm).apply hentered
    rw [Plan.evaluate_inverter hn, Step.invert, Plan.evaluate_inverter hnc, Step.invert,
      Status.invert_invert]
    exact hsame

/-- De Morgan's laws of trees. An inverter over a selector can be interchanged with a sequence of
inverters over the same subtrees, an inverter over a sequence with a selector of inverters, and two
inverters over a subtree with the subtree itself, whatever the subtrees are. These begin two levels
below the root, and a subtree without inverters begins at the root. -/
theorem de_morgan (a b d : String) (children : List (String × Shape Unit C σ))
    (t : Shape Unit C σ) :
    Interchangeable (children.map Prod.snd)
        (.decorator () a .inverter (.composite () b .selector (children.map Prod.snd)))
        (Plan.generation 2)
        (.composite () d .sequence (children.map inverted)) (Plan.generation 2) ∧
      Interchangeable (children.map Prod.snd)
        (.decorator () a .inverter (.composite () b .sequence (children.map Prod.snd)))
        (Plan.generation 2)
        (.composite () d .selector (children.map inverted)) (Plan.generation 2) ∧
      Interchangeable [t] (.decorator () a .inverter (.decorator () b .inverter t))
        (Plan.generation 2) t (Plan.generation 0) :=
  ⟨interchangeable_dual .selector a b d children, interchangeable_dual .sequence a b d children,
    interchangeable_inverters a b t⟩

end Shape
end Guardhouse
