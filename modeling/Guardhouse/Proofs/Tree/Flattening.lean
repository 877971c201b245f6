import Guardhouse.Proofs.Tree.Duality

/-!
# Nested composites can be flattened

A selector among the children of a selector does what its children would do in its place, and so
does a sequence among the children of a sequence: where the inner one comes to its end, the outer one
goes on, and where the inner one stops, the outer one stops with the same status. As a law of steps
this is `Composite.Dual.run_splice`. Trees inherit it (`Shape.flatten`): taking the inner composite
away and leaving its children where it was changes nothing but the numbers of the nodes.
-/

namespace Guardhouse

/-! ### Steps -/

namespace Composite

variable {S : Type}

/-- A selector at the front of a selector goes on with what is behind it. -/
theorem select_cons_select (gs hs : List (Step S)) : select (select gs :: hs) = select (gs ++ hs) := by
  funext s
  induction gs generalizing s with
  | nil => rfl
  | cons g gs ih =>
    simp only [select] at ih
    simp only [List.cons_append, select]
    rcases g s with ⟨_ | _ | _, s'⟩
    · rfl
    · exact ih s'
    · rfl

theorem select_splice (fs gs hs : List (Step S)) :
    select (fs ++ select gs :: hs) = select (fs ++ (gs ++ hs)) := by
  induction fs with
  | nil => exact select_cons_select gs hs
  | cons f fs ih =>
    funext s
    simp only [List.cons_append, select, ih]

/-- A sequence is a selector seen through inverters. -/
theorem inSequence_eq_invert (fs : List (Step S)) :
    inSequence fs = (select (fs.map Step.invert)).invert := by
  rw [select_map_invert, Step.invert_invert]

/-- The composites that have a dual take the children of one of their own kind as their own. -/
theorem Dual.run_splice {rule rule' : Composite} (h : Dual rule rule') (fs gs hs : List (Step S)) :
    rule.run (fs ++ rule.run gs :: hs) = rule.run (fs ++ (gs ++ hs)) := by
  cases h with
  | selector => exact select_splice fs gs hs
  | sequence =>
    show inSequence (fs ++ inSequence gs :: hs) = inSequence (fs ++ (gs ++ hs))
    rw [inSequence_eq_invert, List.map_append, List.map_cons, ← select_map_invert, select_splice,
      ← List.map_append, ← List.map_append, ← inSequence_eq_invert]

end Composite

variable {C σ : Type} {p q : Plan C σ} {m : Nat → Nat → Prop} {i k : Nat}

/-! ### Plans -/

namespace Plan

/-- The children of the root, where the one at place `n` is replaced by its own children. -/
def spliced (n : Nat) (p : Plan C σ) : List Nat :=
  (generation 1 p).take n ++
    ((generation 1 p)[n]?.toList.flatMap p.children ++ (generation 1 p).drop (n + 1))

/-- What is below the children of the root is met no more often if one is replaced by its own. -/
theorem Orderly.nodup_spliced (h : p.Orderly) (n : Nat) :
    ((spliced n p).flatMap p.preorder).Nodup := by
  have hsplit : generation 1 p = (generation 1 p).take n ++
      ((generation 1 p)[n]?.toList ++ (generation 1 p).drop (n + 1)) := by
    rw [← List.drop_eq_getElem?_toList_append, List.take_append_drop]
  have hnodup := h.nodup_generation 1
  rw [hsplit, List.flatMap_append, List.flatMap_append] at hnodup
  rw [spliced, List.flatMap_append, List.flatMap_append]
  refine hnodup.sublist (List.Sublist.append_left ?_ _)
  exact (p.sublist_children _).append_right _

end Plan

namespace Shape

/-- Shapes side by side lie where each of two parts of their list lies. -/
theorem allAt_append {ts us : List (Shape Unit C σ)} {cs : List Nat} :
    AllAt p (fun _ => ()) (ts ++ us) cs ↔
      ∃ ds es, cs = ds ++ es ∧ AllAt p (fun _ => ()) ts ds ∧ AllAt p (fun _ => ()) us es := by
  induction ts generalizing cs with
  | nil => simp
  | cons t ts ih =>
    simp only [List.cons_append, allAt_cons, ih]
    constructor
    · rintro ⟨c, rest, rfl, ht, ds, es, rfl, hts, hus⟩
      exact ⟨c :: ds, es, rfl, ⟨c, ds, rfl, ht, hts⟩, hus⟩
    · rintro ⟨ds, es, rfl, ⟨c, ds, rfl, ht, hts⟩, hus⟩
      exact ⟨c, ds ++ es, rfl, ht, ds, es, rfl, hts, hus⟩

theorem AllAt.length_eq {ts : List (Shape Unit C σ)} {cs : List Nat}
    (h : AllAt p (fun _ => ()) ts cs) : cs.length = ts.length := (allAt_iff.1 h).length_eq.symm

/-- The parts of nested composites are the children of the outer one, where those of the inner one
take its place. -/
theorem LiesAt.of_nested {rule : Composite} {a b : String} {xs ys zs : List (Shape Unit C σ)}
    (hroot : p.root = some i)
    (h : (composite () a rule (xs ++ composite () b rule ys :: zs)).LiesAt p i) :
    ∃ cs k ds es, p.node? i = some ⟨a, .composite rule (cs ++ k :: es)⟩ ∧
      p.node? k = some ⟨b, .composite rule ds⟩ ∧ AllAt p (fun _ => ()) xs cs ∧
      AllAt p (fun _ => ()) ys ds ∧ AllAt p (fun _ => ()) zs es ∧
      Plan.spliced xs.length p = cs ++ (ds ++ es) := by
  obtain ⟨hn, hlies⟩ := h.of_composite hroot
  obtain ⟨cs, rest, hcs, hxs, hrest⟩ := allAt_append.1 hlies
  obtain ⟨k, es, rfl, hk, hzs⟩ := allAt_cons.1 hrest
  rw [At] at hk
  obtain ⟨ds, hnk, -, hys⟩ := hk
  refine ⟨cs, k, ds, es, hcs ▸ hn, hnk, hxs, hys, hzs, ?_⟩
  rw [Plan.spliced, hcs, ← hxs.length_eq]
  simp [Plan.children_of_node? hnk, Node.children, Node.Kind.children]

/-- The children of a composite, among them a nested one of its kind, do together what they do
without it. -/
theorem corresponds_splice {rule rule' : Composite} (h : rule.Dual rule') {b : String}
    {cs ds es cs' ds' es' : List Nat} (hn : p.node? k = some ⟨b, .composite rule ds⟩)
    (hcs : List.Forall₂ (Step.Corresponds p q m) (cs.map p.evaluate) (cs'.map q.evaluate))
    (hds : List.Forall₂ (Step.Corresponds p q m) (ds.map p.evaluate) (ds'.map q.evaluate))
    (hes : List.Forall₂ (Step.Corresponds p q m) (es.map p.evaluate) (es'.map q.evaluate)) :
    Step.Corresponds p q m (rule.run ((cs ++ k :: es).map p.evaluate))
      (rule.run ((cs' ++ (ds' ++ es')).map q.evaluate)) := by
  have hnested : Step.Corresponds p q m (p.evaluate k) (rule.run (ds'.map q.evaluate)) := by
    apply Step.Corresponds.of_forall
    intro s s' hs
    rw [Plan.evaluate_composite hn]
    exact Step.Corresponds.apply (rule.tracks hds) (hs.enter_left (Plan.isLeaf_of_composite hn))
  rw [List.map_append, List.map_append, List.map_append, ← h.run_splice, List.map_cons]
  exact rule.tracks (List.rel_append hcs (.cons hnested hes))

/-- A composite over a nested one of its kind and the composite over all their children can be
interchanged. -/
theorem interchangeable_flat {rule rule' : Composite} (h : rule.Dual rule') (a b d : String)
    (xs ys zs : List (Shape Unit C σ)) :
    Interchangeable (xs ++ ys ++ zs)
      (.composite () a rule (xs ++ .composite () b rule ys :: zs)) (Plan.spliced xs.length)
      (.composite () d rule (xs ++ ys ++ zs)) (Plan.generation 1) := by
  rw [List.append_assoc]
  obtain ⟨hroot, hat⟩ := at_ofLines
    (.composite () a rule (xs ++ .composite () b rule ys :: zs))
  obtain ⟨hroot', hat'⟩ := at_ofLines (.composite () d rule (xs ++ (ys ++ zs)))
  obtain ⟨cs, k, ds, es, hn, hnk, hxs, hys, hzs, hspliced⟩ := hat.of_nested hroot
  obtain ⟨hn', hlies'⟩ := hat'.of_composite hroot'
  have hlies := allAt_append.2 ⟨cs, _, rfl, hxs, allAt_append.2 ⟨ds, es, rfl, hys, hzs⟩⟩
  apply interchangeable
  · rw [hspliced]
    exact hlies
  · exact hlies'
  · exact (Plan.layout_ofLines _).1.nodup_spliced xs.length
  · exact (Plan.layout_ofLines _).1.nodup_generation 1
  · intro m hunique hm
    rw [hspliced] at hm
    have hparts := hlies.corresponds hunique hlies' hm
    obtain ⟨cs', rest, hcs', hxs', hrest⟩ := allAt_append.1 hlies'
    obtain ⟨ds', es', rfl, hys', hzs'⟩ := allAt_append.1 hrest
    rw [hcs'] at hn' hparts
    simp only [List.map_append] at hparts
    obtain ⟨hcs, hparts⟩ := forall₂_append_inv (by simp [hxs.length_eq, hxs'.length_eq]) hparts
    obtain ⟨hds, hes⟩ := forall₂_append_inv (by simp [hys.length_eq, hys'.length_eq]) hparts
    apply Step.Corresponds.of_forall
    intro s s' hs
    rw [Plan.evaluate_composite hn, Plan.evaluate_composite hn']
    exact (corresponds_splice h hnk hcs hds hes).apply
      (hs.enter_inner (Plan.isLeaf_of_composite hn) (Plan.isLeaf_of_composite hn'))

/-- A selector under a selector, or a sequence under a sequence, can be interchanged with its
children, whatever stands before it, below it and behind it. -/
theorem flatten (a b d : String) (xs ys zs : List (Shape Unit C σ)) :
    Interchangeable (xs ++ ys ++ zs)
        (.composite () a .selector (xs ++ .composite () b .selector ys :: zs))
        (Plan.spliced xs.length)
        (.composite () d .selector (xs ++ ys ++ zs)) (Plan.generation 1) ∧
      Interchangeable (xs ++ ys ++ zs)
        (.composite () a .sequence (xs ++ .composite () b .sequence ys :: zs))
        (Plan.spliced xs.length)
        (.composite () d .sequence (xs ++ ys ++ zs)) (Plan.generation 1) :=
  ⟨interchangeable_flat .selector a b d xs ys zs, interchangeable_flat .sequence a b d xs ys zs⟩

end Shape
end Guardhouse
