import Guardhouse.Proofs.Tree.Written

/-!
# Every tree can be built

`Shape.lines` writes a shape down and `Tree.shape?` reads an arena. Writing any shape on a fresh
builder and reading what was built gives the shape back (`builds_every_shape`): the same nodes,
with their names, rules and actions, and the children of each in order. Nothing stays open.

A living tree carries marks that an outline does not have; `Shape.relabel` exchanges the marks.
-/

namespace Guardhouse

variable {α β C σ : Type}

namespace Shape

mutual

/-- The shape with other marks. -/
def relabel (f : α → β) : Shape α C σ → Shape β C σ
  | .leaf m name action => .leaf (f m) name action
  | .bare m name rule => .bare (f m) name rule
  | .decorator m name rule child => .decorator (f m) name rule (child.relabel f)
  | .composite m name rule children => .composite (f m) name rule (relabelAll f children)

/-- The shapes with other marks. -/
def relabelAll (f : α → β) : List (Shape α C σ) → List (Shape β C σ)
  | [] => []
  | t :: ts => t.relabel f :: relabelAll f ts

end

mutual

/-- The number of nodes of a shape. -/
def count : Shape α C σ → Nat
  | .leaf .. => 1
  | .bare .. => 1
  | .decorator _ _ _ child => child.count + 1
  | .composite _ _ _ children => countAll children + 1

/-- The number of nodes of shapes. -/
def countAll : List (Shape α C σ) → Nat
  | [] => 0
  | t :: ts => t.count + countAll ts

end

theorem relabelAll_eq_map (f : α → β) (ts : List (Shape α C σ)) :
    relabelAll f ts = ts.map (relabel f) := by
  induction ts with
  | nil => rw [relabelAll, List.map_nil]
  | cons t ts ih => rw [relabelAll, ih, List.map_cons]

/-- Where a shape lies does not depend on how the nodes are marked. -/
theorem At.relabel {p : Plan C σ} {mark : Nat → α} {t : Shape α C σ} {i : Nat} (f : α → β)
    (h : t.At p mark i) : (t.relabel f).At p (fun j => f (mark j)) i := by
  induction t generalizing i with
  | leaf m name action =>
    rw [At] at h
    rw [Shape.relabel, At]
    exact ⟨h.1, congrArg f h.2⟩
  | bare m name rule =>
    rw [At] at h
    rw [Shape.relabel, At]
    exact ⟨h.1, congrArg f h.2⟩
  | decorator m name rule child ih =>
    rw [At] at h
    obtain ⟨c, hn, hm, hc⟩ := h
    rw [Shape.relabel, At]
    exact ⟨c, hn, congrArg f hm, ih hc⟩
  | composite m name rule children ih =>
    rw [At] at h
    obtain ⟨cs, hn, hm, hcs⟩ := h
    have hchildren : AllAt p (fun j => f (mark j)) (children.map (Shape.relabel f)) cs := by
      rw [allAt_iff, List.forall₂_map_left_iff]
      exact hcs.forall₂ fun t ht c _ hat => ih t ht hat
    rw [Shape.relabel, At, relabelAll_eq_map]
    exact ⟨cs, hn, congrArg f hm, hchildren⟩

/-- The unfolding of an index at which a shape lies is the shape, up to marks. -/
theorem LiesAt.relabel_unfold {p : Plan C σ} {mark : Nat → α} {t : Shape Unit C σ} {i : Nat}
    (h : t.LiesAt p i) (hi : i < p.size) :
    (p.unfold mark i hi).relabel (fun _ => ()) = t := by
  have hat : (p.unfold mark i hi).At p mark i := Plan.unfold_at hi
  rw [← (hat.relabel fun _ => ()).unfold_eq hi]
  exact h.unfold_eq hi

/-- An outline has a line for every node. -/
theorem countP_lines (t : Shape Unit C σ) : t.lines.countP Line.isNode = t.count := by
  induction t with
  | leaf m name action => rw [lines, count]; rfl
  | bare m name rule => rw [lines, count]; rfl
  | decorator m name rule child ih =>
    rw [lines, count, List.countP_cons_of_pos rfl, ih]
  | composite m name rule children ih =>
    have hchildren : (linesAll children).countP Line.isNode = countAll children := by
      induction children with
      | nil => rw [linesAll, countAll, List.countP_nil]
      | cons t ts ihs =>
        rw [linesAll, countAll, List.countP_append, ih t (.head _),
          ihs fun t ht => ih t (.tail _ ht)]
    rw [lines, count, List.countP_cons_of_pos rfl, List.countP_append, hchildren]
    rfl

theorem size_ofLines (t : Shape Unit C σ) : (Plan.ofLines t.lines).size = t.count := by
  rw [Plan.size_ofLines, countP_lines]

/-- The root leads to all nodes that the outline of a shape builds, in the order of the arena. -/
theorem reachable_ofLines (t : Shape Unit C σ) :
    (Plan.ofLines t.lines).reachable = List.range t.count := by
  have hroot := t.at_ofLines.1
  have hpre : (Plan.ofLines t.lines).preorder 0 = List.range' 0 (Plan.ofLines t.lines).size :=
    (Plan.tidy_ofLines t.lines).preorder 0 hroot
  rw [Plan.reachable, hroot, Option.map_some, Option.getD_some, hpre, size_ofLines,
    List.range_eq_range']

/-- Every tree can be written: the outline of a shape closes all that it opens, and the tree that a
fresh builder makes of it unfolds to the shape, with the same names, rules, actions and order of
children. The arena holds the nodes of the shape, in preorder, and nothing else. -/
theorem builds_every_shape (t : Shape Unit C σ) :
    (Builder.empty.writeAll t.lines).depth = 0 ∧
      (Tree.ofLines t.lines).shape?.map (relabel fun _ => ()) = some t ∧
      (Tree.ofLines t.lines).plan.size = t.count ∧
      (Tree.ofLines t.lines).plan.reachable = List.range t.count := by
  obtain ⟨hroot, hat⟩ := t.at_ofLines
  have hslots : (Builder.empty.writeAll t.lines).slots = [] := by
    rw [(t.written Builder.empty).slots_eq]
    exact Builder.slots_add_of_nil _ rfl
  refine ⟨congrArg List.length hslots, ?_, t.size_ofLines, t.reachable_ofLines⟩
  rw [Tree.shape?_eq_some hroot hat.lt_size, Option.map_some]
  exact congrArg some (hat.relabel_unfold hat.lt_size)

end Shape
end Guardhouse
