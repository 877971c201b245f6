import Guardhouse.Proofs.Tree.Simulation

/-!
# Writing a shape down

`Shape.lines` is the well-nested outline of a shape. The plan that it builds has the shape at its
root (`Shape.at_ofLines`): writing a shape adds its nodes behind all others and leaves the builder
as adding a single node would (`Shape.written`).
-/

namespace Guardhouse

variable {C σ : Type}

namespace Builder

variable {b : Builder C σ}

theorem node?_add_of_cons {n : Node C σ} (hn : n.children = []) {slot : Slot} {rest : List Slot}
    (h : b.slots = slot :: rest) {i : Nat} (hi : i < b.plan.size) :
    (b.add n hn).plan.node? i =
      if i = slot.index then (b.plan.node? i).map (·.adopt b.plan.size) else b.plan.node? i := by
  rw [plan_add_of_cons hn h, Plan.node?_attach, Plan.node?_push, if_neg (Nat.ne_of_lt hi)]

theorem size_lt_add (n : Node C σ) (hn : n.children = []) :
    b.plan.size < (b.add n hn).plan.size := by
  rw [size_add]
  omega

theorem root_add_of_cons {n : Node C σ} (hn : n.children = []) {slot : Slot} {rest : List Slot}
    (h : b.slots = slot :: rest) : (b.add n hn).plan.root = b.plan.root := by
  rw [plan_add_of_cons hn h]
  rfl

end Builder

namespace Shape

mutual

/-- The outline of a shape: a composite closes itself behind its children, and a decorator where
there is no child. -/
def lines : Shape Unit C σ → List (Line C σ)
  | .leaf _ name action => [.leaf name action]
  | .bare _ name rule => [.decorator name rule, .close]
  | .decorator _ name rule child => .decorator name rule :: child.lines
  | .composite _ name rule children => .composite name rule :: (linesAll children ++ [.close])

/-- The outlines of shapes, one after the other. -/
def linesAll : List (Shape Unit C σ) → List (Line C σ)
  | [] => []
  | t :: ts => t.lines ++ linesAll ts

end

/-- The root of a shape without its children. -/
def head : Shape Unit C σ → Node C σ
  | .leaf _ name action => ⟨name, .leaf action⟩
  | .bare _ name rule => ⟨name, .decorator rule none⟩
  | .decorator _ name rule _ => ⟨name, .decorator rule none⟩
  | .composite _ name rule _ => ⟨name, .composite rule []⟩

theorem children_head (t : Shape Unit C σ) : t.head.children = [] := by cases t <;> rfl

/-- The shape lies in the plan, with its root at the index. -/
abbrev LiesAt (t : Shape Unit C σ) (p : Plan C σ) (i : Nat) : Prop := t.At p (fun _ => ()) i

/-- A shape stays where it is when nodes are added in front of it or behind it. -/
theorem At.mono {α : Type} {p q : Plan C σ} {mark : Nat → α} {t : Shape α C σ} {i : Nat}
    (h : t.At p mark i) (hpq : ∀ j, i ≤ j → j < p.size → q.node? j = p.node? j) :
    t.At q mark i := by
  induction t generalizing i with
  | leaf m name action =>
    have hi := hpq i (Nat.le_refl _) h.lt_size
    rw [At] at h ⊢
    rwa [hi]
  | bare m name rule =>
    have hi := hpq i (Nat.le_refl _) h.lt_size
    rw [At] at h ⊢
    rwa [hi]
  | decorator m name rule child ih =>
    have hi := hpq i (Nat.le_refl _) h.lt_size
    rw [At] at h ⊢
    obtain ⟨c, hn, hm, hc⟩ := h
    have hchild : c ∈ p.children i := by
      rw [Plan.children_of_node? hn]
      exact .head _
    have hlt := Plan.lt_of_mem_children hchild
    exact ⟨c, hi ▸ hn, hm, ih hc fun j hj => hpq j (by omega)⟩
  | composite m name rule children ih =>
    have hi := hpq i (Nat.le_refl _) h.lt_size
    rw [At] at h ⊢
    obtain ⟨cs, hn, hm, hcs⟩ := h
    refine ⟨cs, hi ▸ hn, hm, allAt_iff.2 (hcs.forall₂ fun t ht c hc hat => ?_)⟩
    have hchild : c ∈ p.children i := Plan.children_of_node? hn ▸ hc
    have hlt := Plan.lt_of_mem_children hchild
    exact ih t ht hat fun j hj => hpq j (by omega)

/-- `b'` is `b` after the shape has been written: the shape lies behind all nodes of `b`, and
besides there is no difference from adding the root of the shape. -/
structure Written (t : Shape Unit C σ) (b b' : Builder C σ) : Prop where
  liesAt : t.LiesAt b'.plan b.plan.size
  size_lt : b.plan.size < b'.plan.size
  node?_eq : ∀ i < b.plan.size,
    b'.plan.node? i = (b.add t.head t.children_head).plan.node? i
  root_eq : b'.plan.root = (b.add t.head t.children_head).plan.root
  slots_eq : b'.slots = (b.add t.head t.children_head).slots

/-- Shapes written below an open composite become its children. -/
theorem writtenAll {ts : List (Shape Unit C σ)} {b : Builder C σ} {k : Nat} {rest : List Slot}
    {name : String} {rule : Composite} {cs : List Nat}
    (ih : ∀ t ∈ ts, ∀ b : Builder C σ, t.Written b (b.writeAll t.lines))
    (hslots : b.slots = ⟨false, k⟩ :: rest)
    (hk : b.plan.node? k = some ⟨name, .composite rule cs⟩) :
    ∃ ds, (b.writeAll (linesAll ts)).plan.node? k = some ⟨name, .composite rule (cs ++ ds)⟩ ∧
      AllAt (b.writeAll (linesAll ts)).plan (fun _ => ()) ts ds ∧
      b.plan.size ≤ (b.writeAll (linesAll ts)).plan.size ∧
      (∀ i < b.plan.size, i ≠ k → (b.writeAll (linesAll ts)).plan.node? i = b.plan.node? i) ∧
      (b.writeAll (linesAll ts)).plan.root = b.plan.root ∧
      (b.writeAll (linesAll ts)).slots = b.slots := by
  induction ts generalizing b cs with
  | nil =>
    rw [linesAll]
    have hnil : (b.writeAll []).plan.node? k = some ⟨name, .composite rule (cs ++ [])⟩ := by
      rw [List.append_nil]
      exact hk
    exact ⟨[], hnil, allAt_nil.2 rfl, Nat.le_refl _, fun _ _ _ => rfl, rfl, rfl⟩
  | cons t ts ihs =>
    have hlt := Plan.lt_size_of_node? hk
    -- the first shape becomes the next child, and leaves the composite open for the others
    have ht := ih t (.head _) b
    rw [linesAll, Builder.writeAll_append]
    generalize b.writeAll t.lines = b₁ at ht ⊢
    have hslots₁ : b₁.slots = ⟨false, k⟩ :: rest := by
      rw [ht.slots_eq, Builder.slots_add_of_cons _ hslots]
      rfl
    have hk₁ : b₁.plan.node? k = some ⟨name, .composite rule (cs ++ [b.plan.size])⟩ := by
      rw [ht.node?_eq k hlt, Builder.node?_add_of_cons _ hslots hlt, if_pos rfl, hk]
      rfl
    obtain ⟨ds, hnode, hall, hsize, hbelow, hroot, hslots'⟩ :=
      ihs (fun t ht => ih t (.tail _ ht)) hslots₁ hk₁
    have hsize₁ := ht.size_lt
    refine ⟨b.plan.size :: ds, ?_, allAt_cons.2 ⟨_, _, rfl, ?_, hall⟩, by omega, ?_, ?_, ?_⟩
    · rw [hnode, List.append_assoc]
      rfl
    · exact ht.liesAt.mono fun j hj hj' => hbelow j hj' (by omega)
    · intro i hi hne
      rw [hbelow i (by omega) hne, ht.node?_eq i hi, Builder.node?_add_of_cons _ hslots hi,
        if_neg hne]
    · rw [hroot, ht.root_eq, Builder.root_add_of_cons _ hslots]
    · rw [hslots', hslots₁, hslots]

/-- What is written next below a decorator is its child, and fills the only place. -/
theorem written_decorator {name : String} {rule : Decorator} {child : Shape Unit C σ}
    {b b' : Builder C σ}
    (hchild : child.Written (b.openNode ⟨name, .decorator rule none⟩ rfl true) b') :
    (decorator () name rule child).Written b b' := by
  let n : Node C σ := ⟨name, .decorator rule none⟩
  change child.Written (b.openNode n rfl true) b' at hchild
  have hopen : (b.openNode n rfl true).slots = ⟨true, b.plan.size⟩ :: (b.add n rfl).slots := rfl
  have hsize : (b.openNode n rfl true).plan.size = b.plan.size + 1 := Builder.size_add b n rfl
  have hself : (b.openNode n rfl true).plan.node? b.plan.size = some n :=
    Builder.Tidy.node?_add n rfl
  have hlt := hchild.size_lt
  refine ⟨?_, by omega, fun i hi => ?_, ?_, ?_⟩
  · rw [LiesAt, At]
    refine ⟨b.plan.size + 1, ?_, rfl, hsize ▸ hchild.liesAt⟩
    rw [hchild.node?_eq _ (by omega), Builder.node?_add_of_cons _ hopen (by omega), if_pos rfl,
      hself, hsize]
    rfl
  · rw [hchild.node?_eq i (by omega), Builder.node?_add_of_cons _ hopen (by omega),
      if_neg (Nat.ne_of_lt hi)]
    rfl
  · rw [hchild.root_eq, Builder.root_add_of_cons _ hopen]
    rfl
  · rw [hchild.slots_eq, Builder.slots_add_of_cons _ hopen]
    rfl

theorem written_composite {name : String} {rule : Composite} {children : List (Shape Unit C σ)}
    (ih : ∀ t ∈ children, ∀ b : Builder C σ, t.Written b (b.writeAll t.lines)) (b : Builder C σ) :
    (composite () name rule children).Written b
      ((b.openNode ⟨name, .composite rule []⟩ rfl false).writeAll (linesAll children)).close := by
  let n : Node C σ := ⟨name, .composite rule []⟩
  have hopen : (b.openNode n rfl false).slots = ⟨false, b.plan.size⟩ :: (b.add n rfl).slots := rfl
  have hsize : (b.openNode n rfl false).plan.size = b.plan.size + 1 := Builder.size_add b n rfl
  have hself : (b.openNode n rfl false).plan.node? b.plan.size = some n :=
    Builder.Tidy.node?_add n rfl
  obtain ⟨cs, hnode, hall, hle, hbelow, hroot, hslots⟩ := writtenAll ih hopen hself
  refine ⟨?_, ?_, fun i hi => ?_, hroot, ?_⟩
  · rw [LiesAt, At]
    exact ⟨cs, hnode, rfl, hall⟩
  · show b.plan.size < ((b.openNode n rfl false).writeAll (linesAll children)).plan.size
    omega
  · exact hbelow i (by omega) (Nat.ne_of_lt hi)
  · show ((b.openNode n rfl false).writeAll (linesAll children)).slots.tail = _
    rw [hslots, hopen]
    rfl

/-- Following the outline of a shape writes the shape. -/
theorem written (t : Shape Unit C σ) (b : Builder C σ) : t.Written b (b.writeAll t.lines) := by
  induction t generalizing b with
  | leaf m name action =>
    rw [lines]
    show Written _ b (b.add _ _)
    refine ⟨?_, Builder.size_lt_add _ rfl, fun _ _ => rfl, rfl, rfl⟩
    rw [LiesAt, At]
    exact ⟨Builder.Tidy.node?_add _ rfl, rfl⟩
  | bare m name rule =>
    rw [lines]
    show Written _ b (b.openNode _ _ true).close
    refine ⟨?_, Builder.size_lt_add _ rfl, fun _ _ => rfl, rfl, rfl⟩
    rw [LiesAt, At]
    exact ⟨Builder.Tidy.node?_add _ rfl, rfl⟩
  | decorator m name rule child ih =>
    rw [lines]
    exact written_decorator (ih _)
  | composite m name rule children ih =>
    have hlines : b.writeAll (lines (.composite m name rule children)) =
        ((b.openNode ⟨name, .composite rule []⟩ rfl false).writeAll (linesAll children)).close := by
      rw [lines, ← List.cons_append, Builder.writeAll_append]
      rfl
    rw [hlines]
    exact written_composite ih b

/-- The outline of a shape builds the shape, at the root. -/
theorem at_ofLines (t : Shape Unit C σ) :
    (Plan.ofLines t.lines).root = some 0 ∧ t.LiesAt (Plan.ofLines t.lines) 0 := by
  have ht := t.written Builder.empty
  refine ⟨?_, ht.liesAt⟩
  show (Builder.empty.writeAll t.lines).plan.root = _
  rw [ht.root_eq, Builder.plan_add_of_nil _ rfl]
  rfl

end Shape
end Guardhouse
