import Guardhouse.Proofs.Plan.Walk
import Guardhouse.Tree.Builder
import Mathlib.Data.List.Induction
import Mathlib.Order.Bounds.Basic

/-!
# What outlines build

However the lines of an outline are nested, and whether or not they close what they open, the plan
they build is a forest laid out in preorder: nobody has two parents, and the nodes that the root
leads to are the last ones of the arena, in the order in which a walk down meets them
(`Plan.layout_ofLines`).

The invariant is `Builder.Tidy`. What makes it go through is that every open node is on the spine of
the root, so that a new node always comes last in the preorder.
-/

namespace Guardhouse

variable {C σ : Type}

/-! ### Lines and what they take -/

/-- Whether a line writes a node; only a close does not. -/
def Line.isNode : Line C σ → Bool
  | .close => false
  | _ => true

/-- Whether a node takes another child at its end: a decorator that closes itself while it has none,
and a composite always. -/
def Node.Takes (n : Node C σ) : Bool → Prop
  | true => ∃ rule, n.kind = .decorator rule none
  | false => ∃ rule children, n.kind = .composite rule children

theorem Node.Takes.children_adopt {n : Node C σ} {single : Bool} (h : n.Takes single) (c : Nat) :
    (n.adopt c).children = n.children ++ [c] := by
  rcases n with ⟨name, kind⟩
  cases single with
  | true =>
    obtain ⟨rule, rfl⟩ := h
    rfl
  | false =>
    obtain ⟨rule, children, rfl⟩ := h
    rfl

theorem Node.Takes.adopt_composite {n : Node C σ} (h : n.Takes false) (c : Nat) :
    (n.adopt c).Takes false := by
  obtain ⟨rule, children, hk⟩ := h
  exact ⟨rule, children ++ [c], by rw [adopt, hk]; rfl⟩

namespace Plan

variable {p : Plan C σ}

/-! ### Nodes of a growing plan -/

theorem node?_push (n : Node C σ) (hn : n.children = []) (i : Nat) :
    (p.push n hn).node? i = if i = p.size then some n else p.node? i :=
  Array.getElem?_push

theorem node?_attach (parent child : Nat) (h : parent < child ∧ child < p.size) (i : Nat) :
    (p.attach parent child h).node? i =
      if i = parent then (p.node? i).map (·.adopt child) else p.node? i := by
  show (p.nodes.modify parent _)[i]? = _
  rw [Array.getElem?_modify]
  simp only [eq_comm, node?]

theorem children_push (n : Node C σ) (hn : n.children = []) (i : Nat) :
    (p.push n hn).children i = p.children i := by
  by_cases hi : i = p.size
  · rw [hi, children_of_size_le (Nat.le_refl _), ← hn]
    exact children_of_node? (by rw [node?_push, if_pos rfl])
  · unfold children
    rw [node?_push, if_neg hi]

/-- The nodes of a plan under construction: one more, taken by an open node. -/
theorem grown_attach (n m : Node C σ) (hn : n.children = []) {parent : Nat} {single : Bool}
    (hm : p.node? parent = some m) (ht : m.Takes single)
    (h : parent < p.size ∧ p.size < (p.push n hn).size) :
    Grown p ((p.push n hn).attach parent p.size h) parent where
  parent_lt := h.1
  size_eq := by simp
  children_parent := by
    have hm' : (p.push n hn).node? parent = some m := by
      rw [node?_push, if_neg (by omega), hm]
    rw [children_of_node? (n := m.adopt p.size), ht.children_adopt, children_of_node? hm]
    rw [node?_attach, if_pos rfl, hm']
    rfl
  children_of_ne i hi := by
    rw [← children_push (p := p) n hn i]
    unfold children
    rw [node?_attach, if_neg hi]

/-- How the nodes of a forest lie in its arena. -/
structure Orderly (p : Plan C σ) : Prop where
  /-- Children are in range and come after their parents. -/
  child_after : ∀ i, ∀ c ∈ p.children i, i < c ∧ c < p.size
  /-- No node is the child of two parents. -/
  one_parent : ∀ i j c, c ∈ p.children i → c ∈ p.children j → i = j
  /-- No node is twice the child of one. -/
  nodup_children : ∀ i, (p.children i).Nodup
  /-- Leaves have no children. -/
  leaf : ∀ i name action, p.node? i = some ⟨name, .leaf action⟩ → p.children i = []
  /-- Decorators have at most one child. -/
  decorator : ∀ i name rule child, p.node? i = some ⟨name, .decorator rule child⟩ →
    (p.children i).length ≤ 1

end Plan

namespace Builder

variable {b : Builder C σ}

/-! ### One line -/

theorem plan_add_of_nil {n : Node C σ} (hn : n.children = []) (h : b.slots = []) :
    (b.add n hn).plan = (b.plan.push n hn).withRoot b.plan.size := by
  unfold add
  split
  · rfl
  · next heq => rw [h] at heq; cases heq

theorem slots_add_of_nil {n : Node C σ} (hn : n.children = []) (h : b.slots = []) :
    (b.add n hn).slots = [] := by
  unfold add
  split
  · rfl
  · next heq => rw [h] at heq; cases heq

/-- The node that the next line is attached to is older than the node that it adds. -/
theorem attachable (n : Node C σ) (hn : n.children = []) {slot : Slot} {rest : List Slot}
    (h : b.slots = slot :: rest) :
    slot.index < b.plan.size ∧ b.plan.size < (b.plan.push n hn).size := by
  rw [Plan.size_push]
  exact ⟨b.slots_lt slot (h ▸ .head rest), Nat.lt_succ_self _⟩

theorem plan_add_of_cons {n : Node C σ} (hn : n.children = []) {slot : Slot} {rest : List Slot}
    (h : b.slots = slot :: rest) :
    (b.add n hn).plan =
      (b.plan.push n hn).attach slot.index b.plan.size (attachable n hn h) := by
  unfold add
  split
  · next heq => rw [h] at heq; cases heq
  · next heq => rw [h] at heq; cases heq; rfl

theorem slots_add_of_cons {n : Node C σ} (hn : n.children = []) {slot : Slot} {rest : List Slot}
    (h : b.slots = slot :: rest) :
    (b.add n hn).slots = if slot.single then rest else slot :: rest := by
  unfold add
  split
  · next heq => rw [h] at heq; cases heq
  · next heq => rw [h] at heq; cases heq; rfl

/-- What holds of a plan under construction. The open nodes are nested, each takes a child, and all
are on the spine of the root. -/
structure Tidy (b : Builder C σ) : Prop where
  takes : ∀ s ∈ b.slots, ∃ n, b.plan.node? s.index = some n ∧ n.Takes s.single
  nested : b.slots.Pairwise fun s t => t.index < s.index
  one_parent : ∀ i j c, c ∈ b.plan.children i → c ∈ b.plan.children j → i = j
  nodup_children : ∀ i, (b.plan.children i).Nodup
  rootless : b.plan.root = none → b.plan.size = 0
  root_lt : ∀ r, b.plan.root = some r → r < b.plan.size
  preorder : ∀ r, b.plan.root = some r →
    b.plan.preorder r = List.range' r (b.plan.size - r)
  spine : ∀ r, b.plan.root = some r → ∀ s ∈ b.slots, b.plan.Spine r s.index

namespace Tidy

theorem empty : (Builder.empty : Builder C σ).Tidy where
  takes s h := absurd h List.not_mem_nil
  nested := List.Pairwise.nil
  one_parent i j c h := absurd h (by
    rw [Plan.children_of_size_le (Nat.zero_le i)]
    exact List.not_mem_nil)
  nodup_children i := by
    rw [Plan.children_of_size_le (Nat.zero_le i)]
    exact List.nodup_nil
  rootless _ := rfl
  root_lt r h := nomatch h
  preorder r h := nomatch h
  spine r h := nomatch h

/-- A node at the top becomes the root, whatever there was before. -/
theorem add_of_nil (hb : b.Tidy) {n : Node C σ} (hn : n.children = []) (h : b.slots = []) :
    (b.add n hn).Tidy := by
  have hplan := plan_add_of_nil hn h
  have hslots := slots_add_of_nil hn h
  have hchildren : ∀ i, (b.add n hn).plan.children i = b.plan.children i := by
    intro i
    rw [hplan]
    exact Plan.children_push n hn i
  constructor
  case takes => rw [hslots]; exact fun s hs => absurd hs List.not_mem_nil
  case nested => rw [hslots]; exact List.Pairwise.nil
  case one_parent =>
    intro i j c
    rw [hchildren, hchildren]
    exact hb.one_parent i j c
  case nodup_children =>
    intro i
    rw [hchildren]
    exact hb.nodup_children i
  case rootless => rw [hplan]; exact fun h => nomatch h
  case spine => rw [hslots]; exact fun r _ s hs => absurd hs List.not_mem_nil
  all_goals
    intro r hr
    have hr : some b.plan.size = some r := by rw [← hr, hplan]; rfl
    cases hr
    have hsize := size_add b n hn
  case root_lt => omega
  case preorder =>
    rw [Plan.preorder_of_lt (by omega), hchildren, Plan.children_of_size_le (Nat.le_refl _), hsize,
      Nat.add_sub_cancel_left]
    rfl

/-- A node under an open one comes last among its children. -/
theorem grown (hb : b.Tidy) {n : Node C σ} (hn : n.children = []) {slot : Slot} {rest : List Slot}
    (h : b.slots = slot :: rest) : Plan.Grown b.plan (b.add n hn).plan slot.index := by
  obtain ⟨m, hm, ht⟩ := hb.takes slot (by simp [h])
  rw [plan_add_of_cons hn h]
  exact Plan.grown_attach n m hn hm ht _

theorem mem_slots_add (hb : b.Tidy) {n : Node C σ} (hn : n.children = []) {slot : Slot}
    {rest : List Slot} (h : b.slots = slot :: rest) {s : Slot} (hs : s ∈ (b.add n hn).slots) :
    s ∈ b.slots ∧ (s = slot ∧ slot.single = false ∨ s.index < slot.index) := by
  have hnested := hb.nested
  rw [h, List.pairwise_cons] at hnested
  rw [slots_add_of_cons hn h] at hs
  rw [h]
  split at hs
  · exact ⟨List.mem_cons_of_mem _ hs, .inr (hnested.1 s hs)⟩
  · next hsingle =>
    refine ⟨hs, ?_⟩
    rcases List.mem_cons.1 hs with rfl | hs
    · exact .inl ⟨rfl, by simpa using hsingle⟩
    · exact .inr (hnested.1 s hs)

/-- An open node still takes a child afterwards: only a composite that has just taken one stays
open. -/
theorem takes_add (hb : b.Tidy) {n : Node C σ} (hn : n.children = []) {slot : Slot}
    {rest : List Slot} (h : b.slots = slot :: rest) {s : Slot} (hs : s ∈ (b.add n hn).slots) :
    ∃ m, (b.add n hn).plan.node? s.index = some m ∧ m.Takes s.single := by
  obtain ⟨hs, hcase⟩ := hb.mem_slots_add hn h hs
  obtain ⟨m, hm, ht⟩ := hb.takes s hs
  have hlt := Plan.lt_size_of_node? hm
  have hm' : (b.plan.push n hn).node? s.index = some m := by
    rw [Plan.node?_push, if_neg (by omega), hm]
  rw [plan_add_of_cons hn h, Plan.node?_attach, hm']
  rcases hcase with ⟨rfl, hsingle⟩ | hlt
  · rw [hsingle] at ht ⊢
    exact ⟨m.adopt b.plan.size, if_pos rfl, ht.adopt_composite _⟩
  · exact ⟨m, if_neg (by omega), ht⟩

/-- A node under an open one comes last in the preorder of the root, since the open one is on the
spine. -/
theorem add_of_cons (hb : b.Tidy) {n : Node C σ} (hn : n.children = []) {slot : Slot}
    {rest : List Slot} (h : b.slots = slot :: rest) : (b.add n hn).Tidy := by
  have g := hb.grown hn h
  have hroot : (b.add n hn).plan.root = b.plan.root := by rw [plan_add_of_cons hn h]; rfl
  constructor
  case takes => exact fun s hs => hb.takes_add hn h hs
  case one_parent => exact g.one_parent hb.one_parent
  case nodup_children => exact g.nodup_children hb.nodup_children
  case nested =>
    refine hb.nested.sublist ?_
    rw [slots_add_of_cons hn h, h]
    split
    · exact List.sublist_cons_self _ _
    · exact List.Sublist.refl _
  case rootless =>
    intro hr
    have hlt := g.parent_lt
    have hzero := hb.rootless (hroot ▸ hr)
    omega
  case root_lt =>
    intro r hr
    have hlt := hb.root_lt r (hroot ▸ hr)
    rw [g.size_eq]
    omega
  case preorder =>
    intro r hr
    rw [hroot] at hr
    have hlt := hb.root_lt r hr
    have hpre := hb.preorder r hr
    have hspine := hb.spine r hr slot (by simp [h])
    rw [g.preorder_of_spine hspine (hpre ▸ List.nodup_range'), hpre, g.size_eq,
      Nat.succ_sub (Nat.le_of_lt hlt), List.range'_1_concat]
    congr 2
    omega
  case spine =>
    intro r hr s hs
    obtain ⟨hs, hcase⟩ := hb.mem_slots_add hn h hs
    refine g.spine_of_le (hb.spine r (hroot ▸ hr) s hs) ?_
    rcases hcase with ⟨rfl, -⟩ | hlt <;> omega

theorem add (hb : b.Tidy) (n : Node C σ) (hn : n.children = []) : (b.add n hn).Tidy := by
  cases h : b.slots with
  | nil => exact hb.add_of_nil hn h
  | cons slot rest => exact hb.add_of_cons hn h

/-- The node written last is at the end of the spine. -/
theorem spine_add (hb : b.Tidy) (n : Node C σ) (hn : n.children = []) {r : Nat}
    (hr : (b.add n hn).plan.root = some r) : (b.add n hn).plan.Spine r b.plan.size := by
  cases h : b.slots with
  | nil =>
    have hr' : some b.plan.size = some r := by rw [← hr, plan_add_of_nil hn h]; rfl
    cases hr'
    exact .refl
  | cons slot rest =>
    rw [plan_add_of_cons hn h] at hr
    exact (hb.grown hn h).spine_new (hb.spine r hr slot (by simp [h]))

theorem node?_add (n : Node C σ) (hn : n.children = []) :
    (b.add n hn).plan.node? b.plan.size = some n := by
  have hpush : (b.plan.push n hn).node? b.plan.size = some n := by
    rw [Plan.node?_push, if_pos rfl]
  cases h : b.slots with
  | nil =>
    rw [plan_add_of_nil hn h]
    exact hpush
  | cons slot rest =>
    have hlt := b.slots_lt slot (by simp [h])
    rw [plan_add_of_cons hn h, Plan.node?_attach, if_neg (by omega), hpush]

theorem openNode (hb : b.Tidy) (n : Node C σ) (hn : n.children = []) {single : Bool}
    (ht : n.Takes single) : (b.openNode n hn single).Tidy := by
  have ha := hb.add n hn
  constructor
  case takes =>
    intro s hs
    rcases List.mem_cons.1 hs with rfl | hs
    · exact ⟨n, node?_add n hn, ht⟩
    · exact ha.takes s hs
  case nested =>
    refine List.pairwise_cons.2 ⟨fun s hs => ?_, ha.nested⟩
    -- what was open before is older than the new node
    show s.index < b.plan.size
    cases h : b.slots with
    | nil =>
      rw [slots_add_of_nil hn h] at hs
      cases hs
    | cons slot rest => exact b.slots_lt s (hb.mem_slots_add hn h hs).1
  case one_parent => exact ha.one_parent
  case nodup_children => exact ha.nodup_children
  case rootless => exact ha.rootless
  case root_lt => exact ha.root_lt
  case preorder => exact ha.preorder
  case spine =>
    intro r hr s hs
    rcases List.mem_cons.1 hs with rfl | hs
    · exact hb.spine_add n hn hr
    · exact ha.spine r hr s hs

theorem close (hb : b.Tidy) : b.close.Tidy where
  takes s hs := hb.takes s (List.mem_of_mem_tail hs)
  nested := hb.nested.sublist (List.tail_sublist _)
  one_parent := hb.one_parent
  nodup_children := hb.nodup_children
  rootless := hb.rootless
  root_lt := hb.root_lt
  preorder := hb.preorder
  spine r hr s hs := hb.spine r hr s (List.mem_of_mem_tail hs)

theorem write (hb : b.Tidy) (line : Line C σ) : (b.write line).Tidy := by
  cases line with
  | composite name rule => exact hb.openNode _ rfl ⟨rule, [], rfl⟩
  | decorator name rule => exact hb.openNode _ rfl ⟨rule, rfl⟩
  | leaf name action => exact hb.add _ rfl
  | close => exact hb.close

theorem writeAll (hb : b.Tidy) (lines : List (Line C σ)) : (b.writeAll lines).Tidy := by
  induction lines generalizing b with
  | nil => exact hb
  | cons line lines ih => exact ih (hb.write line)

end Tidy

/-! ### The root -/

theorem size_write (b : Builder C σ) (line : Line C σ) :
    (b.write line).plan.size = b.plan.size + if line.isNode then 1 else 0 := by
  cases line with
  | composite name rule => exact size_add b _ rfl
  | decorator name rule => exact size_add b _ rfl
  | leaf name action => exact size_add b _ rfl
  | close => rfl

theorem size_writeAll (b : Builder C σ) (lines : List (Line C σ)) :
    (b.writeAll lines).plan.size = b.plan.size + lines.countP Line.isNode := by
  induction lines generalizing b with
  | nil => rfl
  | cons line lines ih =>
    show ((b.write line).writeAll lines).plan.size = _
    rw [ih, size_write, List.countP_cons]
    omega

/-- A line takes the root over if it writes a node while nothing is open. -/
theorem root_write (b : Builder C σ) (line : Line C σ) :
    (b.write line).plan.root =
      if line.isNode ∧ b.depth = 0 then some b.plan.size else b.plan.root := by
  have hadd : ∀ (n : Node C σ) hn, (b.add n hn).plan.root =
      if b.depth = 0 then some b.plan.size else b.plan.root := by
    intro n hn
    unfold depth
    cases h : b.slots with
    | nil => rw [plan_add_of_nil hn h]; rfl
    | cons slot rest => rw [plan_add_of_cons hn h]; rfl
  cases line with
  | composite name rule => exact (hadd _ rfl).trans (by simp [Line.isNode])
  | decorator name rule => exact (hadd _ rfl).trans (by simp [Line.isNode])
  | leaf name action => exact (hadd _ rfl).trans (by simp [Line.isNode])
  | close => rfl

end Builder

namespace Plan

/-- A line writes the node with index `k` while nothing is open. What the lines before it look like
then is `Plan.writtenAtTop_iff`. -/
def WrittenAtTop (lines : List (Line C σ)) (k : Nat) : Prop :=
  ∃ before line after, lines = before ++ line :: after ∧ line.isNode = true ∧
    (Builder.empty.writeAll before).depth = 0 ∧ k = before.countP Line.isNode

theorem WrittenAtTop.lt {lines : List (Line C σ)} {k : Nat} (h : WrittenAtTop lines k) :
    k < lines.countP Line.isNode := by
  obtain ⟨before, line, after, rfl, hline, -, rfl⟩ := h
  rw [List.countP_append, List.countP_cons_of_pos hline]
  omega

theorem writtenAtTop_concat {lines : List (Line C σ)} {line : Line C σ} {k : Nat} :
    WrittenAtTop (lines ++ [line]) k ↔ WrittenAtTop lines k ∨
      (line.isNode = true ∧ (Builder.empty.writeAll lines).depth = 0) ∧
        k = lines.countP Line.isNode := by
  constructor
  · rintro ⟨before, l, after, heq, hl, hdepth, hk⟩
    rcases List.eq_nil_or_concat after with rfl | ⟨after, last, rfl⟩
    · obtain ⟨rfl, hlast⟩ := List.append_inj' heq rfl
      cases hlast
      exact .inr ⟨⟨hl, hdepth⟩, hk⟩
    · refine .inl ⟨before, l, after, ?_, hl, hdepth, hk⟩
      rw [List.concat_eq_append, ← List.cons_append, ← List.append_assoc] at heq
      exact (List.append_inj' heq rfl).1
  · rintro (⟨before, l, after, rfl, hl, hdepth, hk⟩ | ⟨⟨hl, hdepth⟩, hk⟩)
    · exact ⟨before, l, after ++ [line], by simp, hl, hdepth, hk⟩
    · exact ⟨lines, line, [], rfl, hl, hdepth, hk⟩

theorem ofLines_concat (lines : List (Line C σ)) (line : Line C σ) :
    ofLines (lines ++ [line]) = ((Builder.empty.writeAll lines).write line).plan := by
  unfold ofLines
  rw [Builder.writeAll_append]
  rfl

theorem size_ofLines (lines : List (Line C σ)) :
    (ofLines lines).size = lines.countP Line.isNode := by
  show (Builder.empty.writeAll lines).plan.size = _
  rw [Builder.size_writeAll]
  exact Nat.zero_add _

/-- The root is the last node that was written while nothing was open. -/
theorem root_ofLines (lines : List (Line C σ)) (r : Nat) :
    (ofLines lines).root = some r ↔ IsGreatest {k | WrittenAtTop lines k} r := by
  induction lines using List.reverseRecOn with
  | nil =>
    constructor
    · intro h
      cases h
    · rintro ⟨⟨before, line, after, heq, -⟩, -⟩
      simp at heq
  | append_singleton lines line ih =>
    have hsize : (Builder.empty.writeAll lines).plan.size = lines.countP Line.isNode :=
      size_ofLines lines
    rw [ofLines_concat, Builder.root_write, hsize]
    split
    · next htop =>
      -- every node written before has a smaller index
      have hgreatest : IsGreatest {k | WrittenAtTop (lines ++ [line]) k}
          (lines.countP Line.isNode) := by
        refine ⟨writtenAtTop_concat.2 (.inr ⟨htop, rfl⟩), fun k hk => ?_⟩
        rcases writtenAtTop_concat.1 hk with hk | ⟨-, rfl⟩
        · exact Nat.le_of_lt hk.lt
        · exact Nat.le_refl _
      constructor
      · rintro h
        cases h
        exact hgreatest
      · intro h
        rw [hgreatest.unique h]
    · next htop =>
      have hsame : {k | WrittenAtTop (lines ++ [line]) k} = {k | WrittenAtTop lines k} := by
        ext k
        exact writtenAtTop_concat.trans (or_iff_left fun h => htop h.1)
      rw [hsame]
      exact ih

theorem tidy_ofLines (lines : List (Line C σ)) :
    ((Builder.empty : Builder C σ).writeAll lines).Tidy := Builder.Tidy.empty.writeAll lines

/-- What an outline builds, whatever the order and nesting of its lines: a forest laid out in
preorder, of which the root leads to exactly the last part. -/
theorem layout_ofLines (lines : List (Line C σ)) :
    (ofLines lines).Orderly ∧ (ofLines lines).size = lines.countP Line.isNode ∧
      ((∃ line ∈ lines, line.isNode = true) → ∃ root, (ofLines lines).root = some root ∧
        IsGreatest {k | WrittenAtTop lines k} root ∧
        (∀ i, (ofLines lines).Leads root i ↔ root ≤ i ∧ i < (ofLines lines).size) ∧
        (ofLines lines).preorder root = List.range' root ((ofLines lines).size - root)) := by
  have ht := tidy_ofLines lines
  refine ⟨?_, size_ofLines lines, fun hline => ?_⟩
  · constructor
    case child_after => exact fun i c hc => lt_of_mem_children hc
    case one_parent => exact ht.one_parent
    case nodup_children => exact ht.nodup_children
    case leaf => exact fun i name action h => children_of_node? h
    case decorator =>
      intro i name rule child h
      rw [children_of_node? h]
      cases child <;> simp [Node.children, Node.Kind.children]
  · have hpos : 0 < (ofLines lines).size := by
      rw [size_ofLines]
      exact List.countP_pos_iff.2 hline
    cases hroot : (ofLines lines).root with
    | none =>
      have hzero := ht.rootless hroot
      exact absurd hzero (by unfold ofLines at hpos; omega)
    | some root =>
      have hlt := ht.root_lt root hroot
      have hpre := ht.preorder root hroot
      refine ⟨root, rfl, (root_ofLines lines root).1 hroot, fun i => ?_, hpre⟩
      have hmem : i ∈ (ofLines lines).preorder root ↔ _ := mem_preorder hlt
      rw [← hmem, show (ofLines lines).preorder root = _ from hpre, List.mem_range'_1]
      show root ≤ i ∧ i < root + ((ofLines lines).size - root) ↔ _
      have hlt : root < (ofLines lines).size := hlt
      omega

end Plan
end Guardhouse
