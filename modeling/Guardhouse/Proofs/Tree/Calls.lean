import Guardhouse.Proofs.Tree.Simulation

/-!
# Calls on an arena

A program holds a tree as an array in which nodes refer to one another by index. Nothing in such an
array keeps a node from being its own child, the loops over children look the array up again after
every call, and the search for a name has a stack of its own. `Arena.evaluate`, `Arena.reset` and
`Arena.search` are written that way. They are allowed so many nested calls, so many turns of a loop
and so many nodes from the stack, and have no result if they need more. An arena with a cycle needs
more than any number (`Arena.evaluate_cyclic`).

In an arena that an outline builds children come after their parents, no two nodes share a child,
and no evaluation changes that. So they all end, within the bounds that this order gives, and do
what walking down the plan does (`Tree.walks_end`).
-/

namespace Guardhouse

variable {C σ β : Type}

/-- An arena with the context that its leaves act on, and the calls made so far: who called, and who
was called. -/
structure Arena (C σ : Type) where
  slots : Array (Node C σ × Cell σ)
  context : C
  calls : List (Nat × Nat)

/-- Whether a repeater has evaluated its child often enough. -/
def Decorator.exhausted (rule : Decorator) (cell : Cell σ) : Bool :=
  match rule with
  | .repeater count => count ≤ cell.times
  | _ => false

/-- What a decorator makes of the status of its child, and what it remembers then. -/
def Decorator.settle (rule : Decorator) (status : Status) (cell : Cell σ) : Status × Cell σ :=
  match rule with
  | .repeater _ => (.running, .repeated (cell.times + 1))
  | rule => (rule.respond status, cell)

namespace Arena

/-! ### Walks as a program makes them -/

/-- Something that can be called with the index of a node. It has no result where it needs more than
it is allowed. -/
abbrev Call (C σ β : Type) := Nat → Arena C σ → Option (β × Arena C σ)

/-- The child of a composite at a position. -/
def childAt (a : Arena C σ) (i k : Nat) : Option Nat :=
  match a.slots[i]? with
  | some (⟨_, .composite _ children⟩, _) => children[k]?
  | _ => none

/-- All children of a node. -/
def children (a : Arena C σ) (i : Nat) : List Nat :=
  match a.slots[i]? with
  | some (node, _) => node.children
  | none => []

/-- The name of a node. -/
def name? (a : Arena C σ) (i : Nat) : Option String := a.slots[i]?.map (·.1.name)

/-- Writes the cell of a node. -/
def write (a : Arena C σ) (i : Nat) (cell : Cell σ) : Arena C σ :=
  { a with slots := a.slots.modify i fun slot => (slot.1, cell) }

/-- Notes that one node calls another. -/
def called (a : Arena C σ) (i c : Nat) : Arena C σ := { a with calls := a.calls ++ [(i, c)] }

/-- Calls the children of a composite from position `k` on, until there are no more or a result
stops it. May go round `limit` times. -/
def loop (call : Call C σ β) (stops : β → Bool) (i : Nat) :
    (limit k : Nat) → Arena C σ → Option (List β × Arena C σ)
  | limit, k, a =>
    match a.childAt i k, limit with
    | none, _ => some ([], a)
    | some _, 0 => none
    | some c, limit + 1 =>
      match call c (a.called i c) with
      | none => none
      | some (result, a) =>
        if stops result then some ([result], a)
        else (loop call stops i limit (k + 1) a).map fun (results, a) => (result :: results, a)

/-- Evaluates a node, and evaluates its children by `call`. What a decorator is and remembers is
looked up again after the call. -/
def visit (call : Call C σ Status) : Call C σ Status := fun i a =>
  match a.slots[i]? with
  | none => some (.failure, a)
  | some (⟨_, .leaf action⟩, cell) =>
    let (status, context, cell) := action.respond cell a.context
    some (status, { a with context }.write i cell)
  | some (⟨_, .composite rule children⟩, _) =>
    (loop call rule.stops i children.length 0 a).map fun (statuses, a) =>
      (rule.judge statuses, a)
  | some (⟨_, .decorator _ none⟩, _) => some (.failure, a)
  | some (⟨_, .decorator rule (some c)⟩, cell) =>
    if rule.exhausted cell then some (.success, a)
    else
      match call c (a.called i c) with
      | none => none
      | some (status, a) =>
        match a.slots[i]? with
        | some (⟨_, .decorator rule _⟩, cell) =>
          let (status, cell) := rule.settle status cell
          some (status, a.write i cell)
        | _ => some (.failure, a)

/-- Evaluates a node with at most `limit` calls inside one another. -/
def evaluate : (limit : Nat) → Call C σ Status
  | 0 => visit fun _ _ => none
  | limit + 1 => visit (evaluate limit)

/-- Resets a node, and resets its children by `call`. -/
def clear (call : Call C σ Unit) : Call C σ Unit := fun i a =>
  match a.slots[i]? with
  | none => some ((), a)
  | some (⟨_, .composite _ children⟩, cell) =>
    (loop call (fun _ => false) i children.length 0 (a.write i cell.reset)).map
      fun (_, a) => ((), a)
  | some (⟨_, .decorator _ (some c)⟩, cell) => call c ((a.write i cell.reset).called i c)
  | some (_, cell) => some ((), a.write i cell.reset)

/-- Resets a node with at most `limit` calls inside one another. -/
def reset : (limit : Nat) → Call C σ Unit
  | 0 => clear fun _ _ => none
  | limit + 1 => clear (reset limit)

/-- Takes nodes from a stack, and puts their children on it, until one has the name. Gives that
node, and the nodes taken, of which there may be `limit`. -/
def search (a : Arena C σ) (name : String) :
    (limit : Nat) → (stack : List Nat) → Option (Option Nat × List Nat)
  | _, [] => some (none, [])
  | 0, _ :: _ => none
  | limit + 1, i :: stack =>
    if a.name? i = some name then some (some i, [i])
    else
      (search a name limit (a.children i ++ stack)).map fun (found, popped) => (found, i :: popped)

/-! ### Cycles -/

/-- A sequence that is its own only child is evaluated with no number of nested calls. -/
theorem evaluate_cyclic {a : Arena C σ} {name : String} {cell : Cell σ}
    (h : a.slots[0]? = some (⟨name, .composite .sequence [0]⟩, cell)) (limit : Nat) :
    evaluate limit 0 a = none := by
  induction limit generalizing a with
  | zero => simp [evaluate, visit, loop, childAt, h]
  | succ limit ih =>
    have hcall := ih (a := a.called 0 0) h
    simp [evaluate, visit, loop, childAt, h, hcall]

end Arena

/-! ### The arena of a plan -/

/-- A decorator that is not exhausted evaluates its child and settles. -/
theorem Decorator.evaluate_eq {n : Nat} (rule : Decorator) (i : Nat) (h : i < n)
    (child : Step (Evaluation C σ n)) (s : Evaluation C σ n) :
    rule.evaluate i h child s =
      if rule.exhausted s.cells[i] then (.success, s)
      else
        let (status, s) := child s
        let (status, cell) := rule.settle status s.cells[i]
        (status, s.store i h cell) := by
  cases rule with
  | repeater count => simp [evaluate, exhausted, settle]
  | _ => simp [evaluate, exhausted, settle, Evaluation.store]

namespace Plan

variable {p : Plan C σ} {i : Nat}

/-- The nodes of a plan, each with what it remembers. -/
def slots (p : Plan C σ) (cells : Vector (Cell σ) p.size) : Array (Node C σ × Cell σ) :=
  Array.ofFn fun i : Fin p.size => (p.nodes[i], cells[i])

/-- The state of an evaluation as an arena. -/
def arena (p : Plan C σ) (s : Evaluation C σ p.size) (calls : List (Nat × Nat)) : Arena C σ where
  slots := p.slots s.cells
  context := s.context
  calls := calls

@[simp] theorem arena_enter (i : Nat) (s : Evaluation C σ p.size) (calls : List (Nat × Nat)) :
    p.arena (s.enter i) calls = p.arena s calls := rfl

theorem getElem?_slots {n : Node C σ} (hi : i < p.size) (h : p.node? i = some n)
    (s : Evaluation C σ p.size) (calls : List (Nat × Nat)) :
    (p.arena s calls).slots[i]? = some (n, s.cells[i]) := by
  obtain ⟨_, hn⟩ := node?_eq_some.1 h
  simp [arena, slots, hi, hn]

theorem getElem?_slots_of_size_le (h : p.size ≤ i) (s : Evaluation C σ p.size)
    (calls : List (Nat × Nat)) : (p.arena s calls).slots[i]? = none := by
  simp [arena, slots, h]

theorem write_arena (hi : i < p.size) (cell : Cell σ) (s : Evaluation C σ p.size)
    (calls : List (Nat × Nat)) :
    (p.arena s calls).write i cell = p.arena (s.store i hi cell) calls := by
  unfold arena Arena.write Evaluation.store
  congr 1
  apply Array.ext
  · simp [slots]
  · intro j hj hj'
    simp only [slots, Array.getElem_modify, Array.getElem_ofFn]
    by_cases hij : i = j
    · subst hij
      simp
    · simp [hij]

theorem childAt_arena {name : String} {rule : Composite} {cs : List Nat}
    (h : p.node? i = some ⟨name, .composite rule cs⟩) (k : Nat) (s : Evaluation C σ p.size)
    (calls : List (Nat × Nat)) : (p.arena s calls).childAt i k = cs[k]? := by
  unfold Arena.childAt
  rw [getElem?_slots (lt_size_of_node? h) h]

theorem children_arena (i : Nat) (s : Evaluation C σ p.size) (calls : List (Nat × Nat)) :
    (p.arena s calls).children i = p.children i := by
  unfold Arena.children
  cases hn : p.node? i with
  | none =>
    have hi : p.size ≤ i := Array.getElem?_eq_none_iff.1 hn
    rw [getElem?_slots_of_size_le hi, children_of_size_le hi]
  | some n => rw [getElem?_slots (lt_size_of_node? hn) hn, children_of_node? hn]

theorem name?_arena (i : Nat) (s : Evaluation C σ p.size) (calls : List (Nat × Nat)) :
    (p.arena s calls).name? i = p.name? i := by
  unfold Arena.name? name?
  cases hn : p.node? i with
  | none => rw [getElem?_slots_of_size_le (Array.getElem?_eq_none_iff.1 hn)]; rfl
  | some n => rw [getElem?_slots (lt_size_of_node? hn) hn]; rfl

/-! ### Calls that end -/

/-- Calls from parents to children, and to no others than the nodes listed, in their order. -/
structure Descends (p : Plan C σ) (nodes : List Nat) (calls : List (Nat × Nat)) : Prop where
  child : ∀ call ∈ calls, call.2 ∈ p.children call.1
  once : (calls.map Prod.snd).Sublist nodes

namespace Descends

variable {nodes nodes' : List Nat} {calls calls' : List (Nat × Nat)}

theorem nil (nodes : List Nat) : p.Descends nodes [] where
  child _ h := absurd h List.not_mem_nil
  once := List.nil_sublist nodes

theorem cons {c : Nat} (hc : c ∈ p.children i) (h : p.Descends nodes calls) :
    p.Descends (c :: nodes) ((i, c) :: calls) where
  child := List.forall_mem_cons.2 ⟨hc, h.child⟩
  once := h.once.cons_cons c

theorem append (h : p.Descends nodes calls) (h' : p.Descends nodes' calls') :
    p.Descends (nodes ++ nodes') (calls ++ calls') where
  child call hcall := (List.mem_append.1 hcall).elim (h.child call) (h'.child call)
  once := by
    rw [List.map_append]
    exact h.once.append h'.once

theorem lt (h : p.Descends nodes calls) {call : Nat × Nat} (hcall : call ∈ calls) :
    call.1 < call.2 := (lt_of_mem_children (h.child call hcall)).1

end Descends

/-- The call of a node ends with what a step does in the plan, and calls on nothing but what lies
below the node. -/
def Ends (p : Plan C σ) (call : Arena.Call C σ β)
    (step : Nat → Evaluation C σ p.size → β × Evaluation C σ p.size) (i : Nat) : Prop :=
  ∀ s calls, ∃ made, p.Descends (p.preorder i).tail made ∧
    call i (p.arena s calls) = some ((step i s).1, p.arena (step i s).2 (calls ++ made))

/-- Takes steps until one has a result that stops, and lists the results. -/
def gather {S : Type} (stops : β → Bool) (step : Nat → S → β × S) : List Nat → S → List β × S
  | [], s => ([], s)
  | c :: cs, s =>
    let (result, s) := step c s
    if stops result then ([result], s)
    else
      let (results, s) := gather stops step cs s
      (result :: results, s)

theorem gather_eq_collect {S : Type} (stops : Status → Bool) (step : Nat → Step S) (cs : List Nat)
    (s : S) : gather stops step cs s = Composite.collect stops (cs.map step) s := by
  induction cs generalizing s with
  | nil => rfl
  | cons c cs ih => simp only [gather, List.map_cons, Composite.collect, ih]

section Loops

variable {call : Arena.Call C σ β}
  {step : Nat → Evaluation C σ p.size → β × Evaluation C σ p.size}

/-- A child that is called adds its own call to those below it. -/
theorem Ends.called {c : Nat} (h : p.Ends call step c) (hc : c ∈ p.children i)
    (s : Evaluation C σ p.size) (calls : List (Nat × Nat)) :
    ∃ made, p.Descends (p.preorder c) made ∧
      call c ((p.arena s calls).called i c) =
        some ((step c s).1, p.arena (step c s).2 (calls ++ made)) := by
  obtain ⟨made, hmade, hcall⟩ := h s (calls ++ [(i, c)])
  refine ⟨(i, c) :: made, ?_, ?_⟩
  · have hcons := hmade.cons hc
    rw [preorder_of_lt (lt_of_mem_children hc).2] at hcons ⊢
    exact hcons
  · rw [List.append_assoc] at hcall
    exact hcall

/-- A loop over children whose calls end goes round no more often than there are children. -/
theorem loop_ends (stops : β → Bool) {name : String} {rule : Composite} (done rest : List Nat)
    (hn : p.node? i = some ⟨name, .composite rule (done ++ rest)⟩)
    (h : ∀ c ∈ rest, p.Ends call step c) (s : Evaluation C σ p.size) (calls : List (Nat × Nat)) :
    ∃ made, p.Descends (rest.flatMap p.preorder) made ∧
      Arena.loop call stops i rest.length done.length (p.arena s calls) =
        some ((gather stops step rest s).1,
          p.arena (gather stops step rest s).2 (calls ++ made)) := by
  induction rest generalizing done s calls with
  | nil =>
    refine ⟨[], .nil _, ?_⟩
    unfold Arena.loop
    rw [childAt_arena hn]
    simp [gather]
  | cons c rest ih =>
    have hc : c ∈ p.children i := by
      rw [children_of_node? hn]
      exact List.mem_append_right _ List.mem_cons_self
    obtain ⟨made, hmade, hcall⟩ := (h c List.mem_cons_self).called hc s calls
    obtain ⟨others, hothers, hloop⟩ := ih (done ++ [c]) (by simpa using hn)
      (fun d hd => h d (List.mem_cons_of_mem c hd)) (step c s).2 (calls ++ made)
    -- whatever the children before have done, the loop finds this one at its place
    have hchild : (p.arena s calls).childAt i done.length = some c := by
      rw [childAt_arena hn]
      simp
    rw [List.length_append] at hloop
    unfold Arena.loop
    simp only [hchild, List.length_cons, hcall, gather, List.flatMap_cons]
    split
    · exact ⟨made, by simpa using hmade.append (.nil _), rfl⟩
    · refine ⟨made ++ others, hmade.append hothers, ?_⟩
      rw [show done.length + 1 = done.length + [c].length from rfl, hloop, List.append_assoc]
      rfl

end Loops

theorem mem_children_of_decorator {name : String} {rule : Decorator} {c : Nat}
    (hn : p.node? i = some ⟨name, .decorator rule (some c)⟩) : c ∈ p.children i := by
  rw [children_of_node? hn]
  exact List.mem_singleton_self c

/-! ### Evaluation -/

section Visits

variable {call : Arena.Call C σ Status} {name : String}

theorem visit_leaf {action : Leaf C σ} (hn : p.node? i = some ⟨name, .leaf action⟩) :
    p.Ends (Arena.visit call) p.evaluate i := by
  intro s calls
  have hi := lt_size_of_node? hn
  refine ⟨[], .nil _, ?_⟩
  unfold Arena.visit
  simp only [getElem?_slots hi hn, evaluate_leaf hn, Leaf.evaluate_eq, List.append_nil]
  have hwrite := write_arena hi (action.respond s.cells[i] s.context).2.2
    { s with context := (action.respond s.cells[i] s.context).2.1 } calls
  exact congrArg (fun a => some (_, a)) hwrite

theorem visit_composite {rule : Composite} {cs : List Nat}
    (hn : p.node? i = some ⟨name, .composite rule cs⟩)
    (h : ∀ c ∈ cs, p.Ends call p.evaluate c) : p.Ends (Arena.visit call) p.evaluate i := by
  intro s calls
  obtain ⟨made, hmade, hloop⟩ := loop_ends rule.stops [] cs hn h (s.enter i) calls
  rw [arena_enter, gather_eq_collect, List.length_nil] at hloop
  refine ⟨made, ?_, ?_⟩
  · rw [preorder_of_composite hn]
    exact hmade
  · unfold Arena.visit
    simp only [getElem?_slots (lt_size_of_node? hn) hn, hloop, evaluate_composite hn,
      Composite.run_eq, Option.map_some]

theorem visit_bare {rule : Decorator} (hn : p.node? i = some ⟨name, .decorator rule none⟩) :
    p.Ends (Arena.visit call) p.evaluate i := by
  intro s calls
  refine ⟨[], .nil _, ?_⟩
  unfold Arena.visit
  simp only [getElem?_slots (lt_size_of_node? hn) hn, evaluate_bare hn, List.append_nil,
    arena_enter]

theorem visit_decorator {rule : Decorator} {c : Nat}
    (hn : p.node? i = some ⟨name, .decorator rule (some c)⟩) (h : p.Ends call p.evaluate c) :
    p.Ends (Arena.visit call) p.evaluate i := by
  intro s calls
  have hi := lt_size_of_node? hn
  have hcells : (s.enter i).cells[i] = s.cells[i] := rfl
  have hevaluate := evaluate_decorator hn s
  rw [Decorator.evaluate_eq, hcells] at hevaluate
  obtain ⟨made, hmade, hcall⟩ := h.called (mem_children_of_decorator hn) (s.enter i) calls
  rw [arena_enter] at hcall
  unfold Arena.visit
  by_cases hexhausted : rule.exhausted s.cells[i]
  · -- a repeater that is done calls nothing
    rw [if_pos hexhausted] at hevaluate
    refine ⟨[], .nil _, ?_⟩
    simp only [getElem?_slots hi hn, if_pos hexhausted, hevaluate, List.append_nil, arena_enter]
  · rw [if_neg hexhausted] at hevaluate
    refine ⟨made, ?_, ?_⟩
    · rw [preorder_of_decorator hn]
      exact hmade
    · simp only [getElem?_slots hi hn, if_neg hexhausted, hcall, hevaluate, write_arena hi]

theorem visit_ends (h : ∀ c ∈ p.children i, p.Ends call p.evaluate c) :
    p.Ends (Arena.visit call) p.evaluate i := by
  cases hn : p.node? i with
  | none =>
    have hi : p.size ≤ i := Array.getElem?_eq_none_iff.1 hn
    intro s calls
    refine ⟨[], .nil _, ?_⟩
    unfold Arena.visit
    rw [evaluate, dif_neg (by omega)]
    simp [getElem?_slots_of_size_le hi]
  | some n =>
    rw [children_of_node? hn] at h
    rcases n with ⟨name, _ | ⟨rule, _ | c⟩ | action⟩
    · exact visit_composite hn h
    · exact visit_bare hn
    · exact visit_decorator hn (h c (List.mem_singleton_self c))
    · exact visit_leaf hn

end Visits

/-- Evaluating a node nests no more calls than there are nodes after it. -/
theorem evaluate_ends {limit : Nat} (h : p.size ≤ i + 1 + limit) :
    p.Ends (Arena.evaluate limit) p.evaluate i := by
  induction limit generalizing i with
  | zero =>
    apply visit_ends
    intro c hc
    have hlt := lt_of_mem_children hc
    omega
  | succ limit ih =>
    apply visit_ends
    intro c hc
    have hlt := lt_of_mem_children hc
    exact ih (by omega)

/-! ### Reset -/

/-- A reset as a step of an evaluation. -/
def clear (p : Plan C σ) (i : Nat) (s : Evaluation C σ p.size) : Unit × Evaluation C σ p.size :=
  ((), { s with cells := p.resetCells i s.cells })

theorem resetCells_of_lt (hi : i < p.size) (cells : Vector (Cell σ) p.size) :
    p.resetCells i cells =
      (p.children i).foldl (fun cells c => p.resetCells c cells) (cells.set i cells[i].reset) := by
  unfold resetCells
  rw [preorder_of_lt hi, List.foldl_cons, List.foldl_flatMap, resetCell, dif_pos hi]

theorem gather_clear (cs : List Nat) (s : Evaluation C σ p.size) :
    (gather (fun _ => false) p.clear cs s).2 =
      { s with cells := cs.foldl (fun cells c => p.resetCells c cells) s.cells } := by
  induction cs generalizing s with
  | nil => rfl
  | cons c cs ih => simp [gather, clear, ih]

section Clears

variable {call : Arena.Call C σ Unit} {name : String}

theorem clear_composite {rule : Composite} {cs : List Nat}
    (hn : p.node? i = some ⟨name, .composite rule cs⟩) (h : ∀ c ∈ cs, p.Ends call p.clear c) :
    p.Ends (Arena.clear call) p.clear i := by
  intro s calls
  have hi := lt_size_of_node? hn
  have hreset := resetCells_of_lt hi s.cells
  rw [children_of_node? hn] at hreset
  obtain ⟨made, hmade, hloop⟩ :=
    loop_ends (fun _ => false) [] cs hn h (s.store i hi s.cells[i].reset) calls
  rw [gather_clear, List.length_nil] at hloop
  refine ⟨made, ?_, ?_⟩
  · rw [preorder_of_composite hn]
    exact hmade
  · unfold Arena.clear
    simp only [getElem?_slots hi hn, write_arena hi, hloop, clear, hreset, Option.map_some]
    rfl

theorem clear_decorator {rule : Decorator} {c : Nat}
    (hn : p.node? i = some ⟨name, .decorator rule (some c)⟩) (h : p.Ends call p.clear c) :
    p.Ends (Arena.clear call) p.clear i := by
  intro s calls
  have hi := lt_size_of_node? hn
  have hreset := resetCells_of_lt hi s.cells
  rw [children_of_node? hn] at hreset
  obtain ⟨made, hmade, hcall⟩ :=
    h.called (mem_children_of_decorator hn) (s.store i hi s.cells[i].reset) calls
  refine ⟨made, ?_, ?_⟩
  · rw [preorder_of_decorator hn]
    exact hmade
  · unfold Arena.clear
    simp only [getElem?_slots hi hn, write_arena hi, hcall, clear, hreset]
    rfl

/-- A leaf, or a decorator without a child. -/
theorem clear_childless (hi : i < p.size) (hchildren : p.children i = [])
    (s : Evaluation C σ p.size) (calls : List (Nat × Nat)) :
    ∃ made, p.Descends (p.preorder i).tail made ∧
      some ((), (p.arena s calls).write i s.cells[i].reset) =
        some ((p.clear i s).1, p.arena (p.clear i s).2 (calls ++ made)) := by
  have hreset := resetCells_of_lt hi s.cells
  rw [hchildren] at hreset
  refine ⟨[], .nil _, ?_⟩
  simp only [write_arena hi, clear, hreset, List.append_nil]
  rfl

theorem clear_ends (h : ∀ c ∈ p.children i, p.Ends call p.clear c) :
    p.Ends (Arena.clear call) p.clear i := by
  cases hn : p.node? i with
  | none =>
    have hi : p.size ≤ i := Array.getElem?_eq_none_iff.1 hn
    intro s calls
    refine ⟨[], .nil _, ?_⟩
    unfold Arena.clear clear resetCells
    simp [getElem?_slots_of_size_le hi, preorder_of_size_le hi]
  | some n =>
    have hi := lt_size_of_node? hn
    have hchildren := children_of_node? hn
    rw [hchildren] at h
    rcases n with ⟨name, ⟨rule, cs⟩ | ⟨rule, _ | c⟩ | action⟩
    · exact clear_composite hn h
    · intro s calls
      unfold Arena.clear
      simp only [getElem?_slots hi hn]
      exact clear_childless hi hchildren s calls
    · exact clear_decorator hn (h c (List.mem_singleton_self c))
    · intro s calls
      unfold Arena.clear
      simp only [getElem?_slots hi hn]
      exact clear_childless hi hchildren s calls

end Clears

/-- Resetting a node nests no more calls than there are nodes after it. -/
theorem reset_ends {limit : Nat} (h : p.size ≤ i + 1 + limit) :
    p.Ends (Arena.reset limit) p.clear i := by
  induction limit generalizing i with
  | zero =>
    apply clear_ends
    intro c hc
    have hlt := lt_of_mem_children hc
    omega
  | succ limit ih =>
    apply clear_ends
    intro c hc
    have hlt := lt_of_mem_children hc
    exact ih (by omega)

/-! ### Search -/

/-- A search takes no more from its stack than the nodes on it lead to, in their order. -/
theorem search_ends (s : Evaluation C σ p.size) (calls : List (Nat × Nat)) (name : String)
    {limit : Nat} {stack : List Nat} (hstack : ∀ i ∈ stack, i < p.size)
    (hlimit : (stack.flatMap p.preorder).length ≤ limit) :
    ∃ popped, popped <+: stack.flatMap p.preorder ∧
      (p.arena s calls).search name limit stack =
        some ((stack.flatMap p.preorder).find? fun i => p.name? i == some name, popped) := by
  induction limit generalizing stack with
  | zero =>
    cases stack with
    | nil => exact ⟨[], List.nil_prefix, by simp [Arena.search]⟩
    | cons i stack =>
      rw [List.flatMap_cons, preorder_of_lt (hstack i List.mem_cons_self)] at hlimit
      simp at hlimit
  | succ limit ih =>
    cases stack with
    | nil => exact ⟨[], List.nil_prefix, by simp [Arena.search]⟩
    | cons i stack =>
      have hi := hstack i List.mem_cons_self
      -- the children of a node take its place, so that the stack lists what is left of the preorder
      have hopen : (i :: stack).flatMap p.preorder =
          i :: (p.children i ++ stack).flatMap p.preorder := by
        rw [List.flatMap_cons, preorder_of_lt hi, List.flatMap_append, List.cons_append]
      rw [hopen] at hlimit ⊢
      unfold Arena.search
      rw [name?_arena, children_arena]
      by_cases hname : p.name? i = some name
      · refine ⟨[i], ⟨_, rfl⟩, ?_⟩
        simp [hname]
      · have hrange : ∀ j ∈ p.children i ++ stack, j < p.size := by
          intro j hj
          rcases List.mem_append.1 hj with hj | hj
          · exact (lt_of_mem_children hj).2
          · exact hstack j (List.mem_cons_of_mem i hj)
        obtain ⟨popped, hpopped, hsearch⟩ := ih hrange (Nat.le_of_succ_le_succ hlimit)
        refine ⟨i :: popped, List.cons_prefix_cons.2 ⟨rfl, hpopped⟩, ?_⟩
        rw [if_neg hname, hsearch, List.find?_cons_of_neg (by simpa using hname)]
        rfl

/-! ### Nothing is reached twice -/

/-- Where no node has two parents, of two nodes that lead to a third one leads to the other. -/
theorem Orderly.leads_or {j k : Nat} (h : p.Orderly) (hi : p.Leads i k) (hj : p.Leads j k) :
    p.Leads i j ∨ p.Leads j i := by
  have htotal := Relation.ReflTransGen.total_of_right_unique
    (r := Function.swap fun i c => c ∈ p.children i)
    (fun c i j hi hj => h.one_parent i j c hi hj)
    (Relation.reflTransGen_swap.2 hi) (Relation.reflTransGen_swap.2 hj)
  exact htotal.symm.imp Relation.reflTransGen_swap.1 Relation.reflTransGen_swap.1

/-- No child of a node leads to another one. -/
theorem Orderly.not_leads {c d : Nat} (h : p.Orderly) (hc : c ∈ p.children i)
    (hd : d ∈ p.children i) (hne : c ≠ d) : ¬p.Leads c d := by
  intro hlead
  obtain rfl | ⟨k, hck, hkd⟩ := hlead.cases_tail
  · exact hne rfl
  · -- the parent of `d` is `i`, which comes before `c`
    obtain rfl := h.one_parent k i d hkd hd
    have hlt := lt_of_mem_children hc
    have hle := le_of_mem_preorder ((mem_preorder hlt.2).2 hck)
    omega

/-- In a forest the preorder of a node lists nothing twice. -/
theorem Orderly.nodup_preorder (h : p.Orderly) (i : Nat) : (p.preorder i).Nodup := by
  induction i using p.child_induction with
  | step i ih =>
    by_cases hi : i < p.size
    · rw [preorder_of_lt hi, List.nodup_cons, List.nodup_flatMap]
      refine ⟨?_, ih, ?_⟩
      · intro hmem
        obtain ⟨c, hc, hci⟩ := List.mem_flatMap.1 hmem
        have hlt := lt_of_mem_children hc
        have hle := le_of_mem_preorder hci
        omega
      · refine (h.nodup_children i).imp_of_mem fun {c d} hc hd hne k hck hdk => ?_
        have hck := (mem_preorder (lt_of_mem_children hc).2).1 hck
        have hdk := (mem_preorder (lt_of_mem_children hd).2).1 hdk
        rcases h.leads_or hck hdk with hcd | hdc
        · exact h.not_leads hc hd hne hcd
        · exact h.not_leads hd hc hne.symm hdc
    · rw [preorder_of_size_le (by omega)]
      exact List.nodup_nil

theorem Orderly.nodup_reachable (h : p.Orderly) : p.reachable.Nodup := by
  unfold reachable
  cases p.root with
  | none => exact List.nodup_nil
  | some root => exact h.nodup_preorder root

/-- The root of an outline leads to no more nodes than there are. -/
theorem length_reachable_ofLines (lines : List (Line C σ)) :
    (ofLines lines).reachable.length ≤ (ofLines lines).size := by
  unfold reachable
  cases hroot : (ofLines lines).root with
  | none => exact Nat.zero_le _
  | some root =>
    have hpreorder := (tidy_ofLines lines).preorder root hroot
    show ((ofLines lines).preorder root).length ≤ _
    rw [show (ofLines lines).preorder root = _ from hpreorder, List.length_range']
    exact Nat.sub_le _ _

/-- A search in the plan of an outline takes nodes that the root leads to, in their order, and gives
the first of them that has the name. -/
theorem search_ofLines (lines : List (Line C σ)) (s : Evaluation C σ (ofLines lines).size)
    (calls : List (Nat × Nat)) (name : String) :
    ∃ popped, popped <+: (ofLines lines).reachable ∧
      ((ofLines lines).arena s calls).search name (ofLines lines).size
        (ofLines lines).root.toList = some ((ofLines lines).find? name, popped) := by
  have hroot : (ofLines lines).root.toList.flatMap (ofLines lines).preorder =
      (ofLines lines).reachable := by
    unfold reachable
    cases (ofLines lines).root <;> simp
  have hstack : ∀ r ∈ (ofLines lines).root.toList, r < (ofLines lines).size := fun r hr =>
    (tidy_ofLines lines).root_lt r (Option.mem_toList.1 hr)
  have hsearch := search_ends s calls name hstack (hroot ▸ length_reachable_ofLines lines)
  rwa [hroot] at hsearch

end Plan

namespace Tree

/-- A tree with a context as an arena on which nothing has been called yet. -/
def arena (t : Tree C σ) (c : C) : Arena C σ := t.plan.arena { context := c, cells := t.cells } []

/-- In the tree of an outline, whatever its nodes remember, evaluation and reset end at every index,
and the search for a name ends. They do what walking down the plan does. Calls go to greater
indices, so that no more are nested than there are nodes after the first, and no node is called
twice; loops go round at most once for each child; and no node is taken from the stack twice. -/
theorem walks_end (lines : List (Line C σ)) (cells : Vector (Cell σ) (Plan.ofLines lines).size)
    (c : C) (i : Nat) (name : String) :
    let t : Tree C σ := ⟨.ofLines lines, cells⟩
    let depth := t.plan.size - (i + 1)
    (∃ calls,
      (t.arena c).evaluate depth i = some ((t.evaluateAt i c).status,
        { (t.evaluateAt i c).tree.arena (t.evaluateAt i c).context with calls }) ∧
      (∀ call ∈ calls, call.1 < call.2) ∧
      (calls.map Prod.snd).Sublist (t.plan.preorder i).tail) ∧
    (∃ calls,
      (t.arena c).reset depth i = some ((), { (t.resetAt i).arena c with calls }) ∧
      (∀ call ∈ calls, call.1 < call.2) ∧
      (calls.map Prod.snd).Sublist (t.plan.preorder i).tail) ∧
    (∃ popped,
      (t.arena c).search name t.plan.size t.plan.root.toList = some (t.plan.find? name, popped) ∧
      popped <+: t.plan.reachable ∧ popped.Nodup) ∧
    (t.plan.preorder i).Nodup := by
  intro t depth
  have horderly : t.plan.Orderly := (Plan.layout_ofLines lines).1
  have hdepth : t.plan.size ≤ i + 1 + depth := by omega
  let s : Evaluation C σ t.plan.size := { context := c, cells }
  refine ⟨?_, ?_, ?_, horderly.nodup_preorder i⟩
  · obtain ⟨made, hmade, hcall⟩ := t.plan.evaluate_ends hdepth s []
    exact ⟨made, hcall, fun call => hmade.lt, hmade.once⟩
  · obtain ⟨made, hmade, hcall⟩ := t.plan.reset_ends hdepth s []
    exact ⟨made, hcall, fun call => hmade.lt, hmade.once⟩
  · obtain ⟨popped, hpopped, hsearch⟩ := Plan.search_ofLines lines s [] name
    exact ⟨popped, hsearch, hpopped, (horderly.nodup_reachable).sublist hpopped.sublist⟩

end Tree
end Guardhouse
