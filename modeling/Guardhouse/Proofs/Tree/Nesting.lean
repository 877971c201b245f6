import Guardhouse.Proofs.Tree.Written

/-!
# What lines leave open

How many nodes are open is the depth of a stack that the builder keeps. It can be told from the lines
alone, since all lines are a `Draft`, and in one way only as far as the depth goes: whole outlines of
shapes, and closes that had nothing to close; then composites that are open, each inside the one
before and with whole outlines in front of it; and last the decorators that wait for a child. Each
decorator closes itself when something is written below it, so of those only the last is open
(`Builder.depth_writeAll_iff`).

Nothing is open behind lines that are whole outlines and closes (`Builder.depth_writeAll_eq_zero_iff`),
and the nodes that are written at the top are those right behind such lines
(`Plan.writtenAtTop_iff`).
-/

namespace Guardhouse

variable {C σ : Type}

/-! ### Drafts -/

/-- The lines that write decorators, the outermost first. -/
def decoratorLines (around : List (String × Decorator)) : List (Line C σ) :=
  around.map fun d => .decorator d.1 d.2

/-- A shape as the only child of decorators, the outermost first. -/
def Shape.within (around : List (String × Decorator)) (t : Shape Unit C σ) : Shape Unit C σ :=
  around.foldr (fun d t => .decorator () d.1 d.2 t) t

theorem Shape.lines_within (around : List (String × Decorator)) (t : Shape Unit C σ) :
    (t.within around).lines = decoratorLines around ++ t.lines := by
  induction around with
  | nil => rfl
  | cons d around ih =>
    show Shape.lines (.decorator () d.1 d.2 (t.within around)) = _
    rw [lines, ih]
    rfl

theorem Shape.linesAll_concat (ts : List (Shape Unit C σ)) (t : Shape Unit C σ) :
    linesAll (ts ++ [t]) = linesAll ts ++ t.lines := by
  induction ts with
  | nil => simp [linesAll]
  | cons t' ts ih => rw [List.cons_append, linesAll, ih, linesAll, List.append_assoc]

/-- A composite that is open: the decorators that it is the child of, and its children so far. -/
structure Opened (C σ : Type) where
  around : List (String × Decorator)
  name : String
  rule : Composite
  children : List (Shape Unit C σ)

/-- The lines that have opened a composite. -/
def Opened.lines (o : Opened C σ) : List (Line C σ) :=
  decoratorLines o.around ++ .composite o.name o.rule :: Shape.linesAll o.children

/-- The lines of a whole outline; there is none where a close had nothing to close. -/
def doneLines (done : List (Option (Shape Unit C σ))) : List (Line C σ) :=
  done.flatMap fun t? => t?.elim [.close] Shape.lines

/-- An outline that goes on. -/
structure Draft (C σ : Type) where
  done : List (Option (Shape Unit C σ))
  /-- The innermost first. -/
  opened : List (Opened C σ)
  /-- The decorators that wait for a child, the outermost first. -/
  waiting : List (String × Decorator)

namespace Draft

def lines (d : Draft C σ) : List (Line C σ) :=
  doneLines d.done ++ d.opened.reverse.flatMap Opened.lines ++ decoratorLines d.waiting

/-- How many nodes are open. -/
def depth (d : Draft C σ) : Nat := d.opened.length + if d.waiting.isEmpty then 0 else 1

/-- A shape goes below whatever waits for it, and with that to the innermost composite. -/
theorem exists_put (d : Draft C σ) (t : Shape Unit C σ) :
    ∃ d' : Draft C σ, d'.lines = d.lines ++ t.lines := by
  obtain ⟨done, opened, waiting⟩ := d
  cases opened with
  | nil =>
    refine ⟨⟨done ++ [some (t.within waiting)], [], []⟩, ?_⟩
    simp [lines, doneLines, decoratorLines, Shape.lines_within]
  | cons o rest =>
    refine ⟨⟨done, { o with children := o.children ++ [t.within waiting] } :: rest, []⟩, ?_⟩
    simp [lines, Opened.lines, decoratorLines, Shape.lines_within, Shape.linesAll_concat]

theorem exists_close (d : Draft C σ) : ∃ d' : Draft C σ, d'.lines = d.lines ++ [.close] := by
  obtain ⟨done, opened, waiting⟩ := d
  rcases List.eq_nil_or_concat waiting with rfl | ⟨around, ⟨name, rule⟩, rfl⟩
  · cases opened with
    | nil =>
      refine ⟨⟨done ++ [none], [], []⟩, ?_⟩
      simp [lines, doneLines, decoratorLines]
    | cons o rest =>
      -- a composite that is closed is a whole shape
      obtain ⟨d', hd'⟩ := exists_put ⟨done, rest, o.around⟩ (.composite () o.name o.rule o.children)
      refine ⟨d', hd'.trans ?_⟩
      simp [lines, Opened.lines, decoratorLines, Shape.lines]
  · -- and so is a decorator that has waited for nothing
    obtain ⟨d', hd'⟩ := exists_put ⟨done, opened, around⟩ (.bare () name rule)
    refine ⟨d', hd'.trans ?_⟩
    simp [lines, decoratorLines, Shape.lines]

end Draft

theorem exists_draft (lines : List (Line C σ)) : ∃ d : Draft C σ, d.lines = lines := by
  induction lines using List.reverseRecOn with
  | nil => exact ⟨⟨[], [], []⟩, rfl⟩
  | append_singleton lines line ih =>
    obtain ⟨d, rfl⟩ := ih
    cases line with
    | composite name rule =>
      refine ⟨⟨d.done, ⟨d.waiting, name, rule, []⟩ :: d.opened, []⟩, ?_⟩
      simp [Draft.lines, Opened.lines, decoratorLines, Shape.linesAll]
    | decorator name rule =>
      refine ⟨⟨d.done, d.opened, d.waiting ++ [(name, rule)]⟩, ?_⟩
      simp [Draft.lines, decoratorLines]
    | leaf name action =>
      obtain ⟨d', hd'⟩ := d.exists_put (.leaf () name action)
      exact ⟨d', by rw [hd', Shape.lines]⟩
    | close => exact d.exists_close

/-! ### What is open -/

namespace Builder

variable {b : Builder C σ}

/-- The open nodes that close themselves with their first child, and those that do not. -/
def flags (b : Builder C σ) : List Bool := b.slots.map Slot.single

/-- What is open once something has been written below the innermost node. -/
def taken : List Bool → List Bool
  | true :: rest => rest
  | flags => flags

theorem flags_add (n : Node C σ) (hn : n.children = []) : (b.add n hn).flags = taken b.flags := by
  unfold flags
  cases h : b.slots with
  | nil => rw [slots_add_of_nil hn h]; rfl
  | cons slot rest =>
    obtain ⟨single, index⟩ := slot
    rw [slots_add_of_cons hn h]
    cases single <;> rfl

theorem flags_write_composite (name : String) (rule : Composite) :
    (b.write (.composite name rule)).flags = false :: taken b.flags :=
  congrArg (false :: ·) (flags_add _ rfl)

theorem flags_write_decorator (name : String) (rule : Decorator) :
    (b.write (.decorator name rule)).flags = true :: taken b.flags :=
  congrArg (true :: ·) (flags_add _ rfl)

theorem flags_writeAll_lines (t : Shape Unit C σ) : (b.writeAll t.lines).flags = taken b.flags := by
  unfold flags
  rw [(t.written b).slots_eq]
  exact flags_add _ _

theorem flags_writeAll_doneLines (hb : b.flags = []) (done : List (Option (Shape Unit C σ))) :
    (b.writeAll (doneLines done)).flags = [] := by
  induction done generalizing b with
  | nil => exact hb
  | cons t? done ih =>
    rw [doneLines, List.flatMap_cons, writeAll_append]
    apply ih
    cases t? with
    | none =>
      show b.slots.tail.map Slot.single = []
      rw [List.map_eq_nil_iff.1 hb]
      rfl
    | some t =>
      show (b.writeAll t.lines).flags = []
      rw [flags_writeAll_lines, hb]
      rfl

theorem flags_writeAll_linesAll {rest : List Bool} (hb : b.flags = false :: rest)
    (ts : List (Shape Unit C σ)) : (b.writeAll (Shape.linesAll ts)).flags = false :: rest := by
  induction ts generalizing b with
  | nil =>
    rw [Shape.linesAll]
    exact hb
  | cons t ts ih =>
    rw [Shape.linesAll, writeAll_append]
    apply ih
    rw [flags_writeAll_lines, hb]
    rfl

theorem flags_writeAll_decoratorLines (around : List (String × Decorator)) :
    (b.writeAll (decoratorLines around)).flags =
      if around.isEmpty then b.flags else true :: taken b.flags := by
  induction around generalizing b with
  | nil => rfl
  | cons d around ih =>
    show ((b.write (.decorator d.1 d.2)).writeAll (decoratorLines around)).flags = _
    rw [ih, flags_write_decorator]
    cases around <;> rfl

theorem taken_replicate (k : Nat) : taken (.replicate k false) = .replicate k false := by
  cases k <;> rfl

/-- One more composite is open, and whatever waited for it has got it. -/
theorem flags_writeAll_opened {k : Nat} (hb : b.flags = .replicate k false) (o : Opened C σ) :
    (b.writeAll o.lines).flags = .replicate (k + 1) false := by
  have haround : taken (b.writeAll (decoratorLines o.around)).flags = .replicate k false := by
    rw [flags_writeAll_decoratorLines, hb]
    split
    · exact taken_replicate k
    · exact taken_replicate k
  rw [Opened.lines, writeAll_append]
  generalize b.writeAll (decoratorLines o.around) = b' at haround ⊢
  show ((b'.write (.composite o.name o.rule)).writeAll _).flags = _
  refine flags_writeAll_linesAll ?_ o.children
  rw [flags_write_composite, haround]

theorem flags_writeAll_flatMap {k : Nat} (hb : b.flags = .replicate k false)
    (opened : List (Opened C σ)) :
    (b.writeAll (opened.flatMap Opened.lines)).flags = .replicate (k + opened.length) false := by
  induction opened generalizing b k with
  | nil => exact hb
  | cons o opened ih =>
    rw [List.flatMap_cons, writeAll_append, ih (flags_writeAll_opened hb o), List.length_cons,
      Nat.add_right_comm, Nat.add_assoc]

theorem depth_writeAll_draft (d : Draft C σ) :
    ((empty : Builder C σ).writeAll d.lines).depth = d.depth := by
  have hdone : ((empty : Builder C σ).writeAll (doneLines d.done)).flags = .replicate 0 false :=
    flags_writeAll_doneLines rfl d.done
  have hopened := flags_writeAll_flatMap hdone d.opened.reverse
  have hlength : ∀ b : Builder C σ, b.depth = b.flags.length := fun b => by simp [depth, flags]
  rw [hlength, Draft.lines, writeAll_append, writeAll_append, flags_writeAll_decoratorLines, hopened,
    taken_replicate, Draft.depth]
  split <;> simp

/-- Lines leave as many nodes open as the draft that they are. -/
theorem depth_writeAll_iff (lines : List (Line C σ)) (k : Nat) :
    (empty.writeAll lines).depth = k ↔ ∃ d : Draft C σ, d.lines = lines ∧ d.depth = k := by
  constructor
  · intro h
    obtain ⟨d, rfl⟩ := exists_draft lines
    exact ⟨d, rfl, (depth_writeAll_draft d).symm.trans h⟩
  · rintro ⟨d, rfl, rfl⟩
    exact depth_writeAll_draft d

/-- Lines leave nothing open if they are whole outlines and closes. -/
theorem depth_writeAll_eq_zero_iff (lines : List (Line C σ)) :
    (empty.writeAll lines).depth = 0 ↔
      ∃ done : List (Option (Shape Unit C σ)), lines = doneLines done := by
  rw [depth_writeAll_iff]
  constructor
  · rintro ⟨⟨done, opened, waiting⟩, rfl, hdepth⟩
    obtain ⟨rfl, rfl⟩ : opened = [] ∧ waiting = [] := by simpa [Draft.depth] using hdepth
    exact ⟨done, by simp [Draft.lines, decoratorLines]⟩
  · rintro ⟨done, rfl⟩
    exact ⟨⟨done, [], []⟩, by simp [Draft.lines, decoratorLines], rfl⟩

end Builder

/-- The node with index `k` is written at the top if the lines in front of it are whole outlines and
closes, and write `k` nodes. -/
theorem Plan.writtenAtTop_iff (lines : List (Line C σ)) (k : Nat) :
    WrittenAtTop lines k ↔
      ∃ (done : List (Option (Shape Unit C σ))) (line : Line C σ) (after : List (Line C σ)),
        lines = doneLines done ++ line :: after ∧ line.isNode = true ∧
          k = (doneLines done).countP Line.isNode := by
  constructor
  · rintro ⟨before, line, after, heq, hline, hdepth, hk⟩
    obtain ⟨done, rfl⟩ := (Builder.depth_writeAll_eq_zero_iff before).1 hdepth
    exact ⟨done, line, after, heq, hline, hk⟩
  · rintro ⟨done, line, after, heq, hline, hk⟩
    exact ⟨_, line, after, heq, hline, (Builder.depth_writeAll_eq_zero_iff _).2 ⟨done, rfl⟩, hk⟩

end Guardhouse
