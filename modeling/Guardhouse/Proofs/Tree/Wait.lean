import Guardhouse.Proofs.Number.Double
import Guardhouse.Proofs.Tree.Invocations
import Guardhouse.Proofs.Tree.Repeater

/-!
# Waits

A wait that is evaluated while it is not waiting begins to wait at the reading of its clock. It runs
until a reading is late enough, and succeeds then; a success ends the waiting, and so does a reset.
Evaluations may come at any readings, as long as the clock does not go back, and may leave out any
others (`Tree.waits_out`).

What happens to a wait is a list of occurrences. `Waited` says what a wait does at each, by the
reading since which it has been waiting. This law composes (`Waited.append`), so it holds of every
evaluation of a tree (`Plan.waited_evaluate`) and of every use of it (`Tree.waited_callAll`). The
reading itself shows nowhere: it is the first one of a cycle (`Waited.of_cycle`), and no earlier than
the last success (`Waited.spacing`).
-/

namespace Guardhouse

variable {C σ : Type}

/-- Something that happens to a wait. -/
inductive Occurrence where
  /-- It is evaluated at a reading of its clock. -/
  | evaluated (reading : Float) (status : Status)
  | reset
  deriving DecidableEq, Repr

namespace Occurrence

def reading? : Occurrence → Option Float
  | evaluated reading _ => some reading
  | reset => none

/-- The readings at which a wait is evaluated. -/
def readings (log : List Occurrence) : List Float := log.filterMap reading?

/-- The wait is over afterwards. -/
def Ends : Occurrence → Prop
  | evaluated _ status => status = .success
  | reset => True

theorem readings_append (log log' : List Occurrence) :
    readings (log ++ log') = readings log ++ readings log' := List.filterMap_append

@[simp] theorem readings_evaluated (r : Float) (status : Status) (log : List Occurrence) :
    readings (.evaluated r status :: log) = r :: readings log := rfl

end Occurrence

open Occurrence (readings)

/-- What a wait does at some occurrences, and since which reading it is waiting before the first and
after the last of them, if it is. -/
inductive Waited (seconds : Float) : Option Float → List Occurrence → Option Float → Prop
  | nil (since? : Option Float) : Waited seconds since? [] since?
  | reset {since? since?' : Option Float} {log : List Occurrence}
      (next : Waited seconds none log since?') : Waited seconds since? (.reset :: log) since?'
  | running {since? since?' : Option Float} {log : List Occurrence} {now : Float}
      (early : now - since?.getD now < seconds)
      (next : Waited seconds (some (since?.getD now)) log since?') :
      Waited seconds since? (.evaluated now .running :: log) since?'
  | success {since? since?' : Option Float} {log : List Occurrence} {now : Float}
      (late : ¬now - since?.getD now < seconds) (next : Waited seconds none log since?') :
      Waited seconds since? (.evaluated now .success :: log) since?'

namespace Waited

variable {seconds r r₁ r₂ : Float} {since? since?' since?'' : Option Float} {status : Status}
  {log log' before cycle between after : List Occurrence}

theorem append (h : Waited seconds since? log since?') (h' : Waited seconds since?' log' since?'') :
    Waited seconds since? (log ++ log') since?'' := by
  induction h with
  | nil => exact h'
  | reset _ ih => exact .reset (ih h')
  | running early _ ih => exact .running early (ih h')
  | success late _ ih => exact .success late (ih h')

theorem split (h : Waited seconds since? (log ++ log') since?'') :
    ∃ since?', Waited seconds since? log since?' ∧ Waited seconds since?' log' since?'' := by
  induction log generalizing since? with
  | nil => exact ⟨since?, .nil _, h⟩
  | cons o log ih =>
    cases h with
    | reset next =>
      obtain ⟨since?', hlog, hlog'⟩ := ih next
      exact ⟨since?', .reset hlog, hlog'⟩
    | running early next =>
      obtain ⟨since?', hlog, hlog'⟩ := ih next
      exact ⟨since?', .running early hlog, hlog'⟩
    | success late next =>
      obtain ⟨since?', hlog, hlog'⟩ := ih next
      exact ⟨since?', .success late hlog, hlog'⟩

/-- Nothing is waited for in the beginning and after what ends a wait. -/
theorem eq_none (h : Waited seconds none log since?') (hlast : ∀ o ∈ log.getLast?, o.Ends) :
    since?' = none := by
  induction log using List.reverseRecOn with
  | nil =>
    cases h
    rfl
  | append_singleton log o _ =>
    have hends : o.Ends := hlast o (by simp)
    obtain ⟨since?, -, ho⟩ := h.split
    cases ho with
    | reset next =>
      cases next
      rfl
    | running early next => cases hends
    | success late next =>
      cases next
      rfl

/-- In a cycle everything runs until a reading is late enough, by the reading since which the wait
has been waiting, or else by the first one of the cycle. -/
theorem of_cycle (h : Waited seconds since? (cycle ++ .evaluated r status :: after) since?')
    (hreset : .reset ∉ cycle) {r₀ : Float} (hr₀ : r₀ = since?.getD ((readings cycle).headD r))
    (hcycle : (∀ o ∈ cycle, ¬o.Ends) ∨ ∀ r' ∈ readings cycle, r' - r₀ < seconds) :
    (∀ o ∈ cycle, ∃ r', o = .evaluated r' .running) ∧
      status = if r - r₀ < seconds then .running else .success := by
  induction cycle generalizing since? with
  | nil =>
    subst hr₀
    refine ⟨fun o ho => absurd ho List.not_mem_nil, ?_⟩
    cases h with
    | running early next => exact (if_pos early).symm
    | success late next => exact (if_neg late).symm
  | cons o cycle ih =>
    have hrest : (∀ o ∈ cycle, ¬o.Ends) ∨ ∀ r' ∈ readings cycle, r' - r₀ < seconds := by
      refine hcycle.imp (fun h o ho => h o (.tail _ ho)) fun h r' hr' => h r' ?_
      exact ((List.sublist_cons_self o cycle).filterMap _).subset hr'
    cases h with
    | reset next => exact absurd (.head _) hreset
    | @running _ _ _ now early next =>
      -- from here on the wait has been waiting since a reading
      have hrunning := ih next (fun h => hreset (.tail _ h)) hr₀ hrest
      exact ⟨List.forall_mem_cons.2 ⟨⟨now, rfl⟩, hrunning.1⟩, hrunning.2⟩
    | @success _ _ _ now late next =>
      rcases hcycle with hends | hearly
      · exact absurd rfl (hends _ (.head _))
      · subst hr₀
        exact absurd (hearly now (.head _)) late

/-- A success is late enough after whatever comes before the readings of its cycle. -/
theorem spacing (h : Waited seconds since? (between ++ .evaluated r₂ .success :: after) since?')
    (hseconds : 0 < seconds) (hr₁ : r₁.isFinite = true)
    (hsince : ∀ r ∈ since?, r₁ ≤ r ∧ r.isFinite = true)
    (hbetween : ∀ r ∈ readings between, r₁ ≤ r ∧ r.isFinite = true)
    (hr₂ : r₁ ≤ r₂ ∧ r₂.isFinite = true) : seconds ≤ r₂ - r₁ := by
  -- whatever reading the wait goes by, it is one after the first success
  have hbegin : ∀ {since? : Option Float}, (∀ r ∈ since?, r₁ ≤ r ∧ r.isFinite = true) →
      ∀ {r}, r₁ ≤ r ∧ r.isFinite = true →
        r₁ ≤ since?.getD r ∧ (since?.getD r).isFinite = true := by
    intro since? h r hr
    cases since? with
    | none => exact hr
    | some r₀ => exact h r₀ rfl
  induction between generalizing since? with
  | nil =>
    cases h with
    | success late next =>
      obtain ⟨hle, hfinite⟩ := hbegin hsince hr₂
      exact Double.le_sub_of_le hr₂.2 hfinite hr₁ hle
        ((Double.not_sub_lt hr₂.2 hfinite hseconds).1 late)
  | cons o between ih =>
    cases h with
    | reset next => exact ih next (fun _ h => nomatch h) hbetween
    | running early next =>
      obtain ⟨hfirst, hrest⟩ := List.forall_mem_cons.1 hbetween
      exact ih next (fun _ h => Option.some.inj h ▸ hbegin hsince hfirst) hrest
    | success late next =>
      exact ih next (fun _ h => nomatch h) (List.forall_mem_cons.1 hbetween).2

/-- With finite readings it shows when a reading is late enough. -/
theorem in_cycle
    (h : Waited seconds none (before ++ (cycle ++ .evaluated r status :: after)) since?')
    (hseconds : 0 < seconds) (hfinite : ∀ r' ∈ r :: readings cycle, r'.isFinite = true)
    (hbefore : ∀ o ∈ before.getLast?, o.Ends) (hreset : .reset ∉ cycle)
    (hcycle : (∀ o ∈ cycle, ¬o.Ends) ∨
      ∀ r' ∈ readings cycle, ¬seconds ≤ r' - (readings cycle).headD r) :
    (∀ o ∈ cycle, ∃ r', o = .evaluated r' .running) ∧
      status = if seconds ≤ r - (readings cycle).headD r then .success else .running := by
  have hhead : (readings cycle).headD r ∈ r :: readings cycle := by
    cases readings cycle <;> simp
  have hlate : ∀ r' ∈ r :: readings cycle, ¬r' - (readings cycle).headD r < seconds ↔
      seconds ≤ r' - (readings cycle).headD r := fun r' hr' =>
    Double.not_sub_lt (hfinite r' hr') (hfinite _ hhead) hseconds
  obtain ⟨since?, hfirst, hthen⟩ := h.split
  obtain rfl := hfirst.eq_none hbefore
  have hearly := hcycle.imp_right fun h r' hr' =>
    not_not.1 (mt (hlate r' (.tail _ hr')).1 (h r' hr'))
  obtain ⟨hrunning, hstatus⟩ := hthen.of_cycle hreset rfl hearly
  refine ⟨hrunning, hstatus.trans ?_⟩
  rw [if_congr (hlate r (.head _)).symm rfl rfl, ite_not]
  rfl

/-- Two successes are far enough apart. -/
theorem apart
    (h : Waited seconds none
      (before ++ .evaluated r₁ .success :: (between ++ .evaluated r₂ .success :: after)) since?')
    (hseconds : 0 < seconds)
    (hfinite : ∀ r ∈ r₁ :: (readings between ++ [r₂]), r.isFinite = true)
    (hclock : ∀ r ∈ readings between ++ [r₂], r₁ ≤ r) : seconds ≤ r₂ - r₁ := by
  obtain ⟨hfirst, hlater⟩ := List.forall_mem_cons.1 hfinite
  have hreadings : ∀ r ∈ readings between ++ [r₂], r₁ ≤ r ∧ r.isFinite = true :=
    fun r hr => ⟨hclock r hr, hlater r hr⟩
  obtain ⟨since?, -, hthen⟩ := h.split
  cases hthen with
  | success late next =>
    exact next.spacing hseconds hfirst (fun _ h => nomatch h)
      (fun r hr => hreadings r (List.mem_append_left _ hr)) (hreadings r₂ (by simp))

end Waited

/-! ### One evaluation -/

namespace Plan

variable {p : Plan C σ} {w : Nat} {name : String} {seconds : Float} {clock : C → Float}

/-- The evaluations of a leaf among visits, each with the context that the leaf is evaluated in:
contexts come about by invoking the leaves visited before. -/
def occasions (p : Plan C σ) (w : Nat) : List Visit → Evaluation C σ p.size → List (C × Status)
  | [], _ => []
  | v :: vs, s =>
    if v.node = w then (s.context, v.status) :: p.occasions w vs (p.invoke s v.node)
    else p.occasions w vs (p.invoke s v.node)

theorem occasions_append (vs vs' : List Visit) (s : Evaluation C σ p.size) :
    p.occasions w (vs ++ vs') s = p.occasions w vs s ++ p.occasions w vs' (p.replay vs s) := by
  induction vs generalizing s with
  | nil => rfl
  | cons v vs ih =>
    rw [List.cons_append, occasions, occasions, ih]
    split <;> rfl

/-- The evaluations of a wait among visits. -/
def waits (p : Plan C σ) (w : Nat) (clock : C → Float) (vs : List Visit)
    (s : Evaluation C σ p.size) : List Occurrence :=
  (p.occasions w vs s).map fun (context, status) => .evaluated (clock context) status

theorem waits_append (vs vs' : List Visit) (s : Evaluation C σ p.size) :
    p.waits w clock (vs ++ vs') s = p.waits w clock vs s ++ p.waits w clock vs' (p.replay vs s) := by
  unfold waits
  rw [occasions_append, List.map_append]

theorem waits_cons_of_not_isLeaf {i : Nat} (hi : p.isLeaf i = false)
    (hw : p.node? w = some ⟨name, .leaf (.wait seconds clock)⟩) (caller : Option Nat)
    (status : Status) (vs : List Visit) (s : Evaluation C σ p.size) :
    p.waits w clock (⟨i, caller, status⟩ :: vs) s = p.waits w clock vs s := by
  have hne : i ≠ w := by
    rintro rfl
    rw [isLeaf_of_node? hw] at hi
    cases hi
  unfold waits
  rw [occasions, if_neg hne, invoke_of_not_isLeaf hi]

/-- What a wait does when it is evaluated itself. -/
theorem waited_leaf (hw : p.node? w = some ⟨name, .leaf (.wait seconds clock)⟩) (hlt : w < p.size)
    (s : Evaluation C σ p.size) :
    Waited seconds s.cells[w].since? [.evaluated (clock s.context) (p.evaluate w s).1]
      (p.evaluate w s).2.cells[w].since? := by
  have hcells : (s.enter w).cells[w] = s.cells[w] := rfl
  have hcontext : (s.enter w).context = s.context := rfl
  rw [evaluate_leaf hw]
  simp only [Leaf.evaluate, hcells, hcontext]
  split
  · next early =>
    show Waited _ _ _ ((s.cells.set w _ hlt)[w]).since?
    rw [Vector.getElem_set_self]
    exact .running early (.nil _)
  · next late =>
    show Waited _ _ _ ((s.cells.set w _ hlt)[w]).since?
    rw [Vector.getElem_set_self]
    exact .success late (.nil _)

/-- What a wait does in the course of an evaluation. -/
theorem waited_evaluate (hw : p.node? w = some ⟨name, .leaf (.wait seconds clock)⟩)
    (hlt : w < p.size) (i : Nat) (caller : Option Nat) (s : Evaluation C σ p.size) :
    Waited seconds s.cells[w].since? (p.waits w clock (p.visits i caller s) s)
      (p.evaluate i s).2.cells[w].since? := by
  have hreplays := p.summary_replays
  -- the replay is carried along, because it gives the context at each reading
  refine (Summary.evaluate (R := fun s vs s' => p.Replays s vs s' ∧ ∀ u, p.LeavesAlike u s →
    Waited seconds s.cells[w].since? (p.waits w clock vs u) s'.cells[w].since?) ?_ i caller s).2 s
    ⟨rfl, fun _ _ => rfl⟩
  constructor
  case nil => exact fun s => ⟨hreplays.nil s, fun u hu => .nil _⟩
  case append =>
    rintro s s' s'' vs vs' ⟨hr, h⟩ ⟨hr', h'⟩
    refine ⟨hreplays.append _ _ _ _ _ hr hr', fun u hu => ?_⟩
    rw [waits_append]
    exact (h u hu).append (h' _ (hr u hu))
  case leaf =>
    intro i name action hn caller s
    refine ⟨hreplays.leaf i name action hn caller s, fun u hu => ?_⟩
    by_cases hiw : i = w
    · subst hiw
      unfold waits
      rw [occasions, if_pos rfl, hu.context]
      exact waited_leaf hw hlt s
    · have hi := lt_size_of_node? hn
      unfold waits
      rw [occasions, if_neg hiw, evaluate_leaf hn, Leaf.evaluate_eq]
      show Waited _ _ [] (s.cells.set i _ hi)[w].since?
      rw [Vector.getElem_set_ne _ _ hiw]
      exact .nil _
  case composite =>
    rintro i name rule cs hn caller s vs s' ⟨hr, h⟩
    refine ⟨hreplays.composite i name rule cs hn caller s vs s' hr, fun u hu => ?_⟩
    rw [waits_cons_of_not_isLeaf (isLeaf_of_composite hn) hw]
    exact h u (hu.enter i)
  case bare =>
    intro i name rule hn caller s
    refine ⟨hreplays.bare i name rule hn caller s, fun u hu => ?_⟩
    rw [waits_cons_of_not_isLeaf (isLeaf_of_decorator hn) hw]
    exact .nil _
  case exhausted =>
    intro i name rule c hi hn caller s hexhausted
    refine ⟨hreplays.exhausted i name rule c hi hn caller s hexhausted, fun u hu => ?_⟩
    rw [waits_cons_of_not_isLeaf (isLeaf_of_decorator hn) hw]
    exact .nil _
  case decorator =>
    rintro i name rule c hi hn caller s hexhausted e settled ⟨hr, h⟩
    have hne : i ≠ w := ne_of_node? hn hw (by simp)
    refine ⟨hreplays.decorator i name rule c hi hn caller s hexhausted hr, fun u hu => ?_⟩
    rw [waits_cons_of_not_isLeaf (isLeaf_of_decorator hn) hw]
    show Waited _ _ _ (e.2.cells.set i _ hi)[w].since?
    rw [Vector.getElem_set_ne _ _ hne]
    exact h u (hu.enter i)

end Plan

/-! ### Using a tree -/

namespace Tree

/-- What happens to a wait in a call. -/
def occurrences (t : Tree C σ) (w : Nat) (clock : C → Float) : Call C → List Occurrence
  | .evaluate c =>
    t.plan.waits w clock (t.visits (.evaluate c)) { context := c, cells := t.cells }
  | .evaluateAt i c =>
    t.plan.waits w clock (t.visits (.evaluateAt i c)) { context := c, cells := t.cells }
  | .resetAt a => if w ∈ t.plan.preorder a then [.reset] else []

/-- What happens to a wait in calls. -/
def occurrencesAll (t : Tree C σ) (w : Nat) (clock : C → Float) : List (Call C) → List Occurrence
  | [] => []
  | call :: calls => t.occurrences w clock call ++ (t.call call).occurrencesAll w clock calls

section Wait

variable {t : Tree C σ} {w : Nat} {name : String} {seconds : Float} {clock : C → Float}
  (hw : t.plan.node? w = some ⟨name, .leaf (.wait seconds clock)⟩)

include hw

theorem waited_call (call : Call C) :
    Waited seconds (t.cell w).since? (t.occurrences w clock call)
      ((t.call call).cell w).since? := by
  have hlt := Plan.lt_size_of_node? hw
  have hat : ∀ i c, Waited seconds (t.cell w).since? (t.occurrences w clock (.evaluateAt i c))
      ((t.call (.evaluateAt i c)).cell w).since? := by
    intro i c
    rw [cell_of_lt hlt, cell_of_lt (t := t.call (.evaluateAt i c)) hlt]
    exact Plan.waited_evaluate hw hlt i none { context := c, cells := t.cells }
  cases call with
  | evaluate c =>
    rcases t.call_evaluate c with ⟨root, hcall, hvisits⟩ | ⟨hcall, hvisits⟩
    · rw [hcall, occurrences, hvisits]
      exact hat root c
    · rw [hcall, occurrences, hvisits]
      exact .nil _
  | evaluateAt i c => exact hat i c
  | resetAt a =>
    show Waited _ _ (if _ then _ else _) ((t.resetAt a).cell w).since?
    rw [cell_resetAt]
    split
    · cases t.cell w <;> exact .reset (.nil _)
    · exact .nil _

theorem waited_callAll (calls : List (Call C)) :
    Waited seconds (t.cell w).since? (t.occurrencesAll w clock calls)
      ((t.callAll calls).cell w).since? := by
  induction calls generalizing t with
  | nil => exact .nil _
  | cons call calls ih =>
    have hplan := t.plan_call call
    exact (waited_call hw call).append (ih (t := t.call call) (hplan ▸ hw))

end Wait

/-- However an outline is nested, whatever calls use its tree, and whichever evaluations come to a
wait in it: as long as the readings of its clock are finite and never go back, the wait does not
succeed before its seconds have passed.

Since the tree was built or the wait was reset, its first success comes at least so long after its
first reading. Two successes are at least so far apart. In a cycle, which begins where the wait was
built, reset or over, and has no reset in it, the wait runs until the first reading that is so late
after the first one of the cycle, and succeeds at that one. -/
theorem waits_out (lines : List (Line C σ)) (calls : List (Call C)) {w : Nat} {name : String}
    {seconds : Float} {clock : C → Float}
    (hw : (Plan.ofLines lines).node? w = some ⟨name, .leaf (.wait seconds clock)⟩)
    (hseconds : 0 < seconds)
    (hfinite : ∀ r ∈ readings ((Tree.ofLines lines).occurrencesAll w clock calls),
      r.isFinite = true)
    (hclock : (readings ((Tree.ofLines lines).occurrencesAll w clock calls)).Pairwise (· ≤ ·)) :
    let log := (Tree.ofLines lines).occurrencesAll w clock calls
    (∀ (before cycle after : List Occurrence) (r : Float),
      log = before ++ (cycle ++ .evaluated r .success :: after) →
      (before = [] ∨ before.getLast? = some .reset) → (∀ o ∈ cycle, ¬o.Ends) →
        seconds ≤ r - (readings cycle).headD r) ∧
    (∀ (before between after : List Occurrence) (r₁ r₂ : Float),
      log = before ++ .evaluated r₁ .success :: (between ++ .evaluated r₂ .success :: after) →
        seconds ≤ r₂ - r₁) ∧
    (∀ (before cycle after : List Occurrence) (r : Float) (status : Status),
      log = before ++ (cycle ++ .evaluated r status :: after) →
      (∀ o ∈ before.getLast?, o.Ends) → .reset ∉ cycle →
      (∀ r' ∈ readings cycle, ¬seconds ≤ r' - (readings cycle).headD r) →
        (∀ o ∈ cycle, ∃ r', o = .evaluated r' .running) ∧
          status = if seconds ≤ r - (readings cycle).headD r then .success else .running) := by
  intro log
  have hwaited : Waited seconds none log (((Tree.ofLines lines).callAll calls).cell w).since? := by
    have hfresh : ((Tree.ofLines lines).cell w).since? = none :=
      congrArg Cell.since? (cell_ofPlan _ w)
    rw [← hfresh]
    exact waited_callAll (t := Tree.ofLines lines) hw calls
  have hreadings : ∀ (before cycle after : List Occurrence) (r : Float) (status : Status),
      log = before ++ (cycle ++ .evaluated r status :: after) →
        ∀ r' ∈ r :: readings cycle, r'.isFinite = true := by
    intro before cycle after r status hlog r' hr'
    refine hfinite r' ?_
    show r' ∈ readings log
    rw [hlog, Occurrence.readings_append, Occurrence.readings_append]
    refine List.mem_append_right _ ?_
    rcases List.mem_cons.1 hr' with rfl | hr'
    · exact List.mem_append_right _ (.head _)
    · exact List.mem_append_left _ hr'
  refine ⟨?_, ?_, ?_⟩
  · intro before cycle after r hlog hbefore hcycle
    have hends : ∀ o ∈ before.getLast?, o.Ends := by
      rcases hbefore with rfl | hlast
      · exact fun o ho => nomatch ho
      · rw [hlast]
        rintro o ⟨⟩
        trivial
    rw [hlog] at hwaited
    have hsuccess := (hwaited.in_cycle hseconds (hreadings _ _ _ _ _ hlog) hends
      (fun h => hcycle _ h trivial) (.inl hcycle)).2
    by_contra hearly
    rw [if_neg hearly] at hsuccess
    cases hsuccess
  · intro before between after r₁ r₂ hlog
    have hsplit : readings log =
        readings before ++ r₁ :: (readings between ++ r₂ :: readings after) := by
      rw [hlog, Occurrence.readings_append, Occurrence.readings_evaluated,
        Occurrence.readings_append, Occurrence.readings_evaluated]
    have hsub : readings between ++ [r₂] ⊆ readings between ++ r₂ :: readings after :=
      ((List.singleton_sublist.2 (.head _)).append_left _).subset
    change ∀ r ∈ readings log, _ at hfinite
    change (readings log).Pairwise _ at hclock
    rw [hsplit] at hfinite hclock
    rw [hlog] at hwaited
    refine hwaited.apart hseconds (fun r hr => hfinite r ?_) fun r hr => ?_
    · exact List.mem_append_right _ (List.cons_subset_cons r₁ hsub hr)
    · exact List.rel_of_pairwise_cons (List.pairwise_append.1 hclock).2.1 (hsub hr)
  · intro before cycle after r status hlog hbefore hreset hearly
    rw [hlog] at hwaited
    exact hwaited.in_cycle hseconds (hreadings _ _ _ _ _ hlog) hbefore hreset (.inr hearly)

/-- A wait of two seconds behind a gate: it is reset, one evaluation is kept from it, and it succeeds
twice. -/
theorem waits_out_gated :
    let outline : List (Line (Bool × Float) Unit) := [.composite "Root" .sequence,
      .leaf "Open" (.condition fun c => (c.1, c)), .leaf "Pause" (.wait 2 Prod.snd), .close]
    let calls : List (Call (Bool × Float)) := [.evaluate (true, 1), .resetAt 0,
      .evaluate (true, 2), .evaluate (false, 4), .evaluate (true, 5), .evaluate (true, 6),
      .evaluate (true, 8)]
    (Tree.ofLines outline).occurrencesAll 2 Prod.snd calls =
      [.evaluated 1 .running, .reset, .evaluated 2 .running, .evaluated 5 .success,
        .evaluated 6 .running, .evaluated 8 .success] ∧
      (2 : Float) ≤ 5 - 2 ∧ (2 : Float) ≤ 8 - 5 ∧
      Status.success = if (2 : Float) ≤ 8 - 6 then .success else .running := by
  intro outline calls
  have hlog : (Tree.ofLines outline).occurrencesAll 2 Prod.snd calls =
      [.evaluated 1 .running, .reset, .evaluated 2 .running, .evaluated 5 .success,
        .evaluated 6 .running, .evaluated 8 .success] := by decide +kernel
  obtain ⟨hfirst, hapart, hcycle⟩ := waits_out outline calls (w := 2) rfl (by decide +kernel)
    (by rw [hlog]; decide +kernel) (by rw [hlog]; decide +kernel)
  refine ⟨hlog, ?_, ?_, ?_⟩
  · exact hfirst [.evaluated 1 .running, .reset] [.evaluated 2 .running] _ 5 hlog (.inr rfl)
      (by simp [Occurrence.Ends])
  · exact hapart [.evaluated 1 .running, .reset, .evaluated 2 .running] [.evaluated 6 .running] []
      5 8 hlog
  · refine (hcycle [.evaluated 1 .running, .reset, .evaluated 2 .running, .evaluated 5 .success]
      [.evaluated 6 .running] [] 8 .success hlog ?_ (by simp) ?_).2
    · simp [Occurrence.Ends]
    · simp only [Occurrence.readings_evaluated]
      decide +kernel

end Tree
end Guardhouse
