import Guardhouse.Proofs.Guard.Records

/-!
# The trace of a run

The events that a guard emits tell all that matters of its run: in every round at most one, of a
change of its state or of a catch. The changes lead without a gap from patrol to the state that the
guard is in (`Leads`), and are the very ones that it records in its journal; the catches are as many
as it remembers and has reported (`Guard.trace_tells_run`). `Taped` is a sink that tapes the events,
so that those of a round can be told apart.
-/

namespace Guardhouse

/-- A sink with the events that were emitted into it, the last one at the end. -/
structure Taped (T : Type) where
  sink : T
  tape : List Trace.Event := []

namespace Taped

variable {T : Type} [Trace.Sink T]

instance : Trace.Sink (Taped T) where
  emit t e := ⟨Trace.Sink.emit t.sink e, t.tape ++ [e]⟩

theorem foldl_emit (events : List Trace.Event) (t : Taped T) :
    events.foldl Trace.emit? (some t) =
      some ⟨events.foldl Trace.Sink.emit t.sink, t.tape ++ events⟩ := by
  induction events generalizing t with
  | nil => rw [List.append_nil]; rfl
  | cons e events ih =>
    rw [List.foldl_cons, List.append_cons]
    exact ih (Trace.Sink.emit t e)

end Taped

theorem Trace.isSome_foldl_emit {T : Type} [Sink T] (events : List Event) (sink : Option T) :
    (events.foldl emit? sink).isSome = sink.isSome := by
  induction events generalizing sink with
  | nil => rfl
  | cons e events ih => rw [List.foldl_cons, ih, emit?, Option.isSome_map]

namespace Guard

/-- The events lead from one number to another: each begins where the one before it has ended, and
none ends where it begins. -/
inductive Leads : UInt64 → List Trace.Event → UInt64 → Prop
  | nil (a : UInt64) : Leads a [] a
  | cons {e : Trace.Event} {events : List Trace.Event} {b : UInt64} (hne : e.a ≠ e.b)
      (h : Leads e.b events b) : Leads e.a (e :: events) b

theorem Leads.append {a b c : UInt64} {events events' : List Trace.Event} (h : Leads a events b)
    (h' : Leads b events' c) : Leads a (events ++ events') c := by
  induction h with
  | nil => exact h'
  | cons hne _ ih => exact .cons hne (ih h')

/-! ### The events of a frame -/

section Events

variable (tick : UInt64) (source target : State) (caught : Bool)

/-- The events that tell of a change of state. -/
def changes (events : List Trace.Event) : List Trace.Event :=
  events.filter (·.tag == "guard.transition")

/-- The number of events that tell of a catch. -/
def catches (events : List Trace.Event) : Nat := events.countP (·.tag == "guard.caught")

theorem changes_events : changes (events tick source target caught) =
    events tick source target false := by
  unfold changes events
  by_cases h : target = source <;> cases caught <;> simp [h]

theorem catches_events : catches (events tick source target caught) = if caught then 1 else 0 := by
  unfold catches events
  by_cases h : target = source <;> cases caught <;> simp [h]

theorem leads_events : Leads source.code (events tick source target false) target.code := by
  unfold events
  split
  · next h =>
    rw [h]
    exact .nil _
  · next h =>
    have hcode : source.code ≠ target.code := fun hcode => h (State.code_inj.1 hcode).symm
    exact .cons (e := { tick, tag := "guard.transition", a := source.code, b := target.code })
      hcode (.nil _)

end Events

/-- The events of a frame: none, or one of a change of state, or one of a catch. -/
inductive AtMostOne (tick : UInt64) : List Trace.Event → Prop
  | none : AtMostOne tick []
  | change (a b : UInt64) : AtMostOne tick [{ tick, tag := "guard.transition", a, b }]
  | catch (a : UInt64) : AtMostOne tick [{ tick, tag := "guard.caught", a }]

/-- What the events of a run say of the memories before and after it. -/
structure Memory.Traced (m : Memory) (events : List Trace.Event) (m' : Memory) : Prop where
  leads : Leads m.state.code (changes events) m'.state.code
  caught : m'.caughtReports = m.caughtReports + .ofNat (catches events)

namespace Memory.Traced

theorem nil (m : Memory) : m.Traced [] m := ⟨.nil _, (UInt64.add_zero _).symm⟩

theorem append {m m' m'' : Memory} {events events' : List Trace.Event} (h : m.Traced events m')
    (h' : m'.Traced events' m'') : m.Traced (events ++ events') m'' := by
  constructor
  · rw [changes, List.filter_append]
    exact h.leads.append h'.leads
  · have hsum : catches (events ++ events') = catches events + catches events' :=
      List.countP_append
    rw [h'.caught, h.caught, hsum, UInt64.ofNat_add, UInt64.add_assoc]

end Memory.Traced

/-! ### The events of a round -/

section Running

variable {P N R T : Type}

/-- The events that the sink of a guard has taped. -/
def tape (g : Guard P N R (Taped T)) : List Trace.Event := g.trace.elim [] Taped.tape

theorem isSome_trace_of_handled {g h : Guard P N R T} (hh : Relation.ReflTransGen Handled g h)
    (hg : g.trace.isSome = true) : h.trace.isSome = true := by
  induction hh with
  | refl => exact hg
  | tail _ hlast ih =>
    cases hlast with
    | withTrace => rfl
    | withAgent => exact ih
    | withDebug => exact ih
    | mapPerception => exact ih
    | mapNavigator => exact ih
    | mapReferee => exact ih

namespace Round

variable [Trace.Sink T]

/-- What the guard writes in this round. -/
def journal (r : Round P N R T) : Journal := (r.guard.evaluate r.frame).journal

/-- The events that the guard emits in this round. -/
def events (r : Round P N R (Taped T)) : List Trace.Event :=
  r.after.tape.drop r.guard.tape.length

theorem tape_after {r : Round P N R (Taped T)} (h : r.guard.trace.isSome = true) :
    r.after.tape = r.guard.tape ++ r.events ∧
      r.events = Guard.events r.frame.tick r.guard.state r.state
        (r.after.memory.caughtReports != r.guard.memory.caughtReports) := by
  obtain ⟨t, ht⟩ := Option.isSome_iff_exists.1 h
  have htrace : r.after.trace = (Guard.events r.frame.tick r.guard.state r.state
      (r.after.memory.caughtReports != r.guard.memory.caughtReports)).foldl Trace.emit?
        r.guard.trace := rfl
  rw [ht, Taped.foldl_emit] at htrace
  unfold events tape
  rw [htrace, ht]
  dsimp only [Option.elim]
  rw [List.drop_left]
  exact ⟨rfl, rfl⟩

end Round

variable [Perception P] [Navigator N] [Referee R] [Trace.Sink T]

/-- In a run a guard keeps its sink. -/
theorem IsRun.isSome_trace {rounds : List (Round P N R T)} (h : IsRun rounds)
    (hfirst : ∀ r ∈ rounds.head?, r.guard.trace.isSome = true) :
    ∀ r ∈ rounds, r.guard.trace.isSome = true := by
  induction rounds with
  | nil => exact fun r hr => absurd hr List.not_mem_nil
  | cons r rounds ih =>
    have hr : r.guard.trace.isSome = true := hfirst r rfl
    refine List.forall_mem_cons.2 ⟨hr, ih h.tail ?_⟩
    intro r' hr'
    cases rounds with
    | nil => cases hr'
    | cons r' rounds =>
      cases hr'
      have hafter : r.after.trace.isSome = true := (Trace.isSome_foldl_emit _ _).trans hr
      exact isSome_trace_of_handled (List.isChain_cons_cons.1 h.chain).1 hafter

/-- A round emits one event at most: of a catch, which is reported and changes no state, or of the
change of state that is recorded. -/
theorem Round.chronicle {r : Round P N (Minuted R) (Taped T)} (h : Reachable Steady r.guard)
    (hs : r.guard.Steady r.frame) (hsink : r.guard.trace.isSome = true) :
    AtMostOne r.frame.tick r.events ∧
      r.journal.transitions = changes r.events ∧
      r.reports.count .caught = catches r.events ∧
      r.guard.memory.Traced r.events r.after.memory := by
  obtain ⟨v, hv⟩ := hs
  have htold : r.journal.transitions = Guard.events r.frame.tick r.guard.state r.state false :=
    h.sound.transitions_evaluate hv
  obtain ⟨-, hnotice⟩ := notice h hv
  obtain ⟨-, hevents⟩ := tape_after hsink
  have hchanges : changes r.events = Guard.events r.frame.tick r.guard.state r.state false := by
    rw [hevents, changes_events]
  have hleads : Leads r.guard.state.code (changes r.events) r.state.code := by
    rw [hchanges]
    exact leads_events ..
  rcases hnotice with ⟨hstay, hcaught, hreports⟩ | ⟨hcaught, hreports⟩
  · have hone : catches r.events = 1 := by
      rw [hevents, catches_events, hcaught]
      simp
    refine ⟨?_, htold.trans hchanges.symm, ?_, hleads, ?_⟩
    · rw [hevents, hstay, hcaught]
      simpa [Guard.events] using AtMostOne.catch _
    · rw [hreports, hone]
      rfl
    · rw [hcaught, hone]
      rfl
  · have hnone : catches r.events = 0 := by
      rw [hevents, catches_events, hcaught]
      simp
    refine ⟨?_, htold.trans hchanges.symm, ?_, hleads, ?_⟩
    · rw [hevents, hcaught, bne_self_eq_false]
      unfold Guard.events
      split
      · exact .none
      · exact .change _ _
    · rw [hreports, hnone]
      split <;> rfl
    · rw [hcaught, hnone]
      exact (UInt64.add_zero _).symm

/-- In a run of a new guard with a sink in which no answer changes within a frame, every round emits
one event at most, `guard.transition` or `guard.caught`, and records in its journal the changes of
state that it emits. All changes of the run lead from patrol to the state after it; the catches are
as many as the guard remembers, in its counter of 64 bits, and as it has reported. -/
theorem trace_tells_run {config : Config} {route : Array Vec3} {perception : P} {body : N}
    {referee : Minuted R} {g : Guard P N (Minuted R) (Taped T)}
    (hg : create config route perception body referee = .ok g)
    {rounds : List (Round P N (Minuted R) (Taped T))} (h : IsRun rounds)
    (hfirst : ∀ r ∈ rounds.head?,
      Relation.ReflTransGen Handled g r.guard ∧ r.guard.trace.isSome = true) :
    let events := rounds.flatMap Round.events
    (∀ r ∈ rounds, r.after.tape = r.guard.tape ++ r.events ∧
        AtMostOne r.frame.tick r.events ∧
        r.journal.transitions = r.events.filter (·.tag == "guard.transition")) ∧
      Leads State.patrol.code (events.filter (·.tag == "guard.transition"))
        (g.finish rounds).state.code ∧
      (g.finish rounds).memory.caughtReports =
        .ofNat (events.countP (·.tag == "guard.caught")) ∧
      (rounds.flatMap Round.reports).count .caught = events.countP (·.tag == "guard.caught") := by
  intro events
  have hsink := h.isSome_trace fun r hr => (hfirst r hr).2
  have hround (r : Round P N (Minuted R) (Taped T)) (hr : r ∈ rounds) :=
    Round.chronicle (h.reachable_of_mem r hr) (h.steady r hr) (hsink r hr)
  have hstart : ∀ r ∈ rounds.head?, r.guard.memory = g.memory :=
    fun r hr => (sameGuard_of_handled (hfirst r hr).1).memory
  have htraced : g.memory.Traced events (g.finish rounds).memory :=
    h.accumulate Memory.Traced.nil Memory.Traced.append (fun r hr => (hround r hr).2.2.2) hstart
  obtain ⟨-, rfl⟩ := create_eq_ok.1 hg
  refine ⟨?_, htraced.leads, ?_, ?_⟩
  · intro r hr
    exact ⟨(Round.tape_after (hsink r hr)).1, (hround r hr).1, (hround r hr).2.1⟩
  · exact htraced.caught.trans (UInt64.zero_add _)
  · exact countP_flatMap_congr fun r hr => (hround r hr).2.2.1

/-- A guard without patience: it chases, catches its target, loses it for good, patrols, and chases
once more. -/
theorem trace_tells_run_caught :
    ∃ g : Guard Scene FixedNavigator (Minuted Tallies) (Taped Trace),
      create { chasePersistence := 0, searchDuration := 0 } #[] ⟨false, none⟩ ⟨⟨0, 0, 9⟩, none⟩
          ⟨{}, []⟩ = .ok g ∧
        ∃ film,
          let rounds := (g.withTrace ⟨{}, []⟩).play film
          let events := rounds.flatMap Round.events
          events.map (fun e => (e.tag, e.a, e.b)) =
              [("guard.transition", 0, 1), ("guard.caught", 1, 0), ("guard.transition", 1, 2),
                ("guard.transition", 2, 3), ("guard.transition", 3, 0),
                ("guard.transition", 0, 1)] ∧
            Leads 0 (events.filter (·.tag == "guard.transition")) 1 ∧
            (g.finish rounds).memory.caughtReports = 1 ∧
            (rounds.flatMap Round.reports).count .caught = 1 := by
  obtain ⟨g, hg⟩ : ∃ g : Guard Scene FixedNavigator (Minuted Tallies) (Taped Trace),
      create { chasePersistence := 0, searchDuration := 0 } #[] ⟨false, none⟩ ⟨⟨0, 0, 9⟩, none⟩
          ⟨{}, []⟩ = .ok g :=
    ⟨_, create_eq_ok.2 ⟨by decide +kernel, rfl⟩⟩
  let seen : Scene × Frame := (⟨true, some .zero⟩, ⟨1, 0.5, 7⟩)
  let near : Scene × Frame := (⟨true, some ⟨0, 0, 8⟩⟩, ⟨1, 0.5, 7⟩)
  let lost : Scene × Frame := (⟨false, none⟩, ⟨1, 0.5, 7⟩)
  have hrun : IsRun ((g.withTrace ⟨{}, []⟩).play [seen, near, lost, lost, lost, seen]) :=
    isRun_play (.withTrace _ (.create hg)) _
  have hfirst : Relation.ReflTransGen Handled g
      ((g.withTrace ⟨{}, []⟩).mapPerception fun _ => ⟨true, some .zero⟩) :=
    .tail (.single (.withTrace _)) (.mapPerception _)
  obtain ⟨-, hleads, hcaught, hreported⟩ := trace_tells_run hg hrun <| by
    rintro r ⟨⟩
    exact ⟨hfirst, rfl⟩
  refine ⟨g, hg, _, ?_, ?leads, hcaught.trans ?_, hreported.trans ?_⟩
  case leads =>
    have hstate : (g.finish ((g.withTrace ⟨{}, []⟩).play
        [seen, near, lost, lost, lost, seen])).state.code = 1 := by
      obtain ⟨-, rfl⟩ := create_eq_ok.1 hg
      decide +kernel
    rwa [hstate] at hleads
  all_goals
    obtain ⟨-, rfl⟩ := create_eq_ok.1 hg
    decide +kernel

end Running

end Guard
end Guardhouse
