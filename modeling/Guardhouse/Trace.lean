import Guardhouse.Json.Record
import Guardhouse.Json.Writer

/-!
# Traces

A trace is a list of small events: the tick, a dotted tag, and two words whose meaning the tag
fixes. Whoever emits events does so into a `Trace.Sink`; a `Trace` is the sink that keeps them all,
in the order they came. `Trace.toJson` and `Trace.ofJson?` are its saved form.
-/

namespace Guardhouse

/-- One event of a trace. -/
structure Trace.Event where
  tick : UInt64
  tag : String
  a : UInt64 := 0
  b : UInt64 := 0
  deriving DecidableEq, Repr

/-- The events of a run, the oldest first. -/
structure Trace where
  events : Array Trace.Event := #[]
  deriving DecidableEq, Repr

namespace Trace

/-! ### Sinks -/

/-- Something that events are emitted into. -/
class Sink (S : Type) where
  emit : S → Event → S

/-- The sink that forgets every event. -/
structure Silence where

instance : Sink Silence where
  emit s _ := s

/-- The trace with one more event. -/
def push (t : Trace) (e : Event) : Trace := ⟨t.events.push e⟩

instance : Sink Trace where
  emit := push

/-- Emits an event into a sink, if there is one. -/
def emit? [Sink S] (sink : Option S) (e : Event) : Option S := sink.map (Sink.emit · e)

/-- The events with a tag. -/
def withTag (t : Trace) (tag : String) : List Event := t.events.toList.filter (·.tag == tag)

/-! ### Saved form -/

/-- The saved form of an event. -/
def Event.toJson (e : Event) : Json :=
  .object [("tick", .ofWord e.tick), ("tag", .text e.tag), ("a", .ofWord e.a), ("b", .ofWord e.b)]

/-- Reads the saved form of an event. -/
def Event.ofJson? (json : Json) : Option Event := do
  match ← json.record? ["tick", "tag", "a", "b"] with
  | [tick, tag, a, b] => return ⟨← tick.word?, ← tag.text?, ← a.word?, ← b.word?⟩
  | _ => none

/-- The saved form of a trace. -/
def toJson (t : Trace) : Json := .object [("events", .array (t.events.toList.map Event.toJson))]

/-- Reads the saved form of a trace. -/
def ofJson? (json : Json) : Option Trace := do
  match ← json.record? ["events"] with
  | [events] => return ⟨(← events.listOf? Event.ofJson?).toArray⟩
  | _ => none

/-- Reads the saved text of a trace. -/
def parse? (s : String) : Option Trace := do ofJson? (← Json.read? s)

end Trace

end Guardhouse
