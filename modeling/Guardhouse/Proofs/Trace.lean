import Guardhouse.Proofs.Json.RoundTrip
import Guardhouse.Trace

/-!
# Saved traces

A trace is read back from its saved text as it was, whichever way the text is laid out: every event
with its words, however large, and its tag, whatever characters that has.
-/

namespace Guardhouse
namespace Trace

open Json (Written)

theorem Event.written_toJson (e : Event) : e.toJson.Written := by
  refine .object fun field hfield => ?_
  simp only [List.mem_cons, List.not_mem_nil, or_false] at hfield
  rcases hfield with rfl | rfl | rfl | rfl
  · exact Json.written_ofWord e.tick
  · exact .text e.tag
  · exact Json.written_ofWord e.a
  · exact Json.written_ofWord e.b

theorem written_toJson (t : Trace) : t.toJson.Written := by
  refine .object fun field hfield => ?_
  obtain rfl := List.mem_singleton.1 hfield
  refine .array fun json hjson => ?_
  obtain ⟨e, -, rfl⟩ := List.mem_map.1 hjson
  exact e.written_toJson

theorem Event.ofJson?_toJson (e : Event) : ofJson? e.toJson = some e := by
  have hfields : e.toJson.record? ["tick", "tag", "a", "b"] =
      some [.ofWord e.tick, .text e.tag, .ofWord e.a, .ofWord e.b] := rfl
  unfold ofJson?
  rw [hfields, Option.bind_eq_bind, Option.bind_some]
  dsimp only
  rw [Json.word?_ofWord, Json.word?_ofWord, Json.word?_ofWord]
  rfl

theorem ofJson?_toJson (t : Trace) : ofJson? t.toJson = some t := by
  have hfields : t.toJson.record? ["events"] =
      some [.array (t.events.toList.map Event.toJson)] := rfl
  have hevents := Json.listOf?_map fun e (_ : e ∈ t.events.toList) => e.ofJson?_toJson
  unfold ofJson?
  rw [hfields, Option.bind_eq_bind, Option.bind_some]
  dsimp only
  rw [hevents]
  rfl

/-- A saved trace is read back as it was. -/
theorem parse?_saved (t : Trace) :
    parse? t.toJson.compact = some t ∧ parse? t.toJson.pretty = some t := by
  have hread := t.ofJson?_toJson
  constructor
  · rw [parse?, t.written_toJson.read?_compact]
    exact hread
  · rw [parse?, t.written_toJson.read?_pretty]
    exact hread

/-- The greatest word keeps all its digits, and what cannot stand in a string is escaped. -/
example : (toJson ⟨#[⟨18446744073709551615, "\"tab\"\t\x01", 0, 1⟩]⟩).compact =
    "\x7b\"events\":[\x7b\"tick\":18446744073709551615,\"tag\":\"\\\"tab\\\"\\t\\u0001\"," ++
      "\"a\":0,\"b\":1\x7d]\x7d" := by
  decide +kernel

end Trace
end Guardhouse
