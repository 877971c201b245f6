import Guardhouse.Proofs.Random.Draws
import Guardhouse.Frame

/-!
# Streams of agents

The seed of a stream is mixed out of three words, and tells each of them from the other two
(`Random.deriveSeed_injective_agent` and its siblings). Hosts that number their agents by words or
by half words give different agents different words, so no two agents of a run share a stream, nor
do two streams of an agent or two runs share one: their generators differ in every draw
(`Frame.streams_apart`).
-/

namespace Guardhouse

open Function

namespace Random

theorem deriveSeed_injective_seed (agent stream : UInt64) :
    Injective fun seed => deriveSeed seed agent stream := by
  intro seed seed' h
  have hmixed := mix_injective h
  exact (UInt64.xor_left_inj _).1 ((UInt64.xor_left_inj _).1 hmixed)

theorem deriveSeed_injective_agent (seed stream : UInt64) :
    Injective fun agent => deriveSeed seed agent stream := by
  intro agent agent' h
  have hmixed := mix_injective h
  have hagent := mix_injective ((UInt64.xor_right_inj _).1 ((UInt64.xor_left_inj _).1 hmixed))
  exact (UInt64.add_left_inj _).1 hagent

theorem deriveSeed_injective_stream (seed agent : UInt64) :
    Injective fun stream => deriveSeed seed agent stream := by
  intro stream stream' h
  have hmixed := mix_injective h
  exact mix_injective ((UInt64.xor_right_inj _).1 hmixed)

/-- Different seeds make different draws, of every number. -/
theorem draw_mk_injective (n : Nat) : Injective fun seed => (mk seed).draw n :=
  (draw_injective n).comp fun _ _ => congrArg state

end Random

theorem stableId_injective_word : Injective (AgentId.stableId : UInt64 → UInt64) := injective_id

theorem stableId_injective_halfWord : Injective (AgentId.stableId : UInt32 → UInt64) :=
  fun _ _ => UInt32.toUInt64_inj.1

namespace Frame

variable {A : Type} [AgentId A]

/-- Agents with words of their own have draws of their own. -/
theorem draw_injective_agent (hid : Injective (AgentId.stableId : A → UInt64)) (f : Frame)
    (stream : UInt64) (n : Nat) : Injective fun agent : A => (f.randomFor agent stream).draw n :=
  (Random.draw_mk_injective n).comp ((Random.deriveSeed_injective_agent f.seed stream).comp hid)

/-- The seed of a stream tells each of the three words that it is derived from, if the other two are
known. So in every draw of whatever number, generators differ that are made for different agents,
by word or by half word, for different streams of an agent or under different seeds. -/
theorem streams_apart :
    (∀ agent stream, Injective fun seed => Random.deriveSeed seed agent stream) ∧
    (∀ seed stream, Injective fun agent => Random.deriveSeed seed agent stream) ∧
    (∀ seed agent, Injective fun stream => Random.deriveSeed seed agent stream) ∧
    ∀ (f : Frame) (n : Nat),
      (∀ stream, Injective fun agent : UInt64 => (f.randomFor agent stream).draw n) ∧
      (∀ stream, Injective fun agent : UInt32 => (f.randomFor agent stream).draw n) ∧
      (∀ agent : A, Injective fun stream => (f.randomFor agent stream).draw n) ∧
      ∀ (agent : A) (stream : UInt64),
        Injective fun seed => ({ f with seed }.randomFor agent stream).draw n := by
  refine ⟨Random.deriveSeed_injective_seed, Random.deriveSeed_injective_agent,
    Random.deriveSeed_injective_stream, fun f n => ⟨?_, ?_, ?_, ?_⟩⟩
  · exact fun stream => f.draw_injective_agent stableId_injective_word stream n
  · exact fun stream => f.draw_injective_agent stableId_injective_halfWord stream n
  · intro agent
    exact (Random.draw_mk_injective n).comp (Random.deriveSeed_injective_stream f.seed _)
  · intro agent stream
    exact (Random.draw_mk_injective n).comp (Random.deriveSeed_injective_seed _ stream)

end Frame
end Guardhouse
