import Guardhouse.Proofs.Random.Mixing

/-!
# Draws

With each draw the state of a generator goes on by the same odd number, so it has been every word
before it comes back to one (`Random.after_eq_after_iff`). What is drawn is the state, mixed: the
first `2 ^ 64` draws are all the words in some order, and after them the draws repeat
(`Random.full_period`). Two generators that differ never agree on a draw of the same number
(`Random.draw_injective`).
-/

namespace Guardhouse
namespace Random

open Function

/-- The generator after `n` draws. -/
def after (r : Random) (n : Nat) : Random := (fun r => r.word.2)^[n] r

/-- Draw number `n` of a generator; the first one is number zero. -/
def draw (r : Random) (n : Nat) : UInt64 := (r.after n).word.1

/-! ### The state -/

theorem ext {r r' : Random} (h : r.state = r'.state) : r = r' := congrArg mk h

theorem state_word (r : Random) : r.word.2.state = r.state + step := rfl

theorem after_succ (r : Random) (n : Nat) : r.after (n + 1) = (r.after n).word.2 :=
  iterate_succ_apply' _ n r

theorem state_after (r : Random) (n : Nat) : (r.after n).state = r.state + .ofNat n * step := by
  induction n with
  | zero => simp [after]
  | succ n ih =>
    have hone : UInt64.ofNat 1 * step = step := UInt64.one_mul step
    rw [after_succ, state_word, ih, UInt64.ofNat_add, UInt64.add_mul, hone, UInt64.add_assoc]

theorem mul_step_injective : Injective fun x : UInt64 => x * step :=
  mul_injective_of_odd (by decide)

/-- The state comes back after `2 ^ 64` draws, and not before. -/
theorem after_eq_after_iff (r : Random) (i j : Nat) :
    r.after i = r.after j ↔ i ≡ j [MOD 2 ^ 64] := by
  calc r.after i = r.after j
      ↔ r.state + .ofNat i * step = r.state + .ofNat j * step := by
        rw [← state_after, ← state_after]
        exact ⟨congrArg state, ext⟩
    _ ↔ UInt64.ofNat i = .ofNat j := (UInt64.add_right_inj _).trans mul_step_injective.eq_iff
    _ ↔ i ≡ j [MOD 2 ^ 64] := by
        rw [← UInt64.toNat_inj, UInt64.toNat_ofNat', UInt64.toNat_ofNat', Nat.ModEq]

/-- Before that it has been every word. -/
theorem exists_after_eq (r r' : Random) : ∃ n < 2 ^ 64, r.after n = r' := by
  obtain ⟨n, hn⟩ := Finite.surjective_of_injective mul_step_injective (r'.state - r.state)
  dsimp only at hn
  refine ⟨n.toNat, n.toNat_lt, ext ?_⟩
  rw [state_after, UInt64.ofNat_toNat, hn, UInt64.add_comm, UInt64.sub_add_cancel]

/-! ### What is drawn -/

theorem word_injective : Injective fun r : Random => r.word.1 := by
  intro r r' h
  exact ext ((UInt64.add_left_inj _).1 (mix_injective h))

theorem exists_word_eq (w : UInt64) : ∃ r : Random, r.word.1 = w := by
  obtain ⟨x, hx⟩ := mix_bijective.2 w
  refine ⟨⟨x - step⟩, ?_⟩
  rw [← hx]
  exact congrArg mix (UInt64.sub_add_cancel x step)

theorem after_injective (n : Nat) : Injective fun r : Random => r.after n := by
  intro r r' h
  have hstate := congrArg state h
  dsimp only at hstate
  rw [state_after, state_after] at hstate
  exact ext ((UInt64.add_left_inj _).1 hstate)

/-- Draws of the same number tell generators apart. -/
theorem draw_injective (n : Nat) : Injective fun r : Random => r.draw n :=
  word_injective.comp (after_injective n)

theorem draw_eq_draw_iff (r : Random) (i j : Nat) : r.draw i = r.draw j ↔ i ≡ j [MOD 2 ^ 64] :=
  word_injective.eq_iff.trans (r.after_eq_after_iff i j)

theorem exists_draw_eq (r : Random) (w : UInt64) : ∃ n < 2 ^ 64, r.draw n = w := by
  obtain ⟨r', hword⟩ := exists_word_eq w
  obtain ⟨n, hn, hafter⟩ := r.exists_after_eq r'
  refine ⟨n, hn, ?_⟩
  rw [draw, hafter, hword]

/-- Mixing rearranges the words. So the first `2 ^ 64` draws of a generator, whatever its state, are
all the words, each of them once, and then they come again in the same order. -/
theorem full_period (r : Random) :
    Bijective mix ∧ Set.BijOn r.draw (Set.Iio (2 ^ 64)) Set.univ ∧
      ∀ i j, r.draw i = r.draw j ↔ i ≡ j [MOD 2 ^ 64] := by
  refine ⟨mix_bijective, ⟨fun _ _ => trivial, ?_, ?_⟩, r.draw_eq_draw_iff⟩
  · intro i hi j hj h
    exact ((r.draw_eq_draw_iff i j).1 h).eq_of_lt_of_lt hi hj
  · intro w _
    exact r.exists_draw_eq w

end Random
end Guardhouse
