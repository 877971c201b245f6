import Guardhouse.Random
import Mathlib

/-!
# Mixing loses nothing

Each step of `Random.mix` can be undone. A product with an odd word tells the other factor, since
two has no part in it (`mul_injective_of_odd`); and a word with its own upper bits xored into the
lower ones tells the word, since the uppermost bits are still there (`xor_shiftRight_injective`). So
mixing only rearranges the words (`Random.mix_bijective`).
-/

namespace Guardhouse
namespace Random

open Function

/-! ### Steps that can be undone -/

theorem mul_injective_of_odd {a : UInt64} (ha : Odd a.toNat) :
    Injective fun x : UInt64 => x * a := by
  intro x y h
  have hproduct : x.toNat * a.toNat ≡ y.toNat * a.toNat [MOD 2 ^ 64] := by
    have hword := congrArg UInt64.toNat h
    rwa [UInt64.toNat_mul, UInt64.toNat_mul] at hword
  have hcoprime : Nat.Coprime (2 ^ 64) a.toNat := (Nat.coprime_two_left.2 ha).pow_left 64
  have hfactor : x.toNat ≡ y.toNat [MOD 2 ^ 64] :=
    Nat.ModEq.cancel_right_of_coprime hcoprime hproduct
  exact UInt64.toNat_inj.1 (hfactor.eq_of_lt_of_lt x.toNat_lt y.toNat_lt)

/-- Only zero stays what it is when it is shifted. -/
theorem eq_zero_of_shiftRight_eq {x k : UInt64} (hk : k.toNat % 64 ≠ 0) (h : x >>> k = x) :
    x = 0 := by
  have hdiv : x.toNat / 2 ^ (k.toNat % 64) = x.toNat := by
    rw [← Nat.shiftRight_eq_div_pow, ← UInt64.toNat_shiftRight, h]
  by_contra hne
  have hpos : 0 < x.toNat := Nat.pos_of_ne_zero fun hzero => hne (UInt64.toNat_inj.1 hzero)
  exact (Nat.div_lt_self hpos (Nat.one_lt_two_pow hk)).ne hdiv

theorem xor_shiftRight_injective {k : UInt64} (hk : k.toNat % 64 ≠ 0) :
    Injective fun x : UInt64 => x ^^^ (x >>> k) := by
  intro x y h
  dsimp only at h
  -- where the two words differ, they differ after the shift as well
  have hshift : (x ^^^ y) >>> k = x ^^^ y := by
    rw [UInt64.shiftRight_xor]
    calc x >>> k ^^^ y >>> k = x ^^^ (x ^^^ (x >>> k)) ^^^ (y >>> k) := by
          rw [← UInt64.xor_assoc, UInt64.xor_self, UInt64.zero_xor]
      _ = x ^^^ (y ^^^ (y >>> k)) ^^^ (y >>> k) := by rw [h]
      _ = x ^^^ y := by
          rw [UInt64.xor_assoc, UInt64.xor_assoc, UInt64.xor_self, UInt64.xor_zero]
  exact UInt64.xor_eq_zero_iff.1 (eq_zero_of_shiftRight_eq hk hshift)

/-! ### Mixing -/

theorem mix_injective : Injective mix := by
  have hfirst : Injective fun x : UInt64 => (x ^^^ (x >>> 30)) * 0xBF58476D1CE4E5B9 :=
    (mul_injective_of_odd (by decide)).comp (xor_shiftRight_injective (by decide))
  have hsecond : Injective fun x : UInt64 => (x ^^^ (x >>> 27)) * 0x94D049BB133111EB :=
    (mul_injective_of_odd (by decide)).comp (xor_shiftRight_injective (by decide))
  have hlast : Injective fun x : UInt64 => x ^^^ (x >>> 31) :=
    xor_shiftRight_injective (by decide)
  exact hlast.comp (hsecond.comp hfirst)

theorem mix_bijective : Bijective mix := Finite.injective_iff_bijective.1 mix_injective

end Random
end Guardhouse
