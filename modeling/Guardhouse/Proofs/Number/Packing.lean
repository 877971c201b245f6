import Guardhouse.Proofs.Number.Exact

/-!
# Packing canonical forms

The bits of a format hold canonical forms (`canonical_unpack`). A canonical form that is packed and
unpacked again is what it was, unless it is too large: then it becomes infinite (`settle_finite`).
Numbers that are packed compare like their values (`compare_eq`), where infinity stands behind all
others, and a result that is packed has its value cut off there (`Form.rank_settle`).
-/

namespace Guardhouse
namespace Unpacked

open Float.Model (Format UnpackedFloat totalExponent)
open Float.Model.UnpackedFloat

variable {F : Format} {y : ℚ} {m : Nat} {e : Int} {u v : UnpackedFloat}

/-! ### The largest number -/

/-- Where the numbers of a format end. -/
def limit (F : Format) : ℚ := 2 ^ (F.exponentBias + 1)

theorem limit_pos (F : Format) : 0 < limit F := by
  unfold limit
  positivity

theorem exponentBias_add_one (F : Format) : F.exponentBias + 1 = 2 ^ (F.exponentBits - 1) :=
  Nat.sub_add_cancel Nat.one_le_two_pow

theorem two_pow_exponentBits (F : Format) : 2 ^ F.exponentBits = 2 * (F.exponentBias + 1) := by
  rw [exponentBias_add_one, ← pow_succ', Nat.sub_add_cancel F.he]

theorem minExponent_eq (F : Format) :
    F.minExponent = 1 - F.exponentBias - F.mantissaBitsWithoutImplicit := by
  have hbias : ((F.exponentBias : ℤ) + 1) = 2 ^ (F.exponentBits - 1) := by
    exact_mod_cast exponentBias_add_one F
  have hbits := mantissaBits_eq F
  unfold Format.minExponent
  omega

/-- Whether a number is too large shows in its exponent. -/
theorem lt_limit_iff (hm : 0 < m) (hF : 2 ≤ F.exponentBits) (he : place F (m * 2 ^ e) = e) :
    (m * 2 ^ e : ℚ) < limit F ↔ e + F.mantissaBitsWithoutImplicit ≤ F.exponentBias := by
  have hpos := mul_pos (Nat.cast_pos.2 hm) (two_zpow_pos e)
  have hlimit : limit F = 2 ^ ((F.exponentBias : ℤ) + 1) := by
    rw [limit, ← zpow_natCast]
    push_cast
    rfl
  have hbits := mantissaBits_eq F
  rw [hlimit]
  constructor
  · intro hlt
    by_contra hlarge
    -- beyond the smallest exponent all bits are there
    have hmin : F.minExponent < e := by
      have hpow : 2 ≤ 2 ^ (F.exponentBits - 1) := le_self_pow₀ one_le_two (by omega)
      have hbias := exponentBias_add_one F
      rw [minExponent_eq]
      omega
    have hfull := two_zpow_le_abs hpos.ne' (by rwa [he])
    rw [he, abs_of_pos hpos] at hfull
    refine absurd (hfull.trans_lt hlt) (not_lt.2 ?_)
    exact zpow_le_zpow_right₀ one_le_two (by omega)
  · intro hle
    have hsize := abs_lt_two_zpow F ((m : ℚ) * 2 ^ e)
    rw [he, abs_of_pos hpos] at hsize
    exact hsize.trans_le (zpow_le_zpow_right₀ one_le_two (by omega))

/-! ### Bits -/

/-- What is left of a number when it is packed and unpacked again. -/
def settle (F : Format) (u : UnpackedFloat) : UnpackedFloat := unpack F (pack F u)

theorem unpack_packedInfinity (s : Sign) : unpack F (packedInfinity F s) = .infinity s := by
  simp [unpack, packedInfinity]

theorem toNat_implicit_append {w : Nat} (b : BitVec w) : (1#1 ++ b).toNat = 2 ^ w + b.toNat := by
  have himplicit : (1#1).toNat <<< w = 2 ^ w * 1 := by
    rw [Nat.shiftLeft_eq, mul_comm]
    rfl
  rw [BitVec.toNat_append, himplicit, ← Nat.two_pow_add_eq_or_of_lt b.isLt 1, mul_one]

theorem ofNat_ne_neg_one {w k : Nat} (hk : k + 1 < 2 ^ w) : BitVec.ofNat w k ≠ -1#w := by
  intro heq
  have htop := congrArg BitVec.toNat heq
  rw [BitVec.toNat_ofNat, Nat.mod_eq_of_lt (by omega), BitVec.neg_one_eq_allOnes,
    BitVec.toNat_allOnes] at htop
  omega

theorem unpack_normal (s : Sign) {k : Nat} (hm : 0 < m) (hbits : Nat.log2 m + 1 = F.mantissaBits)
    (hk : 0 < k) (hk' : k + 1 < 2 ^ F.exponentBits) :
    unpack F (packComponents F s (.ofNat _ k) (.ofNat _ m)) =
      .finite s m (k - (F.exponentBias + F.mantissaBitsWithoutImplicit)) hm := by
  have hkval : (BitVec.ofNat F.exponentBits k).toNat = k := by
    rw [BitVec.toNat_ofNat, Nat.mod_eq_of_lt (by omega)]
  have hnone := ofNat_ne_neg_one hk'
  have hnonzero : BitVec.ofNat F.exponentBits k ≠ 0#F.exponentBits := by
    intro heq
    have hzero := congrArg BitVec.toNat heq
    rw [hkval, BitVec.toNat_ofNat, Nat.zero_mod] at hzero
    omega
  -- the implicit bit is the first one of the mantissa
  have hlog : Nat.log2 m = F.mantissaBitsWithoutImplicit := by
    have hwidth := mantissaBits_eq F
    omega
  have hmantissa : (1#1 ++ BitVec.ofNat F.mantissaBitsWithoutImplicit m).toNat = m := by
    have hlow := Nat.log2_self_le hm.ne'
    have hhigh := Nat.lt_log2_self (n := m)
    rw [hlog] at hlow hhigh
    rw [toNat_implicit_append, BitVec.toNat_ofNat, Nat.mod_eq_sub_mod hlow,
      Nat.mod_eq_of_lt (by rw [pow_succ] at hhigh; omega)]
    omega
  simp [unpack, hnone, hnonzero, hkval, hmantissa]

theorem unpack_subnormal (s : Sign) (hm : 0 < m) (hbits : m < 2 ^ F.mantissaBitsWithoutImplicit) :
    unpack F (packComponents F s 0#_ (.ofNat _ m)) =
      .finite s m (1 - (F.exponentBias + F.mantissaBitsWithoutImplicit)) hm := by
  have hmval : (BitVec.ofNat F.mantissaBitsWithoutImplicit m).toNat = m := by
    rw [BitVec.toNat_ofNat, Nat.mod_eq_of_lt hbits]
  have hnonzero : BitVec.ofNat F.mantissaBitsWithoutImplicit m ≠ 0#_ := by
    intro heq
    have hzero := congrArg BitVec.toNat heq
    rw [hmval, BitVec.toNat_ofNat, Nat.zero_mod] at hzero
    omega
  have hwidth := F.he.ne'
  simp [unpack, hnonzero, hmval, hwidth]
  ring

/-- A number in canonical form is kept if it is not too large, and becomes infinite otherwise. -/
theorem settle_finite {s : Sign} (hm : 0 < m) (hF : 2 ≤ F.exponentBits)
    (h : Canonical F (.finite s m e hm)) :
    settle F (.finite s m e hm) =
      if (m * 2 ^ e : ℚ) < limit F then .finite s m e hm else .infinity s := by
  have hbits := mantissaBits_eq F
  have hpow := two_pow_exponentBits F
  have hmin := minExponent_eq F
  have hlow := minExponent_le_place F (m * 2 ^ e)
  have hsize : e = max (Nat.log2 m + 1 + e - F.mantissaBits) F.minExponent := h
  rw [h.place_eq] at hlow
  unfold settle pack
  dsimp only
  rw [if_congr (lt_limit_iff hm hF h.place_eq) rfl rfl]
  by_cases hlarge : e + F.mantissaBitsWithoutImplicit ≤ F.exponentBias
  · rw [if_neg (by omega), if_pos hlarge]
    split
    · next hfull =>
      rw [unpack_normal s hm hfull (by omega) (by omega)]
      congr
      omega
    · next hpart =>
      have hsmall : Nat.log2 m < F.mantissaBitsWithoutImplicit := by omega
      rw [unpack_subnormal s hm ((Nat.log2_lt hm.ne').1 hsmall)]
      congr
      omega
  · rw [if_pos (by omega), if_neg hlarge]
    exact unpack_packedInfinity s

/-- A canonical form is kept unless it is too large. -/
theorem Form.settle (h : Form F y u) (hF : 2 ≤ F.exponentBits) (hy : |y| < limit F) :
    settle F u = u := by
  obtain ⟨hfinite, hcanonical, rfl⟩ := h
  cases u with
  | infinity s => cases hfinite
  | notANumber => cases hfinite
  | zero s => exact unpack_packedZero
  | finite s m e hm =>
    rw [abs_value_finite] at hy
    rw [settle_finite hm hF hcanonical, if_pos hy]

/-- What is too large becomes infinite, and keeps its sign. -/
theorem Form.settle_of_le (h : Form F y u) (hF : 2 ≤ F.exponentBits) (hy : limit F ≤ |y|) :
    ∃ s, Unpacked.settle F u = .infinity s ∧ y = unit s * |y| := by
  obtain ⟨hfinite, hcanonical, rfl⟩ := h
  cases u with
  | infinity s => cases hfinite
  | notANumber => cases hfinite
  | zero s =>
    have hzero : Unpacked.value (.zero s) = 0 := rfl
    rw [hzero, abs_zero] at hy
    exact absurd hy (not_le.2 (limit_pos F))
  | finite s m e hm =>
    rw [abs_value_finite] at hy ⊢
    exact ⟨s, by rw [settle_finite hm hF hcanonical, if_neg (not_lt.2 hy)], rfl⟩

/-- Bits hold nothing but canonical forms. -/
theorem canonical_unpack (b : BitVec F.numBits) : Canonical F (unpack F b) := by
  have hbits := mantissaBits_eq F
  have hmin := minExponent_eq F
  unfold unpack
  dsimp only
  split
  · split <;> trivial
  split
  · next hexponent =>
    split
    · trivial
    · next hmantissa =>
      -- subnormal
      have hsize : Nat.log2 (unpackMantissa b).toNat < F.mantissaBitsWithoutImplicit := by
        refine (Nat.log2_lt fun hzero => hmantissa ?_).2 (unpackMantissa b).isLt
        exact BitVec.eq_of_toNat_eq hzero
      have hzero : (unpackExponent b).toNat = 0 := by rw [hexponent]; rfl
      unfold Canonical Format.targetExponent totalExponent
      omega
  · next hexponent =>
    -- normal
    have hone : 0 < (unpackExponent b).toNat :=
      Nat.pos_of_ne_zero fun hzero => hexponent (BitVec.eq_of_toNat_eq hzero)
    have hsize : Nat.log2 (1#1 ++ unpackMantissa b).toNat = F.mantissaBitsWithoutImplicit := by
      rw [toNat_implicit_append, Nat.log2_eq_iff (by positivity), pow_succ]
      have hlt := (unpackMantissa b).isLt
      omega
    unfold Canonical Format.targetExponent totalExponent
    dsimp only
    omega

/-! ### Order -/

/-- A number as bits can hold it. -/
structure Stored (F : Format) (u : UnpackedFloat) : Prop where
  canonical : Canonical F u
  small : u.isFinite = true → |value u| < limit F

theorem stored_unpack {b : BitVec F.numBits} (hb : F.Valid b) (hF : 2 ≤ F.exponentBits) :
    Stored F (unpack F b) := by
  have hkept : settle F (unpack F b) = unpack F b :=
    congrArg (unpack F) (pack_unpack_of_valid hb hF)
  have hcanonical := canonical_unpack b
  refine ⟨hcanonical, ?_⟩
  cases hu : unpack F b with
  | infinity s => exact fun h => (nomatch h)
  | notANumber => exact fun h => (nomatch h)
  | zero s =>
    intro _
    exact abs_zero.trans_lt (limit_pos F)
  | finite s m e hm =>
    intro _
    rw [hu] at hkept hcanonical
    rw [settle_finite hm hF hcanonical] at hkept
    rw [abs_value_finite]
    by_contra hlarge
    rw [if_neg hlarge] at hkept
    cases hkept

/-- The value of a number, where the infinite ones stand at the ends. -/
def rank (F : Format) : UnpackedFloat → ℚ
  | .infinity s => unit s * limit F
  | u => value u

/-- Whether or not a mantissa has its canonical exponent, it stays on its side of zero. -/
theorem rank_settle_finite (s : Sign) (hm : 0 < m) :
    settle F (.finite s m e hm) ≠ .notANumber ∧
      ∃ q : ℚ, 0 ≤ q ∧ rank F (settle F (.finite s m e hm)) = unit s * q := by
  have hbits {b : BitVec F.exponentBits} (hb : b ≠ -1#F.exponentBits)
      (c : BitVec F.mantissaBitsWithoutImplicit) :
      unpack F (packComponents F s b c) ≠ .notANumber ∧
        ∃ q : ℚ, 0 ≤ q ∧ rank F (unpack F (packComponents F s b c)) = unit s * q := by
    simp only [unpack, unpackExponent_packComponents, unpackMantissa_packComponents,
      unpackSign_packComponents, Sign.ofBitVec_toBitVec, if_neg hb]
    split
    · split
      · exact ⟨UnpackedFloat.noConfusion, 0, le_rfl, (mul_zero _).symm⟩
      · exact ⟨UnpackedFloat.noConfusion, _, by positivity, rfl⟩
    · exact ⟨UnpackedFloat.noConfusion, _, by positivity, rfl⟩
  unfold settle pack
  dsimp only
  split
  · rw [unpack_packedInfinity]
    exact ⟨UnpackedFloat.noConfusion, _, (limit_pos F).le, rfl⟩
  · next hsmall =>
    split
    · exact hbits (ofNat_ne_neg_one (not_le.1 hsmall)) _
    · refine hbits (fun heq => ?_) _
      have htop := congrArg BitVec.toNat heq
      have hwide := Nat.one_lt_two_pow F.he.ne'
      rw [BitVec.neg_one_eq_allOnes, BitVec.toNat_allOnes, BitVec.toNat_ofNat, Nat.zero_mod] at htop
      omega

/-- Canonical forms compare place by place. -/
theorem compare_mul_two_zpow {n : Nat} {f : Int} (hm : 0 < m) (hn : 0 < n)
    (he : place F (m * 2 ^ e) = e) (hf : place F (n * 2 ^ f) = f) :
    (compare e f).then (compare m n) = compare (m * 2 ^ e : ℚ) (n * 2 ^ f) := by
  have hx := mul_pos (Nat.cast_pos.2 hm) (two_zpow_pos e)
  have hy := mul_pos (Nat.cast_pos.2 hn) (two_zpow_pos f)
  have hmono {a b : ℚ} (ha : 0 < a) (hb : 0 < b) (h : place F a < place F b) : a < b := by
    by_contra hle
    refine absurd (place_mono hb.ne' ?_) (not_le.2 h)
    rw [abs_of_pos ha, abs_of_pos hb]
    exact not_lt.1 hle
  rcases lt_trichotomy e f with hlt | rfl | hgt
  · rw [compare_lt_iff_lt.2 hlt, compare_lt_iff_lt.2 (hmono hx hy (by rwa [he, hf]))]
    rfl
  · rw [compare_eq_iff_eq.2 rfl]
    have hunit := two_zpow_pos e
    rcases lt_trichotomy m n with hlt | rfl | hgt
    · have hlt' := mul_lt_mul_of_pos_right (Nat.cast_lt (α := ℚ).2 hlt) hunit
      rw [compare_lt_iff_lt.2 hlt, compare_lt_iff_lt.2 hlt']
      rfl
    · rw [compare_eq_iff_eq.2 rfl, compare_eq_iff_eq.2 rfl]
      rfl
    · have hgt' := mul_lt_mul_of_pos_right (Nat.cast_lt (α := ℚ).2 hgt) hunit
      rw [compare_gt_iff_gt.2 hgt, compare_gt_iff_gt.2 hgt']
      rfl
  · rw [compare_gt_iff_gt.2 hgt, compare_gt_iff_gt.2 (hmono hy hx (by rwa [he, hf]))]
    rfl

theorem swap_compare (x y : ℚ) : (compare x y).swap = compare (-x) (-y) := by
  rcases lt_trichotomy x y with h | rfl | h
  · rw [compare_lt_iff_lt.2 h, compare_gt_iff_gt.2 (neg_lt_neg h)]
    rfl
  · rw [compare_eq_iff_eq.2 rfl, compare_eq_iff_eq.2 rfl]
    rfl
  · rw [compare_gt_iff_gt.2 h, compare_lt_iff_lt.2 (neg_lt_neg h)]
    rfl

@[simp] theorem rank_zero (s : Sign) : rank F (.zero s) = 0 := rfl

@[simp] theorem rank_infinity (s : Sign) : rank F (.infinity s) = unit s * limit F := rfl

@[simp] theorem rank_finite (s : Sign) (hm : 0 < m) :
    rank F (.finite s m e hm) = unit s * (m * 2 ^ e) := rfl

theorem Stored.abs_rank_lt (h : Stored F u) (hn : ∀ s, u ≠ .infinity s) (hnan : u ≠ .notANumber) :
    |rank F u| < limit F := by
  cases u with
  | infinity s => exact absurd rfl (hn s)
  | notANumber => exact absurd rfl hnan
  | zero s => exact h.small rfl
  | finite s m e hm => exact h.small rfl

/-- Numbers compare like their values. -/
theorem compare_eq (hu : Stored F u) (hv : Stored F v) (hu' : u ≠ .notANumber)
    (hv' : v ≠ .notANumber) : u.compare v = some (compare (rank F u) (rank F v)) := by
  have hlimit := limit_pos F
  have hpos {m : Nat} {e : Int} (hm : 0 < m) : (0 : ℚ) < m * 2 ^ e :=
    mul_pos (Nat.cast_pos.2 hm) (two_zpow_pos e)
  fun_cases UnpackedFloat.compare u v
  case case1 => exact absurd rfl hu'
  case case2 => exact absurd rfl hv'
  case case3 s t =>
    -- two infinities
    rw [rank_infinity, rank_infinity]
    cases s <;> cases t <;> simp only [unit, one_mul, neg_one_mul]
    · rw [compare_eq_iff_eq.2 rfl]
      rfl
    · rw [compare_lt_iff_lt.2 (by linarith)]
      rfl
    · rw [compare_gt_iff_gt.2 (by linarith)]
      rfl
    · rw [compare_eq_iff_eq.2 rfl]
      rfl
  case case4 hn =>
    refine congrArg some (compare_gt_iff_gt.2 ?_).symm
    rw [rank_infinity, unit, one_mul]
    exact (abs_lt.1 (hv.abs_rank_lt hn hv')).2
  case case5 hn =>
    refine congrArg some (compare_lt_iff_lt.2 ?_).symm
    rw [rank_infinity, unit, neg_one_mul]
    exact (abs_lt.1 (hv.abs_rank_lt hn hv')).1
  case case6 hn =>
    refine congrArg some (compare_lt_iff_lt.2 ?_).symm
    rw [rank_infinity, unit, one_mul]
    exact (abs_lt.1 (hu.abs_rank_lt hn hu')).2
  case case7 hn =>
    refine congrArg some (compare_gt_iff_gt.2 ?_).symm
    rw [rank_infinity, unit, neg_one_mul]
    exact (abs_lt.1 (hu.abs_rank_lt hn hu')).1
  case case8 m e hm t =>
    refine congrArg some (compare_gt_iff_gt.2 ?_).symm
    rw [rank_finite, rank_zero, unit, one_mul]
    exact hpos hm
  case case9 m e hm t =>
    refine congrArg some (compare_lt_iff_lt.2 ?_).symm
    rw [rank_finite, rank_zero, unit, neg_one_mul]
    exact neg_neg_of_pos (hpos hm)
  case case10 s n f hn =>
    refine congrArg some (compare_lt_iff_lt.2 ?_).symm
    rw [rank_finite, rank_zero, unit, one_mul]
    exact hpos hn
  case case11 s n f hn =>
    refine congrArg some (compare_gt_iff_gt.2 ?_).symm
    rw [rank_finite, rank_zero, unit, neg_one_mul]
    exact neg_neg_of_pos (hpos hn)
  case case12 s t => exact congrArg some (compare_eq_iff_eq.2 rfl).symm
  case case13 m e hm n f hn =>
    rw [compare_mul_two_zpow hm hn hu.canonical.place_eq hv.canonical.place_eq, swap_compare,
      rank_finite, rank_finite, unit, neg_one_mul, neg_one_mul]
  case case14 m e hm n f hn =>
    refine congrArg some (compare_lt_iff_lt.2 ?_).symm
    rw [rank_finite, rank_finite, unit, unit, neg_one_mul, one_mul]
    exact (neg_neg_of_pos (hpos hm)).trans (hpos hn)
  case case15 m e hm n f hn =>
    refine congrArg some (compare_gt_iff_gt.2 ?_).symm
    rw [rank_finite, rank_finite, unit, unit, neg_one_mul, one_mul]
    exact (neg_neg_of_pos (hpos hn)).trans (hpos hm)
  case case16 m e hm n f hn =>
    rw [compare_mul_two_zpow hm hn hu.canonical.place_eq hv.canonical.place_eq,
      rank_finite, rank_finite, unit, one_mul, one_mul]

/-- What is not a number compares with nothing. -/
theorem compare_eq_none (h : ¬(u ≠ .notANumber ∧ v ≠ .notANumber)) : u.compare v = none := by
  rcases not_and_or.1 h with h | h
  · rw [not_not.1 h]
    rfl
  · rw [not_not.1 h]
    cases u <;> rfl

theorem Stored.compare_eq_lt_iff (hu : Stored F u) (hv : Stored F v) :
    u.compare v = some .lt ↔ u ≠ .notANumber ∧ v ≠ .notANumber ∧ rank F u < rank F v := by
  rw [← and_assoc]
  by_cases h : u ≠ .notANumber ∧ v ≠ .notANumber
  · rw [compare_eq hu hv h.1 h.2, Option.some_inj, compare_lt_iff_lt]
    simp [h]
  · rw [compare_eq_none h]
    simp [h]

theorem Stored.isLE_compare_iff (hu : Stored F u) (hv : Stored F v) :
    (u.compare v).any (·.isLE) = true ↔
      u ≠ .notANumber ∧ v ≠ .notANumber ∧ rank F u ≤ rank F v := by
  rw [← and_assoc]
  by_cases h : u ≠ .notANumber ∧ v ≠ .notANumber
  · rw [compare_eq hu hv h.1 h.2, Option.any_some, Ordering.isLE_iff_ne_gt, ← ne_eq,
      compare_le_iff_le]
    simp [h]
  · rw [compare_eq_none h]
    simp [h]

/-- A number is finite if it stays below the end. -/
theorem Stored.isFinite_iff (h : Stored F u) :
    u.isFinite = true ↔ u ≠ .notANumber ∧ |rank F u| < limit F := by
  cases u with
  | notANumber => exact ⟨fun h => (nomatch h), fun h => absurd rfl h.1⟩
  | infinity s =>
    have habs : |rank F (.infinity s)| = limit F := by
      rw [rank_infinity, abs_mul, abs_unit, one_mul, abs_of_pos (limit_pos F)]
    exact ⟨fun h => (nomatch h), fun h => absurd (habs ▸ h.2) (lt_irrefl _)⟩
  | zero s => exact ⟨fun hf => ⟨UnpackedFloat.noConfusion, h.small hf⟩, fun _ => rfl⟩
  | finite s m e hm => exact ⟨fun hf => ⟨UnpackedFloat.noConfusion, h.small hf⟩, fun _ => rfl⟩

theorem Stored.form (h : Stored F u) (hfinite : u.isFinite = true) : Form F (rank F u) u := by
  refine ⟨hfinite, h.canonical, ?_⟩
  cases u with
  | infinity s => cases hfinite
  | notANumber => rfl
  | zero s => rfl
  | finite s m e hm => rfl

/-! ### Ends -/

/-- What is packed is cut off at the ends. -/
theorem Form.rank_settle (h : Form F y u) (hF : 2 ≤ F.exponentBits) :
    Unpacked.settle F u ≠ .notANumber ∧
      rank F (Unpacked.settle F u) = max (-limit F) (min y (limit F)) := by
  have hlimit := limit_pos F
  rcases lt_or_ge |y| (limit F) with hsmall | hlarge
  · rw [h.settle hF hsmall, min_eq_left (abs_lt.1 hsmall).2.le, max_eq_right (abs_lt.1 hsmall).1.le]
    obtain ⟨hfinite, -, rfl⟩ := h
    cases u with
    | infinity s => cases hfinite
    | notANumber => cases hfinite
    | zero s => exact ⟨UnpackedFloat.noConfusion, rfl⟩
    | finite s m e hm => exact ⟨UnpackedFloat.noConfusion, rfl⟩
  · obtain ⟨s, hs, hy⟩ := h.settle_of_le hF hlarge
    rw [hs, rank_infinity]
    refine ⟨UnpackedFloat.noConfusion, ?_⟩
    cases s with
    | negative =>
      rw [unit, neg_one_mul] at hy ⊢
      rw [max_eq_left ((min_le_left _ _).trans (by linarith))]
    | positive =>
      rw [unit, one_mul] at hy ⊢
      rw [min_eq_right (by linarith), max_eq_right (by linarith)]

end Unpacked
end Guardhouse
