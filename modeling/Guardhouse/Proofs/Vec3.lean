import Guardhouse.Proofs.Number.Sign
import Guardhouse.Vec3

/-!
# Points and steps between them

The distance to a point does not tell its zeros apart (`Vec3.distance_congr`). A step towards a
point ends, in every coordinate, between where it began and that point (`Vec3.moveTowards_between`):
rounding never carries it further, and whatever the distance between the two points is, even
infinite, the step is a part of it. It only has to be a finite way in every coordinate, and then
what is left of the way is finite as well (`Vec3.Between.isFinite_sub`). Whoever walks from point to
point stays in the box around them (`Vec3.Between.mem_box`).
-/

namespace Guardhouse
namespace Vec3

variable {a b : Vec3}

theorem beq_iff : (a == b) = true ↔
    (a.x == b.x) = true ∧ (a.y == b.y) = true ∧ (a.z == b.z) = true := by
  rw [← and_assoc, ← Bool.and_eq_true, ← Bool.and_eq_true]
  rfl

/-- Equal numbers are equally far from a point. -/
theorem distance_congr (h : (a == b) = true) (p : Vec3) : p.distance a = p.distance b := by
  obtain ⟨hx, hy, hz⟩ := beq_iff.1 h
  show (((a.x - p.x) * (a.x - p.x) + (a.y - p.y) * (a.y - p.y)) +
    (a.z - p.z) * (a.z - p.z)).sqrt = _
  rw [Single.mul_self_sub_congr hx, Single.mul_self_sub_congr hy, Single.mul_self_sub_congr hz]
  rfl

/-! ### Coordinates -/

/-- The axes of the world. -/
inductive Axis where
  | x
  | y
  | z
  deriving DecidableEq

/-- The coordinate of a point along an axis. -/
def coord (i : Axis) (a : Vec3) : Float32 :=
  match i with
  | .x => a.x
  | .y => a.y
  | .z => a.z

@[simp] theorem coord_add (i : Axis) (a b : Vec3) : (a + b).coord i = a.coord i + b.coord i := by
  cases i <;> rfl

@[simp] theorem coord_sub (i : Axis) (a b : Vec3) : (a - b).coord i = a.coord i - b.coord i := by
  cases i <;> rfl

@[simp] theorem coord_scale (i : Axis) (a : Vec3) (s : Float32) :
    (a.scale s).coord i = a.coord i * s := by
  cases i <;> rfl

/-- Every coordinate is a finite number. -/
def isFinite (a : Vec3) : Bool := a.x.isFinite && a.y.isFinite && a.z.isFinite

theorem isFinite_iff : a.isFinite = true ↔ ∀ i, (a.coord i).isFinite = true := by
  unfold isFinite
  rw [Bool.and_eq_true, Bool.and_eq_true, and_assoc]
  constructor
  · rintro ⟨hx, hy, hz⟩ (_ | _ | _)
    · exact hx
    · exact hy
    · exact hz
  · exact fun h => ⟨h .x, h .y, h .z⟩

/-- Only between finite points is there a finite way. -/
theorem isFinite_of_sub (h : (b - a).isFinite = true) : b.isFinite = true ∧ a.isFinite = true := by
  rw [isFinite_iff] at h
  have hboth (i : Axis) : (b.coord i).isFinite = true ∧ (a.coord i).isFinite = true :=
    Single.isFinite_of_sub (coord_sub i b a ▸ h i)
  exact ⟨isFinite_iff.2 fun i => (hboth i).1, isFinite_iff.2 fun i => (hboth i).2⟩

/-- The points are the same but for the signs of zeros. -/
def Same (a b : Vec3) : Prop := ∀ i, Single.value (a.coord i) = Single.value (b.coord i)

theorem Same.refl (a : Vec3) : a.Same a := fun _ => rfl

theorem same_of_beq (h : (a == b) = true) : a.Same b := by
  obtain ⟨hx, hy, hz⟩ := beq_iff.1 h
  intro i
  cases i
  · exact (Single.beq_iff_value.1 hx).2.2
  · exact (Single.beq_iff_value.1 hy).2.2
  · exact (Single.beq_iff_value.1 hz).2.2

/-- The way from a point is finite to all points that are the same. -/
theorem Same.isFinite_sub {p : Vec3} (h : a.Same b) (hb : b.isFinite = true)
    (hway : (a - p).isFinite = true) : (b - p).isFinite = true := by
  rw [isFinite_iff] at hb hway ⊢
  intro i
  have hwayi := hway i
  rw [coord_sub] at hwayi ⊢
  have hp := (Single.isFinite_of_sub hwayi).2
  have hvalue := congrArg (· - Single.value (p.coord i)) (h i)
  exact Single.isFinite_sub_of_between (hb i) hp hwayi hwayi hvalue.le hvalue.ge

/-! ### Steps -/

theorem zero_le_length (h : ∀ i, Single.IsNumber (a.coord i)) : 0 ≤ a.length := by
  apply Single.zero_le_sqrt
  apply Single.zero_le_add
  · exact Single.zero_le_add (Single.zero_le_mul_self (h .x)) (Single.zero_le_mul_self (h .y))
  · exact Single.zero_le_mul_self (h .z)

/-- A point lies between two others in every coordinate. -/
def Between (a b p : Vec3) : Prop :=
  ∀ i, (p.coord i).isFinite = true ∧
    Single.value (p.coord i) ∈ Set.uIcc (Single.value (a.coord i)) (Single.value (b.coord i))

/-- A step never overshoots. -/
theorem moveTowards_between {step : Float32} (ha : a.isFinite = true) (hb : b.isFinite = true)
    (hdelta : (b - a).isFinite = true) (hstep : 0 ≤ step) :
    Between a b (a.moveTowards b step) := by
  rw [isFinite_iff] at ha hb hdelta
  unfold moveTowards
  dsimp only
  split
  · exact fun i => ⟨hb i, Set.right_mem_uIcc⟩
  next hfar =>
  rw [Bool.or_eq_true, decide_eq_true_eq, not_or] at hfar
  have hlength : 0 ≤ (b - a).length :=
    zero_le_length fun i => Single.isNumber_of_isFinite (hdelta i)
  have hless : step < (b - a).length :=
    (Single.not_le (Single.zero_le_iff.1 hlength).1 (Single.zero_le_iff.1 hstep).1).1 hfar.1
  obtain ⟨hfinite, hlow, hhigh⟩ := Single.div_of_lt hstep hless
  intro i
  have hd := hdelta i
  rw [coord_sub] at hd
  rw [coord_add, coord_scale, coord_sub]
  exact Single.step_mem_uIcc (ha i) (hb i) hd hfinite hlow hhigh

namespace Between

variable {p q : Vec3}

theorem isFinite (h : Between a b p) : p.isFinite = true := isFinite_iff.2 fun i => (h i).1

theorem of_same_left (hp : p.isFinite = true) (h : p.Same a) : Between a b p :=
  fun i => ⟨isFinite_iff.1 hp i, h i ▸ Set.left_mem_uIcc⟩

theorem trans (h : Between a b p) (h' : Between p b q) : Between a b q := by
  refine fun i => ⟨(h' i).1, ?_⟩
  exact Set.uIcc_subset_uIcc_right (h i).2 (h' i).2

/-- What is left of a finite way is finite. -/
theorem isFinite_sub (h : Between a b p) (hway : (b - a).isFinite = true) :
    (b - p).isFinite = true := by
  rw [isFinite_iff] at hway ⊢
  intro i
  obtain ⟨hp, hmem⟩ := h i
  have hwayi := hway i
  rw [coord_sub] at hwayi ⊢
  have hb := (Single.isFinite_of_sub hwayi).1
  rcases Set.mem_uIcc.1 hmem with ⟨hap, hpb⟩ | ⟨hbp, hpa⟩
  · refine Single.isFinite_sub_of_between hb hp (Single.isFinite_sub_self hb) hwayi ?_ ?_
    · rw [sub_self, sub_nonneg]
      exact hpb
    · exact sub_le_sub_left hap _
  · refine Single.isFinite_sub_of_between hb hp hwayi (Single.isFinite_sub_self hb) ?_ ?_
    · exact sub_le_sub_left hpa _
    · rw [sub_self, sub_nonpos]
      exact hbp

end Between

/-! ### Boxes -/

/-- The box around some points: in every coordinate between two of them. -/
def box (points : List Vec3) : Set Vec3 :=
  {p | ∀ i, (p.coord i).isFinite = true ∧
    ∃ l ∈ points, ∃ u ∈ points,
      Single.value (p.coord i) ∈ Set.Icc (Single.value (l.coord i)) (Single.value (u.coord i))}

variable {points : List Vec3}

theorem isFinite_of_mem_box (ha : a ∈ box points) : a.isFinite = true :=
  isFinite_iff.2 fun i => (ha i).1

theorem mem_box (ha : a ∈ points) (hfinite : a.isFinite = true) : a ∈ box points :=
  fun i => ⟨isFinite_iff.1 hfinite i, a, ha, a, ha, le_rfl, le_rfl⟩

/-- A point that is a finite way from all points is a finite way from their box. -/
theorem isFinite_sub_of_mem_box (hb : b.isFinite = true)
    (hway : ∀ p ∈ points, (b - p).isFinite = true) (ha : a ∈ box points) :
    (b - a).isFinite = true := by
  rw [isFinite_iff] at hb ⊢
  intro i
  obtain ⟨hfinite, l, hl, u, hu, hla, hau⟩ := ha i
  have hlow := isFinite_iff.1 (hway u hu) i
  have hhigh := isFinite_iff.1 (hway l hl) i
  rw [coord_sub] at hlow hhigh ⊢
  exact Single.isFinite_sub_of_between (hb i) hfinite hlow hhigh (sub_le_sub_left hau _)
    (sub_le_sub_left hla _)

theorem Between.mem_box {p : Vec3} (h : Between a b p) (ha : a ∈ box points)
    (hb : b ∈ box points) : p ∈ box points := by
  intro i
  obtain ⟨-, l, hl, u, hu, hla, hau⟩ := ha i
  obtain ⟨-, l', hl', u', hu', hlb, hbu⟩ := hb i
  obtain ⟨hfinite, hmem⟩ := h i
  rcases Set.mem_uIcc.1 hmem with ⟨hap, hpb⟩ | ⟨hbp, hpa⟩
  · exact ⟨hfinite, l, hl, u', hu', hla.trans hap, hpb.trans hbu⟩
  · exact ⟨hfinite, l', hl', u, hu, hlb.trans hbp, hpa.trans hau⟩

end Vec3
end Guardhouse
