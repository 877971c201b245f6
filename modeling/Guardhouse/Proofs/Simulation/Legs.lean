import Guardhouse.Proofs.Simulation.Course
import Guardhouse.Proofs.Vec3

/-!
# The legs of a path

A target walks from each point of its path to the next one, and to no other. It is always between
the two ends of a leg (`Target.OnLeg`), so nothing but the ways from end to end matters for how far
it has to walk (`Target.OnLeg.between`).
-/

namespace Guardhouse
namespace Simulation

/-- From every point of a path to the next one, and from the last one to the first if the path is
looped. -/
def TargetScript.legs (s : TargetScript) : List (Vec3 × Vec3) :=
  s.path.toList.zip (s.path.toList.tail ++ if s.looped then s.path.toList.take 1 else [])

theorem TargetScript.mem_legs {s : TargetScript} {i j : Nat} {a b : Vec3}
    (ha : s.path[i]? = some a) (hb : s.path[j]? = some b)
    (hij : j = i + 1 ∨ s.looped = true ∧ i + 1 = s.path.size ∧ j = 0) : (a, b) ∈ s.legs := by
  rw [← Array.getElem?_toList] at ha hb
  refine List.mem_iff_getElem?.2 ⟨i, List.getElem?_zip_eq_some.2 ⟨ha, ?_⟩⟩
  rcases hij with rfl | ⟨hlooped, hlast, rfl⟩
  · rw [← List.getElem?_tail] at hb
    rw [List.getElem?_append_left (List.getElem?_eq_some_iff.1 hb).1]
    exact hb
  · have hlength : s.path.toList.tail.length = i := by simp; omega
    rw [List.getElem?_append_right hlength.le, hlength, Nat.sub_self, if_pos hlooped,
      List.getElem?_take_of_lt Nat.one_pos]
    exact hb

namespace Target

variable {t : Target} {dt : Float32}

/-- The target is between the point that it walks to and the one before. -/
def OnLeg (t : Target) : Prop :=
  ∀ position ∈ t.position, ∀ point, t.script.path[t.heading]? = some point →
    ∃ a, (a, point) ∈ t.script.legs ∧ Vec3.Between a point position

/-- A leg leads from each point to the one that comes next. -/
theorem mem_legs_heading {i : Nat} {a b : Vec3} (hnext : t.next = i + 1)
    (ha : t.script.path[i]? = some a) (hb : t.script.path[t.heading]? = some b) :
    (a, b) ∈ t.script.legs := by
  have hi := (Array.getElem?_eq_some_iff.1 ha).1
  refine TargetScript.mem_legs ha hb ?_
  unfold heading
  split
  · next hloop =>
    rw [Bool.and_eq_true, decide_eq_true_eq] at hloop
    exact .inr ⟨hloop.2, by omega, rfl⟩
  · exact .inl hnext

/-- A target that has not arrived goes on to the same point. -/
theorem heading_keep (position : Option Vec3) (h : t.heading < t.script.path.size) :
    heading { t with position, next := t.heading } = t.heading := by
  show (if t.script.path.size ≤ t.heading && t.script.looped then 0 else t.heading) = _
  rw [if_neg]
  simp
  omega

theorem onLeg_start {script : TargetScript} (hpath : ∀ p ∈ script.path, p.isFinite = true) :
    (start script).OnLeg := by
  intro first (hfirst : script.path[0]? = some first) point hpoint
  refine ⟨first, mem_legs_heading rfl hfirst hpoint, ?_⟩
  exact .of_same_left (hpath first (Array.mem_of_getElem? hfirst)) (.refl first)

namespace OnLeg

variable {position point : Vec3} {step : Float32}

/-- A step of the target ends between where it began and the point that the target walks to. -/
theorem between (h : t.OnLeg) (hlegs : ∀ a b, (a, b) ∈ t.script.legs → (b - a).isFinite = true)
    (hposition : t.position = some position) (hpoint : t.script.path[t.heading]? = some point)
    (hstep : 0 ≤ step) : Vec3.Between position point (position.moveTowards point step) := by
  obtain ⟨a, hleg, hbetween⟩ := h position hposition point hpoint
  have hway := hlegs a point hleg
  have hfinite : point.isFinite = true := (Vec3.isFinite_of_sub hway).1
  exact Vec3.moveTowards_between hbetween.isFinite hfinite (hbetween.isFinite_sub hway) hstep

theorem advance_mem_box (h : t.OnLeg)
    (hlegs : ∀ a b, (a, b) ∈ t.script.legs → (b - a).isFinite = true)
    (hstep : 0 ≤ t.script.speed * dt) {points : List Vec3}
    (hposition : ∀ p ∈ t.position, p ∈ Vec3.box points)
    (hpath : ∀ p ∈ t.script.path, p ∈ Vec3.box points) :
    ∀ p ∈ (t.advance dt).position, p ∈ Vec3.box points := by
  unfold Target.advance
  split
  · next position point hp hpoint =>
    rintro _ ⟨⟩
    exact (h.between hlegs hp hpoint hstep).mem_box (hposition position hp)
      (hpath point (Array.mem_of_getElem? hpoint))
  · exact hposition

theorem advance (h : t.OnLeg) (hlegs : ∀ a b, (a, b) ∈ t.script.legs → (b - a).isFinite = true)
    (hstep : 0 ≤ t.script.speed * dt) : (t.advance dt).OnLeg := by
  cases hposition : t.position with
  | none =>
    rw [advance_of_rests (.inl hposition)]
    exact h
  | some position =>
    cases hpoint : t.script.path[t.heading]? with
    | none =>
      have hsame : t.advance dt = t := by
        unfold Target.advance
        rw [hposition, hpoint]
      rw [hsame]
      exact h
    | some point =>
      obtain ⟨hlt, hget⟩ := Array.getElem?_eq_some_iff.1 hpoint
      obtain ⟨a, hleg, hbetween⟩ := h position hposition point hpoint
      have hmoves := h.between hlegs hposition hpoint hstep
      rw [advance_of_heading hposition hlt, hget]
      split
      · next harrived =>
        -- the next leg begins where this one ends
        rintro _ ⟨⟩ next hnext
        refine ⟨point, mem_legs_heading rfl hpoint hnext, ?_⟩
        exact .of_same_left hmoves.isFinite (Vec3.same_of_beq harrived)
      · rintro _ ⟨⟩ next hnext
        rw [heading_keep _ hlt, hpoint] at hnext
        cases hnext
        exact ⟨a, hleg, hbetween.trans hmoves⟩

end OnLeg
end Target
end Simulation
end Guardhouse
