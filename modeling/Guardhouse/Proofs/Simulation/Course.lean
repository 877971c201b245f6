import Guardhouse.Simulation.Target
import Mathlib.Data.Nat.ModEq

/-!
# The course of a target

A target starts at the first point of its path, if there is one, and remembers which point is next.
The index of that point passes the end of the path by no more than the one of an empty path
(`Target.OnCourse`), and whatever point the target looks up is there. It comes to the points one
after another, round and round if the path is looped, and leaves none out
(`Target.follows_path`).

Everything is decided by what one step does: a target at rest stays as it is
(`Target.advance_of_rests`); any other one walks towards a point of its path, and goes on to the next
one just if the step ends at that point (`Target.advance_of_heading`). How far a step goes does not
matter here.
-/

namespace Guardhouse
namespace Simulation
namespace Target

variable {t : Target} {dt : Float32}

/-- The target of a script after steps of some lengths. -/
def after (script : TargetScript) (dts : List Float32) : Target := dts.foldl advance (start script)

/-- A step as a program takes it: it decides first whether to walk, then turns back to the first
point from the end of the path, and looks up the point last. It has no result if there is no such
point. -/
def walk (t : Target) (dt : Float32) : Option Target :=
  match t.position with
  | none => some t
  | some position =>
    if t.script.path.size ≤ t.next ∧ (t.script.looped = false ∨ t.script.path.size = 0) then some t
    else
      let next := if t.script.path.size ≤ t.next then 0 else t.next
      t.script.path[next]?.map fun point =>
        let moved := position.moveTowards point (t.script.speed * dt)
        { t with
          position := some moved
          next := if moved == point then next + 1 else next }

/-- There is nowhere to walk: the target is nowhere, or at the end of a path that is not looped. -/
def Rests (t : Target) : Prop :=
  t.position = none ∨ t.script.looped = false ∧ t.script.path.size ≤ t.next

/-- What holds of a target from its start on. -/
structure OnCourse (t : Target) : Prop where
  next_le : t.next ≤ max t.script.path.size 1
  /-- Only an empty path leaves the target nowhere. -/
  nowhere_iff : t.position = none ↔ t.script.path.size = 0

/-! ### One step -/

theorem advance_of_rests (h : t.Rests) (dt : Float32) : t.advance dt = t := by
  unfold advance
  obtain hnowhere | ⟨hlooped, hend⟩ := h
  · rw [hnowhere]
  · have hheading : t.heading = t.next := by simp [heading, hlooped]
    rw [hheading, Array.getElem?_eq_none hend]
    split <;> simp_all

theorem advance_of_heading {position : Vec3} (hposition : t.position = some position)
    (h : t.heading < t.script.path.size) (dt : Float32) :
    let moved := position.moveTowards t.script.path[t.heading] (t.script.speed * dt)
    t.advance dt = { t with
      position := some moved
      next := if moved == t.script.path[t.heading] then t.heading + 1 else t.heading } := by
  unfold advance
  rw [hposition, Array.getElem?_eq_getElem h]

namespace OnCourse

theorem start (script : TargetScript) : (start script).OnCourse where
  next_le := Nat.le_max_right _ _
  nowhere_iff := by
    show script.path[0]? = none ↔ script.path.size = 0
    rw [Array.getElem?_eq_none_iff]
    omega

/-- What a target that walks has: a position, and a point to walk to. -/
theorem underway (h : t.OnCourse) (hr : ¬t.Rests) :
    ∃ position, t.position = some position ∧ t.heading < t.script.path.size ∧
      t.heading = (if t.next = t.script.path.size ∧ t.script.looped = true then 0 else t.next) ∧
      t.heading = t.next % t.script.path.size := by
  obtain ⟨hsomewhere, hgoes⟩ := not_or.1 hr
  have hnext := h.next_le
  have hsize := mt h.nowhere_iff.2 hsomewhere
  obtain ⟨position, hposition⟩ := Option.ne_none_iff_exists'.1 hsomewhere
  refine ⟨position, hposition, ?_⟩
  rcases Nat.lt_or_ge t.next t.script.path.size with hlt | hge
  · have hheading : t.heading = t.next := by
      unfold heading
      rw [if_neg]
      simp; omega
    rw [hheading, if_neg (by omega), Nat.mod_eq_of_lt hlt]
    exact ⟨hlt, rfl, rfl⟩
  · -- past the end only a looped path goes on, and there is no further past it than by one point
    have heq : t.next = t.script.path.size := by omega
    have hlooped : t.script.looped = true := by simpa [heq] using hgoes
    have hheading : t.heading = 0 := by simp [heading, heq, hlooped]
    rw [hheading, heq, if_pos ⟨rfl, hlooped⟩, Nat.mod_self]
    exact ⟨by omega, rfl, rfl⟩

theorem advance (h : t.OnCourse) (dt : Float32) : (t.advance dt).OnCourse := by
  by_cases hr : t.Rests
  · rw [advance_of_rests hr]
    exact h
  · obtain ⟨position, hposition, hlt, -⟩ := h.underway hr
    rw [advance_of_heading hposition hlt]
    constructor
    case next_le =>
      dsimp only
      split <;> omega
    case nowhere_iff =>
      dsimp only
      exact iff_of_false (fun h => nomatch h) (by omega)

/-- A target on its course never looks past the end of its path. -/
theorem walk_eq (h : t.OnCourse) (dt : Float32) : t.walk dt = some (t.advance dt) := by
  unfold walk
  by_cases hr : t.Rests
  · rw [advance_of_rests hr]
    obtain hnowhere | ⟨hlooped, hend⟩ := hr
    · rw [hnowhere]
    · split
      · rfl
      · rw [if_pos ⟨hend, .inl hlooped⟩]
  · obtain ⟨position, hposition, hlt, -⟩ := h.underway hr
    obtain ⟨hsomewhere, hgoes⟩ := not_or.1 hr
    have hsize := mt h.nowhere_iff.2 hsomewhere
    have hgo : ¬(t.script.path.size ≤ t.next ∧
        (t.script.looped = false ∨ t.script.path.size = 0)) := by
      rintro ⟨hend, hlooped | hzero⟩
      · exact hgoes ⟨hlooped, hend⟩
      · exact hsize hzero
    have hwrap : (if t.script.path.size ≤ t.next then 0 else t.next) = t.heading := by
      unfold heading
      by_cases hend : t.script.path.size ≤ t.next
      · simp [hend, Bool.eq_true_of_not_eq_false fun hlooped => hgoes ⟨hlooped, hend⟩]
      · simp [hend]
    rw [hposition]
    dsimp only
    rw [if_neg hgo, hwrap, Array.getElem?_eq_getElem hlt, advance_of_heading hposition hlt]
    rfl

end OnCourse

/-! ### Arrivals -/

/-- The index of the point that a step comes to, if it is the one that the target walks to. -/
def arrival? (t : Target) (dt : Float32) : Option Nat :=
  match (t.advance dt).position, t.script.path[t.heading]? with
  | some position, some point => if position == point then some t.heading else none
  | _, _ => none

/-- The indices of the points that steps of some lengths come to. -/
def arrivals (t : Target) : List Float32 → List Nat
  | [] => []
  | dt :: dts => (t.arrival? dt).toList ++ (t.advance dt).arrivals dts

/-- So many indices of a path in turn from one on, round and round. -/
def turns (size first n : Nat) : List Nat := (List.range n).map fun k => (first + k) % size

theorem turns_succ (size first n : Nat) :
    turns size first (n + 1) = first % size :: turns size (first + 1) n := by
  unfold turns
  rw [List.range_succ_eq_map, List.map_cons, List.map_map, Nat.add_zero]
  congr 2
  funext k
  show (first + (k + 1)) % size = (first + 1 + k) % size
  rw [Nat.add_assoc, Nat.add_comm 1 k]

theorem turns_congr {size first first' n : Nat} (h : first ≡ first' [MOD size]) :
    turns size first n = turns size first' n :=
  List.map_congr_left fun k _ => h.add_right k

theorem arrival?_of_rests (h : t.Rests) (dt : Float32) : t.arrival? dt = none := by
  unfold arrival?
  rw [advance_of_rests h]
  obtain hnowhere | ⟨hlooped, hend⟩ := h
  · rw [hnowhere]
  · have hheading : t.heading = t.next := by simp [heading, hlooped]
    rw [hheading, Array.getElem?_eq_none hend]
    split <;> simp_all

namespace OnCourse

/-- A step comes to no other point than the next one, and then the one after it is next. -/
theorem arrives (h : t.OnCourse) (dt : Float32) :
    t.arrival? dt = none ∧ (t.advance dt).next ≡ t.next [MOD t.script.path.size] ∧
        (t.script.looped = false → (t.advance dt).next = t.next) ∨
      t.arrival? dt = some (t.next % t.script.path.size) ∧
        (t.advance dt).next ≡ t.next + 1 [MOD t.script.path.size] ∧
        (t.script.looped = false → (t.advance dt).next = t.next + 1) := by
  by_cases hr : t.Rests
  · rw [arrival?_of_rests hr, advance_of_rests hr]
    exact .inl ⟨rfl, rfl, fun _ => rfl⟩
  · obtain ⟨position, hposition, hlt, hheading, hmod⟩ := h.underway hr
    have hcongr : t.heading ≡ t.next [MOD t.script.path.size] := hmod ▸ Nat.mod_modEq _ _
    have honce : t.script.looped = false → t.heading = t.next := fun hlooped => by
      simp [hheading, hlooped]
    rw [← hmod]
    unfold arrival?
    rw [advance_of_heading hposition hlt, Array.getElem?_eq_getElem hlt]
    dsimp only
    split
    · exact .inr ⟨rfl, hcongr.add_right 1, fun hlooped => by rw [honce hlooped]⟩
    · exact .inl ⟨rfl, hcongr, honce⟩

/-- The points that a target comes to are the next ones in turn. -/
theorem arrivals_eq (h : t.OnCourse) (dts : List Float32) :
    t.arrivals dts = turns t.script.path.size t.next (t.arrivals dts).length ∧
      (t.script.looped = false →
        (dts.foldl Target.advance t).next = t.next + (t.arrivals dts).length) := by
  induction dts generalizing t with
  | nil => exact ⟨rfl, fun _ => rfl⟩
  | cons dt dts ih =>
    obtain ⟨hrest, hlast⟩ := ih (h.advance dt)
    rw [script_advance] at hrest hlast
    rw [arrivals, List.foldl_cons]
    rcases h.arrives dt with ⟨hnone, hmod, honce⟩ | ⟨hsome, hmod, honce⟩
    · rw [turns_congr hmod] at hrest
      rw [hnone, Option.toList_none, List.nil_append]
      exact ⟨hrest, fun hlooped => by rw [hlast hlooped, honce hlooped]⟩
    · rw [turns_congr hmod] at hrest
      rw [hsome, Option.toList_some, List.singleton_append, List.length_cons, turns_succ, ← hrest]
      refine ⟨rfl, fun hlooped => ?_⟩
      rw [hlast hlooped, honce hlooped]
      omega

/-- A run keeps the script and the course. -/
theorem foldl (h : t.OnCourse) (dts : List Float32) :
    (dts.foldl Target.advance t).OnCourse ∧ (dts.foldl Target.advance t).script = t.script := by
  induction dts generalizing t with
  | nil => exact ⟨h, rfl⟩
  | cons dt dts ih => simpa using ih (h.advance dt)

end OnCourse

theorem foldl_of_rests (h : t.Rests) (dts : List Float32) : dts.foldl advance t = t := by
  induction dts with
  | nil => rfl
  | cons dt dts ih => rw [List.foldl_cons, advance_of_rests h, ih]

/-- Whatever the path of a target and however long its steps are: it never looks up a point past the
end of its path, which its count passes only if the path is empty, and then by one; and it is
nowhere just if its path is empty.

A step that moves the target goes towards a point of the path, which is the first one again after
the end of a looped path, and the point after it is next just if the step ends at that point. So the
points that the target comes to are the second one and those after it in turn, and none is left out.
A target that is not looped has counted them, and one that has come to the end never moves again. -/
theorem follows_path (script : TargetScript) (dts : List Float32) :
    let t := after script dts
    let arrivals := (start script).arrivals dts
    t.script = script ∧
    t.next ≤ max script.path.size 1 ∧
    (t.position = none ↔ script.path.size = 0) ∧
    (∀ dt, t.walk dt = some (t.advance dt)) ∧
    (¬t.Rests → ∃ position, t.position = some position ∧ ∃ h : t.heading < script.path.size,
      t.heading = (if t.next = script.path.size ∧ script.looped = true then 0 else t.next) ∧
      ∀ dt, ∃ moved, moved = position.moveTowards script.path[t.heading] (script.speed * dt) ∧
        (t.advance dt).position = some moved ∧
        (t.advance dt).next =
          if moved == script.path[t.heading] then t.heading + 1 else t.heading) ∧
    (t.Rests → ∀ more, after script (dts ++ more) = t) ∧
    arrivals = turns script.path.size 1 arrivals.length ∧
    (script.looped = false → t.next = arrivals.length + 1) := by
  intro t arrivals
  have hstart := OnCourse.start script
  obtain ⟨hcourse, hscript⟩ : t.OnCourse ∧ t.script = script := hstart.foldl dts
  obtain ⟨harrivals, hcount⟩ := hstart.arrivals_eq dts
  refine ⟨hscript, hscript ▸ hcourse.next_le, hscript ▸ hcourse.nowhere_iff, hcourse.walk_eq,
    fun hgoes => ?_, fun hrests more => ?_, harrivals, fun hlooped => ?_⟩
  · obtain ⟨position, hposition, hlt, hheading, -⟩ := hcourse.underway hgoes
    have hstep := advance_of_heading hposition hlt
    simp only [hscript] at hlt hheading hstep
    refine ⟨position, hposition, hlt, hheading, fun dt => ⟨_, rfl, ?_⟩⟩
    rw [hstep]
    exact ⟨rfl, rfl⟩
  · unfold after
    rw [List.foldl_append]
    exact foldl_of_rests hrests more
  · rw [Nat.add_comm]
    exact hcount hlooped

/-- Back and forth between two points, half the way in each step. -/
example : (start ⟨#[⟨0, 0, 0⟩, ⟨0, 0, 2⟩], 1, true⟩).arrivals [1, 1, 1, 1, 1] = [1, 0] := by
  decide +kernel

end Target
end Simulation
end Guardhouse
