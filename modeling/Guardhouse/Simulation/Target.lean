import Guardhouse.Vec3

/-!
# Scripted targets

A target that walks a path of points at constant speed, either once or over and over. It starts at
the first point; a target without a path is nowhere.
-/

namespace Guardhouse
namespace Simulation

/-- The path of a target. -/
structure TargetScript where
  path : Array Vec3 := #[⟨-6, 0, 16⟩, ⟨2, 0, 16⟩, ⟨30, 0, 40⟩]
  speed : Float32 := 2
  /-- Whether the target starts over from the first point after the last one. -/
  looped : Bool := false
  deriving DecidableEq

/-- The saved form of a path. -/
def TargetScript.toJson (s : TargetScript) : Json :=
  .object [("path", .array (s.path.toList.map Vec3.toJson)), ("speed", .ofSingle s.speed),
    ("looped", .bool s.looped)]

/-- A target on its path. -/
structure Target where
  script : TargetScript
  position : Option Vec3
  /-- The index of the point that the target walks to. -/
  next : Nat
  deriving DecidableEq

namespace Target

/-- A target at the beginning of its path. -/
def start (script : TargetScript) : Target := ⟨script, script.path[0]?, 1⟩

/-- The index of the point to walk to: past the end of a looped path, that of the first one. -/
def heading (t : Target) : Nat :=
  if t.script.path.size ≤ t.next && t.script.looped then 0 else t.next

/-- The target after `dt` seconds of walking. It stops at the point it walks to, and stays for good
where a path ends that is not looped. -/
def advance (t : Target) (dt : Float32) : Target :=
  match t.position, t.script.path[t.heading]? with
  | some position, some point =>
    let moved := position.moveTowards point (t.script.speed * dt)
    { t with
      position := some moved
      next := if moved == point then t.heading + 1 else t.heading }
  | _, _ => t

@[simp] theorem script_advance (t : Target) (dt : Float32) : (t.advance dt).script = t.script := by
  unfold advance
  split <;> rfl

end Target
end Simulation
end Guardhouse
