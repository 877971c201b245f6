import Guardhouse.Guard.Config
import Guardhouse.Simulation.Target

/-!
# Scenarios

Everything that is needed to set up one guard and its target. A scenario is sound if its guard is,
and if both can walk at the speeds that they are given.
-/

namespace Guardhouse
namespace Simulation

/-- A guard and its target at the start of a simulation. -/
structure Scenario where
  guard : Guard.Config := {}
  guardStart : Vec3 := .zero
  /-- The speed of the guard in units a second, before the multiplier of its state. -/
  guardSpeed : Float32 := 3
  route : Array Vec3 := #[⟨0, 0, 10⟩, ⟨10, 0, 10⟩, ⟨10, 0, 0⟩, ⟨0, 0, 0⟩]
  target : TargetScript := {}
  deriving DecidableEq

namespace Scenario

instance : Inhabited Scenario := ⟨{}⟩

/-- Why there is no scenario. -/
inductive Error where
  /-- The file could not be read as text. -/
  | unreadable (path : String)
  /-- The text of the file is no scenario. -/
  | unparsable (path : String)
  /-- The guard is not sound. -/
  | guard (cause : Guard.Config.Error)
  /-- The guard cannot walk. -/
  | guardSpeed
  /-- The target would walk backwards. -/
  | targetSpeed
  deriving DecidableEq, Repr

namespace Error

/-- The wording of an error without its cause. -/
def headline : Error → String
  | unreadable path => "failed to read scenario " ++ path
  | unparsable path => "failed to parse scenario " ++ path
  | guard _ => "invalid guard section"
  | guardSpeed => "guard_speed must be positive"
  | targetSpeed => "target.speed must not be negative"

/-- The wording of an error with its cause. -/
def message : Error → String
  | guard cause => headline (guard cause) ++ ": " ++ cause.message
  | e => e.headline

end Error

/-- Accepts a sound scenario. -/
def check (s : Scenario) : Except Error Unit := do
  s.guard.check.mapError .guard
  unless s.guardSpeed.isFinite && 0 < s.guardSpeed do throw .guardSpeed
  unless s.target.speed.isFinite && 0 ≤ s.target.speed do throw .targetSpeed

/-- The saved form of a scenario. -/
def toJson (s : Scenario) : Json :=
  .object [("guard", s.guard.toJson), ("guard_start", s.guardStart.toJson),
    ("guard_speed", .ofSingle s.guardSpeed), ("route", .array (s.route.toList.map Vec3.toJson)),
    ("target", s.target.toJson)]

end Scenario
end Simulation
end Guardhouse
