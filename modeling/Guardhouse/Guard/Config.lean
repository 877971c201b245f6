import Guardhouse.Guard.State

/-!
# Tuning of a guard

The numbers that a guard is tuned by. `Config.Field` names them one by one, so that reading, saving
and checking go through one list. `Config.check` accepts a configuration if every field follows its
rule, and otherwise reports the first field that does not.
-/

namespace Guardhouse
namespace Guard

/-- The tuning of a guard: distances in world units, times in seconds, angles in degrees. -/
structure Config where
  /-- The greatest distance at which the target can be seen. -/
  viewDistance : Float32 := 10
  /-- The full opening angle of the vision cone. -/
  viewAngle : Float32 := 60
  /-- A target nearer than this is caught. -/
  catchDistance : Float32 := 1.5
  /-- How near to a destination counts as having arrived. -/
  waypointReachDistance : Float32 := 0.5
  /-- How long a chase goes on after the target was last perceived. -/
  chasePersistence : Float32 := 3
  /-- How long the guard searches around the last known position. -/
  searchDuration : Float32 := 3
  /-- How fast the guard turns while it looks around. -/
  lookAroundSpeed : Float32 := 90
  /-- How far the guard turns either way while it looks around. -/
  lookAroundSweep : Float32 := 90
  patrolSpeedMultiplier : Float32 := 1
  chaseSpeedMultiplier : Float32 := 1.5
  searchSpeedMultiplier : Float32 := 0.8
  returnSpeedMultiplier : Float32 := 1
  deriving DecidableEq

namespace Config

instance : Inhabited Config := ⟨{}⟩

/-! ### Fields -/

/-- The fields of a configuration. -/
inductive Field where
  | viewDistance
  | viewAngle
  | catchDistance
  | waypointReachDistance
  | chasePersistence
  | searchDuration
  | lookAroundSpeed
  | lookAroundSweep
  | patrolSpeedMultiplier
  | chaseSpeedMultiplier
  | searchSpeedMultiplier
  | returnSpeedMultiplier
  deriving DecidableEq, Repr

namespace Field

/-- The name of a field in saved data and messages. -/
def name : Field → String
  | viewDistance => "view_distance"
  | viewAngle => "view_angle"
  | catchDistance => "catch_distance"
  | waypointReachDistance => "waypoint_reach_distance"
  | chasePersistence => "chase_persistence"
  | searchDuration => "search_duration"
  | lookAroundSpeed => "look_around_speed"
  | lookAroundSweep => "look_around_sweep"
  | patrolSpeedMultiplier => "patrol_speed_multiplier"
  | chaseSpeedMultiplier => "chase_speed_multiplier"
  | searchSpeedMultiplier => "search_speed_multiplier"
  | returnSpeedMultiplier => "return_speed_multiplier"

/-- All fields, in the order in which they are saved. -/
def all : List Field :=
  [viewDistance, viewAngle, catchDistance, waypointReachDistance, chasePersistence, searchDuration,
    lookAroundSpeed, lookAroundSweep, patrolSpeedMultiplier, chaseSpeedMultiplier,
    searchSpeedMultiplier, returnSpeedMultiplier]

/-- The value of a field. -/
def get (c : Config) : Field → Float32
  | viewDistance => c.viewDistance
  | viewAngle => c.viewAngle
  | catchDistance => c.catchDistance
  | waypointReachDistance => c.waypointReachDistance
  | chasePersistence => c.chasePersistence
  | searchDuration => c.searchDuration
  | lookAroundSpeed => c.lookAroundSpeed
  | lookAroundSweep => c.lookAroundSweep
  | patrolSpeedMultiplier => c.patrolSpeedMultiplier
  | chaseSpeedMultiplier => c.chaseSpeedMultiplier
  | searchSpeedMultiplier => c.searchSpeedMultiplier
  | returnSpeedMultiplier => c.returnSpeedMultiplier

/-- The configuration with another value for a field. -/
def set (c : Config) (x : Float32) : Field → Config
  | viewDistance => { c with viewDistance := x }
  | viewAngle => { c with viewAngle := x }
  | catchDistance => { c with catchDistance := x }
  | waypointReachDistance => { c with waypointReachDistance := x }
  | chasePersistence => { c with chasePersistence := x }
  | searchDuration => { c with searchDuration := x }
  | lookAroundSpeed => { c with lookAroundSpeed := x }
  | lookAroundSweep => { c with lookAroundSweep := x }
  | patrolSpeedMultiplier => { c with patrolSpeedMultiplier := x }
  | chaseSpeedMultiplier => { c with chaseSpeedMultiplier := x }
  | searchSpeedMultiplier => { c with searchSpeedMultiplier := x }
  | returnSpeedMultiplier => { c with returnSpeedMultiplier := x }

theorem mem_all (f : Field) : f ∈ all := by cases f <;> decide

theorem get_set (c : Config) (x : Float32) (f g : Field) :
    f.get (g.set c x) = if f = g then x else f.get c := by
  cases f <;> cases g <;> rfl

end Field

/-! ### Checking -/

/-- What may be required of a number. -/
inductive Rule where
  /-- Finite and greater than zero. -/
  | positive
  /-- Finite and not negative. -/
  | notNegative
  /-- Greater than zero and at most a full turn in degrees. -/
  | angle
  deriving DecidableEq, Repr

namespace Rule

/-- Whether a number follows a rule. -/
def holds (x : Float32) : Rule → Bool
  | positive => x.isFinite && 0 < x
  | notNegative => x.isFinite && 0 ≤ x
  | angle => 0 < x && x ≤ 360

/-- What a rule asks for. -/
def text : Rule → String
  | positive => "must be a positive number"
  | notNegative => "must be zero or a positive number"
  | angle => "must be in (0, 360]"

end Rule

/-- The rules of the fields, in the order in which they are checked. -/
def rules : List (Field × Rule) :=
  [(.catchDistance, .positive), (.viewDistance, .positive),
    (.waypointReachDistance, .notNegative), (.chasePersistence, .notNegative),
    (.searchDuration, .notNegative), (.lookAroundSpeed, .notNegative),
    (.lookAroundSweep, .notNegative), (.patrolSpeedMultiplier, .notNegative),
    (.chaseSpeedMultiplier, .notNegative), (.searchSpeedMultiplier, .notNegative),
    (.returnSpeedMultiplier, .notNegative), (.viewAngle, .angle)]

/-- Why there is no configuration. -/
inductive Error where
  /-- The file could not be read as text. -/
  | unreadable (path : String)
  /-- The text from `origin` is no configuration. -/
  | unparsable (origin : String)
  /-- A field does not follow its rule. -/
  | invalid (field : Field) (rule : Rule)
  deriving DecidableEq, Repr

/-- The wording of an error. -/
def Error.message : Error → String
  | unreadable path => "failed to read guard config from " ++ path
  | unparsable origin => "failed to parse guard config from " ++ origin
  | invalid field rule => "invalid guard config: \x60" ++ field.name ++ "\x60 " ++ rule.text

/-- The first field that does not follow its rule. -/
def fault? (c : Config) : Option (Field × Rule) :=
  rules.find? fun (field, rule) => !rule.holds (field.get c)

/-- Accepts a configuration whose fields all follow their rules. -/
def check (c : Config) : Except Error Unit :=
  match c.fault? with
  | some (field, rule) => .error (.invalid field rule)
  | none => .ok ()

theorem fault?_eq_none {c : Config} :
    c.fault? = none ↔ ∀ r ∈ rules, r.2.holds (r.1.get c) = true := by
  simp [fault?, List.find?_eq_none]

theorem check_eq_ok {c : Config} :
    c.check = .ok () ↔ ∀ r ∈ rules, r.2.holds (r.1.get c) = true := by
  rw [← fault?_eq_none]
  unfold check
  split <;> simp_all

/-! ### Speeds -/

/-- The speed of a guard in a state, as a multiple of its base speed. -/
def speedMultiplier (c : Config) : State → Float32
  | .patrol => c.patrolSpeedMultiplier
  | .chase => c.chaseSpeedMultiplier
  | .search => c.searchSpeedMultiplier
  | .returnToPatrol => c.returnSpeedMultiplier

/-! ### Saved form -/

/-- The saved form of a configuration. -/
def toJson (c : Config) : Json := .object (Field.all.map fun f => (f.name, .ofSingle (f.get c)))

end Config
end Guard
end Guardhouse
