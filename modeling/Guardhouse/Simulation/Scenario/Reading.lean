import Guardhouse.Guard.Config.Reading
import Guardhouse.Simulation.Scenario

/-!
# Reading scenarios

A scenario is a YAML mapping. What is not there has its default, down to the single field; but a
point has all of its coordinates.
-/

namespace Guardhouse

open Yaml (View)

/-- The point that a node writes. -/
def Vec3.ofYaml (node : Yaml.Node) : View Vec3 := do
  match ← View.record ["x", "y", "z"] node with
  | [some x, some y, some z] => return ⟨← View.single x, ← View.single y, ← View.single z⟩
  | _ => failure

namespace Simulation

/-- The points that a node writes. -/
def points (node : Yaml.Node) : View (Array Vec3) := List.toArray <$> View.listOf Vec3.ofYaml node

/-- The path of a target that a node writes. -/
def TargetScript.ofYaml (node : Yaml.Node) : View TargetScript := do
  let s : TargetScript := {}
  match ← View.record ["path", "speed", "looped"] node with
  | [path, speed, looped] =>
    return {
      path := ← View.orDefault points s.path path
      speed := ← View.orDefault View.single s.speed speed
      looped := ← View.orDefault View.bool s.looped looped }
  | _ => failure

namespace Scenario

/-- The scenario that a node writes. -/
def ofYaml (node : Yaml.Node) : View Scenario := do
  let s : Scenario := {}
  match ← View.record ["guard", "guard_start", "guard_speed", "route", "target"] node with
  | [guard, guardStart, guardSpeed, route, target] =>
    return {
      guard := ← View.orDefault Guard.Config.ofYaml s.guard guard
      guardStart := ← View.orDefault Vec3.ofYaml s.guardStart guardStart
      guardSpeed := ← View.orDefault View.single s.guardSpeed guardSpeed
      route := ← View.orDefault points s.route route
      target := ← View.orDefault TargetScript.ofYaml s.target target }
  | _ => failure

/-- Reads and checks a scenario; `path` says where the text comes from. -/
def parse (path text : String) : Except Error Scenario := do
  match (Yaml.Document.read? text).bind (View.ofRoot? ofYaml) with
  | some s =>
    s.check
    return s
  | none => throw (.unparsable path)

/-- Reads and checks the scenario in a file with given bytes, if it has any. -/
def load (path : String) (bytes : Option ByteArray) : Except Error Scenario :=
  match bytes.bind String.fromUTF8? with
  | some text => parse path text
  | none => .error (.unreadable path)

end Scenario
end Simulation
end Guardhouse
