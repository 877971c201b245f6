import Guardhouse.Blackboard
import Guardhouse.Tree.Description
import Guardhouse.Main
import Guardhouse.Proofs.Tree.Reset
import Guardhouse.Proofs.Tree.Expressible
import Guardhouse.Proofs.Runner.Stream
import Guardhouse.Proofs.Guard.Transitions
import Guardhouse.Proofs.Guard.Timeline
import Guardhouse.Proofs.Guard.Orders
import Guardhouse.Proofs.Guard.Chronicle
import Guardhouse.Proofs.Guard.Glimpse
import Guardhouse.Proofs.Guard.Diagnostics
import Guardhouse.Proofs.Guard.Chance
import Guardhouse.Proofs.Simulation.Changes
import Guardhouse.Proofs.Simulation.Accounts
import Guardhouse.Proofs.Number.Exact
import Guardhouse.Proofs.Number.Packing
import Guardhouse.Proofs.Number.Single
import Guardhouse.Proofs.Simulation.Arrival
import Guardhouse.Proofs.Guard.Goals
import Guardhouse.Proofs.Simulation.Bounds
import Guardhouse.Proofs.Json.RoundTrip
import Guardhouse.Proofs.Trace
import Guardhouse.Proofs.Tree.Calls
import Guardhouse.Proofs.Tree.Parallel
import Guardhouse.Proofs.Guard.Ranges
import Guardhouse.Proofs.Guard.LookAround
import Guardhouse.Proofs.Guard.Catching
import Guardhouse.Proofs.Guard.Pace
import Guardhouse.Proofs.Guard.Reset
import Guardhouse.Proofs.Plan.Search
import Guardhouse.Proofs.Tree.Visits
import Guardhouse.Proofs.Tree.Invocations
import Guardhouse.Proofs.Tree.Locality
import Guardhouse.Proofs.Tree.Repeater
import Guardhouse.Proofs.Tree.Correspondence
import Guardhouse.Proofs.Tree.Duality
import Guardhouse.Proofs.Tree.Flattening
import Guardhouse.Proofs.Number.Double
import Guardhouse.Proofs.Simulation.Course
import Guardhouse.Proofs.Tree.Wait
import Guardhouse.Proofs.Random.Draws
import Guardhouse.Proofs.Random.Streams
import Guardhouse.Proofs.Number.Root
import Guardhouse.Proofs.Random.Fraction
import Guardhouse.Proofs.Number.Angle
import Guardhouse.Proofs.Vec3.Direction
import Guardhouse.Proofs.Guard.Vision
import Guardhouse.Proofs.Tree.Interpreter
import Guardhouse.Proofs.Tree.Nesting
