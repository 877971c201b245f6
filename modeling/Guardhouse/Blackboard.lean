import Guardhouse.Frame
import Guardhouse.Tree.Builder

/-!
# Blackboards

A context for trees whose leaves are data: integer variables, which are zero until they are set, and
a clock. `Test` and `Reply` say what a leaf looks at and answers; the leaves made from them count
their own calls.
-/

namespace Guardhouse

/-- Variables and a clock. -/
structure Blackboard where
  /-- Each variable that was ever set, once. -/
  store : List (String × Int) := []
  clock : Clock := {}

namespace Blackboard

/-- The value of a variable. -/
def value (b : Blackboard) (name : String) : Int := (b.store.lookup name).getD 0

/-- Sets a variable. -/
def set (b : Blackboard) (name : String) (n : Int) : Blackboard :=
  { b with store := (name, n) :: b.store.filter (·.1 != name) }

/-- Adds one to a variable, if there is one to add to. -/
def increment (b : Blackboard) (name : Option String) : Blackboard :=
  match name with
  | some name => b.set name (b.value name + 1)
  | none => b

/-! ### Tests and replies -/

/-- Ways to compare two integers. -/
inductive Comparison where
  | less
  | atMost
  | equal
  | different
  | atLeast
  | greater
  deriving DecidableEq, Repr

/-- Whether a comparison holds. -/
def Comparison.holds : Comparison → Int → Int → Bool
  | less, m, n => m < n
  | atMost, m, n => m ≤ n
  | equal, m, n => m == n
  | different, m, n => m != n
  | atLeast, m, n => n ≤ m
  | greater, m, n => n < m

/-- A test: a constant, or a variable compared with a number. -/
inductive Test where
  | constant (result : Bool)
  | compare (name : String) (comparison : Comparison) (n : Int)
  deriving DecidableEq, Repr

/-- Whether a test holds on a blackboard. -/
def Test.holds (b : Blackboard) : Test → Bool
  | constant result => result
  | compare name comparison n => comparison.holds (b.value name) n

/-- What an action answers: the statuses of a script in turn, the last one for good; or one of two
statuses, by a test. -/
inductive Reply where
  | script (statuses : List Status)
  | choose (test : Test) (yes no : Status)
  deriving DecidableEq, Repr

/-- The answer to call number `call`, counted from zero. -/
def Reply.status (b : Blackboard) (call : Nat) : Reply → Status
  | script statuses => (statuses[min call (statuses.length - 1)]?).getD .failure
  | choose test yes no => if test.holds b then yes else no

/-! ### Leaves -/

/-- A condition. -/
def condition (test : Test) : Leaf Blackboard Nat := .condition fun b => (test.holds b, b)

/-- An action that adds one to a variable and then answers. -/
def action (increments : Option String) (reply : Reply) : Leaf Blackboard Nat :=
  .action 0 fun b call =>
    let b := b.increment increments
    (reply.status b call, b, call + 1)

/-- A side effect that adds one to a variable. -/
def perform (increments : Option String) : Leaf Blackboard Nat :=
  .perform 0 fun b call => (b.increment increments, call + 1)

/-- A wait on the clock of the blackboard. -/
def waitFor (seconds : Float) : Leaf Blackboard Nat := .wait seconds fun b => b.clock.now

/-- A wait that takes a variable for its clock. -/
def waitOn (seconds : Float) (name : String) : Leaf Blackboard Nat :=
  .wait seconds fun b => ofInteger (b.value name)

end Blackboard

end Guardhouse
