import Guardhouse.Status

/-!
# Composites

How the statuses of a list of children become one status. A step takes a state, gives a status and
leaves a new state; `Composite.run` combines steps:

* a selector takes steps in order until one does not fail;
* a sequence takes steps in order until one does not succeed;
* a parallel takes every step and compares the successes with a number it requires.

The state is anything at all, so the same three functions run the children of a tree in an arena and
the children of any other kind of tree.
-/

namespace Guardhouse

/-- Something that can be evaluated: it gives a status and leaves a new state. -/
abbrev Step (S : Type) := S → Status × S

/-- The kinds of nodes with a list of children. -/
inductive Composite where
  /-- The first child that does not fail decides. -/
  | selector
  /-- The first child that does not succeed decides. -/
  | sequence
  /-- Every child is evaluated; `required` of them have to succeed. -/
  | parallel (required : UInt64)
  deriving DecidableEq, Repr

/-- How many children a parallel has evaluated in a tick, and with what outcome. -/
structure Tally where
  successes : Nat := 0
  failures : Nat := 0
  children : Nat := 0
  deriving DecidableEq, Repr

namespace Tally

/-- One more child with its status. -/
def record (t : Tally) : Status → Tally
  | .success => { t with successes := t.successes + 1, children := t.children + 1 }
  | .failure => { t with failures := t.failures + 1, children := t.children + 1 }
  | .running => { t with children := t.children + 1 }

/-- Success once enough children succeeded, failure once more failed than may. How many may fail is
the number of children less `required`, both as signed 64-bit words: it is negative where more is
required than there are children. -/
def resolve (t : Tally) (required : UInt64) : Status :=
  if required.toNat ≤ t.successes then .success
  else
    let tolerated := Int64.ofNat t.children - required.toInt64
    if tolerated < Int64.ofNat t.failures then .failure else .running

end Tally

namespace Composite

variable {S : Type}

/-- Takes steps until one does not fail. -/
def select : List (Step S) → Step S
  | [], s => (.failure, s)
  | step :: rest, s =>
    match step s with
    | (.failure, s) => select rest s
    | (.success, s) => (.success, s)
    | (.running, s) => (.running, s)

/-- Takes steps until one does not succeed. -/
def inSequence : List (Step S) → Step S
  | [], s => (.success, s)
  | step :: rest, s =>
    match step s with
    | (.success, s) => inSequence rest s
    | (.failure, s) => (.failure, s)
    | (.running, s) => (.running, s)

/-- Takes every step and adds the statuses to a tally. -/
def tally : List (Step S) → Tally → S → Tally × S
  | [], t, s => (t, s)
  | step :: rest, t, s =>
    let (status, s) := step s
    tally rest (t.record status) s

/-- Takes every step and counts the successes. -/
def inParallel (required : UInt64) (steps : List (Step S)) : Step S := fun s =>
  let (t, s) := tally steps {} s
  (t.resolve required, s)

/-- The step of a composite over the steps of its children. -/
def run : Composite → List (Step S) → Step S
  | selector => select
  | sequence => inSequence
  | parallel required => inParallel required

end Composite

end Guardhouse
