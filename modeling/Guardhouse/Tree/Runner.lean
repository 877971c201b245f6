import Guardhouse.Tree
import Guardhouse.Trace
import Guardhouse.Journal

/-!
# Runners

A runner evaluates a tree once a tick and counts the ticks. It emits an event `bt.missing_root` for
every tick without a root, and an event `bt.tick` for every other tick while debugging is on. It
never resets its tree by itself.
-/

namespace Guardhouse

/-- A tree with its tick counter and its debug output. -/
structure Runner (C σ S : Type) where
  tree : Tree C σ
  debug : Bool := false
  ticks : UInt64 := 0
  /-- The status of the last tick since the last reset. -/
  last : Option Status := none
  /-- Where events go. -/
  sink : Option S := none

namespace Runner

variable {C σ S : Type}

/-- What a tick gives. -/
structure Outcome (C σ S : Type) where
  status : Status
  context : C
  runner : Runner C σ S
  /-- The nodes entered, the earliest first. -/
  entered : Array Nat := #[]
  journal : Journal := #[]

/-- Evaluates the tree once. -/
def tick [Trace.Sink S] (r : Runner C σ S) (context : C) : Outcome C σ S :=
  let tick := r.ticks
  match r.tree.plan.root with
  | none =>
    { status := .failure
      context
      runner :=
        { r with
          ticks := tick + 1
          last := some .failure
          sink := Trace.emit? r.sink { tick, tag := "bt.missing_root" } }
      journal := #[.noRoot tick] }
  | some root =>
    let o := r.tree.evaluateAt root context
    let runner := { r with tree := o.tree, ticks := tick + 1, last := some o.status }
    if r.debug then
      { status := o.status
        context := o.context
        runner :=
          { runner with
            sink := Trace.emit? r.sink { tick, tag := "bt.tick", a := tick, b := o.status.code } }
        entered := o.entered
        journal := #[.treeTick tick o.status ((r.tree.plan.name? root).getD "")] }
    else { status := o.status, context := o.context, runner, entered := o.entered }

/-- Resets the tree and forgets the last status; the counter goes on. -/
def reset (r : Runner C σ S) : Runner C σ S := { r with tree := r.tree.reset, last := none }

end Runner

end Guardhouse
