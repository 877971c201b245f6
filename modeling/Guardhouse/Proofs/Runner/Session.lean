import Guardhouse.Tree.Runner

/-!
# Sessions

A session is a runner in the hands of its host: the host keeps the context, changes it as it likes,
and calls the runner or goes around it to the tree. An `Operation` is one such call, and
`Session.perform` says what it returns and what it leaves.
-/

namespace Guardhouse
namespace Runner

variable {C σ S : Type}

/-! ### Ticks -/

/-- The event of the tick with a number: of a tree without a root always, and otherwise of the
status if debugging is on. -/
def tickEvents (number : UInt64) (root : Option Nat) (debug : Bool) (status : Status) :
    List Trace.Event :=
  match root with
  | none => [{ tick := number, tag := "bt.missing_root" }]
  | some _ => if debug then [{ tick := number, tag := "bt.tick", a := number, b := status.code }]
    else []

/-- A tick is an evaluation of the tree that is counted, remembered and told. -/
theorem tick_eq [Trace.Sink S] (r : Runner C σ S) (c : C) :
    (r.tick c).status = (r.tree.evaluate c).status ∧
      (r.tick c).context = (r.tree.evaluate c).context ∧
      (r.tick c).runner =
        { r with
          tree := (r.tree.evaluate c).tree
          ticks := r.ticks + 1
          last := some (r.tree.evaluate c).status
          sink := (tickEvents r.ticks r.tree.plan.root r.debug
            (r.tree.evaluate c).status).foldl Trace.emit? r.sink } := by
  unfold tick tickEvents Tree.evaluate
  cases r.tree.plan.root with
  | none => exact ⟨rfl, rfl, rfl⟩
  | some root =>
    cases hdebug : r.debug
    · exact ⟨rfl, rfl, by simp⟩
    · exact ⟨rfl, rfl, by simp⟩

/-! ### Calls of a host -/

/-- A call of the host. Before an evaluation it may update the context. -/
inductive Operation (C σ : Type) where
  | tick (update : C → C)
  | reset
  | setDebug (enabled : Bool)
  | setTree (tree : Tree C σ)
  /-- Evaluates the tree without a tick. -/
  | evaluate (update : C → C)
  /-- Evaluates a node without a tick. -/
  | evaluateAt (index : Nat) (update : C → C)
  /-- Resets the tree, and not the last status. -/
  | resetTree
  | resetAt (index : Nat)

namespace Operation

def isTick : Operation C σ → Bool
  | tick _ => true
  | _ => false

/-- The debug flag that a call sets. -/
def debug? : Operation C σ → Option Bool
  | setDebug enabled => some enabled
  | _ => none

/-- The root of the tree that a call sets. -/
def root? : Operation C σ → Option (Option Nat)
  | setTree tree => some tree.plan.root
  | _ => none

end Operation

/-- A runner and the context that its host keeps. -/
structure Session (C σ S : Type) where
  runner : Runner C σ S
  context : C

namespace Session

/-- The session with another tree in its runner. -/
def withTree (s : Session C σ S) (tree : Tree C σ) : Session C σ S :=
  { s with runner := { s.runner with tree } }

variable [Trace.Sink S]

/-- What a call returns, if it is an evaluation, and what it leaves. -/
def perform (s : Session C σ S) : Operation C σ → Option Status × Session C σ S
  | .tick update =>
    let o := s.runner.tick (update s.context)
    (some o.status, { runner := o.runner, context := o.context })
  | .reset => (none, { s with runner := s.runner.reset })
  | .setDebug debug => (none, { s with runner := { s.runner with debug } })
  | .setTree tree => (none, s.withTree tree)
  | .evaluate update =>
    let o := s.runner.tree.evaluate (update s.context)
    (some o.status, { s.withTree o.tree with context := o.context })
  | .evaluateAt index update =>
    let o := s.runner.tree.evaluateAt index (update s.context)
    (some o.status, { s.withTree o.tree with context := o.context })
  | .resetTree => (none, s.withTree s.runner.tree.reset)
  | .resetAt index => (none, s.withTree (s.runner.tree.resetAt index))

/-- The session after a list of calls. -/
def after (s : Session C σ S) (ops : List (Operation C σ)) : Session C σ S :=
  ops.foldl (fun s op => (s.perform op).2) s

end Session

end Runner
end Guardhouse
