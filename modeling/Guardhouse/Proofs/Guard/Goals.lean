import Guardhouse.Proofs.Guard.Rule

/-!
# Where a guard goes

A guard sends its body to waypoints, to where it perceives its target, and, while it hunts, to where
it perceived it last, which is all that it remembers of places. So it goes nowhere beyond some
points, if its route, its sighting and its memory are among them (`Memory.Ruled.keepsTo`), whatever
rule it follows.
-/

namespace Guardhouse
namespace Guard

/-- The guard is after a target, seen or unseen. -/
def Memory.Hunts (m : Memory) : Prop := m.state = .chase ∨ m.state = .search

/-- An effect sends the body nowhere, and leaves no trace to hunt by, but within some points. -/
structure Effect.KeepsTo (points : Set Vec3) (e : Effect) : Prop where
  goes : ∀ p, Order.goTo p ∈ e.orders → p ∈ points
  knows : e.memory.Hunts → ∀ p ∈ e.memory.lastKnownPosition, p ∈ points

namespace Memory

variable {config : Config} {route : Array Vec3} {m : Memory} {points : Set Vec3} {dt : Float32}
  {p : Vec3}

theorem mem_goTo {destination : Option Vec3} :
    Order.goTo p ∈ destination.toList.map Order.goTo ↔ p ∈ destination := by
  simp

theorem goTo_notMem_paceFor (next : State) : Order.goTo p ∉ m.paceFor config next := by
  unfold paceFor
  split <;> simp

theorem mem_of_waypoint (hroute : ∀ p ∈ route, p ∈ points) (hp : p ∈ m.waypoint? route) :
    p ∈ points :=
  hroute p (Array.mem_of_getElem? hp)

theorem mem_of_refresh {target : Option Vec3}
    (hknown : target = none → ∀ p ∈ m.lastKnownPosition, p ∈ points)
    (htarget : ∀ p ∈ target, p ∈ points)
    (hp : p ∈ (m.refresh config dt target).lastKnownPosition) : p ∈ points := by
  cases target with
  | some target => exact htarget p hp
  | none => exact hknown rfl p hp

theorem keepsTo_pursue {target : Option Vec3}
    (hknown : target = none → ∀ p ∈ m.lastKnownPosition, p ∈ points)
    (htarget : ∀ p ∈ target, p ∈ points) : (m.pursue config dt target target).KeepsTo points := by
  constructor
  · intro p hp
    rcases List.mem_append.1 hp with hpace | hgo
    · exact absurd hpace (goTo_notMem_paceFor _)
    · rcases Option.or_eq_some_iff.1 (mem_goTo.1 hgo) with hsighted | ⟨-, hlast⟩
      · exact htarget p hsighted
      · exact mem_of_refresh hknown htarget hlast
  · intro _ p hp
    obtain ⟨multiplier, hpursue⟩ := exists_pursue config dt target target m
    rw [hpursue] at hp
    exact mem_of_refresh hknown htarget hp

theorem keepsTo_giveUp (hroute : ∀ p ∈ route, p ∈ points) :
    (m.giveUp config route).KeepsTo points := by
  constructor
  · intro p hp
    unfold giveUp at hp
    dsimp only at hp
    split at hp
    · cases hp
    · refine mem_of_waypoint hroute (mem_goTo.1 ((List.mem_cons.1 hp).resolve_left ?_))
      exact Order.noConfusion
  · intro hhunts
    simp [Hunts] at hhunts

section Walking

variable {N : Type} [Navigator N] {body : N} {point : Vec3}

theorem eq_of_goTo_mem_walkTo (hp : Order.goTo p ∈ walkTo body point) : p = point := by
  unfold walkTo at hp
  split at hp
  · cases hp
  · simpa using hp

theorem goTo_mem_searchAt (hp : Order.goTo p ∈ (m.searchAt config dt body point).orders) :
    Order.goTo p ∈ walkTo body point := by
  unfold searchAt at hp
  split at hp
  · refine (List.mem_append.1 hp).resolve_right ?_
    unfold lookAround
    dsimp only
    split <;> simp
  · exact hp

theorem keepsTo_seek {side : Float32} (hknown : ∀ p ∈ m.lastKnownPosition, p ∈ points)
    (hpoint : m.lastKnownPosition = some point) :
    (m.seek config dt side body point).KeepsTo points := by
  constructor
  · intro p hp
    rcases List.mem_append.1 hp with hpace | hgo
    · exact absurd hpace (goTo_notMem_paceFor _)
    · rw [eq_of_goTo_mem_walkTo (goTo_mem_searchAt hgo)]
      exact hknown point hpoint
  · intro _
    obtain ⟨multiplier, time, direction, rotation, hseek⟩ :=
      exists_seek config dt side body point m
    rw [hseek]
    exact hknown

theorem goTo_mem_followRoute (hroute : ∀ p ∈ route, p ∈ points)
    (hp : Order.goTo p ∈ (m.followRoute config route body).orders) : p ∈ points := by
  unfold followRoute at hp
  split at hp
  · cases hp
  split at hp
  · refine mem_of_waypoint hroute (mem_goTo.1 ((List.mem_cons.1 hp).resolve_left ?_))
    exact Order.noConfusion
  split at hp
  · exact mem_of_waypoint hroute (mem_goTo.1 hp)
  · cases hp

theorem keepsTo_patrol (hroute : ∀ p ∈ route, p ∈ points) :
    (m.patrol config route body).KeepsTo points := by
  constructor
  · intro p hp
    rcases List.mem_append.1 hp with hpace | hgo
    · exact absurd hpace (goTo_notMem_paceFor _)
    · exact goTo_mem_followRoute hroute hgo
  · intro hhunts
    simp [Hunts] at hhunts

end Walking

theorem Ruled.keepsTo {N : Type} [Navigator N] {agent : UInt64} {frame : Frame} {body : N}
    {v : Scene} {e : Effect} (h : m.Ruled agent config route frame body v e)
    (hroute : ∀ p ∈ route, p ∈ points) (hsighting : ∀ p ∈ v.sighting, p ∈ points)
    (hknown : m.Hunts → ∀ p ∈ m.lastKnownPosition, p ∈ points) : e.KeepsTo points := by
  cases h with
  | caught => exact ⟨fun p hp => (nomatch hp), hknown⟩
  | pursued _ hchase =>
    refine keepsTo_pursue (fun hunseen => hknown (.inl ?_)) hsighting
    rw [hunseen] at hchase
    exact (hchase.resolve_left Bool.false_ne_true).1
  | sought _ _ hpoint hsearch =>
    exact keepsTo_seek (hknown (hsearch.imp And.left And.left)) hpoint
  | gaveUp => exact keepsTo_giveUp hroute
  | patrolled => exact keepsTo_patrol hroute

end Memory
end Guard
end Guardhouse
