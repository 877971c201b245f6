import Guardhouse.Journal

/-!
# Referees

A referee takes note of what a guard achieves for the game. It may report something of its own as it
does.
-/

namespace Guardhouse

/-- What a guard reports to the game. -/
class Referee (R : Type) where
  /-- The target is in catch range; reported in every frame for as long as it is. -/
  reportCaught : R → R × Journal
  /-- The guard has just begun a pursuit. -/
  reportSpotted : R → R × Journal := fun r => (r, #[])

/-- Counts the reports. -/
structure Tallies where
  caught : UInt64 := 0
  spotted : UInt64 := 0
  deriving DecidableEq, Repr

instance : Referee Tallies where
  reportCaught t := ({ t with caught := t.caught + 1 }, #[])
  reportSpotted t := ({ t with spotted := t.spotted + 1 }, #[])

/-- Counts the catches and ignores the rest. -/
structure CatchTally where
  caught : UInt64 := 0
  deriving DecidableEq, Repr

instance : Referee CatchTally where
  reportCaught t := ({ t with caught := t.caught + 1 }, #[])

/-- Counts the reports and journals each count. -/
structure Announcer where
  tallies : Tallies := {}
  deriving DecidableEq, Repr

instance : Referee Announcer where
  reportCaught r :=
    let total := r.tallies.caught + 1
    ({ r with tallies.caught := total }, #[.caughtCount total])
  reportSpotted r :=
    let total := r.tallies.spotted + 1
    ({ r with tallies.spotted := total }, #[.spottedCount total])

end Guardhouse
