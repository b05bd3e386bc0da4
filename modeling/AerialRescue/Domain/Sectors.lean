import Mathlib.Tactic.Common

/-!
# The sector lifecycle

One deny-by-default transition table over four states.  A sector may be
imperilled and recovered as often as its holder is lost; only a swept sector is
final.
-/

namespace AerialRescue.Domain.Sectors

/-- Where one sector of the search area stands. -/
inductive SectorState where
  | unassigned
  | assigned
  | atRisk
  | searched
deriving DecidableEq

/-- What moves a sector between states. -/
inductive SectorEvent where
  | assign
  | imperil
  | reassign
  | recover
  | sweep
deriving DecidableEq

/-- The five legal pairs of the lifecycle. -/
def transition : SectorState → SectorEvent → Option SectorState
  | .unassigned, .assign => some .assigned
  | .assigned, .imperil => some .atRisk
  | .atRisk, .reassign => some .assigned
  | .atRisk, .recover => some .assigned
  | .assigned, .sweep => some .searched
  | _, _ => none

/-- `is_terminal`: the one ending, which no event leaves. -/
def isTerminal : SectorState → Bool
  | .searched => true
  | .unassigned | .assigned | .atRisk => false

/-- Exactly the ending is a state that no event leaves. -/
theorem isTerminal_iff {state : SectorState} :
    isTerminal state = true ↔ ∀ event, transition state event = none := by
  constructor
  · intro ending event
    cases state <;> cases ending
    rfl
  · intro stuck
    cases state with
    | unassigned => exact absurd (stuck .assign) (by decide)
    | assigned => exact absurd (stuck .sweep) (by decide)
    | atRisk => exact absurd (stuck .recover) (by decide)
    | searched => rfl

end AerialRescue.Domain.Sectors
