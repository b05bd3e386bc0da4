import Mathlib.Tactic.Common

/-!
# The mission lifecycle

One deny-by-default transition table over six states.  Reset is not an edge: a
reset ends the current mission and creates a new one, so that no mission ever
leaves an ending.
-/

namespace AerialRescue.Domain.Mission

/-- Where a mission stands. -/
inductive MissionState where
  | planned
  | searching
  | escalated
  | completed
  | exhausted
  | aborted
deriving DecidableEq

/-- What moves a mission between states. -/
inductive MissionEvent where
  | start
  | escalate
  | exhaust
  | complete
  | abort
deriving DecidableEq

/-- The seven legal pairs of the lifecycle. -/
def transition : MissionState → MissionEvent → Option MissionState
  | .planned, .start => some .searching
  | .searching, .escalate => some .escalated
  | .searching, .exhaust => some .exhausted
  | .escalated, .complete => some .completed
  | .planned, .abort => some .aborted
  | .searching, .abort => some .aborted
  | .escalated, .abort => some .aborted
  | _, _ => none

/-- `event_reaching`: the one event that reaches a state. -/
def eventReaching : MissionState → Option MissionEvent
  | .planned => none
  | .searching => some .start
  | .escalated => some .escalate
  | .completed => some .complete
  | .exhausted => some .exhaust
  | .aborted => some .abort

/-- `is_terminal`: an ending that no event leaves. -/
def isTerminal : MissionState → Bool
  | .completed | .exhausted | .aborted => true
  | .planned | .searching | .escalated => false

/-- The move that a state observed after another stands for. -/
def moveTo (current target : MissionState) : Option MissionState :=
  (eventReaching target).bind (transition current)

/-- The event that reaches a state leads nowhere else. -/
theorem moveTo_eq_some {current target became : MissionState}
    (moves : moveTo current target = some became) : became = target := by
  cases target <;> cases current <;> cases moves <;> rfl

/-- Exactly the endings are states that no event leaves. -/
theorem isTerminal_iff {state : MissionState} :
    isTerminal state = true ↔ ∀ event, transition state event = none := by
  constructor
  · intro ending event
    cases state <;> cases ending <;> cases event <;> rfl
  · intro stuck
    cases state with
    | planned => exact absurd (stuck .start) (by decide)
    | searching => exact absurd (stuck .exhaust) (by decide)
    | escalated => exact absurd (stuck .complete) (by decide)
    | completed => rfl
    | exhausted => rfl
    | aborted => rfl

/-- No move leads out of an ending. -/
theorem moveTo_terminal {current target : MissionState}
    (ending : isTerminal current = true) : moveTo current target = none := by
  unfold moveTo
  cases eventReaching target with
  | none => rfl
  | some event => exact isTerminal_iff.1 ending event

end AerialRescue.Domain.Mission
