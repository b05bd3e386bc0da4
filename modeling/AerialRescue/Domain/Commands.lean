import Mathlib.Tactic.Common

/-!
# Command dispatch, outbox publication and idempotency

The three small state machines of the domain package that the durable tables
follow: the progress of a dispatched command, the publication of a staged row,
and what a repeated identifier or sequence means.
-/

namespace AerialRescue.Domain.Commands

/-- Where one dispatched command stands. -/
inductive CommandState where
  | accepted
  | inFlight
  | acknowledged
  | succeeded
  | failed
  | abandoned
deriving DecidableEq

/-- What moves a command between states. -/
inductive CommandEvent where
  | send
  | timeOut
  | acknowledge
  | succeed
  | fail
deriving DecidableEq

/-- How many times a command may be put on the wire. -/
structure SendBudget where
  maxSends : Nat
  allowsOne : 1 ≤ maxSends

/-- A command's state with the number of times it was sent. -/
structure CommandProgress where
  state : CommandState
  sends : Nat
deriving DecidableEq

/-- `INITIAL_PROGRESS` -/
def initialProgress : CommandProgress := ⟨.accepted, 0⟩

/-- The five legal pairs of the dispatch lifecycle. -/
def commandTarget : CommandState → CommandEvent → Option CommandState
  | .accepted, .send => some .inFlight
  | .inFlight, .timeOut => some .accepted
  | .inFlight, .acknowledge => some .acknowledged
  | .acknowledged, .succeed => some .succeeded
  | .acknowledged, .fail => some .failed
  | _, _ => none

/-- `advance`, absent where the lifecycle has no such transition. -/
def advance (progress : CommandProgress) (event : CommandEvent)
    (budget : SendBudget) : Option CommandProgress :=
  (commandTarget progress.state event).map fun target =>
    if event = .send then ⟨target, progress.sends + 1⟩
    else if event = .timeOut ∧ budget.maxSends ≤ progress.sends then
      ⟨.abandoned, progress.sends⟩
    else ⟨target, progress.sends⟩

/-- Where one staged row stands with respect to the broker. -/
inductive OutboxState where
  | staged
  | reconciliationNeeded
  | confirmed
deriving DecidableEq

/-- What the broker adapter reports about a publication attempt. -/
inductive OutboxEvent where
  | confirm
  | ambiguous
deriving DecidableEq

/-- The four legal pairs of the publication lifecycle. -/
def outboxTransition : OutboxState → OutboxEvent → Option OutboxState
  | .staged, .confirm => some .confirmed
  | .staged, .ambiguous => some .reconciliationNeeded
  | .reconciliationNeeded, .confirm => some .confirmed
  | .reconciliationNeeded, .ambiguous => some .reconciliationNeeded
  | .confirmed, _ => none

/-- What one candidate sequence means for its producer's stream. -/
inductive SequenceVerdict where
  | advances
  | duplicate
  | stale
deriving DecidableEq

/-- `receive`: judge a sequence against the last accepted one. -/
def receive (lastAccepted : Option Nat) (sequence : Nat) :
    SequenceVerdict × Option Nat :=
  match lastAccepted with
  | none => (.advances, some sequence)
  | some last =>
      if last < sequence then (.advances, some sequence)
      else if sequence = last then (.duplicate, some last)
      else (.stale, some last)

/-- Which operation a known identifier was seen for. -/
inductive IdempotencyKind where
  | command
  | approvalConsumption
  | dashboardCommand
  | dashboardDecision
deriving DecidableEq

/-- What a handler does with an identifier it has or has not seen. -/
inductive IdempotencyDecision where
  | execute
  | returnPriorResult
  | deny
deriving DecidableEq

/-- `idempotency_decision` -/
def idempotencyDecision (kind : IdempotencyKind) (known : Bool) :
    IdempotencyDecision :=
  if !known then .execute
  else if kind = .approvalConsumption then .deny
  else .returnPriorResult

/-- Only a command in flight can be acknowledged. -/
theorem advance_acknowledge {progress : CommandProgress}
    {budget : SendBudget} :
    advance progress .acknowledge budget =
      if progress.state = .inFlight then
        some ⟨.acknowledged, progress.sends⟩
      else none := by
  rcases progress with ⟨state, sends⟩
  cases state <;> rfl

end AerialRescue.Domain.Commands
