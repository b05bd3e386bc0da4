import AerialRescue.Gateway.AuthorizationEffects
import AerialRescue.Gateway.OperatorApproval
import AerialRescue.Gateway.Progression
import AerialRescue.Gateway.Publication

/-!
# The serving loop

The dispatch of a guaranteed message to its handler, and the turns of the
serving loop as one step function on the world.  Every step may meet its own
clock, epoch, stamp and settlement, so that a run covers redelivery, restarts
and crashes between commit and settlement.
-/

namespace AerialRescue.Gateway

open AerialRescue.Contracts.Canonical
open AerialRescue.Contracts.Topics
open AerialRescue.Lib.Transaction
open AerialRescue.Store

/-! ## Dispatch -/

/-- How one queue-bound message crossed the durable boundary. -/
inductive GuaranteedDispatchOutcome where
  | committed
  | refused
deriving DecidableEq

/-- What the process reads around one message. -/
structure Turn where
  stamp : AuthorizationStamp
  clock : AuthorizationClock
  observedAt : String

/-- The exceptions that `dispatch_guaranteed` answers. -/
def isAnswered : Failure → Bool
  | .ingress _ | .authorization _ | .approvalIngress _ | .progression _ =>
      true
  | _ => false

/-- The handler that a channel names. -/
def routeGuaranteed (host : Host) (channel : String)
    (delivery : GuaranteedDelivery) (turn : Turn)
    (settlement : SettlementPort) : Handler GuaranteedDispatchOutcome :=
  if channel = literalSuffix .operatorCommand then do
    let _ ← handleOperatorCommand host (storeAuthorizationTransaction host)
      turn.observedAt settlement delivery turn.stamp turn.clock
    pure .committed
  else if channel = literalSuffix .operatorApproval then do
    let _ ← handleOperatorApproval host turn.observedAt settlement delivery
      turn.clock
    pure .committed
  else if channel = literalSuffix .droneCommandResult then do
    let _ ← handleCommandResult host turn.observedAt settlement delivery
    pure .committed
  else
    pure .refused

/-- `dispatch_guaranteed` -/
def dispatchGuaranteed (host : Host) (channel : String)
    (delivery : GuaranteedDelivery) (turn : Turn)
    (settlement : SettlementPort) : Handler GuaranteedDispatchOutcome :=
  recover (routeGuaranteed host channel delivery turn settlement)
    (fun failure =>
      if isAnswered failure then some (pure .refused) else none)

/-! ## Steps -/

/-- One turn of the serving loop on one channel or outbox. -/
inductive GatewayStep where
  | dispatch (channel : String) (delivery : GuaranteedDelivery)
      (turn : Turn) (settlement : SettlementPort)
  | publishApplication (answers : StagedApplicationEvent → BrokerAnswer)
      (confirmedAt : String)
  | publishCommands (answers : CommandOutboxRow → BrokerAnswer)
      (confirmedAt : String)
  | reconcile (row : CommandOutboxRow) (evidence : Bool)
      (confirmedAt : String)

/-- The world after one step, whatever the step ended with. -/
def gatewayStep (host : Host) (world : World) : GatewayStep → World
  | .dispatch channel delivery turn settlement =>
      (exec (dispatchGuaranteed host channel delivery turn settlement)
        world).2
  | .publishApplication answers confirmedAt =>
      (exec (publishApplicationBatch host answers confirmedAt) world).2
  | .publishCommands answers confirmedAt =>
      (exec (publishBatch host answers confirmedAt) world).2
  | .reconcile row evidence confirmedAt =>
      (exec (reconcilePublication row evidence confirmedAt) world).2

/-- Everything that one step can do to the database. -/
inductive StepEffect (host : Host) (before after : Database) : Prop where
  | refusal (same : SameButRefusals before after)
  | command (ingress : OperatorCommandIngress) (identity : InboxIdentity)
      (turn : Turn) (result : AuthorizationResult)
      (committed :
        Committed host before after ingress identity turn.stamp turn.clock
          result)
  | approval (bound : AuthorityOnly before after)
  | result (moved : ProgressOnly before after)
  | publication (published : PublicationOnly before after)

variable {host : Host}

/-- Answering an exception leaves the database of the raise. -/
theorem dispatchGuaranteed_database (channel : String)
    (delivery : GuaranteedDelivery) (turn : Turn)
    (settlement : SettlementPort) (before : World) :
    (exec (dispatchGuaranteed host channel delivery turn settlement)
        before).2 =
      (exec (routeGuaranteed host channel delivery turn settlement)
        before).2 := by
  unfold dispatchGuaranteed
  rw [exec_recover]
  rcases exec (routeGuaranteed host channel delivery turn settlement)
    before with ⟨result, after⟩
  cases result with
  | ok value => rfl
  | error failure =>
      simp only
      cases isAnswered failure <;> rfl

theorem routeGuaranteed_effect (channel : String)
    (delivery : GuaranteedDelivery) (turn : Turn)
    (settlement : SettlementPort) (before : World) :
    StepEffect host before.database
      (exec (routeGuaranteed host channel delivery turn settlement)
        before).2.database := by
  unfold routeGuaranteed
  split
  · rw [exec_bind_database rfl]
    rcases handleOperatorCommand_database turn.observedAt settlement
        delivery turn.stamp turn.clock before with
      same | ⟨ingress, identity, result, _, _, committed⟩
    · exact .refusal same
    · exact .command ingress identity turn result committed
  · split
    · rw [exec_bind_database rfl]
      rcases handleOperatorApproval_database turn.observedAt settlement
          delivery turn.clock before with same | bound
      · exact .refusal same
      · exact .approval bound
    · split
      · rw [exec_bind_database rfl]
        rcases handleCommandResult_database turn.observedAt settlement
            delivery before with same | moved
        · exact .refusal same
        · exact .result moved
      · exact .refusal (SameButRefusals.refl _)

/-- A dispatched operator command leaves the database of its handler. -/
theorem gatewayStep_operatorCommand (delivery : GuaranteedDelivery)
    (turn : Turn) (settlement : SettlementPort) (before : World) :
    (gatewayStep host before
        (.dispatch (literalSuffix .operatorCommand) delivery turn
          settlement)).database =
      (exec (handleOperatorCommand host
        (storeAuthorizationTransaction host) turn.observedAt settlement
        delivery turn.stamp turn.clock) before).2.database := by
  simp only [gatewayStep, dispatchGuaranteed_database, routeGuaranteed,
    if_true]
  exact exec_bind_database rfl

/-- Every step of the loop has one of the five effects. -/
theorem gatewayStep_effect (before : World) (step : GatewayStep) :
    StepEffect host before.database (gatewayStep host before step).database := by
  cases step with
  | dispatch channel delivery turn settlement =>
      simp only [gatewayStep, dispatchGuaranteed_database]
      exact routeGuaranteed_effect channel delivery turn settlement before
  | publishApplication answers confirmedAt =>
      exact .publication
        (publishApplicationBatch_respects host answers confirmedAt before)
  | publishCommands answers confirmedAt =>
      exact .publication
        (publishBatch_respects host answers confirmedAt before)
  | reconcile row evidence confirmedAt =>
      exact .publication
        (reconcilePublication_respects row evidence confirmedAt before)

end AerialRescue.Gateway
