import AerialRescue.Gateway.Artifacts
import AerialRescue.Gateway.StoreAdapter

/-!
# Operator-command authorization

`handle_operator_command` and the checks under it.  The inbox and idempotency
claims, the consumption of an approval, the audit, the staged command and its
progress are one transaction; the message is accepted after that transaction
has exited.  The handler is written against the transaction and settlement
ports, so that its results hold for every step that a port may refuse.
-/

namespace AerialRescue.Gateway

open AerialRescue.Contracts
open AerialRescue.Contracts.Canonical
open AerialRescue.Contracts.Digest
open AerialRescue.Contracts.Envelopes
open AerialRescue.Domain.Approvals
open AerialRescue.Gateway.Ingress
open AerialRescue.Lib.Guard
open AerialRescue.Lib.Transaction
open AerialRescue.Store

/-! ## Results and decisions -/

/-- Whether a command was newly authorized, refused or already complete. -/
inductive AuthorizationOutcome where
  | authorized
  | refused
  | duplicate
deriving DecidableEq

/-- The exact durable response to one operator command. -/
structure AuthorizationResult where
  outcome : AuthorizationOutcome
  result : Bytes
  reason : Option AuthorizationReason
deriving DecidableEq

/-- The authorization before its durable artifacts are built. -/
inductive Decision where
  | authorized (approval : Option BoundApproval)
  | refused (reason : AuthorizationReason)

namespace Decision

/-- Whether a decision authorizes its command. -/
def isAuthorized : Decision → Bool
  | .authorized _ => true
  | .refused _ => false

/-- The consumed approval of a decision. -/
def approval : Decision → Option BoundApproval
  | .authorized approval => approval
  | .refused _ => none

/-- The reason of a refusal. -/
def reason : Decision → Option AuthorizationReason
  | .authorized _ => none
  | .refused reason => some reason

/-- The outcome of a new decision. -/
def outcome : Decision → AuthorizationOutcome
  | .authorized _ => .authorized
  | .refused _ => .refused

end Decision

/-! ## Comparison with the stored authority -/

/-- `_canonical_object` -/
def canonicalObject (host : Host) (payload : Bytes) :
    Option Value.Members :=
  match decode host payload with
  | .ok (.object members) => some members
  | _ => none

/-- `_PROPOSAL_KEYS` -/
def proposalKeys : List String :=
  ["canonicalizationVersion", "proposalVersion", "missionId", "proposalId",
    "proposalType", "agentName", "sourceInvocationId", "sourceEventId",
    "sourceEventDigest", "commandType", "droneId", "latitudeMicrodegrees",
    "longitudeMicrodegrees", "proposalDigest"]

/-- `_DECISION_KEYS` -/
def decisionKeys : List String :=
  ["canonicalizationVersion", "evidenceDecisionVersion", "missionId",
    "proposalId", "proposalDigest", "proposalVersion", "evidenceDecisionId",
    "outcome", "scoreVersion", "score", "band", "contributors",
    "evidenceDecisionDigest"]

/-- A member equals a value, by Python's `==`. -/
def memberEq (payload : Value.Members) (name : String) (value : Value) :
    Bool :=
  Value.pyEq (Value.get name payload) value

/-- `canonical_bytes(payload) == stored` -/
def bytesMatch (host : Host) (payload : Value.Members) (stored : Bytes) :
    Except Failure Bool := do
  let bytes ← recast Failure.canonicalization
    (canonicalBytes host (.object payload))
  pure (decide (bytes = stored))

/-- The members of a proposal that repeat a column or a version. -/
def proposalMembersMatch (stored : StoredProposal)
    (payload : Value.Members) : Bool :=
  Value.keysAre payload proposalKeys &&
    memberEq payload "canonicalizationVersion" (.int 1) &&
    memberEq payload "proposalVersion" (.int 1) &&
    memberEq payload "sourceEventId" (.text stored.sourceEventId) &&
    memberEq payload "sourceEventDigest" (.text stored.sourceEventDigest) &&
    memberEq payload "agentName" (.text stored.agentName) &&
    memberEq payload "sourceInvocationId" (.text stored.invocationId) &&
    memberEq payload "proposalType" (.text stored.proposalType)

/-- `received == expected` -/
def proposalColumnsMatch (stored : StoredProposal)
    (payload : Value.Members) : Bool :=
  memberEq payload "missionId" (.text stored.missionId) &&
    memberEq payload "proposalId" (.text stored.proposalId) &&
    memberEq payload "proposalDigest" (.text stored.proposalDigest) &&
    memberEq payload "droneId" (.text stored.droneId) &&
    memberEq payload "commandType" (.text stored.commandType) &&
    memberEq payload "latitudeMicrodegrees"
      (.int stored.latitudeMicrodegrees) &&
    memberEq payload "longitudeMicrodegrees"
      (.int stored.longitudeMicrodegrees)

/-- The stored row is the one the action asks to execute. -/
def ActionConsistent (stored : StoredProposal)
    (action : EscalateRescueAction) : Prop :=
  stored.proposalId = action.proposalId ∧
    stored.proposalDigest = action.proposalDigest ∧
    stored.droneId = action.droneId ∧
    stored.commandType = "escalate-rescue" ∧
    stored.latitudeMicrodegrees = action.latitudeMicrodegrees ∧
    stored.longitudeMicrodegrees = action.longitudeMicrodegrees

instance (stored : StoredProposal) (action : EscalateRescueAction) :
    Decidable (ActionConsistent stored action) :=
  inferInstanceAs (Decidable (_ ∧ _))

/-- `_proposal_matches` -/
def proposalMatches (host : Host) (stored : StoredProposal)
    (action : EscalateRescueAction) (payload : Value.Members) :
    Except Failure Bool :=
  both (.ok (proposalMembersMatch stored payload)) <|
    both (bytesMatch host payload stored.payload) <|
      both (recast Failure.digest (proposalDigestMatches host payload)) <|
        .ok (proposalColumnsMatch stored payload &&
          decide (ActionConsistent stored action))

/-- The members of an evidence decision before its bytes are compared. -/
def decisionMembersMatch (payload : Value.Members) : Bool :=
  Value.keysAre payload decisionKeys &&
    memberEq payload "canonicalizationVersion" (.int 1) &&
    memberEq payload "proposalVersion" (.int 1)

/-- `stored.band is not None and stored.band.value == payload.get("band")` -/
def bandMatches (stored : StoredEvidenceDecision)
    (payload : Value.Members) : Bool :=
  match stored.band with
  | some band => memberEq payload "band" (.text band.text)
  | none => false

/-- The columns of an evidence decision that its payload repeats. -/
def decisionColumnsMatch (stored : StoredEvidenceDecision)
    (payload : Value.Members) : Bool :=
  memberEq payload "missionId" (.text stored.missionId) &&
    memberEq payload "proposalId" (.text stored.proposalId) &&
    memberEq payload "proposalDigest" (.text stored.proposalDigest) &&
    memberEq payload "evidenceDecisionId" (.text stored.decisionId) &&
    memberEq payload "evidenceDecisionDigest"
      (.text stored.decisionDigest) &&
    memberEq payload "evidenceDecisionVersion"
      (.int stored.decisionVersion) &&
    memberEq payload "scoreVersion" (Value.ofInt? stored.scoreVersion) &&
    memberEq payload "score" (Value.ofInt? stored.score) &&
    bandMatches stored payload &&
    memberEq payload "outcome" (.text stored.outcome.text)

/-- The stored contributors decode to the payload's own. -/
def contributorsMatch (host : Host) (stored : StoredEvidenceDecision)
    (payload : Value.Members) : Except Failure Bool :=
  match stored.contributors with
  | none => .ok false
  | some contributors => do
      let decoded ← recast
        (fun failure => Failure.envelope (.decode failure))
        (decode host contributors)
      pure (memberEq payload "contributors" decoded)

/-- The stored decision is contributing, corroborated and the one cited. -/
def DecisionSupports (stored : StoredEvidenceDecision)
    (action : EscalateRescueAction) : Prop :=
  stored.outcome = .contributing ∧
    stored.band = some .corroborated ∧
    stored.proposalId = action.proposalId ∧
    stored.proposalDigest = action.proposalDigest ∧
    stored.decisionId = action.evidenceDecisionId ∧
    stored.decisionDigest = action.evidenceDecisionDigest ∧
    stored.decisionVersion = actionVersion

instance (stored : StoredEvidenceDecision) (action : EscalateRescueAction) :
    Decidable (DecisionSupports stored action) :=
  inferInstanceAs (Decidable (_ ∧ _))

/-- `_decision_matches` -/
def decisionMatches (host : Host) (stored : StoredEvidenceDecision)
    (action : EscalateRescueAction) (payload : Value.Members) :
    Except Failure Bool :=
  both (.ok (decisionMembersMatch payload)) <|
    both (bytesMatch host payload stored.payload) <|
      both (recast Failure.digest
          (evidenceDecisionDigestMatches host payload)) <|
        both (.ok (decisionColumnsMatch stored payload)) <|
          both (contributorsMatch host stored payload) <|
            .ok (decide (DecisionSupports stored action))

/-- A proposal matches when every one of its comparisons does. -/
theorem proposalMatches_eq_true {host : Host} {stored : StoredProposal}
    {action : EscalateRescueAction} {payload : Value.Members} :
    proposalMatches host stored action payload = .ok true ↔
      proposalMembersMatch stored payload = true ∧
        bytesMatch host payload stored.payload = .ok true ∧
        proposalDigestMatches host payload = .ok true ∧
        proposalColumnsMatch stored payload = true ∧
        ActionConsistent stored action := by
  simp only [proposalMatches, both_eq_true, Except.ok.injEq, recast_eq_ok,
    Bool.and_eq_true, decide_eq_true_eq]

/-- An evidence decision matches when every one of its comparisons does. -/
theorem decisionMatches_eq_true {host : Host}
    {stored : StoredEvidenceDecision} {action : EscalateRescueAction}
    {payload : Value.Members} :
    decisionMatches host stored action payload = .ok true ↔
      decisionMembersMatch payload = true ∧
        bytesMatch host payload stored.payload = .ok true ∧
        evidenceDecisionDigestMatches host payload = .ok true ∧
        decisionColumnsMatch stored payload = true ∧
        contributorsMatch host stored payload = .ok true ∧
        DecisionSupports stored action := by
  simp only [decisionMatches, both_eq_true, Except.ok.injEq, recast_eq_ok,
    decide_eq_true_eq]

/-! ## Consumption -/

/-- `_approval_reason` -/
def approvalReason (refusal : ApprovalRefusal) (state : ApprovalState) :
    AuthorizationReason :=
  match refusal with
  | .notApproved =>
      if state = .rejected then .approvalRejected else .approvalMissing
  | .transition | .timeToLive => .approvalMissing
  | .expired | .clockRegression => .approvalExpired
  | .superseded => .approvalSuperseded
  | .alreadyConsumed => .approvalConsumed
  | .mission | .proposal | .digest | .parameters => .proposalMismatch

/-- `_consume_bound_approval` -/
def consumeBoundApproval (host : Host) (bound : BoundApproval)
    (stored : StoredProposal) (payload : Option Value.Members)
    (now : AuthorizationClock) :
    Except Failure (Except AuthorizationReason BoundApproval) :=
  let candidate : Proposal :=
    { missionId := stored.missionId
      proposalId := stored.proposalId
      parameters := payload.getD [] }
  if bound.approval.state = .approved ∧
      bound.runtimeEpoch ≠ some now.runtimeEpoch then
    .ok (.error .approvalExpired)
  else
    match consume host bound.approval candidate now.reading with
    | .ok approval => .ok (.ok { bound with approval })
    | .error (.refused refusal) =>
        .ok (.error (approvalReason refusal bound.approval.state))
    | .error .comparison => .error .comparison

/-- An approval of the current epoch that the domain consumes is consumed. -/
theorem consumeBoundApproval_of {host : Host} {bound : BoundApproval}
    {stored : StoredProposal} {payload : Value.Members}
    {now : AuthorizationClock} {approval : Approval}
    (epoch : bound.runtimeEpoch = some now.runtimeEpoch)
    (consumes :
      consume host bound.approval
        ⟨stored.missionId, stored.proposalId, payload⟩ now.reading =
        .ok approval) :
    consumeBoundApproval host bound stored (some payload) now =
      .ok (.ok { bound with approval }) := by
  simp only [consumeBoundApproval, epoch, ne_eq, not_true_eq_false,
    and_false, if_false, Option.getD_some, consumes]

/-- `_approval_binding_refusal` -/
def approvalBindingRefusal (bound : BoundApproval)
    (action : EscalateRescueAction) : Option AuthorizationReason :=
  if bound.evidenceDecisionId ≠ action.evidenceDecisionId ∨
      bound.evidenceDecisionDigest ≠ action.evidenceDecisionDigest ∨
      bound.evidenceDecisionVersion ≠ actionVersion then
    some .evidenceDecisionMismatch
  else if bound.action ≠
      ⟨action.droneId, action.latitudeMicrodegrees,
        action.longitudeMicrodegrees⟩ then
    some .actionMismatch
  else
    none

section Port

variable (host : Host) (port : AuthorizationTransaction)

/-- `_evidence_refusal` -/
def evidenceRefusal (action : EscalateRescueAction) :
    Body (Option AuthorizationReason) := do
  let stored ← port.loadDecision action.evidenceDecisionId
  match canonicalObject host stored.payload with
  | none => pure (some .evidenceDecisionMismatch)
  | some payload =>
      let matched ← lift id (decisionMatches host stored action payload)
      pure (if matched then none else some .evidenceDecisionMismatch)

/-- The checks after an approval has been consumed in memory. -/
def confirmEscalation (ingress : OperatorCommandIngress)
    (action : EscalateRescueAction) (stored : StoredProposal)
    (payload : Option Value.Members) (bound consumed : BoundApproval) :
    Body Decision := do
  let exact ← lift id <|
    match payload with
    | some members =>
        both (.ok (decide (ingress.payload.missionId.1 = stored.missionId)))
          (proposalMatches host stored action members)
    | none => .ok false
  if exact = false then
    pure (.refused .proposalMismatch)
  else
    match ← evidenceRefusal host port action with
    | some reason => pure (.refused reason)
    | none =>
        match approvalBindingRefusal bound action with
        | some reason => pure (.refused reason)
        | none => pure (.authorized (some consumed))

/-- `_authorize_escalation` -/
def authorizeEscalation (ingress : OperatorCommandIngress)
    (action : EscalateRescueAction) (now : AuthorizationClock) :
    Body Decision := do
  let stored ← port.loadProposal action.proposalId
  let bound ← port.loadApproval action.proposalId
  let payload := canonicalObject host stored.payload
  match ← lift id (consumeBoundApproval host bound stored payload now) with
  | .error reason => pure (.refused reason)
  | .ok consumed =>
      confirmEscalation host port ingress action stored payload bound
        consumed

/-! ## The transaction -/

/-- `_claim` -/
def commandClaim (ingress : OperatorCommandIngress) (occurredAt : String) :
    Except Failure StoredClaim := do
  let bodyDigest ← recast Failure.digest
    (digest host .idempotencyBody
      [ ("canonicalizationVersion", .int 1),
        ("body", .object (envelopeDocument ingress.envelope)) ])
  pure
    { idempotencyKey := ingress.payload.commandId
      kind := .command
      bodyDigest
      missionId := ingress.payload.missionId
      claimedAt := occurredAt }

/-- Persist the approval that a decision consumed. -/
def persistApproval (decision : Decision) : Body Unit :=
  match decision.approval with
  | some approval => port.persistConsumed approval
  | none => pure ()

/-- Stage the command and start its progress. -/
def stageEffects (artifacts : AuthorizationArtifacts)
    (occurredAt : String) : Body Unit :=
  match artifacts.command with
  | some (command, progress) => do
      port.stageCommand command
      port.initializeProgress progress occurredAt
  | none => pure ()

/-- `_persist_decision` -/
def persistDecision (ingress : OperatorCommandIngress)
    (identity : InboxIdentity) (stamp : AuthorizationStamp)
    (decision : Decision) : Body AuthorizationResult := do
  let artifacts ← lift id
    (buildAuthorizationArtifacts host ingress stamp decision.isAuthorized
      (decision.approval.map BoundApproval.approvalId) decision.reason)
  persistApproval port decision
  port.appendAudit artifacts.auditRecord
  port.stageApplication artifacts.auditEvent
  stageEffects port artifacts stamp.occurredAt
  port.recordResult ingress.payload.commandId artifacts.result
  port.complete identity artifacts.result stamp.occurredAt
  pure
    { outcome := decision.outcome
      result := artifacts.result
      reason := decision.reason }

/-- The decision on a command that was not seen before. -/
def decideCommand (ingress : OperatorCommandIngress) (now : AuthorizationClock) :
    Body Decision :=
  match ingress.payload.action with
  | .assignSector _ => pure (.authorized none)
  | .escalateRescue action =>
      authorizeEscalation host port ingress action now

/-- `_process_claimed` -/
def processClaimed (ingress : OperatorCommandIngress)
    (identity : InboxIdentity) (stamp : AuthorizationStamp)
    (now : AuthorizationClock) : Body AuthorizationResult := do
  let claim ← lift id (commandClaim host ingress stamp.occurredAt)
  let claimed ← port.claimCommand claim
  match claimed.decision with
  | .returnPriorResult =>
      let result ← demand claimed.result (.authorization .idempotencyResult)
      port.complete identity result stamp.occurredAt
      pure { outcome := .duplicate, result, reason := none }
  | .deny =>
      persistDecision host port ingress identity stamp
        (.refused .idempotencyConflict)
  | .execute =>
      let decision ← decideCommand host port ingress now
      persistDecision host port ingress identity stamp decision

/-- The answer to a claimed or a duplicate delivery. -/
def answerClaim (ingress : OperatorCommandIngress)
    (identity : InboxIdentity) (stamp : AuthorizationStamp)
    (now : AuthorizationClock) (inbox : InboxOutcome) :
    Body AuthorizationResult :=
  match inbox.decision with
  | .duplicate => do
      let result ← demand inbox.result (.authorization .duplicateResult)
      pure { outcome := .duplicate, result, reason := none }
  | .claimed => processClaimed host port ingress identity stamp now

/-- The body of the authorization transaction, with its commit. -/
def operatorCommandBody (ingress : OperatorCommandIngress)
    (identity : InboxIdentity) (stamp : AuthorizationStamp)
    (now : AuthorizationClock) : Body AuthorizationResult := do
  let inbox ← port.claim identity
  let result ← answerClaim host port ingress identity stamp now inbox
  port.commit
  pure result

/-! ## The handler -/

/-- `REFUSAL_CHANNEL` of operator commands. -/
def commandRefusalChannel : String := "command-gateway-operator-command"

/-- The operator command of an accepted ingress. -/
def operatorCommand? : AcceptedIngress → Option OperatorCommandIngress
  | .operatorCommand ingress => some ingress
  | _ => none

/-- `handle_operator_command` -/
def handleOperatorCommand (observedAt : String)
    (settlement : SettlementPort) (delivery : GuaranteedDelivery)
    (stamp : AuthorizationStamp) (now : AuthorizationClock) :
    Handler AuthorizationResult :=
  handleDelivery host commandRefusalChannel (.authorization .ingressKind)
    operatorCommand? (fun payload => payload.missionId)
    (fun ingress identity =>
      operatorCommandBody host port ingress identity stamp now)
    observedAt settlement delivery

end Port

end AerialRescue.Gateway
