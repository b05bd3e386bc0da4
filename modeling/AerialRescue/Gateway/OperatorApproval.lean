import AerialRescue.Gateway.Authorization

/-!
# Operator-approval verification

`handle_operator_approval`: the dashboard wrote the decision, and the gateway
compares the broker event with it and binds its own clock epoch once.  The
inbox outcome commits before the message is accepted.
-/

namespace AerialRescue.Gateway

open AerialRescue.Contracts
open AerialRescue.Contracts.Canonical
open AerialRescue.Contracts.Instant
open AerialRescue.Domain.Approvals
open AerialRescue.Gateway.Ingress
open AerialRescue.Lib
open AerialRescue.Lib.Guard
open AerialRescue.Lib.Transaction
open AerialRescue.Store

/-- A validated operator approval. -/
abbrev OperatorApprovalIngress := Accepted OperatorApprovalPayload

/-- How persisted authority compares with an approval event. -/
inductive ApprovalIngressOutcome where
  | verified
  | mismatch
  | expired
  | clockRegression
  | epochMismatch
  | duplicate
deriving DecidableEq

/-- The text of an outcome. -/
def ApprovalIngressOutcome.text : ApprovalIngressOutcome → String
  | .verified => "verified"
  | .mismatch => "persisted-binding-mismatch"
  | .expired => "expired-before-gateway-binding"
  | .clockRegression => "wall-clock-regressed-before-gateway-binding"
  | .epochMismatch => "approval-is-bound-to-another-gateway-epoch"
  | .duplicate => "duplicate"

/-- The exact durable verification response. -/
structure ApprovalIngressResult where
  outcome : ApprovalIngressOutcome
  result : Bytes
deriving DecidableEq

/-- The text of a stored decision. -/
def decisionText : BindingDecision → String
  | .approve => "approve"
  | .reject => "reject"

/-- `_matches` of an approval event and the persisted binding. -/
def approvalMatches (ingress : OperatorApprovalIngress)
    (stored : PersistedBinding) : Bool :=
  let payload := ingress.payload
  ingress.envelope.source =
      "urn:aerial-rescue:dashboard-api:" ++ stored.decisionRuntimeId &&
    stored.approvalId = payload.approvalId &&
    stored.missionId = payload.missionId &&
    stored.operatorId = payload.operatorId &&
    decisionText stored.decision = payload.decision.text &&
    stored.issuedAt = payload.issuedAt &&
    stored.expiresAt = payload.decision.expiresAt &&
    stored.proposalId = payload.proposalId &&
    stored.proposalDigest = payload.proposalDigest &&
    stored.proposalVersion = actionVersion &&
    stored.evidenceDecisionId = payload.evidenceDecisionId &&
    stored.evidenceDecisionDigest = payload.evidenceDecisionDigest &&
    stored.evidenceDecisionVersion = actionVersion &&
    stored.action = payload.action

/-- Both wall instants of a rebase, when both have the canonical spelling. -/
def rebaseInstants (stored : PersistedBinding) (clock : AuthorizationClock) :
    Option (DateTime × DateTime) :=
  match parseInstant stored.issuedAt,
      parseInstant (formatInstant clock.reading.wall) with
  | .ok issued, .ok current => some (issued, current)
  | _, _ => none

/-- `_authority`: the issue instant in this gateway's monotonic origin. -/
def rebasedAuthority (stored : PersistedBinding)
    (clock : AuthorizationClock) :
    Except ApprovalIngressOutcome StoredApprovalAuthority := do
  let (issued, current) ← present (rebaseInstants stored clock)
    .clockRegression
  let elapsed := issued.elapsed current
  ensure (0 ≤ elapsed) .clockRegression
  ensure (0 < stored.timeToLiveMilliseconds) .mismatch
  let elapsedMilliseconds := elapsed / 1000
  ensure (elapsedMilliseconds < stored.timeToLiveMilliseconds) .expired
  ensure (0 ≤ clock.reading.monotonic ∧ clock.runtimeEpoch ≠ "")
    .clockRegression
  pure
    { runtimeEpoch := clock.runtimeEpoch
      issuedMonotonicMilliseconds :=
        clock.reading.monotonic / 1000 - elapsedMilliseconds }

section Handler

variable (host : Host)

/-- `StoreApprovalIngressTransaction.load_binding` -/
def loadPersistedBinding (approvalId : String) : Body PersistedBinding := do
  let authority ← rethrow Failure.store (Store.loadBinding approvalId)
  lift id (mapApprovalBinding host authority)

/-- `_verify_new_claim` -/
def verifyNewClaim (ingress : OperatorApprovalIngress)
    (clock : AuthorizationClock) : Body ApprovalIngressOutcome := do
  let persisted ← loadPersistedBinding host ingress.payload.approvalId
  if approvalMatches ingress persisted = false then
    pure .mismatch
  else
    match rebasedAuthority persisted clock with
    | .error refusal => pure refusal
    | .ok authority =>
        let binding ← rethrow Failure.store
          (bindAuthority ingress.payload.approvalId authority)
        pure (if binding = .epochConflict then .epochMismatch
          else .verified)

/-- `_result` of a verification. -/
def approvalResult (ingress : OperatorApprovalIngress)
    (outcome : ApprovalIngressOutcome) : Except Failure Bytes :=
  recast Failure.canonicalization
    (canonicalBytes host (.object
      [ ("approvalIngress", .text outcome.text),
        ("approvalId", .text ingress.payload.approvalId) ]))

/-- The answer to a claimed or a duplicate approval event. -/
def answerApproval (ingress : OperatorApprovalIngress)
    (identity : InboxIdentity) (clock : AuthorizationClock)
    (claim : InboxOutcome) : Body ApprovalIngressResult :=
  match claim.decision with
  | .duplicate => do
      let result ← demand claim.result (.approvalIngress .duplicateResult)
      pure { outcome := .duplicate, result }
  | .claimed => do
      let outcome ← verifyNewClaim host ingress clock
      let result ← lift id (approvalResult host ingress outcome)
      rethrow Failure.store
        (completeInbox identity result ingress.envelope.time)
      pure { outcome, result }

/-- The body of the verification transaction. -/
def operatorApprovalBody (ingress : OperatorApprovalIngress)
    (identity : InboxIdentity) (clock : AuthorizationClock) :
    Body ApprovalIngressResult := do
  let claim ← rethrow Failure.store (claimInbox identity)
  answerApproval host ingress identity clock claim

/-- `REFUSAL_CHANNEL` of operator approvals. -/
def approvalRefusalChannel : String := "command-gateway-operator-approval"

/-- The operator approval of an accepted ingress. -/
def operatorApproval? : AcceptedIngress → Option OperatorApprovalIngress
  | .operatorApproval ingress => some ingress
  | _ => none

/-- `handle_operator_approval` -/
def handleOperatorApproval (observedAt : String)
    (settlement : SettlementPort) (delivery : GuaranteedDelivery)
    (clock : AuthorizationClock) : Handler ApprovalIngressResult :=
  handleDelivery host approvalRefusalChannel
    (.approvalIngress .ingressKind) operatorApproval?
    (fun payload => payload.missionId)
    (fun ingress identity =>
      operatorApprovalBody host ingress identity clock)
    observedAt settlement delivery

end Handler

/-! ## What a verification writes -/

/--
Two databases that differ in the inbox and in the authorities of bindings at
most.
-/
structure AuthorityOnly (before after : Database) : Prop where
  frame :
    after =
      { before with inbox := after.inbox, bindings := after.bindings }
  inbox : before.inbox.rows <+: after.inbox.rows
  bindings :
    after.bindings.rows.map unbound = before.bindings.rows.map unbound

variable {host : Host}

theorem verifyNewClaim_ok {ingress : OperatorApprovalIngress}
    {clock : AuthorizationClock} {before after : Database}
    {outcome : ApprovalIngressOutcome}
    (verified :
      exec (verifyNewClaim host ingress clock) before =
        (.ok outcome, after)) :
    after = { before with bindings := after.bindings } ∧
      after.bindings.rows.map unbound =
        before.bindings.rows.map unbound := by
  simp only [verifyNewClaim, loadPersistedBinding, exec_bind_eq_ok,
    exec_rethrow_eq_ok, exec_lift_eq_ok, exec_ite] at verified
  rcases verified with ⟨_, _, ⟨_, _, loaded, _, rfl⟩, rest⟩
  rcases loadBinding_ok.1 loaded with ⟨_, _, _, rfl⟩
  split at rest
  · simp only [exec_pure, Prod.mk.injEq] at rest
    rw [← rest.2]
    exact ⟨rfl, rfl⟩
  · split at rest
    · simp only [exec_pure, Prod.mk.injEq] at rest
      rw [← rest.2]
      exact ⟨rfl, rfl⟩
    · simp only [exec_bind_eq_ok, exec_rethrow_eq_ok, exec_pure,
        Prod.mk.injEq] at rest
      rcases rest with ⟨_, _, bound, _, rfl⟩
      exact bindAuthority_ok bound

/-- A committed verification writes its inbox row and an authority. -/
theorem operatorApprovalBody_ok {ingress : OperatorApprovalIngress}
    {identity : InboxIdentity} {clock : AuthorizationClock}
    {before after : Database} {result : ApprovalIngressResult}
    (returned :
      exec (operatorApprovalBody host ingress identity clock) before =
        (.ok result, after)) :
    AuthorityOnly before after := by
  simp only [operatorApprovalBody, exec_bind_eq_ok,
    exec_rethrow_eq_ok] at returned
  rcases returned with ⟨claim, _, claimed, answered⟩
  rcases claimInbox_ok claimed with
    ⟨rfl, inbox, inserted, rfl⟩ | ⟨_, _, _, rfl, rfl, _⟩
  · simp only [answerApproval, exec_bind_eq_ok, exec_rethrow_eq_ok,
      exec_lift_eq_ok, exec_pure, Prod.mk.injEq] at answered
    rcases answered with ⟨_, _, verified, _, _, ⟨_, rfl⟩, _, _, completed,
      _, rfl⟩
    rcases verifyNewClaim_ok verified with ⟨frame, bindings⟩
    have grown := completeInbox_grown inserted
      (congrArg Database.inbox frame) completed
    rcases completeInbox_ok completed with ⟨_, _, _, _, rfl⟩
    exact ⟨by rw [frame], grown, bindings⟩
  · simp only [answerApproval, exec_bind_eq_ok, exec_demand_eq_ok,
      exec_pure, Prod.mk.injEq] at answered
    rcases answered with ⟨_, _, ⟨_, rfl⟩, _, rfl⟩
    exact ⟨rfl, List.prefix_rfl, rfl⟩

/-- A handled approval changes refusals, the inbox and authorities only. -/
theorem handleOperatorApproval_database (observedAt : String)
    (settlement : SettlementPort) (delivery : GuaranteedDelivery)
    (clock : AuthorizationClock) (before : World) :
    SameButRefusals before.database
        (exec (handleOperatorApproval host observedAt settlement delivery
          clock) before).2.database ∨
      AuthorityOnly before.database
        (exec (handleOperatorApproval host observedAt settlement delivery
          clock) before).2.database := by
  unfold handleOperatorApproval
  rcases handleDelivery_database host approvalRefusalChannel
      (.approvalIngress .ingressKind) operatorApproval?
      (fun payload => payload.missionId)
      (fun ingress identity =>
        operatorApprovalBody host ingress identity clock)
      observedAt settlement delivery before with
    same | ⟨_, _, _, _, _, _, _, returned⟩
  · exact .inl same
  · exact .inr (operatorApprovalBody_ok returned)

end AerialRescue.Gateway
