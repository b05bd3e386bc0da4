import AerialRescue.Gateway.Ports

/-!
# The durable authority of an approval

The adapter between the rows of an approval and the domain record that is
consumed.  Every cross-check refuses with a closed reason, and the mapping back
accepts only what consumption returned.  `storeAuthorizationTransaction` is the
authorization port over the repositories.
-/

namespace AerialRescue.Gateway

open AerialRescue.Contracts
open AerialRescue.Contracts.Canonical
open AerialRescue.Contracts.Instant
open AerialRescue.Domain.Approvals
open AerialRescue.Gateway.Ingress
open AerialRescue.Lib.Guard
open AerialRescue.Lib.Transaction
open AerialRescue.Store

/-! ## From rows to the domain -/

/-- `timedelta(milliseconds=·)`, absent beyond 999999999 days. -/
def timedelta (milliseconds : Int) : Option Duration :=
  let duration : Duration := milliseconds * 1000
  let days := duration / 86400000000
  if -999999999 ≤ days ∧ days ≤ 999999999 then some duration else none

theorem timedelta_eq_some {amount : Int} {duration : Duration}
    (inRange : timedelta amount = some duration) :
    duration = amount * 1000 := by
  simp only [timedelta] at inRange
  split at inRange
  · exact (Option.some.inj inRange).symm
  · cases inRange

/-- `_action` -/
def storedAction (host : Host) (payload : Bytes) :
    Except Failure ApprovalAction :=
  match decode host payload with
  | .ok document => present (readApprovalAction document) (.adapter .action)
  | .error (.canonicalization _) => .error (.adapter .action)
  | .error .value => .error .value

/-- The states an approving decision can be in. -/
def approvingState : ApprovalState → Bool
  | .approved | .executed | .expired | .superseded => true
  | .requested | .rejected => false

/-- The issue reading in the bound epoch, or zero when none is bound. -/
def issuedMonotonic (binding : Store.StoredApprovalBinding) : Int :=
  binding.authority.elim 0 StoredApprovalAuthority.issuedMonotonicMilliseconds

/-- The expiry that the binding of a mapped approval has to carry. -/
def expectedExpiry (decision : BindingDecision) (mapped : Approval) :
    Except Failure (Option String) :=
  match decision with
  | .approve =>
      (present mapped.expiresAt .overflow).map fun expiry =>
        some (formatInstant expiry)
  | .reject => .ok none

/-- `_approval`: map and cross-check one durable authority pair. -/
def mapApproval (authority : StoredAuthorizationApproval) :
    Except Failure Approval := do
  let approval := authority.approval
  let binding := authority.binding
  ensure (approval.proposalId = binding.proposalId) (.adapter .identity)
  ensure
    (binding.proposalVersion = 1 ∧ binding.evidenceDecisionVersion = 1)
    (.adapter .decision)
  ensure (binding.decision = .approve ↔ approvingState approval.state = true)
    (.adapter .decision)
  ensure
    (0 ≤ approval.issuedMonotonicMilliseconds ∧
      0 < approval.timeToLiveMilliseconds ∧
      (binding.authority.all fun held => held.runtimeEpoch ≠ "") = true)
    (.adapter .expiry)
  let wall ← recast (fun _ => .adapter .expiry)
    (parseInstant approval.issuedWall)
  let timeToLive ← present (timedelta approval.timeToLiveMilliseconds)
    .overflow
  let monotonic ← present (timedelta (issuedMonotonic binding)) .overflow
  let mapped : Approval :=
    { state := approval.state
      operatorIdentity := approval.operatorIdentity
      issued := { wall, monotonic }
      timeToLive
      missionId := approval.missionId
      proposalId := approval.proposalId
      proposalDigest := approval.proposalDigest }
  let expiry ← expectedExpiry binding.decision mapped
  ensure (binding.expiresAt = expiry) (.adapter .expiry)
  pure mapped

/-- `map_authorization_approval` -/
def mapAuthorizationApproval (host : Host)
    (authority : StoredAuthorizationApproval) :
    Except Failure BoundApproval := do
  let binding := authority.binding
  let approval ← mapApproval authority
  let action ← storedAction host binding.actionPayload
  ensure (binding.approvalId ≠ "") .value
  pure
    { approvalId := binding.approvalId
      approval
      durableApproval := authority.approval
      evidenceDecisionId := binding.evidenceDecisionId
      evidenceDecisionDigest := binding.evidenceDecisionDigest
      evidenceDecisionVersion := binding.evidenceDecisionVersion
      action
      runtimeEpoch := binding.authority.map
        StoredApprovalAuthority.runtimeEpoch }

/-- `ports.StoredApprovalBinding`: what a broker event is compared with. -/
structure PersistedBinding where
  approvalId : String
  missionId : String
  operatorId : String
  decision : BindingDecision
  issuedAt : String
  expiresAt : Option String
  proposalId : String
  proposalDigest : String
  proposalVersion : Int
  evidenceDecisionId : String
  evidenceDecisionDigest : String
  evidenceDecisionVersion : Int
  action : ApprovalAction
  decisionRuntimeId : String
  timeToLiveMilliseconds : Int

/-- `map_approval_binding` -/
def mapApprovalBinding (host : Host)
    (authority : StoredAuthorizationApproval) :
    Except Failure PersistedBinding := do
  let binding := authority.binding
  let approval ← mapApproval authority
  let action ← storedAction host binding.actionPayload
  pure
    { approvalId := binding.approvalId
      missionId := approval.missionId
      operatorId := approval.operatorIdentity
      decision := binding.decision
      issuedAt := formatInstant approval.issued.wall
      expiresAt := binding.expiresAt
      proposalId := approval.proposalId
      proposalDigest := approval.proposalDigest
      proposalVersion := binding.proposalVersion
      evidenceDecisionId := binding.evidenceDecisionId
      evidenceDecisionDigest := binding.evidenceDecisionDigest
      evidenceDecisionVersion := binding.evidenceDecisionVersion
      action
      decisionRuntimeId := binding.decisionRuntimeId
      timeToLiveMilliseconds := authority.approval.timeToLiveMilliseconds }

/-! ## From the domain back to rows -/

/-- `_milliseconds`: exact, positive milliseconds of a duration. -/
def milliseconds (duration : Duration) : Except Failure Int := do
  ensure (duration % 1000 = 0) (.adapter .expiry)
  ensure (0 < duration / 1000) (.adapter .expiry)
  pure (duration / 1000)

/-- `_stored_approval`: only what consumption returned maps back. -/
def storedApproval (bound : BoundApproval) : Except Failure StoredApproval := do
  let approval := bound.approval
  let durable := bound.durableApproval
  ensure (approval.state = .executed) (.adapter .decision)
  ensure (durable.state = .approved) (.adapter .decision)
  ensure
    (durable.missionId = approval.missionId ∧
      durable.proposalId = approval.proposalId ∧
      durable.operatorIdentity = approval.operatorIdentity ∧
      durable.proposalDigest = approval.proposalDigest)
    (.adapter .identity)
  let timeToLive ← milliseconds approval.timeToLive
  ensure
    (durable.issuedWall = formatInstant approval.issued.wall ∧
      durable.timeToLiveMilliseconds = timeToLive)
    (.adapter .expiry)
  pure { durable with state := .executed }

/-! ## The store-backed port -/

/-- `StoreAuthorizationTransaction` over one session. -/
def storeAuthorizationTransaction (host : Host) :
    AuthorizationTransaction where
  claim identity := rethrow Failure.store (claimInbox identity)
  claimCommand claim := rethrow Failure.store (claimIdempotency claim)
  loadProposal proposalId :=
    rethrow Failure.store (Store.loadProposal proposalId)
  loadDecision decisionId :=
    rethrow Failure.store (Store.loadDecision decisionId)
  loadApproval proposalId := do
    let authority ← rethrow Failure.store (Store.loadApproval proposalId)
    lift id (mapAuthorizationApproval host authority)
  persistConsumed approval := do
    let consumed ← lift id (storedApproval approval)
    rethrow Failure.store (Store.persistConsumed consumed)
  appendAudit record := do
    let _ ← rethrow Failure.store (Store.appendAudit record)
  stageApplication event :=
    rethrow Failure.store (Store.stageApplication event)
  stageCommand command := rethrow Failure.store (Store.stageCommand command)
  initializeProgress identity updatedAt :=
    rethrow Failure.store (Store.initializeProgress identity updatedAt)
  recordResult key result :=
    rethrow Failure.store (Store.recordResult key result)
  complete identity result processedAt :=
    rethrow Failure.store (completeInbox identity result processedAt)
  commit := pure ()

/-! ## What the mappings say -/

/-- The mapping of an authority pair keeps every column it reads. -/
theorem mapApproval_ok {authority : StoredAuthorizationApproval}
    {mapped : Approval} (maps : mapApproval authority = .ok mapped) :
    authority.approval.proposalId = authority.binding.proposalId ∧
      mapped.state = authority.approval.state ∧
      mapped.missionId = authority.approval.missionId ∧
      mapped.proposalId = authority.approval.proposalId ∧
      mapped.proposalDigest = authority.approval.proposalDigest ∧
      parseInstant authority.approval.issuedWall = .ok mapped.issued.wall ∧
      mapped.issued.monotonic = issuedMonotonic authority.binding * 1000 ∧
      mapped.timeToLive =
        authority.approval.timeToLiveMilliseconds * 1000 := by
  simp only [mapApproval, bind_eq_ok, ensure_eq_ok, exists_const,
    recast_eq_ok, present_eq_ok, pure_eq_ok] at maps
  rcases maps with ⟨identity, _, _, _, wall, parsed, window, positive,
    monotonic, issued, expiry, _, _, rfl⟩
  exact ⟨identity, rfl, rfl, rfl, rfl, parsed, timedelta_eq_some issued,
    timedelta_eq_some positive⟩

/-- A bound approval carries its binding and its mapped row. -/
theorem mapAuthorizationApproval_ok {host : Host}
    {authority : StoredAuthorizationApproval} {bound : BoundApproval}
    (maps : mapAuthorizationApproval host authority = .ok bound) :
    mapApproval authority = .ok bound.approval ∧
      storedAction host authority.binding.actionPayload =
        .ok bound.action ∧
      bound.approvalId = authority.binding.approvalId ∧
      bound.durableApproval = authority.approval ∧
      bound.evidenceDecisionId = authority.binding.evidenceDecisionId ∧
      bound.evidenceDecisionDigest =
        authority.binding.evidenceDecisionDigest ∧
      bound.evidenceDecisionVersion =
        authority.binding.evidenceDecisionVersion ∧
      bound.runtimeEpoch =
        authority.binding.authority.map
          StoredApprovalAuthority.runtimeEpoch := by
  simp only [mapAuthorizationApproval, bind_eq_ok, ensure_eq_ok,
    exists_const, pure_eq_ok] at maps
  rcases maps with ⟨approval, mapped, action, read, _, rfl⟩
  exact ⟨mapped, read, rfl, rfl, rfl, rfl, rfl, rfl⟩

/-- Only a consumed record of an approved row maps back, as executed. -/
theorem storedApproval_ok {bound : BoundApproval} {stored : StoredApproval}
    (maps : storedApproval bound = .ok stored) :
    stored = { bound.durableApproval with state := .executed } ∧
      bound.durableApproval.state = .approved ∧
      bound.durableApproval.proposalId = bound.approval.proposalId := by
  simp only [storedApproval, bind_eq_ok, ensure_eq_ok, exists_const,
    pure_eq_ok] at maps
  rcases maps with ⟨_, approved, ⟨_, proposal, _, _⟩, _, _, _, rfl⟩
  exact ⟨rfl, approved, proposal⟩

end AerialRescue.Gateway
