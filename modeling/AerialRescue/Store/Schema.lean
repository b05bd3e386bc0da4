import AerialRescue.Domain.Approvals
import AerialRescue.Domain.Commands
import AerialRescue.Domain.Mission
import AerialRescue.Lib.Table
import AerialRescue.Lib.Transaction

/-!
# The durable schema

The rows of the tables that the command gateway, the recorder and the dashboard
share, each under its primary key, and the refusals of the repositories over
them.  A column whose values a check constraint closes is an enumeration here,
and a pair of columns that a check constraint fills together is one optional
pair.
-/

namespace AerialRescue.Store

open AerialRescue.Contracts
open AerialRescue.Domain.Approvals
open AerialRescue.Domain.Commands
open AerialRescue.Domain.Mission
open AerialRescue.Lib
open AerialRescue.Lib.Transaction

/-! ## Authority rows -/

/-- One durable operator decision, as the `approval` columns hold it. -/
structure StoredApproval where
  missionId : String
  proposalId : String
  state : ApprovalState
  operatorIdentity : String
  issuedWall : String
  issuedMonotonicMilliseconds : Int
  timeToLiveMilliseconds : Int
  proposalDigest : String
deriving DecidableEq

/-- The two operator decisions. -/
inductive BindingDecision where
  | approve
  | reject
deriving DecidableEq

/-- The gateway epoch and the rebased issue reading. -/
structure StoredApprovalAuthority where
  runtimeEpoch : String
  issuedMonotonicMilliseconds : Int
deriving DecidableEq

/-- The immutable facts persisted with an operator decision. -/
structure StoredApprovalBinding where
  approvalId : String
  proposalId : String
  proposalVersion : Int
  evidenceDecisionId : String
  evidenceDecisionDigest : String
  evidenceDecisionVersion : Int
  decision : BindingDecision
  actionPayload : Bytes
  decisionRuntimeId : String
  authority : Option StoredApprovalAuthority
  expiresAt : Option String
deriving DecidableEq

/-- Every immutable column of a normalized proposal. -/
structure StoredProposal where
  proposalId : String
  missionId : String
  sourceEventId : String
  sourceEventDigest : String
  agentName : String
  invocationId : String
  proposalType : String
  proposalDigest : String
  payload : Bytes
  droneId : String
  latitudeMicrodegrees : Int
  longitudeMicrodegrees : Int
  commandType : String
  issuedAt : String
  sequence : Int
  correlationId : String
  causationId : Option String
  traceparent : String
deriving DecidableEq

/-- The four decision branches of the evidence contract. -/
inductive EvidenceDecisionOutcome where
  | contributing
  | manualReview
  | abstained
  | rejected
deriving DecidableEq

/-- The text of an outcome. -/
def EvidenceDecisionOutcome.text : EvidenceDecisionOutcome → String
  | .contributing => "contributing"
  | .manualReview => "manual-review"
  | .abstained => "abstained"
  | .rejected => "rejected"

/-- The ordinal band escalation eligibility is keyed on. -/
inductive EvidenceBand where
  | none
  | weak
  | supported
  | corroborated
deriving DecidableEq

/-- The text of a band. -/
def EvidenceBand.text : EvidenceBand → String
  | .none => "none"
  | .weak => "weak"
  | .supported => "supported"
  | .corroborated => "corroborated"

/-- One append-only versioned evidence decision. -/
structure StoredEvidenceDecision where
  decisionId : String
  missionId : String
  proposalId : String
  proposalDigest : String
  decisionDigest : String
  decisionVersion : Int
  scoreVersion : Option Int
  score : Option Int
  band : Option EvidenceBand
  outcome : EvidenceDecisionOutcome
  contributors : Option Bytes
  payload : Bytes
  decidedAt : String
  sequence : Int
deriving DecidableEq

/-! ## Claims -/

/-- The identity and canonical digest claimed before a broker effect. -/
structure InboxIdentity where
  consumer : String
  source : String
  eventId : String
  missionId : String
  canonicalDigest : String
deriving DecidableEq

/-- One claimed delivery, with its result and instant once it is complete. -/
structure InboxRow where
  identity : InboxIdentity
  completion : Option (Bytes × String)
deriving DecidableEq

/-- The primary key of the inbox. -/
def InboxIdentity.key (identity : InboxIdentity) :
    String × String × String :=
  (identity.consumer, identity.source, identity.eventId)

/-- The primary key of an inbox row. -/
def InboxRow.key (row : InboxRow) : String × String × String :=
  row.identity.key

/-- What a caller presents to claim an idempotency key. -/
structure StoredClaim where
  idempotencyKey : String
  kind : IdempotencyKind
  bodyDigest : String
  missionId : String
  claimedAt : String
deriving DecidableEq

/-- One claimed idempotency key and the recorded result. -/
structure ClaimRow where
  claim : StoredClaim
  result : Option Bytes
deriving DecidableEq

/-- The primary key of an idempotency claim. -/
def ClaimRow.key (row : ClaimRow) : String :=
  row.claim.idempotencyKey

/-! ## Outboxes and progress -/

/--
Canonical bytes together with the document they encode.  The payload column of
the command outbox is written only through `canonical_bytes`, so that its rows
keep the document they were made from.
-/
structure Encoded where
  document : Value.Members
  bytes : Bytes

/-- One command to publish. -/
structure StagedCommand where
  commandId : String
  missionId : String
  droneId : String
  payload : Encoded
  correlationId : String
  causationId : Option String
  traceparent : String
  stagedAt : String

/-- A staged command and where it stands with the broker. -/
structure CommandOutboxRow where
  command : StagedCommand
  state : OutboxState

/-- The primary key of the command outbox. -/
def CommandOutboxRow.key (row : CommandOutboxRow) : String :=
  row.command.commandId

/-- One application publication before any broker traffic. -/
structure StagedApplicationEvent where
  producer : String
  eventId : String
  family : String
  topic : String
  headers : Bytes
  payload : Bytes
  traceparent : String
  tracestate : Option String
  correlationId : String
  causationId : Option String
  stagedAt : String
deriving DecidableEq

/-- A staged application event with its publication state. -/
structure ApplicationOutboxRow where
  event : StagedApplicationEvent
  state : OutboxState
  confirmedAt : Option String
deriving DecidableEq

/-- The primary key of the application outbox. -/
def ApplicationOutboxRow.key (row : ApplicationOutboxRow) :
    String × String :=
  (row.event.producer, row.event.eventId)

/-- The immutable mission and drone binding of a command. -/
structure CommandIdentity where
  commandId : String
  missionId : String
  droneId : String
deriving DecidableEq

/-- A command's domain progress with the facts stored beside it. -/
structure StoredCommandProgress where
  identity : CommandIdentity
  progress : CommandProgress
  lastSentAt : Option String
  deadlineAt : Option String
  resultId : Option String
  updatedAt : String
deriving DecidableEq

/-- The primary key of the progress table. -/
def StoredCommandProgress.key (row : StoredCommandProgress) : String :=
  row.identity.commandId

/-! ## Audit and refusals -/

/-- One timeline entry, without its ordinal. -/
structure AuditRecord where
  missionId : String
  kind : String
  occurredAt : String
  payload : Bytes
  correlationId : String
  causationId : Option String
  traceparent : String
deriving DecidableEq

/-- One timeline entry at its durable ordinal. -/
structure StoredAuditRecord where
  record : AuditRecord
  ordinal : Nat
deriving DecidableEq

/-- The primary key of the audit table. -/
def StoredAuditRecord.key (row : StoredAuditRecord) : String × Nat :=
  (row.record.missionId, row.ordinal)

/-- The per-mission counter that issues audit ordinals. -/
structure AuditSequence where
  missionId : String
  nextOrdinal : Nat
deriving DecidableEq

/-- Bounded evidence of one refused delivery. -/
structure StoredBrokerRefusal where
  consumer : String
  source : Option String
  family : Option String
  channel : String
  refusalCode : String
  rawDigest : String
  observedAt : String
deriving DecidableEq

/-- The primary key of the refusal ledger. -/
def StoredBrokerRefusal.key (row : StoredBrokerRefusal) :
    String × String × String :=
  (row.consumer, row.channel, row.rawDigest)

/-! ## Source events, broker provenance and missions -/

/-- One complete accepted event and its provenance. -/
structure StoredSourceEvent where
  source : String
  eventId : String
  missionId : String
  topic : String
  canonicalDigest : String
  canonicalPayload : Bytes
  observedAt : String
deriving DecidableEq

/-- The primary key of the source events. -/
def StoredSourceEvent.key (row : StoredSourceEvent) : String × String :=
  (row.source, row.eventId)

/-- The greatest sequence that a producer's events have reached. -/
structure BrokerSource where
  source : String
  highWater : Option Nat
deriving DecidableEq

/-- The broker identity and digest of one recorded event. -/
structure BrokerEvent where
  source : String
  eventId : String
  sourceSequence : Nat
  payloadDigest : String
deriving DecidableEq

/-- A broker event linked to the audit row that recorded it. -/
structure LinkedBrokerEvent where
  event : BrokerEvent
  auditMissionId : String
  auditOrdinal : Nat
deriving DecidableEq

/-- The primary key of the broker events. -/
def LinkedBrokerEvent.key (row : LinkedBrokerEvent) : String × String :=
  (row.event.source, row.event.eventId)

/-- One operational mission and the lifecycle that the recorder moves. -/
structure DashboardMission where
  missionId : String
  scenarioId : String
  scenarioRevision : Nat
  lifecycle : MissionState
  predecessorMissionId : Option String
deriving DecidableEq

/-! ## The database -/

/-- The durable tables. -/
structure Database where
  approvals : Table StoredApproval.proposalId
  bindings : Table StoredApprovalBinding.approvalId
  proposals : Table StoredProposal.proposalId
  decisions : Table StoredEvidenceDecision.decisionId
  inbox : Table InboxRow.key
  claims : Table ClaimRow.key
  commandOutbox : Table CommandOutboxRow.key
  applicationOutbox : Table ApplicationOutboxRow.key
  progress : Table StoredCommandProgress.key
  audit : Table StoredAuditRecord.key
  auditSequences : Table AuditSequence.missionId
  refusals : Table StoredBrokerRefusal.key
  sourceEvents : Table StoredSourceEvent.key
  brokerSources : Table BrokerSource.source
  brokerEvents : Table LinkedBrokerEvent.key
  missions : Table DashboardMission.missionId

/-- A database with no row. -/
def Database.empty : Database where
  approvals := Table.empty
  bindings := Table.empty
  proposals := Table.empty
  decisions := Table.empty
  inbox := Table.empty
  claims := Table.empty
  commandOutbox := Table.empty
  applicationOutbox := Table.empty
  progress := Table.empty
  audit := Table.empty
  auditSequences := Table.empty
  refusals := Table.empty
  sourceEvents := Table.empty
  brokerSources := Table.empty
  brokerEvents := Table.empty
  missions := Table.empty

/-! ## Repository refusals -/

/-- `InboxRefusal` -/
inductive InboxRefusal where
  | claimVanished
  | digestConflict
  | incomplete
  | notClaimed
deriving DecidableEq

/-- `StoredClaimRefusal` -/
inductive ClaimRefusal where
  | claimVanished
  | kindMismatch
  | bodyMismatch
  | resultNotRecorded
  | resultAlreadyRecorded
deriving DecidableEq

/-- `StoredApprovalRefusal` -/
inductive StoredApprovalRefusal where
  | notADecision
  | notFound
  | notExecuted
  | notConsumable
deriving DecidableEq

/-- `ApprovalBindingRefusal` -/
inductive ApprovalBindingRefusal where
  | notFound
  | unreadableRow
  | invalidAuthority
deriving DecidableEq

/-- `EvidenceStoreRefusal` -/
inductive EvidenceStoreRefusal where
  | notFound
  | unreadableRow
deriving DecidableEq

/-- `StagedCommandRefusal` -/
inductive StagedCommandRefusal where
  | atCapacity
  | notInExpectedState
  | invalidReadLimit
  | terminalRead
deriving DecidableEq

/-- `ApplicationOutboxRefusal` -/
inductive ApplicationOutboxRefusal where
  | alreadyStaged
  | confirmationEvidence
  | notInExpectedState
deriving DecidableEq

/-- `CommandProgressRefusal` -/
inductive CommandProgressRefusal where
  | alreadyExists
  | notFound
  | unreadableRow
  | sendCountOutOfRange
  | staleProgress
deriving DecidableEq

/-- `BrokerRefusalRefusal` -/
inductive BrokerRefusalRefusal where
  | identityVanished
  | identityConflict
deriving DecidableEq

/-- `SourceEventRefusal`, as far as storing an event can raise it. -/
inductive SourceEventRefusal where
  | identityVanished
  | identityConflict
deriving DecidableEq

/-- `DashboardEventRefusal`, as far as linking an event can raise it. -/
inductive DashboardEventRefusal where
  | sourceVanished
  | divergentDuplicate
  | sequenceReused
  | staleSequence
deriving DecidableEq

/-- `DashboardRunRefusal`, as far as moving a lifecycle can raise it. -/
inductive DashboardRunRefusal where
  | unknownMission
  | missionMoved
deriving DecidableEq

/-- What escapes a repository call. -/
inductive StoreFailure where
  | inbox (refusal : InboxRefusal)
  | claim (refusal : ClaimRefusal)
  | approval (refusal : StoredApprovalRefusal)
  | binding (refusal : ApprovalBindingRefusal)
  /-- `ProposalError` with `NOT_FOUND` -/
  | proposalNotFound
  | evidence (refusal : EvidenceStoreRefusal)
  | command (refusal : StagedCommandRefusal)
  | application (refusal : ApplicationOutboxRefusal)
  | progress (refusal : CommandProgressRefusal)
  | brokerRefusal (refusal : BrokerRefusalRefusal)
  | sourceEvent (refusal : SourceEventRefusal)
  | dashboardEvent (refusal : DashboardEventRefusal)
  | dashboardRun (refusal : DashboardRunRefusal)
  /-- `CommandError`: the dispatch lifecycle has no such transition. -/
  | commandTransition
  /-- `OutboxError`: the publication lifecycle has no such transition. -/
  | outboxTransition
  /-- SQLAlchemy's `IntegrityError`: a write met a taken key or a constraint. -/
  | integrity
  /-- SQLAlchemy's `DataError`: a text is wider than its column. -/
  | data
deriving DecidableEq

/-- A repository call on the working copy of the database. -/
abbrev StoreTx (α : Type) := Tx Database StoreFailure α

end AerialRescue.Store
