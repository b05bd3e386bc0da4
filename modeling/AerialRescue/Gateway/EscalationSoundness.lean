import AerialRescue.Contracts.PlainText
import AerialRescue.Gateway.CommandConditions

/-!
# Soundness of a staged escalation

An escalation reaches the command outbox only under a complete authority: an
approved, live, epoch-bound approval of the exact stored proposal, backed by a
contributing and corroborated evidence decision.  What the staged payload
carries is that proposal and that approval.
-/

namespace AerialRescue.Gateway

open AerialRescue.Contracts
open AerialRescue.Contracts.Canonical
open AerialRescue.Contracts.Digest
open AerialRescue.Contracts.Envelopes
open AerialRescue.Contracts.Instant
open AerialRescue.Contracts.Topics
open AerialRescue.Domain.Approvals
open AerialRescue.Gateway.Ingress
open AerialRescue.Lib
open AerialRescue.Lib.Guard
open AerialRescue.Lib.Transaction
open AerialRescue.Store

/-- The event type of a rescue escalation. -/
def escalationType : String :=
  "aerial-rescue.v1.drone.command.escalate-rescue"

/-- Whether a staged command is a rescue escalation. -/
def IsEscalation (command : StagedCommand) : Prop :=
  Value.get "type" command.payload.document = .text escalationType

/-- The rows, and the decoded texts in them, that authorize an escalation. -/
structure EscalationAuthority where
  proposal : StoredProposal
  parameters : Value.Members
  approval : StoredApproval
  binding : StoredApprovalBinding
  issuedWall : DateTime
  issuedMonotonicMilliseconds : Int
  evidence : StoredEvidenceDecision

/-- Wall-clock time since the approval was issued. -/
def EscalationAuthority.wallElapsed (authority : EscalationAuthority)
    (now : ClockReading) : Duration :=
  authority.issuedWall.elapsed now.wall

/-- Monotonic time since the approval was issued, in the bound epoch. -/
def EscalationAuthority.monotonicElapsed (authority : EscalationAuthority)
    (now : ClockReading) : Duration :=
  now.monotonic - authority.issuedMonotonicMilliseconds * 1000

/-- The lifetime of the approval. -/
def EscalationAuthority.timeToLive (authority : EscalationAuthority) :
    Duration :=
  authority.approval.timeToLiveMilliseconds * 1000

/-- The authority holds in a database, for an action, at a clock reading. -/
structure EscalationAuthority.Holds (host : Host)
    (authority : EscalationAuthority) (database : Database)
    (missionId : String) (action : EscalateRescueAction)
    (now : AuthorizationClock) : Prop where
  proposal :
    database.proposals.find? action.proposalId = some authority.proposal
  proposalMission : authority.proposal.missionId = missionId
  decoded :
    canonicalObject host authority.proposal.payload =
      some authority.parameters
  columns :
    proposalColumnsMatch authority.proposal authority.parameters = true
  approval :
    database.approvals.find? action.proposalId = some authority.approval
  approved : authority.approval.state = .approved
  approvalProposal :
    authority.approval.proposalId = authority.proposal.proposalId
  approvalMission : authority.approval.missionId = missionId
  digest :
    Digest.proposalDigest host authority.parameters =
      .ok authority.approval.proposalDigest
  binding :
    database.bindingFor? action.proposalId = some authority.binding
  epoch :
    authority.binding.authority =
      some ⟨now.runtimeEpoch, authority.issuedMonotonicMilliseconds⟩
  issued :
    parseInstant authority.approval.issuedWall = .ok authority.issuedWall
  wallWindow :
    0 ≤ authority.wallElapsed now.reading ∧
      authority.wallElapsed now.reading < authority.timeToLive
  monotonicWindow :
    0 ≤ authority.monotonicElapsed now.reading ∧
      authority.monotonicElapsed now.reading < authority.timeToLive
  evidence :
    database.decisions.find? action.evidenceDecisionId =
      some authority.evidence
  contributing : authority.evidence.outcome = .contributing
  corroborated : authority.evidence.band = some .corroborated
  evidenceProposal :
    authority.evidence.proposalId = authority.proposal.proposalId ∧
      authority.evidence.proposalDigest = authority.proposal.proposalDigest
  cited :
    authority.evidence.decisionId = action.evidenceDecisionId ∧
      authority.evidence.decisionDigest = action.evidenceDecisionDigest ∧
      authority.evidence.decisionVersion = actionVersion
  boundEvidence :
    authority.binding.evidenceDecisionId = authority.evidence.decisionId ∧
      authority.binding.evidenceDecisionDigest =
        authority.evidence.decisionDigest ∧
      authority.binding.evidenceDecisionVersion =
        authority.evidence.decisionVersion

/-- A command payload carries the approved proposal and its authority. -/
structure EscalationAuthority.Carried (authority : EscalationAuthority)
    (data : Value.Members) : Prop where
  missionId :
    Value.get "missionId" data = .text authority.proposal.missionId
  droneId : Value.get "droneId" data = .text authority.proposal.droneId
  latitude :
    Value.get "latitudeMicrodegrees" data =
      .int authority.proposal.latitudeMicrodegrees
  longitude :
    Value.get "longitudeMicrodegrees" data =
      .int authority.proposal.longitudeMicrodegrees
  proposalId :
    Value.get "proposalId" data = .text authority.proposal.proposalId
  proposalDigest :
    Value.get "proposalDigest" data =
      .text authority.proposal.proposalDigest
  evidenceDecisionId :
    Value.get "evidenceDecisionId" data =
      .text authority.evidence.decisionId
  evidenceDecisionDigest :
    Value.get "evidenceDecisionDigest" data =
      .text authority.evidence.decisionDigest
  evidenceDecisionVersion :
    Value.get "evidenceDecisionVersion" data =
      .int authority.evidence.decisionVersion
  approvalId :
    Value.get "approvalId" data = .text authority.binding.approvalId

/-! ## From the checks to the authority -/

variable {host : Host}

theorem approvalBindingRefusal_none {bound : BoundApproval}
    {action : EscalateRescueAction}
    (agreed : approvalBindingRefusal bound action = none) :
    bound.evidenceDecisionId = action.evidenceDecisionId ∧
      bound.evidenceDecisionDigest = action.evidenceDecisionDigest ∧
      bound.evidenceDecisionVersion = actionVersion := by
  unfold approvalBindingRefusal at agreed
  split at agreed
  · simp at agreed
  · rename_i equal
    simpa only [not_or, not_not] using equal

/-- The authority that a checked escalation rests on. -/
def Escalation.restsOn (escalation : Escalation) : EscalationAuthority where
  proposal := escalation.stored
  parameters := escalation.payload
  approval := escalation.authority.approval
  binding := escalation.authority.binding
  issuedWall := escalation.bound.approval.issued.wall
  issuedMonotonicMilliseconds := issuedMonotonic escalation.authority.binding
  evidence := escalation.evidence

/-- The clock window of the domain is the window of the stored approval. -/
theorem Escalation.Checked.window {escalation : Escalation}
    {database : Database} {ingress : OperatorCommandIngress}
    {action : EscalateRescueAction} {now : AuthorizationClock}
    (checked : escalation.Checked host database ingress action now) :
    (0 ≤ escalation.restsOn.wallElapsed now.reading ∧
        escalation.restsOn.wallElapsed now.reading <
          escalation.restsOn.timeToLive) ∧
      0 ≤ escalation.restsOn.monotonicElapsed now.reading ∧
        escalation.restsOn.monotonicElapsed now.reading <
          escalation.restsOn.timeToLive := by
  rcases mapAuthorizationApproval_ok checked.mapped with ⟨mapped, _⟩
  rcases mapApproval_ok mapped with ⟨_, _, _, _, _, _, monotonic, window⟩
  have live := (consume_ok checked.consumes).2.2.2.2.1
  unfold Approval.Live Approval.wallElapsed Approval.monotonicElapsed at live
  rw [monotonic, window] at live
  exact live

theorem Escalation.Checked.holds {escalation : Escalation}
    {database : Database} {ingress : OperatorCommandIngress}
    {action : EscalateRescueAction} {now : AuthorizationClock}
    (checked : escalation.Checked host database ingress action now) :
    escalation.restsOn.Holds host database ingress.payload.missionId action
      now := by
  rcases mapAuthorizationApproval_ok checked.mapped with
    ⟨mapped, _, _, _, evidenceId, evidenceDigest, evidenceVersion, epoch⟩
  rcases mapApproval_ok mapped with
    ⟨_, state, mission, proposal, digest, wall, _, _⟩
  rcases consume_ok checked.consumes with
    ⟨approved, sameMission, sameProposal, sameDigest, _, _⟩
  rcases proposalMatches_eq_true.1 checked.proposalExact with
    ⟨_, _, _, columns, consistent⟩
  rcases decisionMatches_eq_true.1 checked.evidenceExact with
    ⟨_, _, _, _, _, contributing, corroborated, ofProposal, ofDigest, ofId,
      digestCited, versionCited⟩
  rcases approvalBindingRefusal_none checked.bindingExact with
    ⟨boundId, boundDigest, boundVersion⟩
  have bound :
      escalation.authority.binding.authority.map
          StoredApprovalAuthority.runtimeEpoch = some now.runtimeEpoch := by
    rw [← epoch, checked.epoch]
  exact
    { proposal := checked.proposal
      proposalMission := checked.mission.symm
      decoded := checked.decoded
      columns := columns
      approval := checked.approval
      approved := by rw [← approved, state]; rfl
      approvalProposal := by
        rw [show escalation.restsOn.approval.proposalId =
          escalation.bound.approval.proposalId from proposal.symm]
        exact sameProposal.symm
      approvalMission := by
        rw [checked.mission]
        rw [show escalation.restsOn.approval.missionId =
          escalation.bound.approval.missionId from mission.symm]
        exact sameMission.symm
      digest := by
        rw [show escalation.restsOn.approval.proposalDigest =
          escalation.bound.approval.proposalDigest from digest.symm]
        exact sameDigest
      binding := checked.binding
      epoch := by
        simp only [Escalation.restsOn, issuedMonotonic]
        rcases held : escalation.authority.binding.authority with
          _ | authority
        · simp [held] at bound
        · simp only [held, Option.map_some, Option.some.injEq] at bound
          simp [← bound]
      issued := wall
      wallWindow := checked.window.1
      monotonicWindow := checked.window.2
      evidence := checked.evidence
      contributing := contributing
      corroborated := corroborated
      evidenceProposal :=
        ⟨ofProposal.trans consistent.1.symm,
          ofDigest.trans consistent.2.1.symm⟩
      cited := ⟨ofId, digestCited, versionCited⟩
      boundEvidence :=
        ⟨evidenceId.symm.trans (boundId.trans ofId.symm),
          evidenceDigest.symm.trans (boundDigest.trans digestCited.symm),
          evidenceVersion.symm.trans
            (boundVersion.trans versionCited.symm)⟩ }

/-- The payload built for a checked escalation carries what it rests on. -/
theorem Escalation.Checked.carried {escalation : Escalation}
    {database : Database} {ingress : OperatorCommandIngress}
    {action : EscalateRescueAction} {now : AuthorizationClock}
    {data : Value.Members}
    (checked : escalation.Checked host database ingress action now)
    (asked : ingress.payload.action = .escalateRescue action)
    (built :
      commandPayload ingress
        (escalation.decision.approval.map BoundApproval.approvalId) =
        .ok data) :
    escalation.restsOn.Carried data := by
  rcases mapAuthorizationApproval_ok checked.mapped with
    ⟨_, _, approvalId, _⟩
  rcases (proposalMatches_eq_true.1 checked.proposalExact).2.2.2.2 with
    ⟨proposalId, proposalDigest, droneId, _, latitude, longitude⟩
  rcases checked.holds.cited with ⟨evidenceId, evidenceDigest, version⟩
  simp only [commandPayload, asked, bind_eq_ok, present_eq_ok,
    pure_eq_ok, Escalation.decision, Decision.approval,
    Option.map_some, Option.some.injEq, exists_eq_left'] at built
  subst built
  constructor
  · exact congrArg Value.text checked.mission
  · exact congrArg Value.text droneId.symm
  · exact congrArg Value.int latitude.symm
  · exact congrArg Value.int longitude.symm
  · exact congrArg Value.text proposalId.symm
  · exact congrArg Value.text proposalDigest.symm
  · exact congrArg Value.text evidenceId.symm
  · exact congrArg Value.text evidenceDigest.symm
  · exact congrArg Value.int version.symm
  · exact congrArg Value.text approvalId

/-! ## Staged commands -/

/-- A command that a committed call added was built for its decision. -/
theorem Committed.staged {before after : Database}
    {ingress : OperatorCommandIngress} {identity : InboxIdentity}
    {stamp : AuthorizationStamp} {now : AuthorizationClock}
    {result : AuthorizationResult} {row : CommandOutboxRow}
    (committed :
      Committed host before after ingress identity stamp now result)
    (member : row ∈ after.commandOutbox.rows)
    (fresh : row ∉ before.commandOutbox.rows) :
    ∃ claim decision artifacts progress,
      Written host before after ingress identity stamp claim decision
          artifacts ∧
        Decided host before ingress now decision ∧
        decision.isAuthorized = true ∧
        artifacts.command = some (row.command, progress) ∧
        commandEffects host ingress stamp
            (decision.approval.map BoundApproval.approvalId) =
          .ok (row.command, progress) := by
  cases committed with
  | redelivery _ _ _ _ _ _ unchanged =>
      rw [unchanged] at member
      exact absurd member fresh
  | prior _ _ frame _ =>
      rw [frame] at member
      exact absurd member fresh
  | decided claim decision artifacts _ made written =>
      rw [written.commandOutbox, List.mem_append] at member
      have added := member.resolve_left fresh
      have parts := (buildAuthorizationArtifacts_ok written.built).2.2
      unfold stagedCommands at added
      cases held : artifacts.command with
      | none => simp [held] at added
      | some pair =>
          rcases pair with ⟨command, progress⟩
          simp only [held, Option.elim_some, List.mem_singleton] at added
          subst added
          cases authorized : decision.isAuthorized with
          | false => simp [authorized, held] at parts
          | true =>
              simp only [authorized, if_true, held, Option.some.injEq]
                at parts
              rcases parts with ⟨_, effects, rfl⟩
              exact ⟨claim, decision, artifacts, progress, written, made,
                authorized, held, effects⟩

/--
Every escalation that a call stages is authorized in the database before the
call, and its payload is the canonical encoding of that authority.
-/
theorem stagedEscalation_sound (observedAt : String)
    (settlement : SettlementPort) (delivery : GuaranteedDelivery)
    (stamp : AuthorizationStamp) (now : AuthorizationClock)
    (before : World) (row : CommandOutboxRow)
    (member :
      row ∈ (exec (handleOperatorCommand host
        (storeAuthorizationTransaction host) observedAt settlement delivery
        stamp now) before).2.database.commandOutbox.rows)
    (fresh : row ∉ before.database.commandOutbox.rows)
    (escalates : IsEscalation row.command) :
    ∃ (ingress : OperatorCommandIngress) (action : EscalateRescueAction)
      (authority : EscalationAuthority) (data : Value.Members),
      acceptIngress host delivery.payload delivery.topic =
          .ok (.operatorCommand ingress) ∧
        ingress.payload.action = .escalateRescue action ∧
        authority.Holds host before.database ingress.payload.missionId
          action now ∧
        Value.get "data" row.command.payload.document = .object data ∧
        canonicalBytes host (.object row.command.payload.document) =
          .ok row.command.payload.bytes ∧
        authority.Carried data := by
  rcases handleOperatorCommand_database observedAt settlement delivery stamp
      now before with
    same | ⟨ingress, identity, result, accepted, _, committed⟩
  · rw [same] at member
    exact absurd member fresh
  · rcases committed.staged member fresh with
      ⟨_, decision, _, _, _, made, authorized, _, effects⟩
    rcases commandEffects_ok effects with
      ⟨⟨data, payload, carried⟩, encodes, typed, _, _⟩
    cases made with
    | refusal reason => simp [Decision.isAuthorized] at authorized
    | assignment action asked =>
        unfold IsEscalation at escalates
        rw [typed, asked] at escalates
        simp [commandKind, escalationType] at escalates
    | escalation action asked escalation checked =>
        exact ⟨ingress, action, escalation.restsOn, data, accepted, asked,
          checked.holds, carried, encodes, checked.carried asked payload⟩

/-! ## A sample authority -/

/-- `proposal_digest` of the sample proposal. -/
def sampleProposalDigest : String :=
  "d14b665950854278d69ef90e7a353810615e9abda5e77cb731a5fa74b129343e"

/-- `evidence_decision_digest` of the sample evidence decision. -/
def sampleEvidenceDigest : String :=
  "6626a0d0bd5cd1f83ad77f907989dba7f5f27ed349370d34f7aa3e8cec570b7a"

/-- The traceparent of the sample events. -/
def sampleTraceparent : String :=
  "00-0000000000000000000000000000000a-000000000000000b-01"

/-- The escalation that the sample command asks for. -/
def sampleAction : EscalateRescueAction where
  droneId := ⟨"drone-1", by decide⟩
  proposalId := ⟨"proposal-1", by decide⟩
  proposalDigest := ⟨sampleProposalDigest, by decide +kernel⟩
  evidenceDecisionId := ⟨"decision-1", by decide⟩
  evidenceDecisionDigest := ⟨sampleEvidenceDigest, by decide +kernel⟩
  latitudeMicrodegrees := ⟨1000000, by decide⟩
  longitudeMicrodegrees := ⟨2000000, by decide⟩

/-- The payload of the sample command. -/
def samplePayload : OperatorCommandPayload where
  missionId := ⟨"mission-1", by decide⟩
  commandId := ⟨"command-1", by decide⟩
  operatorId := ⟨"operator-1", by decide⟩
  action := .escalateRescue sampleAction

/-- The envelope of the sample command. -/
def sampleEnvelope : Envelope where
  id := "event-1"
  source := "urn:aerial-rescue:dashboard-api:runtime-1"
  type := "aerial-rescue.v1.operator.command.escalate-rescue"
  subject := "mission-1"
  time := "2026-01-01T00:00:10.000Z"
  dataschema := schemaBase ++ "operator-command" ++ ".schema.json"
  sequence := "000000000000001"
  correlationId := "correlation-1"
  traceparent := sampleTraceparent
  data :=
    [ ("operatorCommandVersion", .int 1),
      ("missionId", .text "mission-1"),
      ("commandId", .text "command-1"),
      ("operatorId", .text "operator-1"),
      ("action", .object (OperatorAction.document (.escalateRescue sampleAction))) ]
  causationId := none
  tracestate := none

/-- The topic of the sample command. -/
def sampleTopic : Topic where
  family := .operatorCommand
  missionId := "mission-1"
  parameters := [("commandType", "escalate-rescue")]

/-- The sample command, validated. -/
def sampleIngress : OperatorCommandIngress :=
  ⟨sampleTopic, sampleEnvelope, samplePayload⟩

/-- The stamp of the sample decision. -/
def sampleStamp : AuthorizationStamp where
  producerId := "epoch-1"
  commandEventId := "command-event-1"
  auditRecordId := "record-1"
  auditEventId := "audit-event-1"
  occurredAt := "2026-01-01T00:00:10.000Z"
  commandSequence := 1
  auditSequence := 2
  traceparent := sampleTraceparent
  tracestate := none

/-- The clocks of the sample decision. -/
def sampleClock : AuthorizationClock where
  reading := ⟨⟨2026, 1, 1, 0, 0, 10, 0, by decide⟩, 10000000⟩
  runtimeEpoch := "epoch-1"

/-- The payload of the sample proposal. -/
def sampleProposalPayload : Value.Members :=
  [ ("canonicalizationVersion", .int 1),
    ("proposalVersion", .int 1),
    ("missionId", .text "mission-1"),
    ("proposalId", .text "proposal-1"),
    ("proposalType", .text "candidate-location"),
    ("agentName", .text "planner"),
    ("sourceInvocationId", .text "invocation-1"),
    ("sourceEventId", .text "event-0"),
    ("sourceEventDigest", .text
      "0000000000000000000000000000000000000000000000000000000000000000"),
    ("commandType", .text "escalate-rescue"),
    ("droneId", .text "drone-1"),
    ("latitudeMicrodegrees", .int 1000000),
    ("longitudeMicrodegrees", .int 2000000),
    ("proposalDigest", .text sampleProposalDigest) ]

/-- The payload of the sample evidence decision. -/
def sampleEvidencePayload : Value.Members :=
  [ ("canonicalizationVersion", .int 1),
    ("evidenceDecisionVersion", .int 1),
    ("missionId", .text "mission-1"),
    ("proposalId", .text "proposal-1"),
    ("proposalDigest", .text sampleProposalDigest),
    ("proposalVersion", .int 1),
    ("evidenceDecisionId", .text "decision-1"),
    ("outcome", .text "contributing"),
    ("scoreVersion", .int 1),
    ("score", .int 3),
    ("band", .text "corroborated"),
    ("contributors", .array [.text "drone-1"]),
    ("evidenceDecisionDigest", .text sampleEvidenceDigest) ]

/-- The action that the sample approval binds. -/
def sampleApprovalAction : ApprovalAction where
  droneId := ⟨"drone-1", by decide⟩
  latitudeMicrodegrees := ⟨1000000, by decide⟩
  longitudeMicrodegrees := ⟨2000000, by decide⟩

/-- What the audit event of the sample decision is built from. -/
def sampleAuditSpec : EventSpec where
  topic := auditTopic sampleIngress
  eventId := "audit-event-1"
  sequence := 2
  payload :=
    [ ("auditVersion", .int 1),
      ("missionId", .text "mission-1"),
      ("recordId", .text "record-1"),
      ("recordType", .text "command-authorization"),
      ("commandId", .text "command-1"),
      ("operatorId", .text "operator-1"),
      ("action", .object (OperatorAction.document (.escalateRescue sampleAction))),
      ("outcome", .text "authorized"),
      ("approvalId", .text "approval-1") ]

/-- What the command event of the sample decision is built from. -/
def sampleCommandSpec : EventSpec where
  topic := commandTopic sampleIngress
  eventId := "command-event-1"
  sequence := 1
  payload :=
    [ ("missionId", .text "mission-1"),
      ("droneId", .text "drone-1"),
      ("commandId", .text "command-1"),
      ("approvalId", .text "approval-1"),
      ("proposalId", .text "proposal-1"),
      ("proposalDigest", .text sampleProposalDigest),
      ("proposalVersion", .int 1),
      ("evidenceDecisionId", .text "decision-1"),
      ("evidenceDecisionDigest", .text sampleEvidenceDigest),
      ("evidenceDecisionVersion", .int 1),
      ("latitudeMicrodegrees", .int 1000000),
      ("longitudeMicrodegrees", .int 2000000) ]

/-- The audit event of the sample decision. -/
def sampleAuditEvent : Value.Members :=
  eventDocument sampleIngress sampleStamp sampleAuditSpec
    "aerial-rescue.v1.audit.command-authorization"
    (schemaBase ++ "audit" ++ ".schema.json") "000000000000002"

/-- The envelope of the audit event. -/
def sampleAuditEnvelope : Envelope :=
  eventEnvelope sampleIngress sampleStamp sampleAuditSpec
    "aerial-rescue.v1.audit.command-authorization"
    (schemaBase ++ "audit" ++ ".schema.json") "000000000000002"

/-- The command event of the sample decision. -/
def sampleCommandEvent : Value.Members :=
  eventDocument sampleIngress sampleStamp sampleCommandSpec escalationType
    (schemaBase ++ "drone-command-escalate-rescue" ++ ".schema.json")
    "000000000000001"

/-- The envelope of the command event. -/
def sampleStagedEnvelope : Envelope :=
  eventEnvelope sampleIngress sampleStamp sampleCommandSpec escalationType
    (schemaBase ++ "drone-command-escalate-rescue" ++ ".schema.json")
    "000000000000001"

/-- The acknowledgement of the sample command. -/
def sampleResult : Envelope where
  id := "result-1"
  source := "urn:aerial-rescue:drone:drone-1"
  type := "aerial-rescue.v1.drone.command-result"
  subject := "mission-1"
  time := "2026-01-01T00:00:20.000Z"
  dataschema := schemaBase ++ "drone-command-result" ++ ".schema.json"
  sequence := "000000000000001"
  correlationId := "correlation-1"
  traceparent := sampleTraceparent
  data :=
    [ ("missionId", .text "mission-1"),
      ("droneId", .text "drone-1"),
      ("commandId", .text "command-1"),
      ("outcome", .text "acknowledged") ]
  causationId := none
  tracestate := none

/-- Every text of the sample that a step reads. -/
def sampleDocuments : List Value :=
  [ .object (envelopeDocument sampleEnvelope),
    .object sampleProposalPayload,
    .object sampleEvidencePayload,
    .object sampleApprovalAction.document,
    .array [.text "drone-1"],
    .object sampleAuditEvent,
    .object sampleCommandEvent,
    .object (envelopeDocument sampleResult) ]

/-- The places at which the texts of the sample differ. -/
def sampleView (bytes : Bytes) :
    Option UInt8 × Option UInt8 × Option UInt8 :=
  (bytes[2]?, bytes[42]?, bytes[67]?)

/-- The digests of the sample payloads. -/
def sampleSha256 (bytes : Bytes) : String :=
  match bytes.drop 27 with
  | 112 :: _ => sampleProposalDigest
  | 101 :: _ => sampleEvidenceDigest
  | 105 :: _ =>
      "b87176a201f4175683ae487a249fd268a018d727cf270061071acd6a19567bc7"
  | _ =>
      match bytes.drop 42 with
      | 97 :: _ =>
          "03359f03689dc6f9f00dc1652a89a11d27c868b6e2ee51b40c65a0161d3e3cc3"
      | _ =>
          "a225f15b7fb7e76ac5efc3abae28261a54ca722c6fc4078f6d147530b24830d8"

/-- The runtime of the sample. -/
def sampleHost : Host where
  loads := loadsFrom sampleDocuments
  nfc := id
  sha256 := sampleSha256

/-- The proposal row of the sample. -/
def sampleProposal : StoredProposal where
  proposalId := "proposal-1"
  missionId := "mission-1"
  sourceEventId := "event-0"
  sourceEventDigest :=
    "0000000000000000000000000000000000000000000000000000000000000000"
  agentName := "planner"
  invocationId := "invocation-1"
  proposalType := "candidate-location"
  proposalDigest := sampleProposalDigest
  payload := bytesOf (.object sampleProposalPayload)
  droneId := "drone-1"
  latitudeMicrodegrees := 1000000
  longitudeMicrodegrees := 2000000
  commandType := "escalate-rescue"
  issuedAt := "2026-01-01T00:00:00.000Z"
  sequence := 0
  correlationId := "correlation-0"
  causationId := none
  traceparent := sampleTraceparent

/-- The evidence row of the sample. -/
def sampleEvidence : StoredEvidenceDecision where
  decisionId := "decision-1"
  missionId := "mission-1"
  proposalId := "proposal-1"
  proposalDigest := sampleProposalDigest
  decisionDigest := sampleEvidenceDigest
  decisionVersion := 1
  scoreVersion := some 1
  score := some 3
  band := some .corroborated
  outcome := .contributing
  contributors := some (bytesOf (.array [.text "drone-1"]))
  payload := bytesOf (.object sampleEvidencePayload)
  decidedAt := "2026-01-01T00:00:00.000Z"
  sequence := 0

/-- The approval row and its binding in the sample. -/
def sampleAuthority : StoredAuthorizationApproval where
  approval :=
    { missionId := "mission-1"
      proposalId := "proposal-1"
      state := .approved
      operatorIdentity := "operator-1"
      issuedWall := "2026-01-01T00:00:00.000Z"
      issuedMonotonicMilliseconds := 0
      timeToLiveMilliseconds := 60000
      proposalDigest := sampleProposalDigest }
  binding :=
    { approvalId := "approval-1"
      proposalId := "proposal-1"
      proposalVersion := 1
      evidenceDecisionId := "decision-1"
      evidenceDecisionDigest := sampleEvidenceDigest
      evidenceDecisionVersion := 1
      decision := .approve
      actionPayload := bytesOf (.object sampleApprovalAction.document)
      decisionRuntimeId := "runtime-1"
      authority := some ⟨"epoch-1", 0⟩
      expiresAt := some "2026-01-01T00:01:00.000Z" }

/-- A database with the sample authority and no other row. -/
def sampleDatabase : Database :=
  { Database.empty with
    proposals := ⟨[sampleProposal], by simp⟩
    decisions := ⟨[sampleEvidence], by simp⟩
    approvals := ⟨[sampleAuthority.approval], by simp⟩
    bindings := ⟨[sampleAuthority.binding], by simp⟩ }

/-- The approval of the sample, before and after it is consumed. -/
def sampleApproval (state : ApprovalState) : Approval where
  state := state
  operatorIdentity := "operator-1"
  issued := ⟨⟨2026, 1, 1, 0, 0, 0, 0, by decide⟩, 0⟩
  timeToLive := 60000000
  missionId := "mission-1"
  proposalId := "proposal-1"
  proposalDigest := sampleProposalDigest

/-- The binding of the sample, before and after its approval is consumed. -/
def sampleBound (state : ApprovalState) : BoundApproval where
  approvalId := "approval-1"
  approval := sampleApproval state
  durableApproval := sampleAuthority.approval
  evidenceDecisionId := "decision-1"
  evidenceDecisionDigest := sampleEvidenceDigest
  evidenceDecisionVersion := 1
  action := sampleApprovalAction
  runtimeEpoch := some "epoch-1"

/-- How the records of the sample agree, field by field. -/
structure SampleRecords : Prop where
  follows : sampleEnvelope.Follows
  topic :
    parseTopic
      "aerial-rescue/v1/mission-1/operator/command/escalate-rescue" =
      .ok sampleTopic
  bound : checkTopicBinding sampleEnvelope sampleTopic = .ok ()
  payload : readOperatorCommand sampleEnvelope.data = some samplePayload
  mapped : mapApproval sampleAuthority = .ok (sampleApproval .approved)
  contributors :
    memberEq sampleEvidencePayload "contributors"
      (.array [.text "drone-1"]) = true
  consumed :
    consume sampleHost (sampleApproval .approved)
      ⟨"mission-1", "proposal-1", sampleProposalPayload⟩
      sampleClock.reading = .ok (sampleApproval .executed)
  proposalMembers :
    proposalMembersMatch sampleProposal sampleProposalPayload = true
  proposalDigest :
    proposalDigestMatches sampleHost sampleProposalPayload = .ok true
  proposalColumns :
    proposalColumnsMatch sampleProposal sampleProposalPayload = true
  proposalAction : ActionConsistent sampleProposal sampleAction
  decisionMembers : decisionMembersMatch sampleEvidencePayload = true
  decisionDigest :
    evidenceDecisionDigestMatches sampleHost sampleEvidencePayload =
      .ok true
  decisionColumns :
    decisionColumnsMatch sampleEvidence sampleEvidencePayload = true
  supports : DecisionSupports sampleEvidence sampleAction
  agreed :
    approvalBindingRefusal (sampleBound .approved) sampleAction = none
  stored :
    storedApproval (sampleBound .executed) =
      .ok { sampleAuthority.approval with state := .executed }
  action :
    present (readApprovalAction (.object sampleApprovalAction.document))
        (Failure.adapter .action) =
      .ok sampleApprovalAction

/-- How the events of the sample decision are formed, step by step. -/
structure SampleEvents : Prop where
  staged : sampleStagedEnvelope.Follows
  commandSequence : sequenceText 1 = some "000000000000001"
  commandTopic :
    formatTopic (commandTopic sampleIngress) =
      .ok "aerial-rescue/v1/mission-1/drone/drone-1/command/escalate-rescue"
  commandRead :
    parseTopic
      "aerial-rescue/v1/mission-1/drone/drone-1/command/escalate-rescue" =
      .ok (Gateway.commandTopic sampleIngress)
  commandType :
    eventType (Gateway.commandTopic sampleIngress) = .ok escalationType
  commandBinding :
    bindingFor escalationType =
      .ok (binding "drone.command.escalate-rescue" .droneCommand
        "drone-command-escalate-rescue" (some "command-gateway"))
  commandBound :
    checkTopicBinding sampleStagedEnvelope
      (Gateway.commandTopic sampleIngress) = .ok ()
  audited : sampleAuditEnvelope.Follows
  auditSequence : sequenceText 2 = some "000000000000002"
  auditTopic :
    formatTopic (auditTopic sampleIngress) =
      .ok "aerial-rescue/v1/mission-1/audit/command-authorization"
  auditRead :
    parseTopic "aerial-rescue/v1/mission-1/audit/command-authorization" =
      .ok (Gateway.auditTopic sampleIngress)
  auditType :
    eventType (Gateway.auditTopic sampleIngress) =
      .ok "aerial-rescue.v1.audit.command-authorization"
  auditBinding :
    bindingFor "aerial-rescue.v1.audit.command-authorization" =
      .ok (binding "audit.command-authorization" .audit "audit"
        (some "command-gateway"))
  auditBound :
    checkTopicBinding sampleAuditEnvelope
      (Gateway.auditTopic sampleIngress) = .ok ()
  headers :
    canonicalBytes sampleHost (.object []) = .ok (bytesOf (.object []))
  result :
    canonicalBytes sampleHost
        (.object (resultDocument sampleIngress true none)) =
      .ok (bytesOf (.object (resultDocument sampleIngress true none)))
  digested :
    (digest sampleHost .idempotencyBody
      [ ("canonicalizationVersion", .int 1),
        ("body", .object (envelopeDocument sampleEnvelope)) ]).isOk = true

/-- What the sample comes to, evaluated in one place. -/
theorem sampleFacts :
    (sampleDocuments.map fun held => (plainBytes held).map sampleView) =
        [ some (some 99, some 97, some 115),
          some (some 97, some 114, some 115),
          some (some 98, some 114, some 34),
          some (some 99, some 58, some 100), some (some 100, none, none),
          some (some 99, some 99, some 99),
          some (some 99, some 99, some 112),
          some (some 99, some 99, some 114) ] ∧
      SampleRecords ∧ SampleEvents := by
  refine ⟨by decide +kernel, ?_, ?_⟩
  · constructor <;> decide +kernel
  · constructor <;> decide +kernel

theorem sampleViews :
    (sampleDocuments.map fun held => sampleView (bytesOf held)) =
      [ (some 99, some 97, some 115), (some 97, some 114, some 115),
        (some 98, some 114, some 34), (some 99, some 58, some 100),
        (some 100, none, none), (some 99, some 99, some 99),
        (some 99, some 99, some 112), (some 99, some 99, some 114) ] :=
  map_view_bytesOf sampleFacts.1

theorem sampleRecords : SampleRecords :=
  sampleFacts.2.1

theorem sampleEvents : SampleEvents :=
  sampleFacts.2.2

/-- Every text of the sample is read back. -/
theorem sampleDecode {document : Value}
    (member : document ∈ sampleDocuments) :
    canonicalBytes sampleHost document = .ok (bytesOf document) ∧
      decode sampleHost (bytesOf document) = .ok document := by
  have distinct :
      (sampleDocuments.map fun held => sampleView (bytesOf held)).Nodup := by
    rw [sampleViews]
    decide
  have encodes : bytesOf document ≠ [] := by
    intro empty
    have viewed :
        sampleView (bytesOf document) ∈
          sampleDocuments.map fun held => sampleView (bytesOf held) :=
      List.mem_map_of_mem member
    rw [sampleViews, empty] at viewed
    revert viewed
    decide
  exact ⟨canonicalBytes_bytesOf rfl encodes,
    decode_bytesOf rfl (loadsFrom_bytesOf sampleView distinct member)
      encodes⟩

/-- An envelope that a text of the sample spells is read back. -/
theorem sampleEnvelope_formed {members : Value.Members}
    {envelope : Envelope} (member : .object members ∈ sampleDocuments)
    (spells : Spells members envelope) (follows : envelope.Follows) :
    envelope.WellFormed sampleHost ∧
      decodeEnvelope sampleHost (bytesOf (.object members)) =
        .ok envelope := by
  have formed : envelope.WellFormed sampleHost := by
    refine spells.wellFormed ?_ follows
    rw [(sampleDecode member).1]
    rfl
  exact ⟨formed, decodeEnvelope_of (sampleDecode member).2 spells formed⟩

/-- An object of the sample is decoded and equals its own bytes. -/
theorem sampleObject {members : Value.Members}
    (member : .object members ∈ sampleDocuments) :
    canonicalObject sampleHost (bytesOf (.object members)) = some members ∧
      bytesMatch sampleHost members (bytesOf (.object members)) =
        .ok true := by
  simp only [canonicalObject, bytesMatch, (sampleDecode member).1,
    (sampleDecode member).2, bind_eq_ok, recast_eq_ok, pure_eq_ok]
  exact ⟨trivial, _, rfl, decide_eq_true rfl⟩

/-- The sample delivery. -/
def sampleDelivery : GuaranteedDelivery where
  topic := "aerial-rescue/v1/mission-1/operator/command/escalate-rescue"
  payload := bytesOf (.object (envelopeDocument sampleEnvelope))

/-- The sample command crosses the boundary. -/
theorem sampleAccepted :
    acceptIngress sampleHost sampleDelivery.payload sampleDelivery.topic =
      .ok (.operatorCommand sampleIngress) := by
  have member :
      Value.object (envelopeDocument sampleEnvelope) ∈ sampleDocuments := by
    simp [sampleDocuments]
  have formed := sampleEnvelope_formed member (spells_envelopeDocument _)
    sampleRecords.follows
  simp only [sampleDelivery]
  exact acceptIngress_operatorCommand sampleRecords.topic rfl formed.2
    sampleRecords.bound sampleRecords.payload

theorem sampleAuthorityRead :
    AuthorityRead sampleHost sampleDatabase sampleAction.proposalId sampleProposal
      (sampleBound .approved) := by
  have member :
      Value.object sampleApprovalAction.document ∈ sampleDocuments := by
    simp [sampleDocuments]
  have action :
      storedAction sampleHost sampleAuthority.binding.actionPayload =
        .ok sampleApprovalAction := by
    simp only [storedAction, sampleAuthority, (sampleDecode member).2]
    exact sampleRecords.action
  refine ⟨Table.find?_eq_some.2 ⟨by simp [sampleDatabase], rfl⟩,
    sampleAuthority,
    ⟨Table.find?_eq_some.2 ⟨by simp [sampleDatabase], rfl⟩, rfl, by decide⟩, ?_⟩
  simp only [mapAuthorizationApproval, bind_eq_ok, ensure_eq_ok,
    exists_const, pure_eq_ok]
  exact ⟨_, sampleRecords.mapped, _, action, by decide, rfl⟩

theorem sampleProposal_decoded :
    canonicalObject sampleHost sampleProposal.payload =
        some sampleProposalPayload ∧
      bytesMatch sampleHost sampleProposalPayload sampleProposal.payload =
        .ok true := by
  have member : Value.object sampleProposalPayload ∈ sampleDocuments := by
    simp [sampleDocuments]
  simp only [sampleProposal]
  exact sampleObject member

theorem sampleEvidence_decoded :
    canonicalObject sampleHost sampleEvidence.payload =
        some sampleEvidencePayload ∧
      bytesMatch sampleHost sampleEvidencePayload sampleEvidence.payload =
        .ok true ∧
      contributorsMatch sampleHost sampleEvidence sampleEvidencePayload =
        .ok true := by
  have member : Value.object sampleEvidencePayload ∈ sampleDocuments := by
    simp [sampleDocuments]
  have contributors : Value.array [.text "drone-1"] ∈ sampleDocuments := by
    simp [sampleDocuments]
  simp only [sampleEvidence, contributorsMatch, (sampleDecode contributors).2,
    bind_eq_ok, recast_eq_ok, pure_eq_ok]
  exact ⟨(sampleObject member).1, (sampleObject member).2, _, rfl,
    sampleRecords.contributors⟩

theorem sampleConsumes :
    consumeBoundApproval sampleHost (sampleBound .approved) sampleProposal
      (some sampleProposalPayload) sampleClock =
      .ok (.ok (sampleBound .executed)) :=
  consumeBoundApproval_of rfl sampleRecords.consumed

theorem sampleExact :
    escalationExact sampleHost sampleIngress sampleAction sampleProposal =
      .ok true := by
  have matched :
      proposalMatches sampleHost sampleProposal sampleAction
        sampleProposalPayload = .ok true :=
    proposalMatches_eq_true.2
      ⟨sampleRecords.proposalMembers, sampleProposal_decoded.2,
        sampleRecords.proposalDigest, sampleRecords.proposalColumns,
        sampleRecords.proposalAction⟩
  exact escalationExact_of sampleProposal_decoded.1 (by decide) matched

theorem sampleSupported :
    EvidenceRead sampleHost sampleDatabase sampleAction none := by
  have matched :
      decisionMatches sampleHost sampleEvidence sampleAction
        sampleEvidencePayload = .ok true :=
    decisionMatches_eq_true.2
      ⟨sampleRecords.decisionMembers, sampleEvidence_decoded.2.1,
        sampleRecords.decisionDigest, sampleRecords.decisionColumns,
        sampleEvidence_decoded.2.2, sampleRecords.supports⟩
  exact .compared sampleEvidence sampleEvidencePayload true
    (Table.find?_eq_some.2 ⟨by simp [sampleDatabase], rfl⟩) (by decide)
    sampleEvidence_decoded.1 matched

/-- The sample authority authorizes the sample command. -/
theorem sampleDecides :
    Decides sampleHost sampleDatabase sampleIngress sampleClock
      (.authorized (some (sampleBound .executed))) := by
  have consumes := sampleConsumes
  rw [← sampleProposal_decoded.1] at consumes
  exact .consumed sampleAction rfl sampleProposal (sampleBound .approved)
    (sampleBound .executed) sampleAuthorityRead consumes _
    (.agreed sampleExact sampleSupported sampleRecords.agreed)

/-- The command that the sample decision stages. -/
def sampleStaged : StagedCommand where
  commandId := "command-1"
  missionId := "mission-1"
  droneId := "drone-1"
  payload := ⟨sampleCommandEvent, bytesOf (.object sampleCommandEvent)⟩
  correlationId := "correlation-1"
  causationId := some "event-1"
  traceparent := sampleTraceparent
  stagedAt := "2026-01-01T00:00:10.000Z"

/-- The envelope of the staged command is read back from its bytes. -/
theorem sampleStaged_formed :
    sampleStagedEnvelope.WellFormed sampleHost ∧
      decodeEnvelope sampleHost (bytesOf (.object sampleCommandEvent)) =
        .ok sampleStagedEnvelope := by
  have member : Value.object sampleCommandEvent ∈ sampleDocuments := by
    simp [sampleDocuments]
  exact sampleEnvelope_formed member (spells_eventDocument _ _ _ _ _ _)
    sampleEvents.staged

theorem sampleCommandEffects :
    commandEffects sampleHost sampleIngress sampleStamp
      (some "approval-1") =
      .ok (sampleStaged, ⟨"command-1", "mission-1", "drone-1"⟩) := by
  have member : Value.object sampleCommandEvent ∈ sampleDocuments := by
    simp [sampleDocuments]
  have built :
      event sampleHost sampleIngress sampleStamp sampleCommandSpec =
        .ok ⟨sampleCommandEvent, bytesOf (.object sampleCommandEvent)⟩ :=
    event_of sampleEvents.commandSequence sampleEvents.commandTopic
      sampleEvents.commandRead sampleEvents.commandType
      sampleEvents.commandBinding sampleStaged_formed.1
      sampleEvents.commandBound (sampleDecode member).1
  simp only [commandEffects, bind_eq_ok, pure_eq_ok]
  exact ⟨sampleCommandSpec.payload, rfl, _, built, rfl⟩

theorem sampleAuditEffects :
    ∃ effects,
      auditEffects sampleHost sampleIngress sampleStamp true
        (some "approval-1") none = .ok effects := by
  have member : Value.object sampleAuditEvent ∈ sampleDocuments := by
    simp [sampleDocuments]
  have read :
      sampleAuditEnvelope.WellFormed sampleHost ∧
        decodeEnvelope sampleHost (bytesOf (.object sampleAuditEvent)) =
          .ok sampleAuditEnvelope :=
    sampleEnvelope_formed member (spells_eventDocument _ _ _ _ _ _)
      sampleEvents.audited
  have built :
      event sampleHost sampleIngress sampleStamp sampleAuditSpec =
        .ok ⟨sampleAuditEvent, bytesOf (.object sampleAuditEvent)⟩ :=
    event_of sampleEvents.auditSequence sampleEvents.auditTopic
      sampleEvents.auditRead sampleEvents.auditType
      sampleEvents.auditBinding read.1 sampleEvents.auditBound
      (sampleDecode member).1
  simp only [auditEffects, bind_eq_ok, recast_eq_ok, pure_eq_ok]
  exact ⟨_, sampleAuditSpec.payload, rfl, _, built, _,
    sampleEvents.auditTopic, _, sampleEvents.headers, _, read.2, rfl⟩

/-- The sample database takes the effect set of the sample decision. -/
theorem samplePersistable :
    Persistable sampleHost sampleDatabase sampleIngress sampleStamp
      (.authorized (some (sampleBound .executed))) := by
  refine ⟨?_, ?_, rfl, rfl, fun _ => ⟨by decide, rfl, rfl⟩⟩
  · rcases sampleAuditEffects with ⟨⟨record, staged⟩, audit⟩
    refine ⟨⟨record, staged,
      some (sampleStaged, ⟨"command-1", "mission-1", "drone-1"⟩),
      bytesOf (.object (resultDocument sampleIngress true none))⟩, ?_⟩
    simp only [buildAuthorizationArtifacts, Decision.isAuthorized, Decision.approval,
      Decision.reason, bind_eq_ok, recast_eq_ok, if_true, pure_eq_ok]
    exact ⟨_, audit, _, sampleEvents.result, _, sampleCommandEffects, rfl⟩
  · rintro bound ⟨rfl⟩
    exact ⟨_, sampleAuthority.approval, sampleRecords.stored,
      Table.find?_eq_some.2 ⟨by simp [sampleDatabase], rfl⟩, rfl⟩

/-- The inbox identity of the sample delivery. -/
def sampleIdentity : InboxIdentity where
  consumer := consumer
  source := "urn:aerial-rescue:dashboard-api:runtime-1"
  eventId := "event-1"
  missionId := "mission-1"
  canonicalDigest :=
    sampleSha256 (bytesOf (.object (envelopeDocument sampleEnvelope)))

theorem sampleIdentified :
    inboxIdentity sampleHost sampleEnvelope "mission-1" =
      .ok sampleIdentity := by
  have member :
      Value.object (envelopeDocument sampleEnvelope) ∈ sampleDocuments := by
    simp [sampleDocuments]
  simp only [inboxIdentity, bind_eq_ok, recast_eq_ok, pure_eq_ok]
  exact ⟨_, (sampleDecode member).1, rfl⟩

theorem sampleClaimed :
    ∃ claim,
      commandClaim sampleHost sampleIngress sampleStamp.occurredAt =
        .ok claim := by
  have digested := sampleEvents.digested
  cases computed :
      digest sampleHost .idempotencyBody
        [ ("canonicalizationVersion", .int 1),
          ("body", .object (envelopeDocument sampleEnvelope)) ] with
  | error failure =>
      rw [computed] at digested
      cases digested
  | ok bodyDigest =>
      simp only [commandClaim, bind_eq_ok, recast_eq_ok, pure_eq_ok]
      exact ⟨_, bodyDigest, computed, rfl⟩

/-- The sample command is authorized and its escalation is staged. -/
theorem sampleCommits :
    ∃ claim artifacts after,
      exec (operatorCommandBody sampleHost
        (storeAuthorizationTransaction sampleHost) sampleIngress
        sampleIdentity sampleStamp sampleClock) sampleDatabase =
        (.ok ⟨.authorized, artifacts.result, none⟩, after) ∧
      artifacts.command =
        some (sampleStaged, ⟨"command-1", "mission-1", "drone-1"⟩) ∧
      Written sampleHost sampleDatabase after sampleIngress sampleIdentity
        sampleStamp claim (.authorized (some (sampleBound .executed)))
        artifacts := by
  rcases sampleClaimed with ⟨claim, claims⟩
  have narrow : sampleIdentity.source.length ≤ sourceLength := by
    decide
  rcases operatorCommandBody_decided narrow rfl claims rfl sampleDecides
    samplePersistable with ⟨artifacts, after, returned, written⟩
  refine ⟨claim, artifacts, after, returned, ?_, written⟩
  have effects := (buildAuthorizationArtifacts_ok written.built).2.2
  simp only [Decision.isAuthorized, if_true] at effects
  rcases effects with ⟨command, built, held⟩
  have same : Except.ok command = (.ok _ : Except Failure _) :=
    built.symm.trans sampleCommandEffects
  cases same
  exact held

/-- Handling the sample delivery commits the sample decision. -/
theorem sampleHandled (observedAt : String) (settlement : SettlementPort) :
    ∃ claim artifacts after,
      exec (handleOperatorCommand sampleHost
        (storeAuthorizationTransaction sampleHost) observedAt settlement
        sampleDelivery sampleStamp sampleClock) ⟨sampleDatabase, []⟩ =
        exec
          (do
            settlement.accept "event-1"
            pure ⟨.authorized, artifacts.result, none⟩)
          ⟨after, [.committed]⟩ ∧
      artifacts.command =
        some (sampleStaged, ⟨"command-1", "mission-1", "drone-1"⟩) ∧
      Written sampleHost sampleDatabase after sampleIngress sampleIdentity
        sampleStamp claim (.authorized (some (sampleBound .executed)))
        artifacts := by
  rcases sampleCommits with
    ⟨claim, artifacts, after, returned, held, written⟩
  refine ⟨claim, artifacts, after, ?_, held, written⟩
  have selected :
      operatorCommand? (.operatorCommand sampleIngress) =
        some sampleIngress := rfl
  have processed :
      exec (process sampleHost sampleEnvelope "mission-1"
        (fun identity =>
          operatorCommandBody sampleHost
            (storeAuthorizationTransaction sampleHost) sampleIngress
            identity sampleStamp sampleClock) settlement)
        ⟨sampleDatabase, []⟩ =
        exec
          (do
            settlement.accept "event-1"
            pure ⟨.authorized, artifacts.result, none⟩)
          ⟨after, [.committed]⟩ :=
    process_committed settlement sampleIdentified returned
  unfold handleOperatorCommand
  rw [handleDelivery_of_some _ _ _ _ _ _ _ _ _ sampleAccepted selected]
  exact processed

/-- The sample row is staged by a call, under the authority of the sample. -/
theorem stagedEscalation_sound_sample :
    ∃ (ingress : OperatorCommandIngress) (action : EscalateRescueAction)
      (authority : EscalationAuthority) (data : Value.Members),
      acceptIngress sampleHost sampleDelivery.payload sampleDelivery.topic =
          .ok (.operatorCommand ingress) ∧
        ingress.payload.action = .escalateRescue action ∧
        authority.Holds sampleHost sampleDatabase ingress.payload.missionId
          action sampleClock ∧
        Value.get "data" sampleStaged.payload.document = .object data ∧
        canonicalBytes sampleHost (.object sampleStaged.payload.document) =
          .ok sampleStaged.payload.bytes ∧
        authority.Carried data := by
  rcases sampleHandled "2026-01-01T00:00:10.000Z" boundSettlement with
    ⟨_, artifacts, after, handled, held, written⟩
  have member :
      (⟨sampleStaged, .staged⟩ : CommandOutboxRow) ∈
        (exec (handleOperatorCommand sampleHost
          (storeAuthorizationTransaction sampleHost)
          "2026-01-01T00:00:10.000Z" boundSettlement sampleDelivery
          sampleStamp sampleClock)
          ⟨sampleDatabase, []⟩).2.database.commandOutbox.rows := by
    rw [handled, exec_bind_database (boundSettlement.acceptKeeps _ _),
      written.commandOutbox]
    simp [stagedCommands, held]
  exact stagedEscalation_sound "2026-01-01T00:00:10.000Z" boundSettlement
    sampleDelivery sampleStamp sampleClock ⟨sampleDatabase, []⟩
    ⟨sampleStaged, .staged⟩ member (by simp [sampleDatabase, Database.empty])
    rfl

end AerialRescue.Gateway
