import AerialRescue.Gateway.Artifacts

/-!
# Agent response normalization

The exact proposal and audit publications of one agent response, built from the
response, the trusted invocation that is pending for it, and a stamp.  The
model chooses the candidate alone: every identity, instant, sequence, digest
and destination is the gateway's.
-/

namespace AerialRescue.Gateway.Normalization

open AerialRescue.Contracts
open AerialRescue.Contracts.Canonical
open AerialRescue.Contracts.Digest
open AerialRescue.Contracts.Envelopes
open AerialRescue.Contracts.Rpc
open AerialRescue.Contracts.Topics
open AerialRescue.Gateway (producer)
open AerialRescue.Lib.Guard
open AerialRescue.Store

/-- Why trusted context cannot normalize an agent response. -/
inductive NormalizationRefusal where
  | identityMismatch
  | digestMismatch
  | responseKind
  | sequence
deriving DecidableEq

/-- Everything that normalization can end with. -/
inductive NormalizationFailure where
  | refused (refusal : NormalizationRefusal)
  | envelope (failure : EnvelopeFailure)
  | canonicalization (refusal : Refusal)
  | digest (failure : DigestFailure)
deriving DecidableEq

/-- A validated direct agent response. -/
structure AgentResponseIngress where
  topic : Topic
  response : AgentResponse

/-- Trusted forward context stored before the agent works. -/
structure PendingInvocation where
  missionId : String
  agentName : String
  invocationId : String
  correlationId : String
  sourceEventId : String
  sourceEventDigest : String
deriving DecidableEq

/-- Every output member minted outside model control. -/
structure NormalizationStamp where
  producerId : String
  proposalId : String
  proposalEventId : String
  auditRecordId : String
  auditEventId : String
  occurredAt : String
  proposalSequence : Int
  auditSequence : Int
  traceparent : String
  tracestate : Option String
deriving DecidableEq

/-- The optional proposal and the exact events that one response creates. -/
structure NormalizationArtifacts where
  proposal : Option StoredProposal
  events : List StagedApplicationEvent
  result : Bytes

/-- `PROPOSAL_TYPE` -/
def proposalType : String := "candidate-location"

/-- `PROPOSAL_VERSION` -/
def proposalVersion : Int := 1

/-- The record type of a normalization audit. -/
def auditRecordType : String := "proposal-normalization"

/-- `_bind_pending` -/
def bindPending (response : AgentResponse) (pending : PendingInvocation) :
    Except NormalizationFailure Unit := do
  ensure
    (response.missionId = pending.missionId ∧
      response.agentName = pending.agentName ∧
      response.invocationId = pending.invocationId ∧
      response.correlationId = pending.correlationId)
    (.refused .identityMismatch)
  match response.candidate with
  | none => .ok ()
  | some candidate => do
      ensure (candidate.sourceEventId = pending.sourceEventId)
        (.refused .identityMismatch)
      ensure (candidate.sourceEventDigest = pending.sourceEventDigest)
        (.refused .digestMismatch)

/-- The members of a proposal without its digest. -/
def proposalMembers (candidate : AgentCandidate)
    (pending : PendingInvocation) (stamp : NormalizationStamp) :
    Value.Members :=
  [ ("canonicalizationVersion", .int 1),
    ("proposalVersion", .int proposalVersion),
    ("missionId", .text pending.missionId),
    ("proposalId", .text stamp.proposalId),
    ("proposalType", .text candidate.proposalType),
    ("agentName", .text pending.agentName),
    ("sourceInvocationId", .text pending.invocationId),
    ("sourceEventId", .text pending.sourceEventId),
    ("sourceEventDigest", .text pending.sourceEventDigest),
    ("commandType", .text candidate.commandType),
    ("droneId", .text candidate.droneId),
    ("latitudeMicrodegrees", .int candidate.latitudeMicrodegrees),
    ("longitudeMicrodegrees", .int candidate.longitudeMicrodegrees) ]

/-- `_proposal_payload`: the payload with its recomputable digest. -/
def proposalPayload (host : Host) (response : AgentResponse)
    (pending : PendingInvocation) (stamp : NormalizationStamp) :
    Except NormalizationFailure Value.Members := do
  let candidate ← present response.candidate (.refused .responseKind)
  let members := proposalMembers candidate pending stamp
  let digest ← recast NormalizationFailure.digest (proposalDigest host members)
  pure (members ++ [("proposalDigest", .text digest)])

/-- `_audit_payload` -/
def auditPayload (response : AgentResponse) (pending : PendingInvocation)
    (stamp : NormalizationStamp) (proposal : Option Value.Members) :
    Except NormalizationFailure Value.Members := do
  let common : Value.Members :=
    [ ("auditVersion", .int 1),
      ("missionId", .text pending.missionId),
      ("recordId", .text stamp.auditRecordId),
      ("recordType", .text auditRecordType),
      ("agentName", .text pending.agentName),
      ("invocationId", .text pending.invocationId),
      ("correlationId", .text pending.correlationId),
      ("outcome",
        .text (if proposal.isSome then "normalized" else "abstained")) ]
  match proposal with
  | none => do
      let reason ← present response.reason (.refused .responseKind)
      pure (common ++ [("reason", .text reason.word)])
  | some payload =>
      pure (common ++
        [ ("sourceEventId", .text pending.sourceEventId),
          ("sourceEventDigest", .text pending.sourceEventDigest),
          ("proposalId", .text stamp.proposalId),
          ("proposalDigest", Value.get "proposalDigest" payload),
          ("proposalVersion", .int proposalVersion) ])

/-- The family-specific values of one notification. -/
structure EventSpec where
  topic : Topic
  payload : Value.Members
  eventId : String
  sequence : Int

/-- The CloudEvents document of an output event. -/
def eventDocument (pending : PendingInvocation) (stamp : NormalizationStamp)
    (spec : EventSpec) (kind dataschema sequence : String) : Value.Members :=
  [ ("specversion", .text "1.0"),
    ("id", .text spec.eventId),
    ("source", .text ("urn:aerial-rescue:command-gateway:" ++
      stamp.producerId)),
    ("type", .text kind),
    ("subject", .text pending.missionId),
    ("time", .text stamp.occurredAt),
    ("datacontenttype", .text "application/json"),
    ("dataschema", .text dataschema),
    ("data", .object spec.payload),
    ("sequence", .text sequence),
    ("correlationid", .text pending.correlationId),
    ("causationid", .text pending.sourceEventId),
    ("traceparent", .text stamp.traceparent) ] ++
    (stamp.tracestate.elim [] fun value => [("tracestate", .text value)])

/-- `_event`: canonical bytes of a document that binds to its topic. -/
def event (host : Host) (pending : PendingInvocation)
    (stamp : NormalizationStamp) (spec : EventSpec) :
    Except NormalizationFailure Bytes := do
  let sequence ← present (sequenceText spec.sequence) (.refused .sequence)
  let kind ← recast (fun refusal => .envelope (.topic refusal))
    (eventType spec.topic)
  let bound ← recast (fun error => .envelope (.envelope error))
    (bindingFor kind)
  let document :=
    eventDocument pending stamp spec kind bound.dataschema sequence
  let envelope ← recast (fun error => .envelope (.envelope error))
    (parseEnvelope host (.object document))
  recast NormalizationFailure.envelope (checkTopicBinding envelope spec.topic)
  recast NormalizationFailure.canonicalization
    (canonicalBytes host (.object document))

/-- `_staged`: the outbox row of one self-validated event. -/
def staged (host : Host) (payload : Bytes) (family : Family) (topic : Topic) :
    Except NormalizationFailure StagedApplicationEvent := do
  let envelope ← recast NormalizationFailure.envelope
    (decodeEnvelope host payload)
  let text ← recast (fun refusal => .envelope (.topic refusal))
    (formatTopic topic)
  let headers ← recast NormalizationFailure.canonicalization
    (canonicalBytes host (.object []))
  pure
    { producer
      eventId := envelope.id
      family := family.outboxFamily
      topic := text
      headers
      payload
      traceparent := envelope.traceparent
      tracestate := envelope.tracestate
      correlationId := envelope.correlationId
      causationId := envelope.causationId
      stagedAt := envelope.time }

/-- `_stored_proposal`, from the candidate that its payload was made of. -/
def storedProposal (host : Host) (candidate : AgentCandidate)
    (payload : Value.Members) (event : StagedApplicationEvent)
    (pending : PendingInvocation) (stamp : NormalizationStamp) :
    Except NormalizationFailure StoredProposal := do
  let bytes ← recast NormalizationFailure.canonicalization
    (canonicalBytes host (.object payload))
  pure
    { proposalId := stamp.proposalId
      missionId := pending.missionId
      sourceEventId := pending.sourceEventId
      sourceEventDigest := pending.sourceEventDigest
      agentName := pending.agentName
      invocationId := pending.invocationId
      proposalType := candidate.proposalType
      proposalDigest :=
        match Value.get "proposalDigest" payload with
        | .text digest => digest
        | _ => ""
      payload := bytes
      droneId := candidate.droneId
      latitudeMicrodegrees := candidate.latitudeMicrodegrees
      longitudeMicrodegrees := candidate.longitudeMicrodegrees
      commandType := candidate.commandType
      issuedAt := stamp.occurredAt
      sequence := stamp.proposalSequence
      correlationId := pending.correlationId
      causationId := event.causationId
      traceparent := event.traceparent }

/-- The topic of a proposal publication. -/
def proposalTopic (pending : PendingInvocation) : Topic where
  family := .agentProposal
  missionId := pending.missionId
  parameters :=
    [("agentName", pending.agentName), ("proposalType", proposalType)]

/-- The topic of a normalization audit. -/
def auditTopic (pending : PendingInvocation) : Topic where
  family := .audit
  missionId := pending.missionId
  parameters := [("recordType", auditRecordType)]

/-- The proposal and its event, for a response with a candidate. -/
def proposalEffects (host : Host) (response : AgentResponse)
    (pending : PendingInvocation) (stamp : NormalizationStamp) :
    Except NormalizationFailure
      (Value.Members × StoredProposal × StagedApplicationEvent) := do
  let candidate ← present response.candidate (.refused .responseKind)
  let payload ← proposalPayload host response pending stamp
  let bytes ← event host pending stamp
    { topic := proposalTopic pending
      payload
      eventId := stamp.proposalEventId
      sequence := stamp.proposalSequence }
  let row ← staged host bytes .agentProposal (proposalTopic pending)
  let proposal ← storedProposal host candidate payload row pending stamp
  pure (payload, proposal, row)

/-- The audit event of a response. -/
def auditEffects (host : Host) (response : AgentResponse)
    (pending : PendingInvocation) (stamp : NormalizationStamp)
    (proposal : Option Value.Members) :
    Except NormalizationFailure StagedApplicationEvent := do
  let payload ← auditPayload response pending stamp proposal
  let bytes ← event host pending stamp
    { topic := auditTopic pending
      payload
      eventId := stamp.auditEventId
      sequence := stamp.auditSequence }
  staged host bytes .audit (auditTopic pending)

/-- `build_normalization` -/
def buildNormalization (host : Host) (ingress : AgentResponseIngress)
    (pending : PendingInvocation) (stamp : NormalizationStamp) :
    Except NormalizationFailure NormalizationArtifacts := do
  bindPending ingress.response pending
  match ingress.response.outcome with
  | .candidate => do
      let (payload, proposal, row) ←
        proposalEffects host ingress.response pending stamp
      let audit ←
        auditEffects host ingress.response pending stamp (some payload)
      pure
        { proposal := some proposal
          events := [row, audit]
          result := row.payload }
  | .abstained => do
      let audit ← auditEffects host ingress.response pending stamp none
      pure { proposal := none, events := [audit], result := audit.payload }

/-! ## What an output event says -/

/-- The envelope that an output event spells. -/
def eventEnvelope (pending : PendingInvocation) (stamp : NormalizationStamp)
    (spec : EventSpec) (kind dataschema sequence : String) : Envelope where
  id := spec.eventId
  source := "urn:aerial-rescue:command-gateway:" ++ stamp.producerId
  type := kind
  subject := pending.missionId
  time := stamp.occurredAt
  dataschema := dataschema
  sequence := sequence
  correlationId := pending.correlationId
  traceparent := stamp.traceparent
  data := spec.payload
  causationId := some pending.sourceEventId
  tracestate := stamp.tracestate

theorem spells_eventDocument (pending : PendingInvocation)
    (stamp : NormalizationStamp) (spec : EventSpec)
    (kind dataschema sequence : String) :
    Spells (eventDocument pending stamp spec kind dataschema sequence)
      (eventEnvelope pending stamp spec kind dataschema sequence) := by
  cases held : stamp.tracestate <;> constructor <;>
    simp [eventDocument, eventEnvelope, held, Value.get, Value.member?,
      Value.keys, allowedMembers, requiredMembers]

theorem keys_eventDocument (pending : PendingInvocation)
    (stamp : NormalizationStamp) (spec : EventSpec)
    (kind dataschema sequence : String) :
    (Value.keys
      (eventDocument pending stamp spec kind dataschema sequence)).Nodup := by
  cases held : stamp.tracestate <;> simp [eventDocument, held, Value.keys]

end AerialRescue.Gateway.Normalization
