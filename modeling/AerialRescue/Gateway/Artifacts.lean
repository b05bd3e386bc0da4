import AerialRescue.Contracts.EnvelopeForm
import AerialRescue.Contracts.TopicText
import AerialRescue.Gateway.Ports

/-!
# Authorization artifacts

The effects of one authorization decision, built from a validated command and a
stamp: the audit record and its publication for every decision, the command row
and its progress identity for an authorized one.  Every event re-enters the
envelope and topic boundary before its bytes are kept.
-/

namespace AerialRescue.Gateway

open AerialRescue.Contracts
open AerialRescue.Contracts.Canonical
open AerialRescue.Contracts.Envelopes
open AerialRescue.Contracts.Topics
open AerialRescue.Gateway.Ingress
open AerialRescue.Lib.Guard
open AerialRescue.Store

/-- A validated operator command. -/
abbrev OperatorCommandIngress := Accepted OperatorCommandPayload

/-- The closed reasons of a refused authorization. -/
inductive AuthorizationReason where
  | approvalRejected
  | approvalMissing
  | approvalExpired
  | approvalSuperseded
  | approvalConsumed
  | proposalMismatch
  | evidenceDecisionMismatch
  | actionMismatch
  | idempotencyConflict
deriving DecidableEq

/-- The text of a reason in the audit contract. -/
def AuthorizationReason.text : AuthorizationReason → String
  | .approvalRejected => "approval-rejected"
  | .approvalMissing => "approval-missing"
  | .approvalExpired => "approval-expired"
  | .approvalSuperseded => "approval-superseded"
  | .approvalConsumed => "approval-consumed"
  | .proposalMismatch => "proposal-mismatch"
  | .evidenceDecisionMismatch => "evidence-decision-mismatch"
  | .actionMismatch => "action-mismatch"
  | .idempotencyConflict => "idempotency-conflict"

/-- `PRODUCER` -/
def producer : String := "command-gateway"

/-- `AUDIT_RECORD_TYPE` -/
def auditRecordType : String := "command-authorization"

/-- What varies between the command event and the audit event. -/
structure EventSpec where
  topic : Topic
  eventId : String
  sequence : Int
  payload : Value.Members

/-- The CloudEvents document of an output event. -/
def eventDocument (ingress : OperatorCommandIngress)
    (stamp : AuthorizationStamp) (spec : EventSpec)
    (kind dataschema sequence : String) : Value.Members :=
  [ ("specversion", .text "1.0"),
    ("id", .text spec.eventId),
    ("source", .text ("urn:aerial-rescue:command-gateway:" ++
      stamp.producerId)),
    ("type", .text kind),
    ("subject", .text ingress.payload.missionId),
    ("time", .text stamp.occurredAt),
    ("datacontenttype", .text "application/json"),
    ("dataschema", .text dataschema),
    ("data", .object spec.payload),
    ("sequence", .text sequence),
    ("correlationid", .text ingress.envelope.correlationId),
    ("causationid", .text ingress.envelope.id),
    ("traceparent", .text stamp.traceparent) ] ++
    (stamp.tracestate.elim [] fun value => [("tracestate", .text value)])

/-- `_event`: canonical bytes of a document that passes the boundary. -/
def event (host : Host) (ingress : OperatorCommandIngress)
    (stamp : AuthorizationStamp) (spec : EventSpec) :
    Except Failure Encoded := do
  let sequence ← present (sequenceText spec.sequence) (.artifact .sequence)
  let text ← recast (fun refusal => .envelope (.topic refusal))
    (formatTopic spec.topic)
  let topic ← recast (fun refusal => .envelope (.topic refusal))
    (parseTopic text)
  let kind ← recast (fun refusal => .envelope (.topic refusal))
    (eventType topic)
  let bound ← recast (fun error => .envelope (.envelope error))
    (bindingFor kind)
  let document :=
    eventDocument ingress stamp spec kind bound.dataschema sequence
  let envelope ← recast (fun error => .envelope (.envelope error))
    (parseEnvelope host (.object document))
  recast Failure.envelope (checkTopicBinding envelope topic)
  let bytes ← recast Failure.canonicalization
    (canonicalBytes host (.object document))
  pure { document, bytes }

/-- The text of an authorization in the audit and in the result. -/
def authorizationText (authorized : Bool) : String :=
  if authorized then "authorized" else "refused"

/-- `_audit_payload` -/
def auditPayload (ingress : OperatorCommandIngress)
    (stamp : AuthorizationStamp) (authorized : Bool)
    (approvalId : Option String) (reason : Option AuthorizationReason) :
    Except Failure Value.Members := do
  let common : Value.Members :=
    [ ("auditVersion", .int 1),
      ("missionId", .text ingress.payload.missionId),
      ("recordId", .text stamp.auditRecordId),
      ("recordType", .text auditRecordType),
      ("commandId", .text ingress.payload.commandId),
      ("operatorId", .text ingress.payload.operatorId),
      ("action", .object ingress.payload.action.document),
      ("outcome", .text (authorizationText authorized)) ]
  if authorized then
    pure (common ++ approvalId.elim [] fun held =>
      [("approvalId", .text held)])
  else
    let stated ← present reason (.artifact .refusalReason)
    pure (common ++ [("reason", .text stated.text)])

/-- `_command_payload` -/
def commandPayload (ingress : OperatorCommandIngress)
    (approvalId : Option String) : Except Failure Value.Members := do
  let common : Value.Members :=
    [ ("missionId", .text ingress.payload.missionId),
      ("droneId", .text ingress.payload.action.droneId),
      ("commandId", .text ingress.payload.commandId) ]
  match ingress.payload.action with
  | .assignSector action =>
      pure (common ++ [("sectorId", .text action.sectorId)])
  | .escalateRescue action =>
      let held ← present approvalId (.artifact .approvalIdentity)
      pure (common ++
        [ ("approvalId", .text held),
          ("proposalId", .text action.proposalId),
          ("proposalDigest", .text action.proposalDigest),
          ("proposalVersion", .int actionVersion),
          ("evidenceDecisionId", .text action.evidenceDecisionId),
          ("evidenceDecisionDigest", .text action.evidenceDecisionDigest),
          ("evidenceDecisionVersion", .int actionVersion),
          ("latitudeMicrodegrees", .int action.latitudeMicrodegrees),
          ("longitudeMicrodegrees", .int action.longitudeMicrodegrees) ])

/-- The complete durable effect set of one authorization result. -/
structure AuthorizationArtifacts where
  auditRecord : AuditRecord
  auditEvent : StagedApplicationEvent
  command : Option (StagedCommand × CommandIdentity)
  result : Bytes

/-- The topic of the audit publication. -/
def auditTopic (ingress : OperatorCommandIngress) : Topic where
  family := .audit
  missionId := ingress.payload.missionId
  parameters := [("recordType", auditRecordType)]

/-- The topic of the command publication. -/
def commandTopic (ingress : OperatorCommandIngress) : Topic where
  family := .droneCommand
  missionId := ingress.payload.missionId
  parameters :=
    [ ("droneId", ingress.payload.action.droneId),
      ("commandType", ingress.payload.action.commandType) ]

/-- The document stored as the result of an authorization. -/
def resultDocument (ingress : OperatorCommandIngress) (authorized : Bool)
    (reason : Option AuthorizationReason) : Value.Members :=
  [ ("authorization", .text (authorizationText authorized)),
    ("commandId", .text ingress.payload.commandId) ] ++
    (reason.elim [] fun stated => [("reason", .text stated.text)])

/-- The audit record and its publication around the audit bytes. -/
def auditEffects (host : Host) (ingress : OperatorCommandIngress)
    (stamp : AuthorizationStamp) (authorized : Bool)
    (approvalId : Option String) (reason : Option AuthorizationReason) :
    Except Failure (AuditRecord × StagedApplicationEvent) := do
  let payload ← auditPayload ingress stamp authorized approvalId reason
  let encoded ← event host ingress stamp
    { topic := auditTopic ingress
      eventId := stamp.auditEventId
      sequence := stamp.auditSequence
      payload }
  let topic ← recast (fun refusal => .envelope (.topic refusal))
    (formatTopic (auditTopic ingress))
  let headers ← recast Failure.canonicalization
    (canonicalBytes host (.object []))
  let envelope ← recast Failure.envelope (decodeEnvelope host encoded.bytes)
  pure
    ({ missionId := ingress.payload.missionId
       kind := envelope.type
       occurredAt := stamp.occurredAt
       payload := encoded.bytes
       correlationId := ingress.envelope.correlationId
       causationId := some ingress.envelope.id
       traceparent := stamp.traceparent },
     { producer
       eventId := stamp.auditEventId
       family := Family.outboxFamily .audit
       topic
       headers
       payload := encoded.bytes
       traceparent := stamp.traceparent
       tracestate := stamp.tracestate
       correlationId := ingress.envelope.correlationId
       causationId := some ingress.envelope.id
       stagedAt := stamp.occurredAt })

/-- The command row and its progress identity. -/
def commandEffects (host : Host) (ingress : OperatorCommandIngress)
    (stamp : AuthorizationStamp) (approvalId : Option String) :
    Except Failure (StagedCommand × CommandIdentity) := do
  let payload ← commandPayload ingress approvalId
  let encoded ← event host ingress stamp
    { topic := commandTopic ingress
      eventId := stamp.commandEventId
      sequence := stamp.commandSequence
      payload }
  pure
    ({ commandId := ingress.payload.commandId
       missionId := ingress.payload.missionId
       droneId := ingress.payload.action.droneId
       payload := encoded
       correlationId := ingress.envelope.correlationId
       causationId := some ingress.envelope.id
       traceparent := stamp.traceparent
       stagedAt := stamp.occurredAt },
     { commandId := ingress.payload.commandId
       missionId := ingress.payload.missionId
       droneId := ingress.payload.action.droneId })

/-- `build_authorization_artifacts` -/
def buildAuthorizationArtifacts (host : Host)
    (ingress : OperatorCommandIngress) (stamp : AuthorizationStamp)
    (authorized : Bool) (approvalId : Option String)
    (reason : Option AuthorizationReason) :
    Except Failure AuthorizationArtifacts := do
  let (auditRecord, auditEvent) ←
    auditEffects host ingress stamp authorized approvalId reason
  let result ← recast Failure.canonicalization
    (canonicalBytes host (.object (resultDocument ingress authorized reason)))
  if authorized then
    let command ← commandEffects host ingress stamp approvalId
    pure { auditRecord, auditEvent, command := some command, result }
  else
    pure { auditRecord, auditEvent, command := none, result }

/-! ## What the artifacts say -/

/-- An output event is the canonical encoding of its own document. -/
theorem event_ok {host : Host} {ingress : OperatorCommandIngress}
    {stamp : AuthorizationStamp} {spec : EventSpec} {encoded : Encoded}
    (built : event host ingress stamp spec = .ok encoded) :
    Value.get "data" encoded.document = .object spec.payload ∧
      canonicalBytes host (.object encoded.document) = .ok encoded.bytes ∧
      ∃ kind,
        Value.get "type" encoded.document = .text kind ∧
          eventType
              { spec.topic with
                parameters :=
                  boundParameters spec.topic spec.topic.family.levels } =
            .ok kind := by
  simp only [event, bind_eq_ok, recast_eq_ok, present_eq_ok,
    pure_eq_ok] at built
  rcases built with ⟨_, _, text, formatted, parsed, parses, kind, typed, _,
    _, _, _, _, _, bytes, encodes, rfl⟩
  rw [parseTopic_of_formatTopic formatted parses] at typed
  exact ⟨rfl, encodes, kind, rfl, typed⟩

/-- The envelope that an output event spells. -/
def eventEnvelope (ingress : OperatorCommandIngress)
    (stamp : AuthorizationStamp) (spec : EventSpec)
    (kind dataschema sequence : String) : Envelope where
  id := spec.eventId
  source := "urn:aerial-rescue:command-gateway:" ++ stamp.producerId
  type := kind
  subject := ingress.payload.missionId
  time := stamp.occurredAt
  dataschema := dataschema
  sequence := sequence
  correlationId := ingress.envelope.correlationId
  traceparent := stamp.traceparent
  data := spec.payload
  causationId := some ingress.envelope.id
  tracestate := stamp.tracestate

theorem spells_eventDocument (ingress : OperatorCommandIngress)
    (stamp : AuthorizationStamp) (spec : EventSpec)
    (kind dataschema sequence : String) :
    Spells (eventDocument ingress stamp spec kind dataschema sequence)
      (eventEnvelope ingress stamp spec kind dataschema sequence) := by
  cases held : stamp.tracestate <;> constructor <;>
    simp [eventDocument, eventEnvelope, held, Value.get, Value.member?,
      Value.keys, allowedMembers, requiredMembers]

/-- An output event is built where its envelope follows every rule. -/
theorem event_of {host : Host} {ingress : OperatorCommandIngress}
    {stamp : AuthorizationStamp} {spec : EventSpec} {topic : Topic}
    {text kind sequence : String} {bound : Binding} {bytes : Bytes}
    (numbered : sequenceText spec.sequence = some sequence)
    (formatted : formatTopic spec.topic = .ok text)
    (parsed : parseTopic text = .ok topic)
    (typed : eventType topic = .ok kind)
    (known : bindingFor kind = .ok bound)
    (formed :
      (eventEnvelope ingress stamp spec kind bound.dataschema
        sequence).WellFormed host)
    (binds :
      checkTopicBinding
        (eventEnvelope ingress stamp spec kind bound.dataschema sequence)
        topic = .ok ())
    (encodes :
      canonicalBytes host
        (.object (eventDocument ingress stamp spec kind bound.dataschema
          sequence)) = .ok bytes) :
    event host ingress stamp spec =
      .ok ⟨eventDocument ingress stamp spec kind bound.dataschema sequence,
        bytes⟩ := by
  simp only [event, bind_eq_ok, recast_eq_ok, present_eq_ok, pure_eq_ok]
  exact ⟨sequence, numbered, text, formatted, topic, parsed, kind, typed,
    bound, known, _,
    parseEnvelope_eq_ok.2 ⟨spells_eventDocument _ _ _ _ _ _, formed⟩, (),
    binds, bytes, encodes, rfl⟩

/-- The event type of a published command. -/
def commandKind (action : OperatorAction) : String :=
  match action with
  | .assignSector _ => "aerial-rescue.v1.drone.command.assign-sector"
  | .escalateRescue _ => "aerial-rescue.v1.drone.command.escalate-rescue"

theorem eventType_commandTopic {ingress : OperatorCommandIngress}
    {kind : String}
    (typed :
      eventType
          { commandTopic ingress with
            parameters :=
              boundParameters (commandTopic ingress)
                (Family.levels .droneCommand) } = .ok kind) :
    kind = commandKind ingress.payload.action := by
  have template :
      Family.typeLevels .droneCommand =
        [.literal "drone", .literal "command",
          .parameter "commandType"] := by
    decide
  have level :
      Topic.parameter
          { commandTopic ingress with
            parameters :=
              boundParameters (commandTopic ingress)
                (Family.levels .droneCommand) } "commandType" =
        ingress.payload.action.commandType := rfl
  simp only [eventType, commandTopic, template, List.mapM_cons,
    List.mapM_nil, bind_eq_ok, pure_eq_ok] at typed level
  rcases typed with ⟨_, ⟨_, rfl, _, ⟨_, rfl, _, ⟨_, held, _, rfl, rfl⟩,
    rfl⟩, rfl⟩, rfl⟩
  rw [(validatedLevel_ok held).1, level]
  cases ingress.payload.action <;> rfl

/-- A command row is that of its ingress, around the payload of the action. -/
theorem commandEffects_ok {host : Host} {ingress : OperatorCommandIngress}
    {stamp : AuthorizationStamp} {approvalId : Option String}
    {command : StagedCommand} {identity : CommandIdentity}
    (built :
      commandEffects host ingress stamp approvalId =
        .ok (command, identity)) :
    (∃ payload,
      commandPayload ingress approvalId = .ok payload ∧
        Value.get "data" command.payload.document = .object payload) ∧
      canonicalBytes host (.object command.payload.document) =
        .ok command.payload.bytes ∧
      Value.get "type" command.payload.document =
        .text (commandKind ingress.payload.action) ∧
      command.commandId = ingress.payload.commandId ∧
      identity =
        ⟨ingress.payload.commandId, ingress.payload.missionId,
          ingress.payload.action.droneId⟩ := by
  simp only [commandEffects, bind_eq_ok, pure_eq_ok,
    Prod.mk.injEq] at built
  rcases built with ⟨payload, ofAction, encoded, builtEvent, rfl, rfl⟩
  rcases event_ok builtEvent with ⟨data, encodes, kind, typed, derived⟩
  rw [eventType_commandTopic derived] at typed
  exact ⟨⟨payload, ofAction, data⟩, encodes, typed, rfl, rfl⟩

/-- The audit record of a decision is on the command's own mission. -/
theorem auditEffects_ok {host : Host} {ingress : OperatorCommandIngress}
    {stamp : AuthorizationStamp} {authorized : Bool}
    {approvalId : Option String} {reason : Option AuthorizationReason}
    {record : AuditRecord} {staged : StagedApplicationEvent}
    (built :
      auditEffects host ingress stamp authorized approvalId reason =
        .ok (record, staged)) :
    record.missionId = ingress.payload.missionId ∧
      staged.producer = producer ∧
      staged.eventId = stamp.auditEventId := by
  simp only [auditEffects, bind_eq_ok, pure_eq_ok, Prod.mk.injEq] at built
  rcases built with ⟨_, _, _, _, _, _, _, _, _, _, rfl, rfl⟩
  exact ⟨rfl, rfl, rfl⟩

/-- The artifacts of a decision, part by part. -/
theorem buildAuthorizationArtifacts_ok {host : Host}
    {ingress : OperatorCommandIngress} {stamp : AuthorizationStamp}
    {authorized : Bool} {approvalId : Option String}
    {reason : Option AuthorizationReason}
    {artifacts : AuthorizationArtifacts}
    (built :
      buildAuthorizationArtifacts host ingress stamp authorized approvalId
        reason = .ok artifacts) :
    auditEffects host ingress stamp authorized approvalId reason =
        .ok (artifacts.auditRecord, artifacts.auditEvent) ∧
      canonicalBytes host
          (.object (resultDocument ingress authorized reason)) =
        .ok artifacts.result ∧
      if authorized then
        ∃ command,
          commandEffects host ingress stamp approvalId = .ok command ∧
            artifacts.command = some command
      else artifacts.command = none := by
  simp only [buildAuthorizationArtifacts, bind_eq_ok, recast_eq_ok] at built
  rcases built with ⟨⟨record, staged⟩, audit, result, encodes, rest⟩
  cases authorized with
  | true =>
      simp only [if_true, bind_eq_ok, pure_eq_ok] at rest
      rcases rest with ⟨command, effects, rfl⟩
      exact ⟨audit, encodes, by simp [effects]⟩
  | false =>
      simp only [Bool.false_eq_true, if_false, pure_eq_ok] at rest
      cases rest
      exact ⟨audit, encodes, by simp⟩

end AerialRescue.Gateway
