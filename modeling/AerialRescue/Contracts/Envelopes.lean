import AerialRescue.Contracts.Instant
import AerialRescue.Contracts.Topics

/-!
# The application event envelope

The closed CloudEvents profile: the member rules, the type bindings, and the
binding of an envelope to the topic it arrived on.  A refusal carries the
member at fault.
-/

namespace AerialRescue.Contracts.Envelopes

open AerialRescue.Lib.Guard
open AerialRescue.Contracts.Canonical
open AerialRescue.Contracts.Instant
open AerialRescue.Contracts.Topics

/-! ## Member patterns -/

/-- `[0-9a-f]` -/
def isHexDigit (character : Char) : Bool :=
  isDigit character || ('a' ≤ character && character ≤ 'f')

/-- The producer identifier of a source: `[A-Za-z0-9][A-Za-z0-9_-]{0,63}` -/
def isProducerId (characters : List Char) : Bool :=
  characters.length ≤ 64 && characters.head?.any isAlphanumeric &&
    characters.all fun character =>
      isAlphanumeric character || character = '_' || character = '-'

/-- `SOURCE_PATTERN` -/
def isSource (text : String) : Bool :=
  match splitText ':' text with
  | ["urn", "aerial-rescue", kind, producer] =>
      isKindForm kind.toList && isProducerId producer.toList
  | _ => false

/-- `_lifecycle_source_pattern(kind)` -/
def isLifecycleSource (kind text : String) : Bool :=
  match splitText ':' text with
  | ["urn", "aerial-rescue", producerKind, identifier] =>
      producerKind = kind && isIdentifier identifier
  | _ => false

/-- `TYPE_PATTERN` -/
def isEventType (text : String) : Bool :=
  match splitText '.' text with
  | "aerial-rescue" :: "v1" :: kinds =>
      2 ≤ kinds.length && kinds.length ≤ 3 &&
        kinds.all fun kind => isKindForm kind.toList
  | _ => false

/-- Where the schema identifiers live. -/
def schemaBase : String :=
  "https://aerial-rescue.invalid/schemas/v1/payload/"

/-- `DATASCHEMA_PATTERN` -/
def isDataschema (text : String) : Bool :=
  let base := schemaBase.toList
  let ending := ".schema.json".toList
  let characters := text.toList
  let name := (characters.drop base.length).take
    (characters.length - base.length - ending.length)
  characters = base ++ name ++ ending && isKindForm name

/-- `SEQUENCE_PATTERN` -/
def isSequence (text : String) : Bool :=
  text.toList.length = 15 && text.toList.all isDigit

/-- A run of hexadecimal digits of one length that is not all zeros. -/
def isTraceWord (width : Nat) (text : String) : Bool :=
  text.toList.length = width && text.toList.all isHexDigit &&
    text.toList.any fun character => character != '0'

/-- `TRACEPARENT_PATTERN` -/
def isTraceparent (text : String) : Bool :=
  match splitText '-' text with
  | ["00", trace, parent, flags] =>
      isTraceWord 32 trace && isTraceWord 16 parent &&
        flags.toList.length = 2 && flags.toList.all isHexDigit
  | _ => false

/-- `TRACESTATE_PATTERN` -/
def isTracestate (text : String) : Bool :=
  1 ≤ text.toList.length && text.toList.length ≤ 512 &&
    text.toList.all fun character => ' ' ≤ character && character ≤ '~'

/-! ## Bindings -/

/-- The payload schema and the producer kind an event type is bound to. -/
structure Binding where
  eventType : String
  family : Family
  dataschema : String
  sourceKind : Option String
deriving DecidableEq

/-- A row of the binding table. -/
def binding (eventType : String) (family : Family) (schema : String)
    (sourceKind : Option String) : Binding where
  eventType := "aerial-rescue.v1." ++ eventType
  family := family
  dataschema := schemaBase ++ schema ++ ".schema.json"
  sourceKind := sourceKind

/-- `BINDINGS` -/
def bindings : List Binding :=
  [ binding "operator.command.assign-sector" .operatorCommand
      "operator-command" (some "dashboard-api"),
    binding "operator.command.escalate-rescue" .operatorCommand
      "operator-command" (some "dashboard-api"),
    binding "operator.approval.approve" .operatorApproval
      "operator-approval" (some "dashboard-api"),
    binding "operator.approval.reject" .operatorApproval
      "operator-approval" (some "dashboard-api"),
    binding "drone.telemetry" .droneTelemetry "drone-telemetry" none,
    binding "drone.event.salient" .droneEvent "drone-event-salient" none,
    binding "drone.event.connectivity-changed" .droneEvent
      "drone-event-connectivity-changed" (some "connectivity-lifecycle"),
    binding "mission.event.lifecycle" .missionEvent
      "mission-event-lifecycle" (some "mission-lifecycle"),
    binding "sector.event.lifecycle" .sectorEvent
      "sector-event-lifecycle" (some "sector-lifecycle"),
    binding "gateway.record" .gatewayRecord "gateway-response"
      (some "command-gateway"),
    binding "agent.proposal.candidate-location" .agentProposal
      "agent-proposal" (some "command-gateway"),
    binding "evidence.decision" .evidenceDecision "evidence-decision"
      (some "evidence-service"),
    binding "drone.command.assign-sector" .droneCommand
      "drone-command-assign-sector" none,
    binding "drone.command.escalate-rescue" .droneCommand
      "drone-command-escalate-rescue" (some "command-gateway"),
    binding "drone.command-result" .droneCommandResult
      "drone-command-result" none,
    binding "audit.proposal-normalization" .audit "audit"
      (some "command-gateway"),
    binding "audit.evidence-decision" .audit "audit"
      (some "evidence-service"),
    binding "audit.command-authorization" .audit "audit"
      (some "command-gateway") ]

/-! ## Refusals -/

/-- Why a document is not an application event envelope. -/
inductive EnvelopeRefusal where
  | notAnObject
  | unknownMember
  | missingAttribute
  | attributeForm
  | dataProfile
  | reservedMission
  | unknownType
  | sourceBinding
  | dataschemaBinding
  | subjectBinding
  | payloadBinding
  | topicBinding
deriving DecidableEq

/-- `EnvelopeError`: the refusal and the member at fault. -/
structure EnvelopeError where
  refusal : EnvelopeRefusal
  member : String
deriving DecidableEq

/-- `binding_for` -/
def bindingFor (eventType : String) : Except EnvelopeError Binding :=
  present
    (bindings.find? fun binding => binding.eventType = eventType)
    ⟨.unknownType, "type"⟩

/-! ## Envelopes -/

/-- One validated application event. -/
structure Envelope where
  id : String
  source : String
  type : String
  subject : String
  time : String
  dataschema : String
  sequence : String
  correlationId : String
  traceparent : String
  data : Value.Members
  causationId : Option String
  tracestate : Option String

/-- `REQUIRED_MEMBERS` -/
def requiredMembers : List String :=
  ["specversion", "id", "source", "type", "subject", "time",
    "datacontenttype", "dataschema", "data", "sequence", "correlationid",
    "traceparent"]

/-- `ALLOWED_MEMBERS` -/
def allowedMembers : List String :=
  requiredMembers ++ ["causationid", "tracestate"]

/-- `_members` -/
def envelopeMembers : Value → Except EnvelopeError Value.Members
  | .object members => do
      let unknown :=
        (Value.keys members).filter fun key => !allowedMembers.contains key
      ensure unknown.isEmpty
        ⟨.unknownMember,
          (unknown.insertionSort fun left right => left ≤ right).headD ""⟩
      let missing :=
        requiredMembers.filter fun name => !Value.has name members
      ensure missing.isEmpty ⟨.missingAttribute, missing.headD ""⟩
      pure members
  | _ => .error ⟨.notAnObject, "envelope"⟩

/-- `_text`: a string member that matches its rule. -/
def textMember (members : Value.Members) (name : String)
    (pattern : String → Bool) : Except EnvelopeError String :=
  match Value.get name members with
  | .text value =>
      if pattern value then .ok value else .error ⟨.attributeForm, name⟩
  | _ => .error ⟨.attributeForm, name⟩

/-- An optional string member that matches its rule when present. -/
def optionalMember (members : Value.Members) (name : String)
    (pattern : String → Bool) : Except EnvelopeError (Option String) :=
  if Value.has name members then
    (textMember members name pattern).map some
  else
    .ok none

/-- The spelling of an instant that names a real date and time. -/
def isInstant (text : String) : Bool :=
  (parseInstant text).isOk

/-- `_data`: an object inside the canonical profile. -/
def dataMember (host : Host) (members : Value.Members) :
    Except EnvelopeError Value.Members :=
  match Value.get "data" members with
  | .object data =>
      match canonicalBytes host (.object data) with
      | .ok _ => .ok data
      | .error _ => .error ⟨.dataProfile, "data"⟩
  | _ => .error ⟨.attributeForm, "data"⟩

/-- `_bind`: type, source, schema and subject agree. -/
def bindEnvelope (type source dataschema subject time : String)
    (data : Value.Members) : Except EnvelopeError Unit := do
  let bound ← bindingFor type
  ensure (bound.sourceKind.all fun kind => isLifecycleSource kind source)
    ⟨.sourceBinding, "source"⟩
  ensure (dataschema = bound.dataschema) ⟨.dataschemaBinding, "dataschema"⟩
  ensure (Value.pyEq (Value.get "missionId" data) (.text subject))
    ⟨.subjectBinding, "subject"⟩
  ensure
    (bound.family ≠ .operatorApproval ∨
      Value.pyEq (Value.get "issuedAt" data) (.text time))
    ⟨.payloadBinding, "data.issuedAt"⟩

/-- `parse_envelope` -/
def parseEnvelope (host : Host) (document : Value) :
    Except EnvelopeError Envelope := do
  let members ← envelopeMembers document
  ensure (Value.pyEq (Value.get "specversion" members) (.text "1.0"))
    ⟨.attributeForm, "specversion"⟩
  ensure
    (Value.pyEq (Value.get "datacontenttype" members)
      (.text "application/json"))
    ⟨.attributeForm, "datacontenttype"⟩
  let id ← textMember members "id" isIdentifier
  let source ← textMember members "source" isSource
  let type ← textMember members "type" isEventType
  let subject ← textMember members "subject" isIdentifier
  let dataschema ← textMember members "dataschema" isDataschema
  let sequence ← textMember members "sequence" isSequence
  let correlationId ← textMember members "correlationid" isIdentifier
  let traceparent ← textMember members "traceparent" isTraceparent
  let time ← textMember members "time" isInstant
  let causationId ← optionalMember members "causationid" isIdentifier
  let tracestate ← optionalMember members "tracestate" isTracestate
  ensure (subject ≠ "reply") ⟨.reservedMission, "subject"⟩
  let data ← dataMember host members
  bindEnvelope type source dataschema subject time data
  pure
    { id, source, type, subject, time, dataschema, sequence, correlationId,
      traceparent, data, causationId, tracestate }

/-- `envelope_document` -/
def envelopeDocument (envelope : Envelope) : Value.Members :=
  [ ("specversion", .text "1.0"),
    ("id", .text envelope.id),
    ("source", .text envelope.source),
    ("type", .text envelope.type),
    ("subject", .text envelope.subject),
    ("time", .text envelope.time),
    ("datacontenttype", .text "application/json"),
    ("dataschema", .text envelope.dataschema),
    ("data", .object envelope.data),
    ("sequence", .text envelope.sequence),
    ("correlationid", .text envelope.correlationId),
    ("traceparent", .text envelope.traceparent) ] ++
    (envelope.causationId.elim [] fun value =>
      [("causationid", .text value)]) ++
    (envelope.tracestate.elim [] fun value =>
      [("tracestate", .text value)])

/-- `sequence_text`: fifteen digits, or nothing for a value outside them. -/
def sequenceText (value : Int) : Option String :=
  if value < 0 ∨ 999999999999999 < value then none
  else some (String.ofList (padded 15 value.toNat))

/-- `int(envelope.sequence)` of fifteen digits. -/
def sequenceNumber (text : String) : Nat :=
  text.toList.foldl (fun value digit => value * 10 + (digit.toNat - 48)) 0

/-- Everything that a decoded and bound notification may be refused with. -/
inductive EnvelopeFailure where
  | decode (failure : DecodeFailure)
  | envelope (error : EnvelopeError)
  | topic (refusal : TopicRefusal)
deriving DecidableEq

/-- `decode_envelope` -/
def decodeEnvelope (host : Host) (text : Bytes) :
    Except EnvelopeFailure Envelope := do
  let document ← recast EnvelopeFailure.decode (decode host text)
  recast EnvelopeFailure.envelope (parseEnvelope host document)

/-- `_TOPIC_PAYLOAD_PATHS` -/
def topicPayloadPath (family : Family) (name : String) :
    Option (List String) :=
  match family, name with
  | .operatorCommand, "commandType" => some ["action", "commandType"]
  | .operatorApproval, "decision" => some ["decision"]
  | .agentProposal, "agentName" => some ["agentName"]
  | .agentProposal, "proposalType" => some ["proposalType"]
  | .evidenceDecision, "proposalId" => some ["proposalId"]
  | .audit, "recordType" => some ["recordType"]
  | _, _ => none

/-- Follow a member path through nested objects. -/
def memberAt : List String → Value → Value
  | [], value => value
  | name :: rest, .object members => memberAt rest (Value.get name members)
  | _ :: rest, _ => memberAt rest .null

/-- One topic parameter is repeated where the payload has to repeat it. -/
def checkParameter (envelope : Envelope) (family : Family)
    (parameter : String × String) : Except EnvelopeFailure Unit :=
  let repeated := topicPayloadPath family parameter.1
  if repeated.isSome || ruleFor parameter.1 = .identifier then
    let path := repeated.getD [parameter.1]
    ensure
      (Value.pyEq (memberAt path (.object envelope.data))
        (.text parameter.2))
      (.envelope ⟨.topicBinding, String.intercalate "." path⟩)
  else
    .ok ()

/-- Check every parameter of a topic in its order. -/
def checkParameters (envelope : Envelope) (family : Family) :
    List (String × String) → Except EnvelopeFailure Unit
  | [] => .ok ()
  | parameter :: rest => do
      checkParameter envelope family parameter
      checkParameters envelope family rest

/-- `check_topic_binding` -/
def checkTopicBinding (envelope : Envelope) (topic : Topic) :
    Except EnvelopeFailure Unit := do
  let type ← recast EnvelopeFailure.topic (eventType topic)
  ensure (type = envelope.type) (.envelope ⟨.topicBinding, "type"⟩)
  ensure (topic.missionId = envelope.subject)
    (.envelope ⟨.topicBinding, "subject"⟩)
  checkParameters envelope topic.family topic.parameters

end AerialRescue.Contracts.Envelopes
