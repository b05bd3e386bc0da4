import AerialRescue.Contracts.Topics

/-!
# Command-gateway RPC bodies and the Agent Mesh response

The closed bodies that travel without an envelope: the gateway request and
response, and the structured Agent Mesh integration response.  Each parser
refuses in a fixed order and names the member at fault.
-/

namespace AerialRescue.Contracts.Rpc

open AerialRescue.Lib.Guard
open AerialRescue.Contracts.Canonical
open AerialRescue.Contracts.Topics

/-- Why a document is not the closed body it claims to be. -/
inductive BodyRefusal where
  | notAnObject
  | unknownMember
  | missingMember
  | version
  | memberForm
  | outcomeBinding
  | topicBinding
deriving DecidableEq

/-- `RpcError` and `IntegrationError`: the refusal and the member at fault. -/
structure BodyError where
  refusal : BodyRefusal
  member : String
deriving DecidableEq

/-- `_members`: a closed complete object. -/
def bodyMembers (label : String) (required optional : List String) :
    Value → Except BodyError Value.Members
  | .object members => do
      let unknown := (Value.keys members).filter fun key =>
        !(required ++ optional).contains key
      ensure unknown.isEmpty
        ⟨.unknownMember,
          (unknown.insertionSort fun left right => left ≤ right).headD ""⟩
      let missing := required.filter fun name => !Value.has name members
      ensure missing.isEmpty ⟨.missingMember, missing.headD ""⟩
      pure members
  | _ => .error ⟨.notAnObject, label⟩

/-- `_version`: an integer first, then the supported one. -/
def bodyVersion (members : Value.Members) (name : String) :
    Except BodyError Unit :=
  match Value.get name members with
  | .int value => ensure (value = 1) ⟨.version, name⟩
  | _ => .error ⟨.memberForm, name⟩

/-- A text member inside its rule; `path` names it in a refusal. -/
def bodyText (members : Value.Members) (name path : String)
    (pattern : String → Bool) : Except BodyError String :=
  match Value.get name members with
  | .text value =>
      if pattern value then .ok value else .error ⟨.memberForm, path⟩
  | _ => .error ⟨.memberForm, path⟩

/-- An optional text member, validated when it is present. -/
def bodyOptional (members : Value.Members) (name : String)
    (pattern : String → Bool) : Except BodyError (Option String) :=
  if Value.has name members then
    (bodyText members name name pattern).map some
  else
    .ok none

/-! ## Gateway requests and responses -/

/-- One validated question put to the command gateway. -/
structure GatewayRequest where
  missionId : String
  operation : String
  commandType : String
deriving DecidableEq

/-- Whether the gateway answered a request or refused it. -/
inductive Outcome where
  | answered
  | refused
deriving DecidableEq

/-- One validated answer from the command gateway. -/
structure GatewayResponse where
  missionId : String
  requestId : String
  operation : String
  commandType : String
  outcome : Outcome
  actuated : Bool
  authority : Option String
  refusal : Option String
deriving DecidableEq

/-- `REQUEST_MEMBERS` -/
def requestMembers : List String :=
  ["rpcVersion", "missionId", "operation", "commandType"]

/-- `parse_gateway_request` -/
def parseGatewayRequest (document : Value) :
    Except BodyError GatewayRequest := do
  let members ← bodyMembers "request" requestMembers [] document
  bodyVersion members "rpcVersion"
  let missionId ← bodyText members "missionId" "missionId" isIdentifier
  let operation ← bodyText members "operation" "operation" isKind
  let commandType ← bodyText members "commandType" "commandType" isKind
  pure { missionId, operation, commandType }

/-- `_outcome` -/
def bodyOutcome (members : Value.Members) : Except BodyError Outcome :=
  match Value.get "outcome" members with
  | .text "answered" => .ok .answered
  | .text "refused" => .ok .refused
  | _ => .error ⟨.memberForm, "outcome"⟩

/-- `_actuated` -/
def bodyActuated (members : Value.Members) : Except BodyError Bool :=
  match Value.get "actuated" members with
  | .bool value => .ok value
  | _ => .error ⟨.memberForm, "actuated"⟩

/-- `_binding`: the member an outcome requires, then the one it forbids. -/
def bodyBinding (outcome : Outcome) (authority refusal : Option String) :
    Except BodyError Unit :=
  match outcome with
  | .answered => do
      ensure authority.isSome ⟨.outcomeBinding, "authority"⟩
      ensure refusal.isNone ⟨.outcomeBinding, "refusal"⟩
  | .refused => do
      ensure refusal.isSome ⟨.outcomeBinding, "refusal"⟩
      ensure authority.isNone ⟨.outcomeBinding, "authority"⟩

/-- `parse_gateway_response` -/
def parseGatewayResponse (document : Value) :
    Except BodyError GatewayResponse := do
  let members ← bodyMembers "response"
    (requestMembers ++ ["requestId", "outcome", "actuated"])
    ["authority", "refusal"] document
  bodyVersion members "rpcVersion"
  let missionId ← bodyText members "missionId" "missionId" isIdentifier
  let requestId ← bodyText members "requestId" "requestId" isIdentifier
  let operation ← bodyText members "operation" "operation" isKind
  let commandType ← bodyText members "commandType" "commandType" isKind
  let outcome ← bodyOutcome members
  let actuated ← bodyActuated members
  let authority ← bodyOptional members "authority" isKind
  let refusal ← bodyOptional members "refusal" isKind
  bodyBinding outcome authority refusal
  pure
    { missionId, requestId, operation, commandType, outcome, actuated,
      authority, refusal }

/-! ## The Agent Mesh response -/

/-- The assertions a structured Agent Mesh response can make. -/
inductive AgentOutcome where
  | candidate
  | abstained
deriving DecidableEq

/-- Why a response makes no assertion. -/
inductive AgentResponseReason where
  | timeout
  | transportError
  | modelError
  | invalidOutput
  | identityMismatch
deriving DecidableEq

/-- The candidate assertion of a response. -/
structure AgentCandidate where
  proposalType : String
  sourceEventId : String
  sourceEventDigest : String
  droneId : String
  latitudeMicrodegrees : Int
  longitudeMicrodegrees : Int
  commandType : String
deriving DecidableEq

/-- One accepted Agent Mesh response. -/
structure AgentResponse where
  missionId : String
  agentName : String
  invocationId : String
  correlationId : String
  outcome : AgentOutcome
  candidate : Option AgentCandidate
  reason : Option AgentResponseReason
deriving DecidableEq

/-- `[0-9a-f]{64}` -/
def isDigest (text : String) : Bool :=
  text.toList.length = 64 &&
    text.toList.all fun character =>
      isDigit character || ('a' ≤ character && character ≤ 'f')

/-- `_integer`: an integer within inclusive bounds. -/
def bodyInteger (members : Value.Members) (name path : String)
    (lower upper : Int) : Except BodyError Int :=
  match Value.get name members with
  | .int value =>
      if lower ≤ value ∧ value ≤ upper then .ok value
      else .error ⟨.memberForm, path⟩
  | _ => .error ⟨.memberForm, path⟩

/-- `_candidate`, whose refusals name the member below `result`. -/
def bodyCandidate (value : Value) : Except BodyError AgentCandidate := do
  let members ← recast
    (fun error : BodyError =>
      if error.refusal = .notAnObject then error
      else { error with member := "result." ++ error.member })
    (bodyMembers "result"
      ["proposalType", "sourceEventId", "sourceEventDigest", "droneId",
        "latitudeMicrodegrees", "longitudeMicrodegrees", "commandType"]
      [] value)
  let proposalType ← bodyText members "proposalType" "result.proposalType"
    fun text => text = "candidate-location"
  let sourceEventId ← bodyText members "sourceEventId"
    "result.sourceEventId" isIdentifier
  let sourceEventDigest ← bodyText members "sourceEventDigest"
    "result.sourceEventDigest" isDigest
  let droneId ← bodyText members "droneId" "result.droneId" isIdentifier
  let latitudeMicrodegrees ← bodyInteger members "latitudeMicrodegrees"
    "result.latitudeMicrodegrees" (-90000000) 90000000
  let longitudeMicrodegrees ← bodyInteger members "longitudeMicrodegrees"
    "result.longitudeMicrodegrees" (-180000000) 180000000
  let commandType ← bodyText members "commandType" "result.commandType"
    fun text => text = "escalate-rescue"
  pure
    { proposalType, sourceEventId, sourceEventDigest, droneId,
      latitudeMicrodegrees, longitudeMicrodegrees, commandType }

/-- `_outcome` of an Agent Mesh response. -/
def agentOutcome (members : Value.Members) :
    Except BodyError AgentOutcome :=
  match Value.get "outcome" members with
  | .text "candidate" => .ok .candidate
  | .text "abstained" => .ok .abstained
  | _ => .error ⟨.memberForm, "outcome"⟩

/-- `_reason` -/
def agentReason (members : Value.Members) :
    Except BodyError AgentResponseReason :=
  match Value.get "reason" members with
  | .text "timeout" => .ok .timeout
  | .text "transport-error" => .ok .transportError
  | .text "model-error" => .ok .modelError
  | .text "invalid-output" => .ok .invalidOutput
  | .text "identity-mismatch" => .ok .identityMismatch
  | _ => .error ⟨.memberForm, "reason"⟩

/-- `_bind_outcome` -/
def bindAgentOutcome (outcome : AgentOutcome)
    (candidate : Option AgentCandidate)
    (reason : Option AgentResponseReason) : Except BodyError Unit :=
  match outcome with
  | .candidate => do
      ensure candidate.isSome ⟨.outcomeBinding, "result"⟩
      ensure reason.isNone ⟨.outcomeBinding, "reason"⟩
  | .abstained => do
      ensure reason.isSome ⟨.outcomeBinding, "reason"⟩
      ensure candidate.isNone ⟨.outcomeBinding, "result"⟩

/-- `parse_agent_response` -/
def parseAgentResponse (document : Value) :
    Except BodyError AgentResponse := do
  let members ← bodyMembers "response"
    ["agentResponseVersion", "missionId", "agentName", "invocationId",
      "correlationId", "outcome"]
    ["result", "reason"] document
  bodyVersion members "agentResponseVersion"
  let missionId ← bodyText members "missionId" "missionId" isIdentifier
  let agentName ← bodyText members "agentName" "agentName" isAgentName
  let invocationId ←
    bodyText members "invocationId" "invocationId" isIdentifier
  let correlationId ←
    bodyText members "correlationId" "correlationId" isIdentifier
  let outcome ← agentOutcome members
  let candidate ←
    if Value.has "result" members then
      (bodyCandidate (Value.get "result" members)).map some
    else pure none
  let reason ←
    if Value.has "reason" members then (agentReason members).map some
    else pure none
  bindAgentOutcome outcome candidate reason
  pure
    { missionId, agentName, invocationId, correlationId, outcome, candidate,
      reason }

/-- `check_agent_response_topic` -/
def checkAgentResponseTopic (response : AgentResponse) (topic : Topic) :
    Except BodyError Unit := do
  ensure (topic.family = .agentResponse) ⟨.topicBinding, "family"⟩
  ensure (topic.missionId = response.missionId)
    ⟨.topicBinding, "missionId"⟩
  ensure (topic.parameters.lookup "agentName" = some response.agentName)
    ⟨.topicBinding, "agentName"⟩

/-! ## Documents -/

/-- The wire word of an outcome. -/
def Outcome.word : Outcome → String
  | .answered => "answered"
  | .refused => "refused"

/-- `gateway_request_document` -/
def gatewayRequestDocument (request : GatewayRequest) : Value.Members :=
  [ ("rpcVersion", .int 1),
    ("missionId", .text request.missionId),
    ("operation", .text request.operation),
    ("commandType", .text request.commandType) ]

/-- `gateway_response_document`: an absent optional member is left out. -/
def gatewayResponseDocument (response : GatewayResponse) : Value.Members :=
  [ ("rpcVersion", .int 1),
    ("missionId", .text response.missionId),
    ("requestId", .text response.requestId),
    ("operation", .text response.operation),
    ("commandType", .text response.commandType),
    ("outcome", .text response.outcome.word),
    ("actuated", .bool response.actuated) ] ++
    (response.authority.elim [] fun value => [("authority", .text value)]) ++
    (response.refusal.elim [] fun value => [("refusal", .text value)])

/-- The wire word of an agent outcome. -/
def AgentOutcome.word : AgentOutcome → String
  | .candidate => "candidate"
  | .abstained => "abstained"

/-- The wire word of a reason. -/
def AgentResponseReason.word : AgentResponseReason → String
  | .timeout => "timeout"
  | .transportError => "transport-error"
  | .modelError => "model-error"
  | .invalidOutput => "invalid-output"
  | .identityMismatch => "identity-mismatch"

/-- The `result` branch of a response. -/
def candidateDocument (candidate : AgentCandidate) : Value.Members :=
  [ ("proposalType", .text candidate.proposalType),
    ("sourceEventId", .text candidate.sourceEventId),
    ("sourceEventDigest", .text candidate.sourceEventDigest),
    ("droneId", .text candidate.droneId),
    ("latitudeMicrodegrees", .int candidate.latitudeMicrodegrees),
    ("longitudeMicrodegrees", .int candidate.longitudeMicrodegrees),
    ("commandType", .text candidate.commandType) ]

/-- `agent_response_document` -/
def agentResponseDocument (response : AgentResponse) : Value.Members :=
  [ ("agentResponseVersion", .int 1),
    ("missionId", .text response.missionId),
    ("agentName", .text response.agentName),
    ("invocationId", .text response.invocationId),
    ("correlationId", .text response.correlationId),
    ("outcome", .text response.outcome.word) ] ++
    (response.candidate.elim [] fun candidate =>
      [("result", .object (candidateDocument candidate))]) ++
    (response.reason.elim [] fun reason => [("reason", .text reason.word)])

end AerialRescue.Contracts.Rpc
