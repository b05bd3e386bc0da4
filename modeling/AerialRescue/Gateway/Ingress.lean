import AerialRescue.Contracts.Digest
import AerialRescue.Contracts.Rpc

/-!
# Command-gateway ingress

The trust boundary of the command gateway: a topic is parsed before the payload
is decoded, an unauthorized family is refused, and the payload of an accepted
family is validated against its closed service-local model.  A validated
payload carries the form of its fields in its types.
-/

namespace AerialRescue.Gateway.Ingress

open AerialRescue.Lib.Guard
open AerialRescue.Contracts
open AerialRescue.Contracts.Canonical
open AerialRescue.Contracts.Envelopes
open AerialRescue.Contracts.Rpc
open AerialRescue.Contracts.Topics

/-! ## Field types -/

/-- A text of the identifier form. -/
abbrev Identifier := { text : String // isIdentifier text = true }

/-- A lowercase hexadecimal SHA-256 digest. -/
abbrev DigestText := { text : String // isDigest text = true }

/-- A latitude in microdegrees. -/
abbrev Latitude := { value : Int // -90000000 ≤ value ∧ value ≤ 90000000 }

/-- A longitude in microdegrees. -/
abbrev Longitude :=
  { value : Int // -180000000 ≤ value ∧ value ≤ 180000000 }

/-- Read a member as a text of one form. -/
def readText (form : String → Bool) (name : String)
    (members : Value.Members) : Option { text : String // form text = true } :=
  match Value.get name members with
  | .text text => if holds : form text = true then some ⟨text, holds⟩ else none
  | _ => none

/-- Read a member as an integer between two bounds. -/
def readBounded (lower upper : Int) (name : String)
    (members : Value.Members) :
    Option { value : Int // lower ≤ value ∧ value ≤ upper } :=
  match Value.get name members with
  | .int value =>
      if holds : lower ≤ value ∧ value ≤ upper then some ⟨value, holds⟩
      else none
  | _ => none

/-- Whether a member is the integer one and no Boolean. -/
def readOne (name : String) (members : Value.Members) : Option Unit :=
  match Value.get name members with
  | .int 1 => some ()
  | _ => none

/-- Whether a member is one exact text. -/
def readLiteral (expected name : String) (members : Value.Members) :
    Option Unit :=
  match Value.get name members with
  | .text text => if text = expected then some () else none
  | _ => none

/-- Whether an object has exactly the model's members. -/
def closed (names : List String) (members : Value.Members) : Option Unit :=
  if Value.keysAre members names then some () else none

/-! ## Operator commands -/

/-- The deterministic sector-assignment action. -/
structure AssignSectorAction where
  droneId : Identifier
  sectorId : Identifier
deriving DecidableEq

/-- The proposal-, evidence- and location-bound escalation action. -/
structure EscalateRescueAction where
  droneId : Identifier
  proposalId : Identifier
  proposalDigest : DigestText
  evidenceDecisionId : Identifier
  evidenceDecisionDigest : DigestText
  latitudeMicrodegrees : Latitude
  longitudeMicrodegrees : Longitude
deriving DecidableEq

/-- Both versions of an escalation are the integer one. -/
def actionVersion : Int := 1

/-- The action of an operator command. -/
inductive OperatorAction where
  | assignSector (action : AssignSectorAction)
  | escalateRescue (action : EscalateRescueAction)
deriving DecidableEq

namespace OperatorAction

/-- The drone an action names. -/
def droneId : OperatorAction → Identifier
  | .assignSector action => action.droneId
  | .escalateRescue action => action.droneId

/-- The command type of an action. -/
def commandType : OperatorAction → String
  | .assignSector _ => "assign-sector"
  | .escalateRescue _ => "escalate-rescue"

/-- `model_dump()` under the wire aliases. -/
def document : OperatorAction → Value.Members
  | .assignSector action =>
      [ ("commandType", .text "assign-sector"),
        ("droneId", .text action.droneId),
        ("sectorId", .text action.sectorId) ]
  | .escalateRescue action =>
      [ ("commandType", .text "escalate-rescue"),
        ("droneId", .text action.droneId),
        ("proposalId", .text action.proposalId),
        ("proposalDigest", .text action.proposalDigest),
        ("proposalVersion", .int actionVersion),
        ("evidenceDecisionId", .text action.evidenceDecisionId),
        ("evidenceDecisionDigest", .text action.evidenceDecisionDigest),
        ("evidenceDecisionVersion", .int actionVersion),
        ("latitudeMicrodegrees", .int action.latitudeMicrodegrees),
        ("longitudeMicrodegrees", .int action.longitudeMicrodegrees) ]

end OperatorAction

/-- Validate a sector assignment. -/
def readAssignSector (members : Value.Members) :
    Option AssignSectorAction := do
  closed ["commandType", "droneId", "sectorId"] members
  readLiteral "assign-sector" "commandType" members
  let droneId ← readText isIdentifier "droneId" members
  let sectorId ← readText isIdentifier "sectorId" members
  pure { droneId, sectorId }

/-- Validate an escalation. -/
def readEscalateRescue (members : Value.Members) :
    Option EscalateRescueAction := do
  closed ["commandType", "droneId", "proposalId", "proposalDigest",
    "proposalVersion", "evidenceDecisionId", "evidenceDecisionDigest",
    "evidenceDecisionVersion", "latitudeMicrodegrees",
    "longitudeMicrodegrees"] members
  readLiteral "escalate-rescue" "commandType" members
  let droneId ← readText isIdentifier "droneId" members
  let proposalId ← readText isIdentifier "proposalId" members
  let proposalDigest ← readText isDigest "proposalDigest" members
  readOne "proposalVersion" members
  let evidenceDecisionId ← readText isIdentifier "evidenceDecisionId" members
  let evidenceDecisionDigest ←
    readText isDigest "evidenceDecisionDigest" members
  readOne "evidenceDecisionVersion" members
  let latitudeMicrodegrees ←
    readBounded (-90000000) 90000000 "latitudeMicrodegrees" members
  let longitudeMicrodegrees ←
    readBounded (-180000000) 180000000 "longitudeMicrodegrees" members
  pure
    { droneId, proposalId, proposalDigest, evidenceDecisionId,
      evidenceDecisionDigest, latitudeMicrodegrees, longitudeMicrodegrees }

/-- Validate the closed union of the two actions. -/
def readAction : Value → Option OperatorAction
  | .object members =>
      match readAssignSector members with
      | some action => some (.assignSector action)
      | none => (readEscalateRescue members).map .escalateRescue
  | _ => none

/-- The command request of the dashboard. -/
structure OperatorCommandPayload where
  missionId : Identifier
  commandId : Identifier
  operatorId : Identifier
  action : OperatorAction
deriving DecidableEq

/-- Validate an operator-command payload. -/
def readOperatorCommand (members : Value.Members) :
    Option OperatorCommandPayload := do
  closed ["operatorCommandVersion", "missionId", "commandId", "operatorId",
    "action"] members
  readOne "operatorCommandVersion" members
  let missionId ← readText isIdentifier "missionId" members
  let commandId ← readText isIdentifier "commandId" members
  let operatorId ← readText isIdentifier "operatorId" members
  let action ← readAction (Value.get "action" members)
  pure { missionId, commandId, operatorId, action }

/-! ## Operator approvals and command results -/

/-- The rescue action an approval decision binds. -/
structure ApprovalAction where
  droneId : Identifier
  latitudeMicrodegrees : Latitude
  longitudeMicrodegrees : Longitude
deriving DecidableEq

/-- `model_dump()` of an approval action. -/
def ApprovalAction.document (action : ApprovalAction) : Value.Members :=
  [ ("commandType", .text "escalate-rescue"),
    ("droneId", .text action.droneId),
    ("latitudeMicrodegrees", .int action.latitudeMicrodegrees),
    ("longitudeMicrodegrees", .int action.longitudeMicrodegrees) ]

/-- Validate an approval action. -/
def readApprovalAction : Value → Option ApprovalAction
  | .object members => do
      closed ["commandType", "droneId", "latitudeMicrodegrees",
        "longitudeMicrodegrees"] members
      readLiteral "escalate-rescue" "commandType" members
      let droneId ← readText isIdentifier "droneId" members
      let latitudeMicrodegrees ←
        readBounded (-90000000) 90000000 "latitudeMicrodegrees" members
      let longitudeMicrodegrees ←
        readBounded (-180000000) 180000000 "longitudeMicrodegrees" members
      pure { droneId, latitudeMicrodegrees, longitudeMicrodegrees }
  | _ => none

/-- Two decimal digits whose value lies between two bounds. -/
def isClockPart (lower upper : Nat) (characters : List Char) : Bool :=
  characters.all isDigit &&
    lower ≤ Instant.digitsValue characters &&
    Instant.digitsValue characters ≤ upper

/-- The gateway's own instant pattern, which does not check the calendar. -/
def isInstantForm (text : String) : Bool :=
  match Instant.instantGroups text.toList with
  | some (years, months, days, hours, minutes, seconds, fraction) =>
      years.all isDigit && isClockPart 1 12 months && isClockPart 1 31 days &&
        isClockPart 0 23 hours && isClockPart 0 59 minutes &&
        isClockPart 0 59 seconds && fraction.all isDigit
  | none => false

/-- A text of the gateway's instant pattern. -/
abbrev InstantText := { text : String // isInstantForm text = true }

/-- The decision of an operator approval, with the expiry of an approval. -/
inductive ApprovalDecision where
  | approve (expiresAt : InstantText)
  | reject

/-- The text of a decision. -/
def ApprovalDecision.text : ApprovalDecision → String
  | .approve _ => "approve"
  | .reject => "reject"

/-- The expiry of a decision. -/
def ApprovalDecision.expiresAt : ApprovalDecision → Option String
  | .approve expiresAt => some expiresAt
  | .reject => none

/-- One proposal- and evidence-bound approval or rejection. -/
structure OperatorApprovalPayload where
  missionId : Identifier
  approvalId : Identifier
  operatorId : Identifier
  decision : ApprovalDecision
  issuedAt : InstantText
  proposalId : Identifier
  proposalDigest : DigestText
  evidenceDecisionId : Identifier
  evidenceDecisionDigest : DigestText
  action : ApprovalAction

/-- The decision and its expiry, required on the approving branch only. -/
def readDecision (members : Value.Members) : Option ApprovalDecision :=
  match Value.get "decision" members, Value.get "expiresAt" members with
  | .text "approve", .text text =>
      if holds : isInstantForm text = true then some (.approve ⟨text, holds⟩)
      else none
  | .text "reject", .null => some .reject
  | _, _ => none

/-- The required members of an operator approval. -/
def approvalMembers : List String :=
  ["operatorApprovalVersion", "missionId", "approvalId", "operatorId",
    "decision", "issuedAt", "proposalId", "proposalDigest",
    "proposalVersion", "evidenceDecisionId", "evidenceDecisionDigest",
    "evidenceDecisionVersion", "action"]

/-- Validate an operator-approval payload. -/
def readOperatorApproval (members : Value.Members) :
    Option OperatorApprovalPayload := do
  if Value.has "expiresAt" members then
    closed (approvalMembers ++ ["expiresAt"]) members
  else
    closed approvalMembers members
  readOne "operatorApprovalVersion" members
  let missionId ← readText isIdentifier "missionId" members
  let approvalId ← readText isIdentifier "approvalId" members
  let operatorId ← readText isIdentifier "operatorId" members
  let decision ← readDecision members
  let issuedAt ← readText isInstantForm "issuedAt" members
  let proposalId ← readText isIdentifier "proposalId" members
  let proposalDigest ← readText isDigest "proposalDigest" members
  readOne "proposalVersion" members
  let evidenceDecisionId ← readText isIdentifier "evidenceDecisionId" members
  let evidenceDecisionDigest ←
    readText isDigest "evidenceDecisionDigest" members
  readOne "evidenceDecisionVersion" members
  let action ← readApprovalAction (Value.get "action" members)
  pure
    { missionId, approvalId, operatorId, decision, issuedAt, proposalId,
      proposalDigest, evidenceDecisionId, evidenceDecisionDigest, action }

/-- What a drone reports about a command. -/
inductive ResultOutcome where
  | acknowledged
  | succeeded
  | failed
deriving DecidableEq

/-- One drone's report for a command. -/
structure CommandResultPayload where
  missionId : Identifier
  droneId : Identifier
  commandId : Identifier
  outcome : ResultOutcome
deriving DecidableEq

/-- Validate the outcome member of a command result. -/
def readOutcome (members : Value.Members) : Option ResultOutcome :=
  match Value.get "outcome" members with
  | .text "acknowledged" => some .acknowledged
  | .text "succeeded" => some .succeeded
  | .text "failed" => some .failed
  | _ => none

/-- Validate a command-result payload. -/
def readCommandResult (members : Value.Members) :
    Option CommandResultPayload := do
  closed ["missionId", "droneId", "commandId", "outcome"] members
  let missionId ← readText isIdentifier "missionId" members
  let droneId ← readText isIdentifier "droneId" members
  let commandId ← readText isIdentifier "commandId" members
  let outcome ← readOutcome members
  pure { missionId, droneId, commandId, outcome }

/-! ## Acceptance -/

/-- A validated notification: its topic, its envelope and its payload. -/
structure Accepted (payload : Type) where
  topic : Topic
  envelope : Envelope
  payload : payload

/-- One authorized, parsed broker document. -/
inductive AcceptedIngress where
  | operatorCommand (ingress : Accepted OperatorCommandPayload)
  | operatorApproval (ingress : Accepted OperatorApprovalPayload)
  | commandResult (ingress : Accepted CommandResultPayload)
  | gatewayRequest (topic : Topic) (request : GatewayRequest)
  | agentResponse (topic : Topic) (response : AgentResponse)

/-- Why broker input cannot cross the trust boundary. -/
inductive IngressRefusal where
  | topic
  | unauthorizedFamily
  | envelope
  | payload
  | binding
deriving DecidableEq

/-- `error.refusal.name.lower().replace("_", "-")` -/
def IngressRefusal.code : IngressRefusal → String
  | .topic => "topic"
  | .unauthorizedFamily => "unauthorized-family"
  | .envelope => "envelope"
  | .payload => "payload"
  | .binding => "binding"

/-- `_envelope`: decode and bind a notification to its topic. -/
def acceptEnvelope (host : Host) (raw : Bytes) (topic : Topic) :
    Except IngressRefusal Envelope := do
  let envelope ← recast (fun _ => .envelope) (decodeEnvelope host raw)
  recast (fun _ => .envelope) (checkTopicBinding envelope topic)
  pure envelope

/-- Accept a notification whose payload one model validates. -/
def acceptNotification {payload : Type} (host : Host)
    (read : Value.Members → Option payload) (raw : Bytes) (topic : Topic) :
    Except IngressRefusal (Accepted payload) := do
  let envelope ← acceptEnvelope host raw topic
  let payload ← present (read envelope.data) .payload
  pure { topic, envelope, payload }

/-- `_gateway_request` -/
def acceptGatewayRequest (host : Host) (raw : Bytes) (topic : Topic) :
    Except IngressRefusal AcceptedIngress := do
  let document ← recast (fun _ => .payload) (decode host raw)
  let request ← recast (fun _ => .payload) (parseGatewayRequest document)
  ensure
    (request.missionId = topic.missionId ∧
      request.operation = topic.parameter "operation")
    .binding
  pure (.gatewayRequest topic request)

/-- `_agent_response` -/
def acceptAgentResponse (host : Host) (raw : Bytes) (topic : Topic) :
    Except IngressRefusal AcceptedIngress := do
  let document ← recast (fun _ => .payload) (decode host raw)
  let response ← recast (fun _ => .payload) (parseAgentResponse document)
  recast (fun _ => .binding) (checkAgentResponseTopic response topic)
  pure (.agentResponse topic response)

/-- `accept_ingress` -/
def acceptIngress (host : Host) (raw : Bytes) (topicText : String) :
    Except IngressRefusal AcceptedIngress := do
  let topic ← recast (fun _ => .topic) (parseTopic topicText)
  match topic.family with
  | .operatorCommand =>
      (acceptNotification host readOperatorCommand raw topic).map
        .operatorCommand
  | .operatorApproval =>
      (acceptNotification host readOperatorApproval raw topic).map
        .operatorApproval
  | .droneCommandResult =>
      (acceptNotification host readCommandResult raw topic).map
        .commandResult
  | .gatewayRequest => acceptGatewayRequest host raw topic
  | .agentResponse => acceptAgentResponse host raw topic
  | _ => .error .unauthorizedFamily

/-! ## Accepted deliveries -/

theorem acceptNotification_of {payload : Type} {host : Host}
    {read : Value.Members → Option payload} {raw : Bytes} {topic : Topic}
    {envelope : Envelope} {body : payload}
    (decoded : decodeEnvelope host raw = .ok envelope)
    (bound : checkTopicBinding envelope topic = .ok ())
    (validated : read envelope.data = some body) :
    acceptNotification host read raw topic =
      .ok ⟨topic, envelope, body⟩ := by
  simp only [acceptNotification, acceptEnvelope, bind_eq_ok, recast_eq_ok,
    present_eq_ok, pure_eq_ok]
  exact ⟨envelope, ⟨envelope, decoded, (), bound, rfl⟩, body, validated,
    rfl⟩

/-- A bound and validated command crosses the boundary. -/
theorem acceptIngress_operatorCommand {host : Host} {raw : Bytes}
    {text : String} {topic : Topic} {envelope : Envelope}
    {payload : OperatorCommandPayload}
    (parsed : parseTopic text = .ok topic)
    (family : topic.family = .operatorCommand)
    (decoded : decodeEnvelope host raw = .ok envelope)
    (bound : checkTopicBinding envelope topic = .ok ())
    (validated : readOperatorCommand envelope.data = some payload) :
    acceptIngress host raw text =
      .ok (.operatorCommand ⟨topic, envelope, payload⟩) := by
  simp only [acceptIngress, bind_eq_ok, recast_eq_ok]
  refine ⟨topic, parsed, ?_⟩
  simp only [family, acceptNotification_of decoded bound validated,
    Except.map]

/-- A bound and validated command result crosses the boundary. -/
theorem acceptIngress_commandResult {host : Host} {raw : Bytes}
    {text : String} {topic : Topic} {envelope : Envelope}
    {payload : CommandResultPayload}
    (parsed : parseTopic text = .ok topic)
    (family : topic.family = .droneCommandResult)
    (decoded : decodeEnvelope host raw = .ok envelope)
    (bound : checkTopicBinding envelope topic = .ok ())
    (validated : readCommandResult envelope.data = some payload) :
    acceptIngress host raw text =
      .ok (.commandResult ⟨topic, envelope, payload⟩) := by
  simp only [acceptIngress, bind_eq_ok, recast_eq_ok]
  refine ⟨topic, parsed, ?_⟩
  simp only [family, acceptNotification_of decoded bound validated,
    Except.map]

end AerialRescue.Gateway.Ingress
