import AerialRescue.Contracts.Canonical
import AerialRescue.Lib.Guard

/-!
# The application topic families

The fifteen families, their templates, and the builder and parser of topic
text.  Every variable level obeys the grammar of the parameter it fills, and a
refusal names the first rule that a text breaks.
-/

namespace AerialRescue.Contracts.Topics

open AerialRescue.Lib.Guard
open AerialRescue.Contracts.Canonical

/-! ## Grammars of the variable levels -/

/-- `[a-z0-9]` -/
def isSlug (character : Char) : Bool :=
  isLower character || isDigit character

/-- `IDENTIFIER_PATTERN` -/
def isIdentifier (text : String) : Bool :=
  let characters := text.toList
  1 ≤ characters.length && characters.length ≤ 64 &&
    characters.all (fun character => isSlug character || character = '-') &&
    characters.head?.any isSlug && characters.getLast?.any isSlug

/-- `[a-z][a-z0-9]*(?:-[a-z0-9]+)*` -/
def isKindForm (characters : List Char) : Bool :=
  let words := characters.splitOn '-'
  characters.head?.any isLower &&
    words.all fun word => !word.isEmpty && word.all isSlug

/-- `KIND_PATTERN` within `MAX_KIND_LENGTH` -/
def isKind (text : String) : Bool :=
  text.length ≤ 32 && isKindForm text.toList

/-- `AGENT_NAME_PATTERN` -/
def isAgentName (text : String) : Bool :=
  let characters := text.toList
  1 ≤ characters.length && characters.length ≤ 64 &&
    characters.all fun character =>
      isAlphanumeric character || character = '_'

/-- `DECISIONS` -/
def isDecision (text : String) : Bool :=
  text = "approve" || text = "reject"

/-- Which grammar a variable level obeys. -/
inductive Rule where
  | identifier
  | kind
  | agentName
  | decision
deriving DecidableEq

/-- `_IDENTIFIER_PARAMETERS` -/
def identifierParameters : List String :=
  ["missionId", "droneId", "sectorId", "proposalId", "requestorId",
    "commandId", "requestId"]

/-- `rule_for` -/
def ruleFor (parameter : String) : Rule :=
  if parameter ∈ identifierParameters then .identifier
  else if parameter = "agentName" then .agentName
  else if parameter = "decision" then .decision
  else .kind

/-- `_conforms` -/
def conforms (rule : Rule) (value : String) : Bool :=
  match rule with
  | .identifier => isIdentifier value
  | .kind => isKind value
  | .agentName => isAgentName value
  | .decision => isDecision value

/-- Why text or a value is not an application topic. -/
inductive TopicRefusal where
  | length
  | wildcard
  | namespacePrefix
  | shape
  | identifierForm
  | kindForm
  | agentNameForm
  | decisionValue
  | parameterSet
deriving DecidableEq

/-- `_REFUSAL_BY_RULE` -/
def refusalByRule : Rule → TopicRefusal
  | .identifier => .identifierForm
  | .kind => .kindForm
  | .agentName => .agentNameForm
  | .decision => .decisionValue

/-- `validated_level` -/
def validatedLevel (parameter value : String) :
    Except TopicRefusal String := do
  ensure (conforms (ruleFor parameter) value)
    (refusalByRule (ruleFor parameter))
  pure value

/-! ## Families -/

/-- The topic families. -/
inductive Family where
  | operatorCommand
  | operatorApproval
  | droneTelemetry
  | droneEvent
  | droneCommand
  | droneCommandResult
  | gatewayRequest
  | gatewayResponse
  | gatewayRecord
  | agentProposal
  | agentResponse
  | evidenceDecision
  | audit
  | missionEvent
  | sectorEvent
deriving DecidableEq

/-- One level of a template: literal text or a named parameter. -/
inductive Level where
  | literal (text : String)
  | parameter (name : String)
deriving DecidableEq

namespace Family

/-- Every family, in the order of the source's enumeration. -/
def all : List Family :=
  [operatorCommand, operatorApproval, droneTelemetry, droneEvent,
    droneCommand, droneCommandResult, gatewayRequest, gatewayResponse,
    gatewayRecord, agentProposal, agentResponse, evidenceDecision, audit,
    missionEvent, sectorEvent]

open Level in
/-- The template after the mission level. -/
def levels : Family → List Level
  | operatorCommand =>
      [literal "operator", literal "command", parameter "commandType"]
  | operatorApproval =>
      [literal "operator", literal "approval", parameter "decision"]
  | droneTelemetry =>
      [literal "drone", parameter "droneId", literal "telemetry"]
  | droneEvent =>
      [literal "drone", parameter "droneId", literal "event",
        parameter "eventType"]
  | droneCommand =>
      [literal "drone", parameter "droneId", literal "command",
        parameter "commandType"]
  | droneCommandResult =>
      [literal "drone", parameter "droneId", literal "command-result",
        parameter "commandId"]
  | gatewayRequest =>
      [literal "gateway", literal "request", parameter "operation"]
  | gatewayResponse =>
      [literal "gateway", literal "response", parameter "requestorId"]
  | gatewayRecord =>
      [literal "gateway", literal "record", parameter "requestId"]
  | agentProposal =>
      [literal "agent", literal "proposal", parameter "agentName",
        parameter "proposalType"]
  | agentResponse =>
      [literal "agent", literal "response", parameter "agentName"]
  | evidenceDecision =>
      [literal "evidence", literal "decision", parameter "proposalId"]
  | audit => [literal "audit", parameter "recordType"]
  | missionEvent =>
      [literal "mission", literal "event", parameter "eventType"]
  | sectorEvent =>
      [literal "sector", parameter "sectorId", literal "event",
        parameter "eventType"]

/-- The parameter names, in template order. -/
def parameters (family : Family) : List String :=
  family.levels.filterMap fun
    | .literal _ => none
    | .parameter name => some name

/-- The template without the levels that name an instance. -/
def typeLevels (family : Family) : List Level :=
  family.levels.filter fun
    | .literal _ => true
    | .parameter name =>
        ruleFor name != .identifier && ruleFor name != .agentName

/-- The hyphenated name an application-outbox row holds. -/
def outboxFamily : Family → String
  | operatorCommand => "operator-command"
  | operatorApproval => "operator-approval"
  | droneTelemetry => "drone-telemetry"
  | droneEvent => "drone-event"
  | droneCommand => "drone-command"
  | droneCommandResult => "drone-command-result"
  | gatewayRequest => "gateway-request"
  | gatewayResponse => "gateway-response"
  | gatewayRecord => "gateway-record"
  | agentProposal => "agent-proposal"
  | agentResponse => "agent-response"
  | evidenceDecision => "evidence-decision"
  | audit => "audit"
  | missionEvent => "mission-event"
  | sectorEvent => "sector-event"

end Family

/-- The literal levels of a family joined with dots. -/
def literalSuffix (family : Family) : String :=
  String.intercalate "."
    (family.levels.filterMap fun
      | .literal text => some text
      | .parameter _ => none)

/-- What delivery guarantee a family is owed. -/
inductive Delivery where
  | direct
  | guaranteed
  | requestReply
deriving DecidableEq

/-- `delivery_for` -/
def deliveryFor : Family → Delivery
  | .droneTelemetry | .gatewayRecord | .agentResponse => .direct
  | .gatewayRequest | .gatewayResponse => .requestReply
  | _ => .guaranteed

/-! ## Topics -/

/-- One application topic as the values that identify it. -/
structure Topic where
  family : Family
  missionId : String
  parameters : List (String × String)
deriving DecidableEq

namespace Topic

/-- The value of a parameter; every family's own parameters are present. -/
def parameter (topic : Topic) (name : String) : String :=
  (topic.parameters.lookup name).getD ""

end Topic

/-- `text.split(separator)` -/
def splitText (separator : Char) (text : String) : List String :=
  (text.toList.splitOn separator).map String.ofList

/-- `namespace_prefix().split("/")` -/
def prefixLevels : List String :=
  ["aerial-rescue", "v1"]

/-- `format_topic` -/
def formatTopic (topic : Topic) : Except TopicRefusal String := do
  let names := topic.parameters.map Prod.fst
  ensure
    (names.all topic.family.parameters.contains &&
      topic.family.parameters.all names.contains)
    .parameterSet
  let mission ← validatedLevel "missionId" topic.missionId
  let rest ← topic.family.levels.mapM fun
    | .literal text => pure text
    | .parameter name => validatedLevel name (topic.parameter name)
  pure (String.intercalate "/" (prefixLevels ++ mission :: rest))

/-- `_matches_template` -/
def matchesTemplate : List Level → List String → Bool
  | [], [] => true
  | .literal expected :: template, level :: levels =>
      expected = level && matchesTemplate template levels
  | .parameter _ :: template, _ :: levels => matchesTemplate template levels
  | _, _ => false

/-- `_bind`: validate every placeholder in template order. -/
def bindLevels : List Level → List String →
    Except TopicRefusal (List (String × String))
  | .literal _ :: template, _ :: levels => bindLevels template levels
  | .parameter name :: template, level :: levels => do
      let value ← validatedLevel name level
      let rest ← bindLevels template levels
      pure ((name, value) :: rest)
  | _, _ => .ok []

/-- `parse_topic` -/
def parseTopic (text : String) : Except TopicRefusal Topic := do
  ensure (text.utf8ByteSize ≤ 250) .length
  ensure (text.toList.all fun character =>
    character != '*' && character != '>') .wildcard
  let levels := splitText '/' text
  ensure (levels.take 2 = prefixLevels) .namespacePrefix
  let family ← present
    (Family.all.find? fun family =>
      matchesTemplate family.levels (levels.drop 3))
    .shape
  let missionId ← validatedLevel "missionId" (levels.getD 2 "")
  let parameters ← bindLevels family.levels (levels.drop 3)
  pure { family, missionId, parameters }

/-- `event_type` -/
def eventType (topic : Topic) : Except TopicRefusal String := do
  let segments ← topic.family.typeLevels.mapM fun
    | .literal text => pure text
    | .parameter name => validatedLevel name (topic.parameter name)
  pure (String.intercalate "." (prefixLevels ++ segments))

end AerialRescue.Contracts.Topics
