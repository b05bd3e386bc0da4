import AerialRescue.Contracts.EnvelopeForm
import AerialRescue.Fleet.Store
import AerialRescue.Gateway.Ingress

/-!
# Command handling

The fleet's handling of one guaranteed drone command: the intake that accepts
or refuses the bytes, the transaction that claims the receipt, admits the
sequence, applies the effect and stages both results, and the settlement that
follows it.

A sequence that does not advance rolls the claim back and the delivery is
accepted all the same.
-/

namespace AerialRescue.Fleet

open AerialRescue.Contracts
open AerialRescue.Contracts.Canonical
open AerialRescue.Contracts.Envelopes
open AerialRescue.Contracts.Rpc
open AerialRescue.Contracts.Topics
open AerialRescue.Domain.Commands
open AerialRescue.Gateway.Ingress
open AerialRescue.Lib
open AerialRescue.Lib.Guard
open AerialRescue.Lib.Transaction
open AerialRescue.Store

/-! ## Intake -/

/-- Why a message on a drone's command queue is not a command to act on. -/
inductive IntakeRefusal where
  | unrouted
  | unknownCommandType
  | unreadable
  | unboundCommandType
  | topicDisagreement
  | malformedCommand
deriving DecidableEq

/-- What a command asks of the drone. -/
inductive CommandAction where
  | assignSector (sectorId : String)
  | escalateRescue (approvalId proposalId proposalDigest : String)
      (evidenceDecisionId evidenceDecisionDigest : String)
      (latitudeMicrodegrees longitudeMicrodegrees : Int)
deriving DecidableEq

/-- `IncomingCommand` -/
structure IncomingCommand where
  commandId : String
  action : CommandAction
  eventId : String
  correlationId : String
  sequence : Nat
deriving DecidableEq

/-- `_routed` -/
def routed (topic droneId missionId : String) :
    Except IntakeRefusal Topic := do
  let parsed ← recast (fun _ => .unrouted) (parseTopic topic)
  ensure
    (parsed.family = .droneCommand ∧ parsed.missionId = missionId ∧
      parsed.parameter "droneId" = droneId)
    .unrouted
  pure parsed

/-- `_AssignSectorPayload` -/
def readAssignment (data : Value.Members) :
    Option (String × CommandAction) := do
  closed ["missionId", "droneId", "commandId", "sectorId"] data
  let _ ← readText isIdentifier "missionId" data
  let _ ← readText isIdentifier "droneId" data
  let commandId ← readText isIdentifier "commandId" data
  let sectorId ← readText isIdentifier "sectorId" data
  pure (commandId, .assignSector sectorId)

/-- `_EscalateRescuePayload` -/
def readEscalation (data : Value.Members) :
    Option (String × CommandAction) := do
  closed ["missionId", "droneId", "commandId", "approvalId", "proposalId",
    "proposalDigest", "proposalVersion", "evidenceDecisionId",
    "evidenceDecisionDigest", "evidenceDecisionVersion",
    "latitudeMicrodegrees", "longitudeMicrodegrees"] data
  let _ ← readText isIdentifier "missionId" data
  let _ ← readText isIdentifier "droneId" data
  let commandId ← readText isIdentifier "commandId" data
  let approvalId ← readText isIdentifier "approvalId" data
  let proposalId ← readText isIdentifier "proposalId" data
  let proposalDigest ← readText isDigest "proposalDigest" data
  readOne "proposalVersion" data
  let evidenceDecisionId ← readText isIdentifier "evidenceDecisionId" data
  let evidenceDecisionDigest ←
    readText isDigest "evidenceDecisionDigest" data
  readOne "evidenceDecisionVersion" data
  let latitudeMicrodegrees ←
    readBounded (-90000000) 90000000 "latitudeMicrodegrees" data
  let longitudeMicrodegrees ←
    readBounded (-180000000) 180000000 "longitudeMicrodegrees" data
  pure
    (commandId,
      .escalateRescue approvalId proposalId proposalDigest
        evidenceDecisionId evidenceDecisionDigest latitudeMicrodegrees
        longitudeMicrodegrees)

/-- `_validate_payload`, by the command type of the topic. -/
def validatePayload (commandType : String) (data : Value.Members) :
    Except IntakeRefusal (String × CommandAction) :=
  match commandType with
  | "assign-sector" => present (readAssignment data) .malformedCommand
  | "escalate-rescue" => present (readEscalation data) .malformedCommand
  | _ => .error .unknownCommandType

/-- `_unreadable` and the refusal of bytes that are no envelope. -/
def unreadable : EnvelopeFailure → IntakeRefusal
  | .envelope error =>
      if error.refusal = .unknownType then .unboundCommandType
      else .unreadable
  | _ => .unreadable

/-- `accept` -/
def accept (host : Host) (payload : Bytes) (topic droneId missionId : String) :
    Except IntakeRefusal IncomingCommand := do
  let parsed ← routed topic droneId missionId
  let kind := parsed.parameter "commandType"
  ensure (kind = "assign-sector" ∨ kind = "escalate-rescue")
    .unknownCommandType
  let envelope ← recast unreadable (decodeEnvelope host payload)
  recast (fun _ => .topicDisagreement) (checkTopicBinding envelope parsed)
  let validated ← validatePayload kind envelope.data
  pure
    { commandId := validated.1
      action := validated.2
      eventId := envelope.id
      correlationId := envelope.correlationId
      sequence := sequenceNumber envelope.sequence }

/-! ## Results -/

/-- What the composition root supplies for one result. -/
structure ResultStamp where
  eventId : String
  occurredAt : String
  sequence : Int
  traceparent : String
deriving DecidableEq

/-- `event_source` -/
def eventSource (droneId : String) : String :=
  "urn:aerial-rescue:drone:" ++ droneId

/-- `OUTCOMES` -/
def resultWord : CommandState → Option String
  | .acknowledged => some "acknowledged"
  | .succeeded => some "succeeded"
  | .failed => some "failed"
  | _ => none

/-- `received` and `apply`: the state a drone puts a command into. -/
def reportedState (event : CommandEvent) (budget : SendBudget) :
    Option CommandState := do
  let progress ← advance initialProgress .send budget
  let acknowledged ← advance progress .acknowledge budget
  if event = .acknowledge then pure acknowledged.state
  else
    guard (event = .succeed ∨ event = .fail)
    let selected ← advance acknowledged event budget
    pure selected.state

/-- The topic of a command result. -/
def resultTopic (missionId droneId commandId : String) : Topic where
  family := .droneCommandResult
  missionId := missionId
  parameters := [("droneId", droneId), ("commandId", commandId)]

/-- `result_record`: the topic text and the envelope document. -/
def resultRecord (host : Host) (missionId droneId : String)
    (command : IncomingCommand) (state : CommandState)
    (stamp : ResultStamp) : Except FleetFailure (String × Value.Members) := do
  let word ← present (resultWord state) .result
  let sequence ← present (sequenceText stamp.sequence) .result
  let topic := resultTopic missionId droneId command.commandId
  let declared ← recast (fun _ => .result) (eventType topic)
  let bound ← recast (fun _ => FleetFailure.result) (bindingFor declared)
  let document := envelopeDocument
    { id := stamp.eventId
      source := eventSource droneId
      type := declared
      subject := missionId
      time := stamp.occurredAt
      dataschema := bound.dataschema
      sequence
      correlationId := command.correlationId
      traceparent := stamp.traceparent
      data :=
        [ ("missionId", .text missionId),
          ("droneId", .text droneId),
          ("commandId", .text command.commandId),
          ("outcome", .text word) ]
      causationId := some command.eventId
      tracestate := none }
  let envelope ← recast (fun _ => FleetFailure.result)
    (parseEnvelope host (.object document))
  recast (fun _ => .result) (checkTopicBinding envelope topic)
  let text ← recast (fun _ => .result) (formatTopic topic)
  pure (text, document)

/-- A well-formed envelope that reports a command is its result record. -/
theorem resultRecord_of {host : Host} {missionId droneId word text : String}
    {command : IncomingCommand} {state : CommandState} {stamp : ResultStamp}
    {envelope : Envelope} (reported : resultWord state = some word)
    (sequence : sequenceText stamp.sequence = some envelope.sequence)
    (source : eventSource droneId = envelope.source)
    (members :
      envelope =
        { envelope with
          id := stamp.eventId
          subject := missionId
          time := stamp.occurredAt
          correlationId := command.correlationId
          traceparent := stamp.traceparent
          data :=
            [ ("missionId", .text missionId),
              ("droneId", .text droneId),
              ("commandId", .text command.commandId),
              ("outcome", .text word) ]
          causationId := some command.eventId
          tracestate := none })
    (formed : envelope.WellFormed host)
    (bound :
      checkTopicBinding envelope
        (resultTopic missionId droneId command.commandId) = .ok ())
    (formatted :
      formatTopic (resultTopic missionId droneId command.commandId) =
        .ok text) :
    resultRecord host missionId droneId command state stamp =
      .ok (text, envelopeDocument envelope) := by
  have typed :
      eventType (resultTopic missionId droneId command.commandId) =
        .ok envelope.type := by
    simp only [checkTopicBinding, bind_eq_ok, recast_eq_ok,
      ensure_eq_ok] at bound
    rcases bound with ⟨_, typed, _, rfl, _⟩
    exact typed
  have schema :
      ∃ found, bindingFor envelope.type = .ok found ∧
        envelope.dataschema = found.dataschema := by
    have follows := formed.bound
    simp only [bindEnvelope, bind_eq_ok, ensure_eq_ok] at follows
    rcases follows with ⟨found, known, _, _, _, same, _⟩
    exact ⟨found, known, same⟩
  rcases schema with ⟨found, known, same⟩
  have document :
      ({ id := stamp.eventId
         source := eventSource droneId
         type := envelope.type
         subject := missionId
         time := stamp.occurredAt
         dataschema := found.dataschema
         sequence := envelope.sequence
         correlationId := command.correlationId
         traceparent := stamp.traceparent
         data :=
           [ ("missionId", .text missionId),
             ("droneId", .text droneId),
             ("commandId", .text command.commandId),
             ("outcome", .text word) ]
         causationId := some command.eventId
         tracestate := none } : Envelope) = envelope := by
    rw [members, source, ← same]
  simp only [resultRecord, bind_eq_ok, present_eq_ok, recast_eq_ok,
    pure_eq_ok]
  refine ⟨word, reported, envelope.sequence, sequence, envelope.type, typed,
    found, known, envelope, ?_, (), bound, text, formatted, ?_⟩
  · rw [document]
    exact parseEnvelope_envelopeDocument formed
  · rw [document]

/-- `_result`: the topic and the canonical bytes of one report. -/
def resultBytes (host : Host) (budget : SendBudget)
    (missionId droneId : String) (command : IncomingCommand)
    (event : CommandEvent) (stamp : ResultStamp) :
    Except FleetFailure (String × Bytes) := do
  let state ← present (reportedState event budget) .result
  let record ← resultRecord host missionId droneId command state stamp
  let payload ← recast (fun _ => .result)
    (canonicalBytes host (.object record.2))
  pure (record.1, payload)

/-- `_staged`: a result as its row of the critical outbox. -/
def stagedResult (host : Host) (droneId topic : String) (payload : Bytes) :
    Except FleetFailure StagedApplicationEvent := do
  let envelope ← recast (fun _ => FleetFailure.result)
    (decodeEnvelope host payload)
  pure
    { producer := eventSource droneId
      eventId := envelope.id
      family := "drone-command-result"
      topic
      headers := utf8 ['{', '}']
      payload
      traceparent := envelope.traceparent
      tracestate := envelope.tracestate
      correlationId := envelope.correlationId
      causationId := envelope.causationId
      stagedAt := envelope.time }

/-! ## Processing -/

/-- The simulated effect of one command. -/
structure EffectResult where
  event : CommandEvent
  appliedSequence : Nat
  effectPayload : Bytes
deriving DecidableEq

/-- `_effect_for`: the simulated effect over the sectors of a run. -/
def effectFor (knownSectors : List String) (droneId : String)
    (command : IncomingCommand) : EffectResult :=
  match command.action with
  | .assignSector sectorId =>
      let succeeded := decide (sectorId ∈ knownSectors)
      { event := if succeeded then .succeed else .fail
        appliedSequence := command.sequence
        effectPayload := bytesOf
          (.object
            [ ("commandId", .text command.commandId),
              ("droneId", .text droneId),
              ("sectorId", .text sectorId),
              ("state",
                .text (if succeeded then "assigned" else "refused")) ]) }
  | .escalateRescue approvalId proposalId proposalDigest evidenceDecisionId
      evidenceDecisionDigest latitudeMicrodegrees longitudeMicrodegrees =>
      { event := .succeed
        appliedSequence := command.sequence
        effectPayload := bytesOf
          (.object
            [ ("approvalId", .text approvalId),
              ("commandId", .text command.commandId),
              ("droneId", .text droneId),
              ("evidenceDecisionDigest", .text evidenceDecisionDigest),
              ("evidenceDecisionId", .text evidenceDecisionId),
              ("evidenceDecisionVersion", .int 1),
              ("latitudeMicrodegrees", .int latitudeMicrodegrees),
              ("longitudeMicrodegrees", .int longitudeMicrodegrees),
              ("proposalDigest", .text proposalDigest),
              ("proposalId", .text proposalId),
              ("proposalVersion", .int 1),
              ("state", .text "rescue-escalated") ]) }

/-- What one delivery is processed with. -/
structure CommandContext where
  host : Host
  missionId : String
  roster : List String
  budget : SendBudget
  /-- The injected deterministic effect. -/
  effect : String → IncomingCommand → EffectResult

/-- What the clock and the identifier source supply for one attempt. -/
structure Stamps where
  acknowledged : ResultStamp
  final : ResultStamp
  processedAt : String
deriving DecidableEq

/-- A guaranteed command delivery. -/
structure CommandDelivery where
  topic : String
  payload : Bytes
deriving DecidableEq

/-- `_STORE_OUTCOME` -/
def storeOutcome : CommandEvent → Option CommandEffectOutcome
  | .succeed => some .succeeded
  | .fail => some .failed
  | _ => none

/-- The row of one report. -/
def stagedReport (context : CommandContext)
    (identity : CommandReceiptIdentity) (command : IncomingCommand)
    (event : CommandEvent) (stamp : ResultStamp) :
    Except FleetFailure StagedApplicationEvent := do
  let report ← resultBytes context.host context.budget identity.missionId
    identity.droneId command event stamp
  stagedResult context.host identity.droneId report.1 report.2

/-- Capacity refusals become the transient refusal of the use case. -/
def renameCapacity : FleetFailure → FleetFailure
  | .store .recordCapacity => .processing .criticalOutboxCapacity
  | .store .byteCapacity => .processing .criticalOutboxCapacity
  | failure => failure

/-- `_apply_new` -/
def applyNew (context : CommandContext) (identity : CommandReceiptIdentity)
    (command : IncomingCommand) (stamps : Stamps) : FleetTx Bytes := do
  let effect := context.effect identity.droneId command
  let outcome ← demand (storeOutcome effect.event)
    (.processing .invalidEffect)
  let acknowledged ← lift id
    (stagedReport context identity command .acknowledge stamps.acknowledged)
  let final ← lift id
    (stagedReport context identity command effect.event stamps.final)
  rethrow renameCapacity
    (persistOutcome ⟨identity.droneId, eventSource identity.droneId⟩
      { identity
        outcome
        effectPayload := effect.effectPayload
        appliedSequence := effect.appliedSequence
        appliedAt := stamps.processedAt }
      [acknowledged, final] final.payload)
  pure final.payload

/-- How one delivery was processed. -/
inductive CommandProcessingOutcome where
  | applied (result : Bytes)
  | duplicate (result : Bytes)
deriving DecidableEq

/-- `_inside_transaction` -/
def insideTransaction (context : CommandContext)
    (identity : CommandReceiptIdentity) (command : IncomingCommand)
    (stamps : Stamps) : FleetTx CommandProcessingOutcome := do
  let decision ← claimReceipt identity
  match decision with
  | .duplicate completion => pure (.duplicate completion.result)
  | .claimed =>
      let verdict ← admitSequence
        ⟨identity.droneId, eventSource identity.droneId⟩ command.sequence
      require (verdict = .advances) .superseded
      let result ← applyNew context identity command stamps
      pure (.applied result)

/-- `_known_drone` -/
def knownDrone (context : CommandContext) (delivery : CommandDelivery) :
    Except ProcessingRefusal String := do
  let topic ← recast (fun _ => .invalidCommand) (parseTopic delivery.topic)
  ensure (topic.family = .droneCommand) .invalidCommand
  ensure (topic.parameter "droneId" ∈ context.roster) .unknownDrone
  pure (topic.parameter "droneId")

/-- The drone and the command of a delivery that the intake accepts. -/
def intake (context : CommandContext) (delivery : CommandDelivery) :
    Except ProcessingRefusal (String × IncomingCommand) := do
  let droneId ← knownDrone context delivery
  let command ← recast (fun _ => .invalidCommand)
    (accept context.host delivery.payload delivery.topic droneId
      context.missionId)
  pure (droneId, command)

/-- `_identity` -/
def receiptIdentity (context : CommandContext) (delivery : CommandDelivery)
    (droneId : String) (command : IncomingCommand) :
    CommandReceiptIdentity where
  droneId := droneId
  commandId := command.commandId
  missionId := context.missionId
  commandDigest := context.host.sha256 delivery.payload

/-- How a delivery was settled; an escaping exception settles nothing. -/
inductive Settlement where
  | accepted
  | failed
  | rejected
  | unsettled
deriving DecidableEq

/-- `handle_command`: the durable rows after it and the settlement. -/
def handleCommand (context : CommandContext) (delivery : CommandDelivery)
    (stamps : Stamps) (database : FleetDatabase) :
    FleetDatabase × Settlement :=
  match intake context delivery with
  | .error _ => (database, .rejected)
  | .ok (droneId, command) =>
      let identity := receiptIdentity context delivery droneId command
      match exec (atomically (insideTransaction context identity command
          stamps)) database with
      | (.ok _, after) => (after, .accepted)
      | (.error .superseded, after) => (after, .accepted)
      | (.error (.processing .criticalOutboxCapacity), after) =>
          (after, .failed)
      | (.error _, after) => (after, .unsettled)

end AerialRescue.Fleet
