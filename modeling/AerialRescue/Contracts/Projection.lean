import AerialRescue.Contracts.View

/-!
# Projections

`project`: the dashboard event that one validated envelope reports.  Every
event type that the dashboard knows has a kind and a class; the four that
change reduced state also have a payload they must match.
-/

namespace AerialRescue.Contracts.View

open AerialRescue.Lib.Guard
open AerialRescue.Contracts.Canonical
open AerialRescue.Contracts.Envelopes
open AerialRescue.Contracts.Topics

/-! ## Payloads -/

/-- Why an envelope does not become a dashboard event. -/
inductive ViewRefusal where
  | unprojected
  | malformedPayload
deriving DecidableEq

/-- `ViewError`: the refusal, the member at fault and its value. -/
structure ViewError where
  refusal : ViewRefusal
  member : String
  value : Value

/-- `_malformed` -/
def malformed (data : Value.Members) (name : String) : ViewError :=
  ⟨.malformedPayload, name, Value.get name data⟩

/-- A check of the normalized view, refused as a malformed payload. -/
def payloadCheck {α : Type} (data : Value.Members)
    (body : Except Problem α) : Except ViewError α :=
  recast (fun problem => malformed data problem.member) body

/-- `_closed_members` -/
def closedMembers (data : Value.Members) (required : List String) :
    Except ViewError Unit :=
  payloadCheck data (closedEventData data required)

/-- `_identifier` -/
def payloadIdentifier (data : Value.Members) (name : String) :
    Except ViewError String :=
  payloadCheck data (eventIdentifier data name)

/-- `_payload_integer` -/
def payloadInteger (data : Value.Members) (name : String)
    (minimum maximum : Int) : Except ViewError Int :=
  payloadCheck data (boundedInteger data name minimum maximum)

/-- `_choice` -/
def choice (data : Value.Members) (name : String) (allowed : List String) :
    Except ViewError String :=
  match Value.get name data with
  | .text value =>
      if value ∈ allowed then .ok value else .error (malformed data name)
  | _ => .error (malformed data name)

/-- `_validate_connectivity` -/
def validateConnectivity (data : Value.Members) : Except ViewError Unit := do
  closedMembers data ["missionId", "droneId", "connectivity"]
  let _ ← payloadIdentifier data "missionId"
  let _ ← payloadIdentifier data "droneId"
  let _ ← choice data "connectivity" ["CONNECTED", "DEGRADED", "OFFLINE"]
  pure ()

/-- `_validate_telemetry` -/
def validateTelemetry (data : Value.Members) : Except ViewError Unit := do
  closedMembers data
    ["missionId", "droneId", "latitudeMicrodegrees",
      "longitudeMicrodegrees", "batteryPercent", "altitudeMetres",
      "headingDegrees", "groundSpeedCentimetresPerSecond"]
  let _ ← payloadIdentifier data "missionId"
  let _ ← payloadIdentifier data "droneId"
  let _ ← payloadInteger data "latitudeMicrodegrees" (-90000000) 90000000
  let _ ← payloadInteger data "longitudeMicrodegrees" (-180000000) 180000000
  let _ ← payloadInteger data "batteryPercent" 0 100
  let _ ← payloadInteger data "altitudeMetres" (-500) 20000
  let _ ← payloadInteger data "headingDegrees" 0 359
  let _ ← payloadInteger data "groundSpeedCentimetresPerSecond" 0 10000
  pure ()

/-- `_validate_mission_lifecycle` -/
def validateMissionLifecycle (data : Value.Members) :
    Except ViewError Unit := do
  closedMembers data ["missionId", "lifecycle"]
  let _ ← payloadIdentifier data "missionId"
  let _ ← choice data "lifecycle"
    ["PLANNED", "SEARCHING", "EXHAUSTED", "ABORTED"]
  pure ()

/-- `_validate_sector_lifecycle` -/
def validateSectorLifecycle (data : Value.Members) :
    Except ViewError Unit := do
  closedMembers data ["missionId", "sectorId", "state", "assignedMemberId"]
  let _ ← payloadIdentifier data "missionId"
  let _ ← payloadIdentifier data "sectorId"
  let state ← choice data "state"
    ["UNASSIGNED", "ASSIGNED", "AT_RISK", "SEARCHED"]
  if state = "UNASSIGNED" then
    match Value.get "assignedMemberId" data with
    | .null => pure ()
    | _ => .error (malformed data "assignedMemberId")
  else
    payloadIdentifier data "assignedMemberId" >>= fun _ => pure ()

/-! ## The table -/

/-- The kind and class an application event type projects to. -/
structure Projection where
  kind : String
  eventClass : EventClass
  validatePayload : Value.Members → Except ViewError Unit
  omittedDataMembers : List String

/-- A projection that accepts every payload. -/
def openProjection (kind : String) (eventClass : EventClass) : Projection where
  kind := kind
  eventClass := eventClass
  validatePayload := fun _ => .ok ()
  omittedDataMembers := ["missionId"]

/-- `PROJECTIONS`, without the common start of the types. -/
def projectionNamed : String → Option Projection
  | "drone.telemetry" =>
      some
        { openProjection "droneTelemetry" .telemetry with
          validatePayload := validateTelemetry }
  | "drone.event.connectivity-changed" =>
      some
        { openProjection "connectivityChanged" .connectivity with
          validatePayload := validateConnectivity }
  | "mission.event.lifecycle" =>
      some
        { openProjection "missionLifecycle" .mission with
          validatePayload := validateMissionLifecycle }
  | "sector.event.lifecycle" =>
      some
        { openProjection "sectorLifecycle" .mission with
          validatePayload := validateSectorLifecycle }
  | "operator.command.assign-sector" =>
      some (openProjection "operatorCommand" .command)
  | "operator.command.escalate-rescue" =>
      some (openProjection "operatorCommand" .command)
  | "operator.approval.approve" =>
      some (openProjection "operatorApproval" .approval)
  | "operator.approval.reject" =>
      some (openProjection "operatorApproval" .approval)
  | "agent.proposal.candidate-location" =>
      some (openProjection "agentProposal" .evidence)
  | "evidence.decision" =>
      some
        { openProjection "evidenceDecision" .evidence with
          omittedDataMembers := ["missionId", "evidenceDecisionDigest"] }
  | "drone.event.salient" =>
      some (openProjection "salientObservation" .evidence)
  | "gateway.record" => some (openProjection "gatewayResponse" .audit)
  | "drone.command.assign-sector" =>
      some (openProjection "droneCommand" .command)
  | "drone.command.escalate-rescue" =>
      some (openProjection "droneCommand" .command)
  | "drone.command-result" =>
      some (openProjection "commandResult" .command)
  | "audit.proposal-normalization" =>
      some (openProjection "auditRecord" .audit)
  | "audit.evidence-decision" => some (openProjection "auditRecord" .audit)
  | "audit.command-authorization" =>
      some (openProjection "auditRecord" .audit)
  | _ => none

/-- `projection_for` -/
def projectionFor (type : String) : Except ViewError Projection :=
  let start := "aerial-rescue.v1."
  present
    (if start.toList.isPrefixOf type.toList then
      projectionNamed (String.ofList (type.toList.drop start.length))
    else none)
    ⟨.unprojected, "type", .text type⟩

/-- `project` -/
def project (envelope : Envelope) : Except ViewError DashboardEvent := do
  let projection ← projectionFor envelope.type
  projection.validatePayload envelope.data
  ensure
    (Value.pyEq (Value.get "missionId" envelope.data)
      (.text envelope.subject) = true)
    (malformed envelope.data "missionId")
  pure
    { kind := projection.kind
      eventClass := projection.eventClass
      mission := envelope.subject
      time := envelope.time
      data := envelope.data.filter fun member =>
        !projection.omittedDataMembers.contains member.1 }

/-- A projected event is an event of the envelope's mission. -/
theorem project_mission {envelope : Envelope} {event : DashboardEvent}
    (projected : project envelope = .ok event) :
    event.mission = envelope.subject := by
  simp only [project, bind_eq_ok, pure_eq_ok] at projected
  rcases projected with ⟨_, _, _, _, _, _, rfl⟩
  rfl

end AerialRescue.Contracts.View
