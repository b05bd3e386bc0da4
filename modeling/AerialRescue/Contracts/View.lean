import AerialRescue.Contracts.Digest
import AerialRescue.Contracts.Rpc

/-!
# The reduced dashboard state

Normalized dashboard events and the reducer that folds them, in audit order,
into the state of one mission.  A fold validates the event, then the
checkpoint it starts from, then the order of the ordinals, and only then
changes the part of the state that the event owns.

A digest may fail, so a fold is a computation that may raise; every refusal of
the reducer itself is an outcome that carries the unchanged checkpoint.
-/

namespace AerialRescue.Contracts.View

open AerialRescue.Lib.Guard
open AerialRescue.Contracts.Canonical
open AerialRescue.Contracts.Digest
open AerialRescue.Contracts.Envelopes
open AerialRescue.Contracts.Rpc
open AerialRescue.Contracts.Topics

/-! ## Vocabulary -/

/-- What kind of change a dashboard event reports. -/
inductive EventClass where
  | telemetry
  | connectivity
  | mission
  | command
  | evidence
  | approval
  | audit
deriving DecidableEq

/-- The name of a class on the wire. -/
def EventClass.text : EventClass → String
  | .telemetry => "TELEMETRY"
  | .connectivity => "CONNECTIVITY"
  | .mission => "MISSION"
  | .command => "COMMAND"
  | .evidence => "EVIDENCE"
  | .approval => "APPROVAL"
  | .audit => "AUDIT"

/-- `droppable`: whether a full client buffer may discard the class. -/
def droppable (eventClass : EventClass) : Bool :=
  eventClass = .telemetry

/-- One normalized change, without any transport member. -/
structure DashboardEvent where
  kind : String
  eventClass : EventClass
  mission : String
  time : String
  data : Value.Members

/-- A normalized event with its durable audit ordinal. -/
structure OrderedDashboardEvent where
  auditOrdinal : Int
  event : DashboardEvent

/-- The lifecycle vocabulary of the dashboard. -/
inductive MissionLifecycle where
  | planned
  | searching
  | exhausted
  | aborted
deriving DecidableEq

def MissionLifecycle.text : MissionLifecycle → String
  | .planned => "PLANNED"
  | .searching => "SEARCHING"
  | .exhausted => "EXHAUSTED"
  | .aborted => "ABORTED"

/-- The connectivity of a simulated member. -/
inductive Connectivity where
  | connected
  | degraded
  | offline
deriving DecidableEq

def Connectivity.text : Connectivity → String
  | .connected => "CONNECTED"
  | .degraded => "DEGRADED"
  | .offline => "OFFLINE"

/-- The lifecycle of a sector. -/
inductive SectorState where
  | unassigned
  | assigned
  | atRisk
  | searched
deriving DecidableEq

def SectorState.text : SectorState → String
  | .unassigned => "UNASSIGNED"
  | .assigned => "ASSIGNED"
  | .atRisk => "AT_RISK"
  | .searched => "SEARCHED"

/-- The member of a closed vocabulary that a text spells. -/
def spelled {γ : Type} (vocabulary : List γ) (text : γ → String) :
    Value → Option γ
  | .text value => vocabulary.find? fun member => text member = value
  | _ => none

def missionLifecycles : List MissionLifecycle :=
  [.planned, .searching, .exhausted, .aborted]

def connectivities : List Connectivity :=
  [.connected, .degraded, .offline]

def sectorStates : List SectorState :=
  [.unassigned, .assigned, .atRisk, .searched]

/-! ## Reduced state -/

/-- The current mission and its reduced lifecycle. -/
structure Mission where
  identifier : String
  lifecycle : MissionLifecycle
  predecessorIdentifier : Option String
deriving DecidableEq

/-- The latest telemetry of one simulated member. -/
structure Telemetry where
  latitudeMicrodegrees : Int
  longitudeMicrodegrees : Int
  batteryPercent : Int
  altitudeMetres : Int
  headingDegrees : Int
  groundSpeedCentimetresPerSecond : Int
deriving DecidableEq

/-- A member whose connectivity and telemetry are reduced. -/
structure SimulatedFleetMember where
  identifier : String
  connectivity : Connectivity
  telemetry : Option Telemetry
deriving DecidableEq

/-- A fleet member: simulated, or declared without any live state. -/
inductive FleetMember where
  | simulated (member : SimulatedFleetMember)
  | declaredOnly (identifier : String)
deriving DecidableEq

def FleetMember.identifier : FleetMember → String
  | .simulated member => member.identifier
  | .declaredOnly identifier => identifier

/-- One sector with its lifecycle and assignment. -/
structure Sector where
  identifier : String
  state : SectorState
  assignedMemberId : Option String
deriving DecidableEq

/-- The mission state that live and replay folds share. -/
structure DashboardReducedState where
  currentMission : Option Mission
  fleet : List FleetMember
  latestAuditOrdinal : Int
  sectors : List Sector
deriving DecidableEq

/-- A reduced state with the digest of the event that reached its ordinal. -/
structure ReducerCheckpoint where
  state : DashboardReducedState
  latestEventDigest : Option String
deriving DecidableEq

/-- Why the reducer or an anchor check refuses its input. -/
inductive ReducerRefusal where
  | noncanonicalAnchorState
  | witnessForm
  | ordinalWitness
  | ordinalDivergence
  | ordinalRegression
  | ordinalGap
  | missionUnprepared
  | missionMismatch
  | unknownMember
  | declaredOnlyMember
  | unknownSector
  | assignmentForbidden
  | assignmentRequired
  | invalidAssignee
  | eventData
  | unprojected
  | serverDigestForm
  | serverDigestMismatch
deriving DecidableEq

/-- The value a refusal reports: a document value or a part of the state. -/
inductive Offender where
  | value (found : Value)
  | fleet (members : List FleetMember)
  | sectors (found : List Sector)

/-- A refusal with the member at fault and its value. -/
structure Problem where
  refusal : ReducerRefusal
  member : String
  offender : Offender

/-! ## Documents -/

def telemetryDocument (telemetry : Telemetry) : Value :=
  .object
    [ ("latitudeMicrodegrees", .int telemetry.latitudeMicrodegrees),
      ("longitudeMicrodegrees", .int telemetry.longitudeMicrodegrees),
      ("batteryPercent", .int telemetry.batteryPercent),
      ("altitudeMetres", .int telemetry.altitudeMetres),
      ("headingDegrees", .int telemetry.headingDegrees),
      ("groundSpeedCentimetresPerSecond",
        .int telemetry.groundSpeedCentimetresPerSecond) ]

/-- `_member_document` -/
def memberDocument : FleetMember → Value
  | .declaredOnly identifier =>
      .object
        [ ("identifier", .text identifier),
          ("participation", .text "DECLARED_ONLY") ]
  | .simulated member =>
      .object
        [ ("identifier", .text member.identifier),
          ("participation", .text "SIMULATED"),
          ("connectivity", .text member.connectivity.text),
          ("telemetry",
            (member.telemetry.map telemetryDocument).getD .null) ]

def missionDocument (mission : Mission) : Value :=
  .object
    [ ("identifier", .text mission.identifier),
      ("lifecycle", .text mission.lifecycle.text),
      ("predecessorIdentifier",
        Value.ofText? mission.predecessorIdentifier) ]

def sectorDocument (sector : Sector) : Value :=
  .object
    [ ("identifier", .text sector.identifier),
      ("state", .text sector.state.text),
      ("assignedMemberId", Value.ofText? sector.assignedMemberId) ]

/-- `state_document` -/
def stateDocument (state : DashboardReducedState) : Value.Members :=
  [ ("canonicalizationVersion", .int 1),
    ("stateVersion", .int 1),
    ("currentMission",
      (state.currentMission.map missionDocument).getD .null),
    ("fleet", .array (state.fleet.map memberDocument)),
    ("latestAuditOrdinal", .int state.latestAuditOrdinal),
    ("sectors", .array (state.sectors.map sectorDocument)) ]

/-- `state_digest` -/
def stateDigest (host : Host) (state : DashboardReducedState) :
    Except DigestFailure String :=
  digest host .replayState (stateDocument state)

def eventDocument (event : DashboardEvent) : Value :=
  .object
    [ ("kind", .text event.kind),
      ("eventClass", .text event.eventClass.text),
      ("mission", .text event.mission),
      ("time", .text event.time),
      ("data", .object event.data) ]

/-- `ordered_event_document` -/
def orderedEventDocument (ordered : OrderedDashboardEvent) :
    Value.Members :=
  [ ("canonicalizationVersion", .int 1),
    ("auditOrdinal", .int ordered.auditOrdinal),
    ("event", eventDocument ordered.event) ]

/-- `ordered_event_digest` -/
def orderedEventDigest (host : Host) (ordered : OrderedDashboardEvent) :
    Except DigestFailure String :=
  digest host .orderedDashboardEvent (orderedEventDocument ordered)

/-! ## Checkpoint anchors -/

/-- `_strictly_sorted_identifiers`: unique and ascending in byte order. -/
def strictlySorted (identifiers : List String) : Bool :=
  decide (identifiers.Pairwise fun left right =>
    utf8 left.toList < utf8 right.toList)

/-- `_simulated_assignee` -/
def simulatedAssignee (fleet : List FleetMember) (identifier : String) :
    Bool :=
  fleet.any fun
    | .simulated member => member.identifier = identifier
    | .declaredOnly _ => false

/-- The offending assignment of one sector, as `_noncanonical_anchor` reports it. -/
def sectorDefect (fleet : List FleetMember) (sector : Sector) :
    Option (String × Offender) :=
  match sector.assignedMemberId with
  | none =>
      if sector.state = .unassigned then none
      else some ("assignedMemberId", .value .null)
  | some assigned =>
      if sector.state = .unassigned ∨
          simulatedAssignee fleet assigned = false then
        some ("assignedMemberId", .value (.text assigned))
      else none

/-- `_sector_assignment_defect`: the first offending assignment. -/
def sectorAssignmentDefect (state : DashboardReducedState) :
    Option (String × Offender) :=
  state.sectors.findSome? (sectorDefect state.fleet)

/-- `_mission_anchor_defect` -/
def missionAnchorDefect (state : DashboardReducedState) :
    Option (String × Offender) :=
  if state.currentMission = none ∧
      (state.fleet ≠ [] ∨ state.sectors ≠ [] ∨
        state.latestAuditOrdinal ≠ 0) then
    some ("currentMission", .value .null)
  else none

/-- `_noncanonical_anchor` -/
def noncanonicalAnchor (state : DashboardReducedState) :
    Option (String × Offender) :=
  if strictlySorted (state.fleet.map FleetMember.identifier) = false then
    some ("fleet", .fleet state.fleet)
  else if strictlySorted (state.sectors.map Sector.identifier) = false then
    some ("sectors", .sectors state.sectors)
  else
    (sectorAssignmentDefect state).or (missionAnchorDefect state)

/-- The anchor checks that need no digest. -/
def checkAnchor (state : DashboardReducedState)
    (latestEventDigest : Option String) : Except Problem Unit :=
  if latestEventDigest.any (fun witness => !isDigest witness) then
    .error
      ⟨.witnessForm, "latestEventDigest",
        .value (Value.ofText? latestEventDigest)⟩
  else
    match noncanonicalAnchor state with
    | some defect =>
        .error ⟨.noncanonicalAnchorState, defect.1, defect.2⟩
    | none =>
        ensure
          (state.latestAuditOrdinal ≠ 0 ↔ latestEventDigest.isSome = true)
          ⟨.ordinalWitness, "latestEventDigest",
            .value (Value.ofText? latestEventDigest)⟩

/-- The verdict on an expected state digest, when one was supplied. -/
def digestProblem (host : Host) (state : DashboardReducedState) :
    Option String → Except DigestFailure (Option Problem)
  | none => pure none
  | some expected =>
      if isDigest expected = false then
        pure (some ⟨.serverDigestForm, "digest", .value (.text expected)⟩)
      else do
        let actual ← stateDigest host state
        let same ← digestsMatch expected actual
        if same then pure none
        else
          pure
            (some ⟨.serverDigestMismatch, "digest",
              .value (.text expected)⟩)

/-- `checkpoint_from_snapshot` and `checkpoint_from_replay` -/
def checkpointFromAnchor (host : Host) (state : DashboardReducedState)
    (latestEventDigest expected : Option String) :
    Except DigestFailure (Except Problem ReducerCheckpoint) :=
  match checkAnchor state latestEventDigest with
  | .error problem => pure (.error problem)
  | .ok () => do
      let verdict ← digestProblem host state expected
      match verdict with
      | some problem => pure (.error problem)
      | none => pure (.ok ⟨state, latestEventDigest⟩)

/-! ## Validated events -/

/-- A validated event that changes only the state it owns. -/
inductive StateEvent where
  | timeline
  | missionLifecycle (lifecycle : MissionLifecycle)
  | connectivity (identifier : String) (link : Connectivity)
  | telemetry (identifier : String) (reading : Telemetry)
  | sectorLifecycle (identifier : String) (sectorState : SectorState)
      (assignee : Option String)
deriving DecidableEq

/-- A refusal of one member of the event's data. -/
def memberProblem (data : Value.Members) (name : String) : Problem :=
  ⟨.eventData, name, .value (Value.get name data)⟩

/-- `_closed_event_data`: exactly the declared members. -/
def closedEventData (data : Value.Members) (required : List String) :
    Except Problem Unit :=
  let unknown := (Value.keys data).filter fun name =>
    !required.contains name
  match unknown.insertionSort fun left right =>
      utf8 left.toList ≤ utf8 right.toList with
  | name :: _ => .error (memberProblem data name)
  | [] =>
      match required.find? fun name => !Value.has name data with
      | some name => .error (memberProblem data name)
      | none => .ok ()

/-- `_require_event_class` -/
def requireEventClass (event : DashboardEvent) (expected : EventClass) :
    Except Problem Unit :=
  ensure (event.eventClass = expected)
    ⟨.eventData, "eventClass", .value (.text event.eventClass.text)⟩

/-- `_enum_member` -/
def enumMember {γ : Type} (vocabulary : List γ) (text : γ → String)
    (data : Value.Members) (name : String) : Except Problem γ :=
  present (spelled vocabulary text (Value.get name data))
    (memberProblem data name)

/-- `_event_identifier` -/
def eventIdentifier (data : Value.Members) (name : String) :
    Except Problem String :=
  match Value.get name data with
  | .text value =>
      if isIdentifier value then .ok value
      else .error (memberProblem data name)
  | _ => .error (memberProblem data name)

/-- `_bounded_integer` -/
def boundedInteger (data : Value.Members) (name : String)
    (minimum maximum : Int) : Except Problem Int :=
  match Value.get name data with
  | .int value =>
      if minimum ≤ value ∧ value ≤ maximum then .ok value
      else .error (memberProblem data name)
  | _ => .error (memberProblem data name)

/-- `_validate_mission_event` -/
def validateMissionEvent (event : DashboardEvent) :
    Except Problem StateEvent := do
  requireEventClass event .mission
  closedEventData event.data ["lifecycle"]
  let lifecycle ← enumMember missionLifecycles MissionLifecycle.text
    event.data "lifecycle"
  pure (.missionLifecycle lifecycle)

/-- `_validate_connectivity_event` -/
def validateConnectivityEvent (event : DashboardEvent) :
    Except Problem StateEvent := do
  requireEventClass event .connectivity
  closedEventData event.data ["droneId", "connectivity"]
  let identifier ← eventIdentifier event.data "droneId"
  let connectivity ← enumMember connectivities Connectivity.text
    event.data "connectivity"
  pure (.connectivity identifier connectivity)

/-- `_validate_telemetry_event` -/
def validateTelemetryEvent (event : DashboardEvent) :
    Except Problem StateEvent := do
  requireEventClass event .telemetry
  closedEventData event.data
    ["droneId", "latitudeMicrodegrees", "longitudeMicrodegrees",
      "batteryPercent", "altitudeMetres", "headingDegrees",
      "groundSpeedCentimetresPerSecond"]
  let identifier ← eventIdentifier event.data "droneId"
  let latitudeMicrodegrees ← boundedInteger event.data
    "latitudeMicrodegrees" (-90000000) 90000000
  let longitudeMicrodegrees ← boundedInteger event.data
    "longitudeMicrodegrees" (-180000000) 180000000
  let batteryPercent ← boundedInteger event.data "batteryPercent" 0 100
  let altitudeMetres ← boundedInteger event.data "altitudeMetres"
    (-500) 20000
  let headingDegrees ← boundedInteger event.data "headingDegrees" 0 359
  let groundSpeedCentimetresPerSecond ← boundedInteger event.data
    "groundSpeedCentimetresPerSecond" 0 10000
  pure
    (.telemetry identifier
      { latitudeMicrodegrees, longitudeMicrodegrees, batteryPercent,
        altitudeMetres, headingDegrees, groundSpeedCentimetresPerSecond })

/-- The assignment a sector event carries in its state. -/
def sectorAssignee (data : Value.Members) (sectorState : SectorState) :
    Except Problem (Option String) :=
  match Value.get "assignedMemberId" data with
  | .null =>
      ensure (sectorState = .unassigned)
          ⟨.assignmentRequired, "assignedMemberId", .value .null⟩ >>=
        fun _ => pure none
  | assigned =>
      if sectorState = .unassigned then
        .error ⟨.assignmentForbidden, "assignedMemberId", .value assigned⟩
      else (eventIdentifier data "assignedMemberId").map some

/-- `_validate_sector_event` -/
def validateSectorEvent (event : DashboardEvent) :
    Except Problem StateEvent := do
  requireEventClass event .mission
  closedEventData event.data ["sectorId", "state", "assignedMemberId"]
  let identifier ← eventIdentifier event.data "sectorId"
  let sectorState ← enumMember sectorStates SectorState.text
    event.data "state"
  let assignee ← sectorAssignee event.data sectorState
  pure (.sectorLifecycle identifier sectorState assignee)

/-- `TIMELINE_EVENT_CLASSES` -/
def timelineEventClass : String → Option EventClass
  | "operatorCommand" => some .command
  | "operatorApproval" => some .approval
  | "agentProposal" => some .evidence
  | "evidenceDecision" => some .evidence
  | "salientObservation" => some .evidence
  | "gatewayResponse" => some .audit
  | "droneCommand" => some .command
  | "commandResult" => some .command
  | "auditRecord" => some .audit
  | _ => none

/-- `_validate_timeline_event`, for a kind with its class. -/
def validateTimelineEvent (event : DashboardEvent)
    (expected : EventClass) : Except Problem StateEvent :=
  requireEventClass event expected >>= fun _ => pure .timeline

/-- `BOUNDARY_VALIDATORS` -/
def boundaryValidator (kind : String) :
    Option (DashboardEvent → Except Problem StateEvent) :=
  match kind with
  | "missionLifecycle" => some validateMissionEvent
  | "connectivityChanged" => some validateConnectivityEvent
  | "droneTelemetry" => some validateTelemetryEvent
  | "sectorLifecycle" => some validateSectorEvent
  | other =>
      (timelineEventClass other).map fun expected event =>
        validateTimelineEvent event expected

/-- `_validate_ordered_event_boundary` -/
def validateOrderedEventBoundary (ordered : OrderedDashboardEvent) :
    Except Problem StateEvent := do
  ensure (1 ≤ ordered.auditOrdinal ∧ ordered.auditOrdinal ≤ maxSafeInteger)
    (⟨.eventData, "auditOrdinal",
      .value (.int ordered.auditOrdinal)⟩ : Problem)
  let validator ← present (boundaryValidator ordered.event.kind)
    (⟨.unprojected, "kind", .value (.text ordered.event.kind)⟩ : Problem)
  ensure (isIdentifier ordered.event.mission = true)
    (⟨.eventData, "mission", .value (.text ordered.event.mission)⟩ : Problem)
  ensure (isInstant ordered.event.time = true)
    (⟨.eventData, "time", .value (.text ordered.event.time)⟩ : Problem)
  validator ordered.event

/-! ## Reduction -/

/-- `_simulated_target`: the first member of that name, which is simulated. -/
def simulatedTarget (identifier : String) :
    List FleetMember → Except Problem (Nat × SimulatedFleetMember)
  | [] => .error ⟨.unknownMember, "droneId", .value (.text identifier)⟩
  | .declaredOnly declared :: rest =>
      if declared = identifier then
        .error ⟨.declaredOnlyMember, "droneId", .value (.text identifier)⟩
      else
        (simulatedTarget identifier rest).map fun found =>
          (found.1 + 1, found.2)
  | .simulated member :: rest =>
      if member.identifier = identifier then .ok (0, member)
      else
        (simulatedTarget identifier rest).map fun found =>
          (found.1 + 1, found.2)

/-- `_sector_index` -/
def sectorIndex (identifier : String) (sectors : List Sector) :
    Except Problem Nat :=
  present
    (sectors.findIdx? fun sector => sector.identifier = identifier)
    ⟨.unknownSector, "sectorId", .value (.text identifier)⟩

/-- The simulated member of that name, replaced by its update. -/
def reduceMember (state : DashboardReducedState) (identifier : String)
    (update : SimulatedFleetMember → SimulatedFleetMember) :
    Except Problem DashboardReducedState := do
  let target ← simulatedTarget identifier state.fleet
  pure
    { state with
      fleet := state.fleet.set target.1 (.simulated (update target.2)) }

/-- `_StateEvent.reduce`, one rule for each variant. -/
def StateEvent.reduce (event : StateEvent) (state : DashboardReducedState)
    (mission : Mission) : Except Problem DashboardReducedState :=
  match event with
  | .timeline => pure state
  | .missionLifecycle lifecycle =>
      pure { state with currentMission := some { mission with lifecycle } }
  | .connectivity identifier link =>
      reduceMember state identifier fun member =>
        { member with connectivity := link }
  | .telemetry identifier reading =>
      reduceMember state identifier fun member =>
        { member with telemetry := some reading }
  | .sectorLifecycle identifier sectorState assignee => do
      let index ← sectorIndex identifier state.sectors
      ensure
        (∀ member ∈ assignee, simulatedAssignee state.fleet member = true)
        (⟨.invalidAssignee, "assignedMemberId",
          .value (Value.ofText? assignee)⟩ : Problem)
      pure
        { state with
          sectors :=
            state.sectors.set index ⟨identifier, sectorState, assignee⟩ }

/-! ## Folding -/

/-- What folding one ordered event comes to. -/
inductive FoldOutcome where
  | applied (checkpoint : ReducerCheckpoint)
  | duplicate (checkpoint : ReducerCheckpoint)
  | refused (checkpoint : ReducerCheckpoint) (problem : Problem)

/-- `_verify_server_digest`: the digest of the outcome's state, checked last. -/
def verifyServerDigest (host : Host) (prior : ReducerCheckpoint)
    (outcome : FoldOutcome) (state : DashboardReducedState)
    (expected : Option String) : Except DigestFailure FoldOutcome := do
  let verdict ← digestProblem host state expected
  match verdict with
  | none => pure outcome
  | some problem => pure (.refused prior problem)

/-- Whether a checkpoint's event witness is the digest of this event. -/
def witnesses (host : Host) (checkpoint : ReducerCheckpoint)
    (ordered : OrderedDashboardEvent) : Except DigestFailure Bool := do
  let incoming ← orderedEventDigest host ordered
  match checkpoint.latestEventDigest with
  | none => pure false
  | some witness => digestsMatch witness incoming

/-- A refusal at the event's ordinal. -/
def ordinalProblem (refusal : ReducerRefusal)
    (ordered : OrderedDashboardEvent) : Problem :=
  ⟨refusal, "auditOrdinal", .value (.int ordered.auditOrdinal)⟩

/-- `_fold_ordinal_control`: nothing when the event is the next one. -/
def foldOrdinalControl (host : Host) (checkpoint : ReducerCheckpoint)
    (ordered : OrderedDashboardEvent) (expected : Option String) :
    Except DigestFailure (Option FoldOutcome) :=
  let current := checkpoint.state.latestAuditOrdinal
  if ordered.auditOrdinal < current then
    pure (some (.refused checkpoint
      (ordinalProblem .ordinalRegression ordered)))
  else if ordered.auditOrdinal = current then do
    let same ← witnesses host checkpoint ordered
    if same then
      let outcome ← verifyServerDigest host checkpoint
        (.duplicate checkpoint) checkpoint.state expected
      pure (some outcome)
    else
      pure (some (.refused checkpoint
        (ordinalProblem .ordinalDivergence ordered)))
  else if ordered.auditOrdinal ≠ current + 1 then
    pure (some (.refused checkpoint (ordinalProblem .ordinalGap ordered)))
  else
    pure none

/-- `_fold_preflight`: the event first, then the checkpoint. -/
def foldPreflight (checkpoint : ReducerCheckpoint)
    (ordered : OrderedDashboardEvent) : Except Problem StateEvent := do
  let event ← validateOrderedEventBoundary ordered
  checkAnchor checkpoint.state checkpoint.latestEventDigest
  pure event

/-- The state after the event, without its ordinal. -/
def reduceOrdered (checkpoint : ReducerCheckpoint)
    (ordered : OrderedDashboardEvent) (event : StateEvent) :
    Except Problem DashboardReducedState := do
  let mission ← present checkpoint.state.currentMission
    (⟨.missionUnprepared, "mission", .value .null⟩ : Problem)
  ensure (ordered.event.mission = mission.identifier)
    (⟨.missionMismatch, "mission",
      .value (.text ordered.event.mission)⟩ : Problem)
  event.reduce checkpoint.state mission

/-- `fold_ordered_event` -/
def foldOrderedEvent (host : Host) (checkpoint : ReducerCheckpoint)
    (ordered : OrderedDashboardEvent) (expected : Option String) :
    Except DigestFailure FoldOutcome :=
  match foldPreflight checkpoint ordered with
  | .error problem => pure (.refused checkpoint problem)
  | .ok event => do
      let control ← foldOrdinalControl host checkpoint ordered expected
      match control with
      | some outcome => pure outcome
      | none =>
          match reduceOrdered checkpoint ordered event with
          | .error problem => pure (.refused checkpoint problem)
          | .ok reduced => do
              let witness ← orderedEventDigest host ordered
              let successor :=
                { reduced with latestAuditOrdinal := ordered.auditOrdinal }
              verifyServerDigest host checkpoint
                (.applied ⟨successor, some witness⟩) successor expected

/-! ## What the validators read -/

@[simp]
theorem eventIdentifier_eq_ok {data : Value.Members} {name found : String} :
    eventIdentifier data name = .ok found ↔
      Value.get name data = .text found ∧ isIdentifier found = true := by
  unfold eventIdentifier
  split
  · rename_i value member
    rw [member]
    by_cases form : isIdentifier value = true
    · simp only [form, if_true, Except.ok.injEq, Value.text.injEq]
      constructor
      · rintro rfl
        exact ⟨rfl, form⟩
      · intro spelling
        exact spelling.1
    · simp only [form, Bool.false_eq_true, if_false, Value.text.injEq]
      constructor
      · intro impossible
        cases impossible
      · rintro ⟨rfl, holds⟩
        exact absurd holds form
  · rename_i other
    constructor
    · intro impossible
      cases impossible
    · intro spelling
      exact absurd spelling.1 (other found)

@[simp]
theorem boundedInteger_eq_ok {data : Value.Members} {name : String}
    {minimum maximum found : Int} :
    boundedInteger data name minimum maximum = .ok found ↔
      Value.get name data = .int found ∧
        minimum ≤ found ∧ found ≤ maximum := by
  unfold boundedInteger
  split
  · rename_i value member
    rw [member]
    by_cases bounds : minimum ≤ value ∧ value ≤ maximum
    · rw [if_pos bounds]
      simp only [Except.ok.injEq, Value.int.injEq]
      constructor
      · rintro rfl
        exact ⟨rfl, bounds⟩
      · intro spelling
        exact spelling.1
    · rw [if_neg bounds]
      simp only [Value.int.injEq]
      constructor
      · intro impossible
        cases impossible
      · rintro ⟨rfl, holds⟩
        exact absurd holds bounds
  · rename_i other
    constructor
    · intro impossible
      cases impossible
    · intro spelling
      exact absurd spelling.1 (other found)

@[simp]
theorem enumMember_eq_ok {γ : Type} {vocabulary : List γ}
    {text : γ → String} {data : Value.Members} {name : String} {found : γ} :
    enumMember vocabulary text data name = .ok found ↔
      spelled vocabulary text (Value.get name data) = some found := by
  simp [enumMember]

@[simp]
theorem requireEventClass_eq_ok {event : DashboardEvent}
    {expected : EventClass} {result : Unit} :
    requireEventClass event expected = .ok result ↔
      event.eventClass = expected := by
  simp [requireEventClass]

/-- The assignment of a sector event is the member it carries. -/
theorem sectorAssignee_eq_ok {data : Value.Members}
    {sectorState : SectorState} {assignee : Option String}
    (read : sectorAssignee data sectorState = .ok assignee) :
    Value.get "assignedMemberId" data = Value.ofText? assignee := by
  unfold sectorAssignee at read
  split at read
  · rename_i member
    simp only [bind_eq_ok, ensure_eq_ok, pure_eq_ok] at read
    rcases read with ⟨_, _, rfl⟩
    exact member
  · split_ifs at read
    cases identified : eventIdentifier data "assignedMemberId" with
    | error problem =>
        rw [identified] at read
        cases read
    | ok found =>
        rw [identified] at read
        cases read
        exact (eventIdentifier_eq_ok.1 identified).1

/-! ## What a fold does -/

theorem verifyServerDigest_eq_ok {host : Host} {prior : ReducerCheckpoint}
    {outcome found : FoldOutcome} {state : DashboardReducedState}
    {expected : Option String} :
    verifyServerDigest host prior outcome state expected = .ok found ↔
      (digestProblem host state expected = .ok none ∧ found = outcome) ∨
        ∃ problem,
          digestProblem host state expected = .ok (some problem) ∧
            found = .refused prior problem := by
  unfold verifyServerDigest
  rcases digestProblem host state expected with failure | verdict
  · simp [bind, Except.bind]
  · cases verdict with
    | none => simp [bind, Except.bind, pure, Except.pure, eq_comm]
    | some problem => simp [bind, Except.bind, pure, Except.pure, eq_comm]

/-- The next ordinal is the only one the control leaves to the reducer. -/
theorem foldOrdinalControl_eq_none {host : Host}
    {checkpoint : ReducerCheckpoint} {ordered : OrderedDashboardEvent}
    {expected : Option String} :
    foldOrdinalControl host checkpoint ordered expected = .ok none ↔
      ordered.auditOrdinal = checkpoint.state.latestAuditOrdinal + 1 := by
  unfold foldOrdinalControl
  simp only
  split_ifs with earlier same gap
  · simp [pure, Except.pure]
    omega
  · constructor
    · intro control
      simp only [bind_eq_ok] at control
      rcases control with ⟨verdict, _, rest⟩
      cases verdict with
      | true =>
          simp only [if_true, bind_eq_ok] at rest
          rcases rest with ⟨outcome, _, impossible⟩
          cases impossible
      | false => cases rest
    · intro next
      omega
  · simp [pure, Except.pure]
    omega
  · simp [pure, Except.pure]
    omega

/-- An outcome of the control is a duplicate or a refusal. -/
theorem foldOrdinalControl_eq_some {host : Host}
    {checkpoint : ReducerCheckpoint} {ordered : OrderedDashboardEvent}
    {expected : Option String} {outcome : FoldOutcome}
    (control :
      foldOrdinalControl host checkpoint ordered expected =
        .ok (some outcome)) :
    (outcome = .duplicate checkpoint ∧
        ordered.auditOrdinal = checkpoint.state.latestAuditOrdinal ∧
        witnesses host checkpoint ordered = .ok true ∧
        digestProblem host checkpoint.state expected = .ok none) ∨
      ∃ problem, outcome = .refused checkpoint problem := by
  unfold foldOrdinalControl at control
  simp only at control
  split_ifs at control with earlier same gap
  · exact .inr ⟨_, (Option.some.inj (Except.ok.inj control)).symm⟩
  · simp only [bind_eq_ok] at control
    rcases control with ⟨verdict, witnessed, rest⟩
    cases verdict with
    | true =>
        simp only [if_true, bind_eq_ok, pure_eq_ok,
          Option.some.injEq] at rest
        rcases rest with ⟨found, verified, rfl⟩
        rcases verifyServerDigest_eq_ok.1 verified with
          ⟨checked, rfl⟩ | ⟨problem, _, rfl⟩
        · exact .inl ⟨rfl, same, witnessed, checked⟩
        · exact .inr ⟨problem, rfl⟩
    | false =>
        simp only [Bool.false_eq_true, if_false, pure_eq_ok,
          Option.some.injEq] at rest
        exact .inr ⟨_, rest.symm⟩
  · exact .inr ⟨_, (Option.some.inj (Except.ok.inj control)).symm⟩
  · cases control

/-- What an applied fold read and what it made. -/
structure Applies (host : Host) (checkpoint : ReducerCheckpoint)
    (ordered : OrderedDashboardEvent) (event : StateEvent)
    (reduced : DashboardReducedState) (witness : String) : Prop where
  preflight : foldPreflight checkpoint ordered = .ok event
  next : ordered.auditOrdinal = checkpoint.state.latestAuditOrdinal + 1
  reduction : reduceOrdered checkpoint ordered event = .ok reduced
  digest : orderedEventDigest host ordered = .ok witness

/-- The checkpoint an applied fold ends in. -/
def successor (ordered : OrderedDashboardEvent)
    (reduced : DashboardReducedState) (witness : String) :
    ReducerCheckpoint :=
  ⟨{ reduced with latestAuditOrdinal := ordered.auditOrdinal }, some witness⟩

/-- A fold accepts the next event or an exact duplicate, and nothing else. -/
theorem foldOrderedEvent_accepted {host : Host}
    {checkpoint : ReducerCheckpoint} {ordered : OrderedDashboardEvent}
    {expected : Option String} {outcome : FoldOutcome}
    (folded :
      foldOrderedEvent host checkpoint ordered expected = .ok outcome) :
    (∃ event reduced witness,
        Applies host checkpoint ordered event reduced witness ∧
          outcome = .applied (successor ordered reduced witness) ∧
          digestProblem host (successor ordered reduced witness).state
            expected = .ok none) ∨
      (outcome = .duplicate checkpoint ∧
        ordered.auditOrdinal = checkpoint.state.latestAuditOrdinal ∧
        witnesses host checkpoint ordered = .ok true ∧
        digestProblem host checkpoint.state expected = .ok none) ∨
      ∃ problem, outcome = .refused checkpoint problem := by
  unfold foldOrderedEvent at folded
  split at folded
  · exact .inr (.inr ⟨_, (pure_eq_ok.1 folded).symm⟩)
  · rename_i event preflight
    simp only [bind_eq_ok] at folded
    rcases folded with ⟨control, controlled, rest⟩
    cases control with
    | some found =>
        cases pure_eq_ok.1 rest
        exact .inr (foldOrdinalControl_eq_some controlled)
    | none =>
        simp only at rest
        split at rest
        · exact .inr (.inr ⟨_, (pure_eq_ok.1 rest).symm⟩)
        · rename_i reduced reduction
          simp only [bind_eq_ok] at rest
          rcases rest with ⟨witness, computed, verified⟩
          have next := foldOrdinalControl_eq_none.1 controlled
          rcases verifyServerDigest_eq_ok.1 verified with
            ⟨checked, rfl⟩ | ⟨problem, _, rfl⟩
          · exact .inl
              ⟨event, reduced, witness,
                ⟨preflight, next, reduction, computed⟩, rfl, checked⟩
          · exact .inr (.inr ⟨problem, rfl⟩)

end AerialRescue.Contracts.View
