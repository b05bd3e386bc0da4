import AerialRescue.Contracts.Instant
import AerialRescue.Dashboard.BrowserReducer
import AerialRescue.Dashboard.CanonicalText

/-!
# The browser's domain reducer

`domain/reducer.ts`: the fold of one ordered dashboard event document into a
checkpoint.  The document is any decoded value; a `float` of it is the number
that the parameter `number` gives for its spelling.  The generated validator of
the event frame's schema is the parameter `accepts`.

A boundary check of the source that passes casts the event to its type.  Here
the check returns the event so read.
-/

namespace AerialRescue.Dashboard.DomainReducer

open AerialRescue.Contracts
open AerialRescue.Contracts.Canonical
open AerialRescue.Contracts.Envelopes
open AerialRescue.Contracts.Instant
open AerialRescue.Contracts.Rpc
open AerialRescue.Contracts.SharedJson
open AerialRescue.Contracts.Topics
open AerialRescue.Contracts.View
open AerialRescue.Dashboard.CanonicalText
open AerialRescue.Lib.Binary64
open AerialRescue.Lib.Guard

/-! ## Failures -/

/-- The value a failure reports. -/
inductive FailureValue where
  | value (found : Value)
  | state (found : DashboardReducedState)

/-- `ReducerFailure`: its code, the member at fault and the value. -/
structure ReducerFailure where
  code : ReducerRefusal
  member : String
  value : FailureValue

/-- `failure`, of a decoded value. -/
def failure (code : ReducerRefusal) (member : String) (found : Value) :
    ReducerFailure :=
  ⟨code, member, .value found⟩

/-! ## Reading values -/

/-- `dataRecord` -/
def dataRecord : Value → Option Value.Members
  | .object members => some members
  | _ => none

/-- The number a decoded value is, if it is one. -/
def numberValue (number : String → Double) : Value → Option Double
  | .int value => some (ofInteger (decide (value < 0)) value.natAbs)
  | .float repr => some (number repr)
  | _ => none

/-- `safeInteger` -/
def safeInteger (number : String → Double) (value : Value) : Option Int :=
  ((numberValue number value).bind Double.integer?).filter fun integer =>
    decide (integer.natAbs ≤ maxSafeNumber)

/-- `integerInRange` -/
def integerInRange (number : String → Double) (value : Value)
    (minimum maximum : Int) : Option Int :=
  (safeInteger number value).filter fun integer =>
    decide (minimum ≤ integer ∧ integer ≤ maximum)

/-- The names in the order of `Array.prototype.sort`. -/
def sortedNames (names : List String) : List String :=
  names.insertionSort fun left right => left ≤ right

/-- `hasExactMembers` -/
def hasExactMembers (value : Value.Members) (members : List String) : Bool :=
  sortedNames (Value.keys value) = sortedNames members

/-- `identifier` -/
def identifier : Value → Option String
  | .text value => if isIdentifier value then some value else none
  | _ => none

/-- `INSTANT`, and a date of the calendar: `toISOString` returns the text. -/
def isCanonicalInstant (text : String) : Bool :=
  match instantGroups text.toList with
  | none => false
  | some (years, months, days, hours, minutes, seconds, fraction) =>
      let year := digitsValue years
      let month := digitsValue months
      let day := digitsValue days
      (years ++ months ++ days ++ hours ++ minutes ++ seconds ++
          fraction).all isDigit &&
        year ≠ 0 && 1 ≤ month && month ≤ 12 && 1 ≤ day &&
        digitsValue hours < 24 && digitsValue minutes < 60 &&
        digitsValue seconds < 60 && day ≤ daysInMonth year month

/-- `canonicalInstant` -/
def canonicalInstant : Value → Bool
  | .text value => isCanonicalInstant value
  | _ => false

/-- `value === text` -/
def isText (value : Value) (text : String) : Bool :=
  match value with
  | .text found => found = text
  | _ => false

/-! ## The event boundary -/

/-- The members of `telemetryDataIsValid`. -/
def telemetryMembers : List String :=
  ["droneId", "latitudeMicrodegrees", "longitudeMicrodegrees",
    "batteryPercent", "altitudeMetres", "headingDegrees",
    "groundSpeedCentimetresPerSecond"]

/-- `telemetryDataIsValid` -/
def telemetryData (number : String → Double) (data : Value.Members) :
    Option StateEvent := do
  guard (hasExactMembers data telemetryMembers)
  let droneId ← identifier (Value.get "droneId" data)
  let latitudeMicrodegrees ← integerInRange number
    (Value.get "latitudeMicrodegrees" data) (-90000000) 90000000
  let longitudeMicrodegrees ← integerInRange number
    (Value.get "longitudeMicrodegrees" data) (-180000000) 180000000
  let batteryPercent ← integerInRange number
    (Value.get "batteryPercent" data) 0 100
  let altitudeMetres ← integerInRange number
    (Value.get "altitudeMetres" data) (-500) 20000
  let headingDegrees ← integerInRange number
    (Value.get "headingDegrees" data) 0 359
  let groundSpeedCentimetresPerSecond ← integerInRange number
    (Value.get "groundSpeedCentimetresPerSecond" data) 0 10000
  pure (.telemetry droneId
    { latitudeMicrodegrees, longitudeMicrodegrees, batteryPercent,
      altitudeMetres, headingDegrees, groundSpeedCentimetresPerSecond })

/-- The data checks of a connectivity event. -/
def connectivityData (data : Value.Members) : Option StateEvent := do
  guard (hasExactMembers data ["droneId", "connectivity"])
  let droneId ← identifier (Value.get "droneId" data)
  let connectivity ← spelled connectivities Connectivity.text
    (Value.get "connectivity" data)
  pure (.connectivity droneId connectivity)

/-- The data checks of a mission event. -/
def missionData (data : Value.Members) : Option StateEvent := do
  guard (hasExactMembers data ["lifecycle"])
  let lifecycle ← spelled missionLifecycles MissionLifecycle.text
    (Value.get "lifecycle" data)
  pure (.missionLifecycle lifecycle)

/-- The assignee of a sector event: null or an identifier. -/
def assigneeValue : Value → Option (Option String)
  | .null => some none
  | value => (identifier value).map some

/-- The form checks of `sectorDataFailure`. -/
def sectorForm (data : Value.Members) :
    Option (String × SectorState × Option String) := do
  guard (hasExactMembers data ["sectorId", "state", "assignedMemberId"])
  let sectorId ← identifier (Value.get "sectorId" data)
  let sectorState ← spelled sectorStates SectorState.text
    (Value.get "state" data)
  let assignee ← assigneeValue (Value.get "assignedMemberId" data)
  pure (sectorId, sectorState, assignee)

/-- `sectorDataFailure` -/
def sectorData (data : Value.Members) : Except ReducerFailure StateEvent := do
  let (sectorId, sectorState, assignee) ←
    present (sectorForm data) (failure .eventData "data" (.object data))
  ensure (¬(sectorState = .unassigned ∧ assignee ≠ none))
    (failure .assignmentForbidden "assignedMemberId"
      (Value.get "assignedMemberId" data))
  ensure (¬(sectorState ≠ .unassigned ∧ assignee = none))
    (failure .assignmentRequired "assignedMemberId" .null)
  pure (.sectorLifecycle sectorId sectorState assignee)

/-- The frame that `closedTimelineEventFailure` validates an event in. -/
def timelineCandidate (event : Value) : Value :=
  .object
    [ ("cursor", .text "reducer-event-boundary"),
      ("digest", .text (String.ofList (List.replicate 64 '0'))),
      ("event", .object [("auditOrdinal", .int 1), ("event", event)]),
      ("frameVersion", .text "ordered-dashboard-event-frame/v1") ]

/-- `DASHBOARD_EVENT_KINDS` -/
def dashboardEventKinds : List String :=
  ["droneTelemetry", "connectivityChanged", "missionLifecycle",
    "sectorLifecycle", "operatorCommand", "operatorApproval",
    "agentProposal", "evidenceDecision", "salientObservation",
    "droneCommand", "commandResult", "gatewayResponse", "auditRecord"]

/-- `commonEventFailure`: the mission of an event with a sound envelope. -/
def commonEvent (event : Value) (document : Value.Members) :
    Except ReducerFailure String := do
  ensure
    (hasExactMembers document ["kind", "eventClass", "mission", "time", "data"] =
      true) (failure .eventData "event" event)
  let mission ← present (identifier (Value.get "mission" document))
    (failure .eventData "mission" (Value.get "mission" document))
  ensure (canonicalInstant (Value.get "time" document) = true)
    (failure .eventData "time" (Value.get "time" document))
  pure mission

/-- The switch of `eventDataFailure` over the kinds. -/
def kindData (number : String → Double) (accepts : Value → Bool)
    (kind : String) (eventClass : Value) (data : Value.Members)
    (event : Value) : Except ReducerFailure StateEvent :=
  let refused := failure .eventData "data" (.object data)
  match kind with
  | "droneTelemetry" => do
      ensure (isText eventClass "TELEMETRY" = true) refused
      present (telemetryData number data) refused
  | "connectivityChanged" => do
      ensure (isText eventClass "CONNECTIVITY" = true) refused
      present (connectivityData data) refused
  | "missionLifecycle" => do
      ensure (isText eventClass "MISSION" = true) refused
      present (missionData data) refused
  | "sectorLifecycle" => do
      ensure (isText eventClass "MISSION" = true) refused
      sectorData data
  | _ => do
      ensure (accepts (timelineCandidate event) = true) refused
      pure .timeline

/-- `eventDataFailure`: the mission and the event, once they are sound. -/
def eventData (number : String → Double) (accepts : Value → Bool)
    (event : Value) : Except ReducerFailure (String × StateEvent) := do
  let document ← present (dataRecord event) (failure .eventData "event" event)
  let unprojected :=
    failure .unprojected "kind" (Value.get "kind" document)
  let kind ← present
    (match Value.get "kind" document with
      | .text kind => some kind
      | _ => none) unprojected
  ensure (kind ∈ dashboardEventKinds) unprojected
  let mission ← commonEvent event document
  let data ← present (dataRecord (Value.get "data" document))
    (failure .eventData "data" (Value.get "data" document))
  let stateEvent ← kindData number accepts kind
    (Value.get "eventClass" document) data event
  pure (mission, stateEvent)

/-- An event that passed its boundary. -/
structure BoundEvent where
  auditOrdinal : Int
  mission : String
  event : StateEvent

/-- `orderedEventBoundaryFailure` -/
def orderedEventBoundary (number : String → Double) (accepts : Value → Bool)
    (orderedEvent : Value) : Except ReducerFailure BoundEvent := do
  let document ← present (dataRecord orderedEvent)
    (failure .eventData "auditOrdinal" .null)
  let refused := failure .eventData "auditOrdinal"
    (Value.get "auditOrdinal" document)
  ensure (hasExactMembers document ["auditOrdinal", "event"] = true) refused
  let auditOrdinal ← present
    (integerInRange number (Value.get "auditOrdinal" document) 1
      maxSafeNumber) refused
  let (mission, event) ← eventData number accepts
    (Value.get "event" document)
  pure ⟨auditOrdinal, mission, event⟩

/-! ## Checkpoint anchors -/

/-- `identifierOrder`, over the encoded identifiers. -/
def byteOrder : Bytes → Bytes → Int
  | left :: lefts, right :: rights =>
      if left ≠ right then (left.toNat : Int) - right.toNat
      else byteOrder lefts rights
  | left, right => (left.length : Int) - right.length

/-- `identifierOrder` -/
def identifierOrder (left right : String) : Int :=
  byteOrder (utf8 left.toList) (utf8 right.toList)

/-- `identifiersAreSortedAndUnique` -/
def identifiersAreSortedAndUnique : List String → Bool
  | previous :: current :: rest =>
      identifierOrder previous current < 0 &&
        identifiersAreSortedAndUnique (current :: rest)
  | _ => true

/-- `heldAssignmentIsValid` -/
def heldAssignmentIsValid (state : DashboardReducedState) (sector : Sector) :
    Bool :=
  match sector.state, sector.assignedMemberId with
  | .unassigned, assigned => assigned = none
  | _, none => false
  | _, some assigned =>
      state.fleet.any fun
        | .simulated member => member.identifier = assigned
        | .declaredOnly _ => false

/-- `anchorStateIsCanonical` -/
def anchorStateIsCanonical (state : DashboardReducedState) : Bool :=
  !(state.currentMission.isNone &&
      (!state.fleet.isEmpty || !state.sectors.isEmpty ||
        state.latestAuditOrdinal ≠ 0)) &&
    identifiersAreSortedAndUnique
      (state.fleet.map FleetMember.identifier) &&
    identifiersAreSortedAndUnique (state.sectors.map Sector.identifier) &&
    state.sectors.all (heldAssignmentIsValid state)

/-- `validateOrdinalWitness` -/
def validateOrdinalWitness (latestAuditOrdinal : Int)
    (latestEventDigest : Option String) : Bool :=
  decide (latestAuditOrdinal = 0) == latestEventDigest.isNone

/-- `checkpointFromAnchor` -/
def checkpointFromAnchor (state : DashboardReducedState)
    (latestEventDigest : Option String) :
    Except ReducerFailure ReducerCheckpoint := do
  let found := Value.ofText? latestEventDigest
  ensure (¬latestEventDigest.any (fun digest => !isDigest digest) = true)
    (failure .witnessForm "latestEventDigest" found)
  ensure (anchorStateIsCanonical state = true)
    (⟨.noncanonicalAnchorState, "state", .state state⟩ : ReducerFailure)
  ensure (validateOrdinalWitness state.latestAuditOrdinal
      latestEventDigest = true)
    (failure .ordinalWitness "latestEventDigest" found)
  pure ⟨state, latestEventDigest⟩

/-! ## Applying an event -/

/-- `simulatedMember` -/
def simulatedMember (state : DashboardReducedState) (droneId : String) :
    Except ReducerFailure SimulatedFleetMember :=
  match state.fleet.find? fun member =>
      decide (member.identifier = droneId) with
  | none => .error (failure .unknownMember "droneId" (.text droneId))
  | some (.declaredOnly _) =>
      .error (failure .declaredOnlyMember "droneId" (.text droneId))
  | some (.simulated member) => .ok member

/-- The fleet with every simulated member of that name updated. -/
def mapSimulated (droneId : String)
    (update : SimulatedFleetMember → SimulatedFleetMember) :
    FleetMember → FleetMember
  | .simulated member =>
      if member.identifier = droneId then .simulated (update member)
      else .simulated member
  | .declaredOnly declared => .declaredOnly declared

/-- `applyTelemetry` and `applyConnectivity`, over what they change. -/
def applyMember (state : DashboardReducedState) (droneId : String)
    (update : SimulatedFleetMember → SimulatedFleetMember) :
    Except ReducerFailure DashboardReducedState := do
  let member ← simulatedMember state droneId
  pure
    { state with
      fleet := state.fleet.map (mapSimulated member.identifier update) }

/-- `assignmentFailure` -/
def assignmentFailure (state : DashboardReducedState) :
    Option String → Except ReducerFailure Unit
  | none => .ok ()
  | some assigned =>
      match state.fleet.find? fun member =>
          decide (member.identifier = assigned) with
      | some (.simulated _) => .ok ()
      | _ =>
          .error (failure .invalidAssignee "assignedMemberId"
            (.text assigned))

/-- `applySector` -/
def applySector (state : DashboardReducedState) (sectorId : String)
    (sectorState : SectorState) (assignee : Option String) :
    Except ReducerFailure DashboardReducedState := do
  let sector ← present
    (state.sectors.find? fun sector => decide (sector.identifier = sectorId))
    (failure .unknownSector "sectorId" (.text sectorId))
  assignmentFailure state assignee
  pure
    { state with
      sectors := state.sectors.map fun held =>
        if held.identifier = sector.identifier then
          { held with assignedMemberId := assignee, state := sectorState }
        else held }

/-- `applyEvent` -/
def applyEvent (state : DashboardReducedState) (currentMission : Mission) :
    StateEvent → Except ReducerFailure DashboardReducedState
  | .telemetry droneId telemetry =>
      applyMember state droneId fun held =>
        { held with telemetry := some telemetry }
  | .connectivity droneId connectivity =>
      applyMember state droneId fun held => { held with connectivity }
  | .missionLifecycle lifecycle =>
      .ok { state with
        currentMission := some { currentMission with lifecycle } }
  | .sectorLifecycle sectorId sectorState assignee =>
      applySector state sectorId sectorState assignee
  | .timeline => .ok state

/-- `sortedFleet` -/
def sortedFleet (fleet : List FleetMember) : List FleetMember :=
  fleet.insertionSort fun left right =>
    identifierOrder left.identifier right.identifier ≤ 0

/-- `sortedSectors` -/
def sortedSectors (sectors : List Sector) : List Sector :=
  sectors.insertionSort fun left right =>
    identifierOrder left.identifier right.identifier ≤ 0

/-- `finalizedState` -/
def finalizedState (state : DashboardReducedState)
    (latestAuditOrdinal : Int) : DashboardReducedState :=
  { state with
    fleet := sortedFleet state.fleet
    latestAuditOrdinal
    sectors := sortedSectors state.sectors }

/-! ## Folding -/

/-- `FoldResult` -/
inductive FoldResult where
  | applied (checkpoint : ReducerCheckpoint)
  | duplicate (checkpoint : ReducerCheckpoint)
  | refused (checkpoint : ReducerCheckpoint) (failure : ReducerFailure)

/-- `orderedDashboardEventDigest` of a document. -/
def eventDigest (host : Host) (number : String → Double)
    (orderedEvent : Value) : Except DigestRefusal String :=
  let document := (dataRecord orderedEvent).getD []
  digestDocument host .orderedDashboardEvent
    (CanonicalText.orderedEventDocument
      (jsonOf number (Value.get "auditOrdinal" document))
      (jsonOf number (Value.get "event" document)))

/-- The fold of an event that passed its boundary into a sound checkpoint. -/
def foldBound (host : Host) (number : String → Double)
    (checkpoint : ReducerCheckpoint) (orderedEvent : Value)
    (bound : BoundEvent) : Except DigestRefusal FoldResult :=
  let latestOrdinal := checkpoint.state.latestAuditOrdinal
  let incomingOrdinal := bound.auditOrdinal
  let refused (code : ReducerRefusal) : FoldResult :=
    .refused checkpoint
      (failure code "auditOrdinal" (.int incomingOrdinal))
  if incomingOrdinal = latestOrdinal then do
    let incomingDigest ← eventDigest host number orderedEvent
    pure
      (if checkpoint.latestEventDigest.any fun latest =>
          browserDigestMatches latest incomingDigest then
        .duplicate checkpoint
      else refused .ordinalDivergence)
  else if incomingOrdinal < latestOrdinal then
    pure (refused .ordinalRegression)
  else if latestOrdinal + 1 < incomingOrdinal then
    pure (refused .ordinalGap)
  else
    match checkpoint.state.currentMission with
    | none =>
        pure (.refused checkpoint
          (failure .missionUnprepared "currentMission" .null))
    | some currentMission =>
        if bound.mission ≠ currentMission.identifier then
          pure (.refused checkpoint
            (failure .missionMismatch "mission" (.text bound.mission)))
        else
          match applyEvent checkpoint.state currentMission bound.event with
          | .error failure => pure (.refused checkpoint failure)
          | .ok applied => do
              let latestEventDigest ← eventDigest host number orderedEvent
              pure (.applied
                ⟨finalizedState applied incomingOrdinal,
                  some latestEventDigest⟩)

/-- `foldOrderedDashboardEvent` -/
def foldOrderedDashboardEvent (host : Host) (number : String → Double)
    (accepts : Value → Bool) (checkpoint : ReducerCheckpoint)
    (orderedEvent : Value) : Except DigestRefusal FoldResult :=
  match orderedEventBoundary number accepts orderedEvent with
  | .error failure => pure (.refused checkpoint failure)
  | .ok bound =>
      match checkpointFromAnchor checkpoint.state
          checkpoint.latestEventDigest with
      | .error failure => pure (.refused checkpoint failure)
      | .ok _ => foldBound host number checkpoint orderedEvent bound

/-! ## The server's digest -/

/-- `replayStateDigest` -/
def replayStateDigest (host : Host) (number : String → Double)
    (state : DashboardReducedState) : Except DigestRefusal String :=
  digestDocument host .replayState
    (jsonOf number (.object (stateDocument state)))

/-- The comparison of a server's digest with a computed one, which it passes
or which refuses. -/
def serverDigestFailure (serverStateDigest computedDigest : String) :
    Option ReducerFailure :=
  let found := Value.text serverStateDigest
  if !(isDigest serverStateDigest && isDigest computedDigest) then
    some (failure .serverDigestForm "digest" found)
  else if serverStateDigest = computedDigest then none
  else some (failure .serverDigestMismatch "digest" found)

/-- `checkpointFromSnapshot` -/
def checkpointFromSnapshot (host : Host) (number : String → Double)
    (snapshot : BrowserSnapshot) :
    Except DigestRefusal (Except ReducerFailure ReducerCheckpoint) :=
  match checkpointFromAnchor snapshot.state snapshot.latestEventDigest with
  | .error failure => pure (.error failure)
  | .ok checkpoint => do
      let computedDigest ← replayStateDigest host number snapshot.state
      match serverDigestFailure snapshot.digest computedDigest with
      | some failure => pure (.error failure)
      | none => pure (.ok checkpoint)

/-- The verification of a fold that the reducer accepted. -/
def verified (host : Host) (number : String → Double)
    (checkpoint : ReducerCheckpoint) (folded : FoldResult)
    (state : DashboardReducedState) (serverStateDigest : String) :
    Except DigestRefusal FoldResult := do
  let computedDigest ← replayStateDigest host number state
  match serverDigestFailure serverStateDigest computedDigest with
  | some failure => pure (.refused checkpoint failure)
  | none => pure folded

/-- `foldVerifiedOrderedDashboardEvent` -/
def foldVerifiedOrderedDashboardEvent (host : Host)
    (number : String → Double) (accepts : Value → Bool)
    (checkpoint : ReducerCheckpoint) (orderedEvent : Value)
    (serverStateDigest : String) : Except DigestRefusal FoldResult := do
  let folded ← foldOrderedDashboardEvent host number accepts checkpoint
    orderedEvent
  match folded with
  | .refused held failure => pure (.refused held failure)
  | .applied next =>
      verified host number checkpoint folded next.state serverStateDigest
  | .duplicate held =>
      verified host number checkpoint folded held.state serverStateDigest

end AerialRescue.Dashboard.DomainReducer
