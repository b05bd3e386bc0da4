import AerialRescue.Dashboard.Snapshot

/-!
# The browser's reducer

The reducer that the dashboard application runs on the frames it receives, and
its agreement with the server's: a frame that the server folded from a
checkpoint takes a browser snapshot of that checkpoint to a snapshot of the
next one, as long as the browser's timeline has room for the event.

The events a frame carries have passed the generated schema, so the reducer
reads their members under the types the schema gives them.
-/

namespace AerialRescue.Dashboard

open AerialRescue.Lib.Guard
open AerialRescue.Contracts
open AerialRescue.Contracts.Canonical
open AerialRescue.Contracts.Digest
open AerialRescue.Contracts.Rpc
open AerialRescue.Contracts.View

/-! ## The reducer -/

/-- The members of a snapshot that a frame can change. -/
structure BrowserSnapshot where
  cursor : String
  digest : String
  latestEventDigest : Option String
  state : DashboardReducedState
  timeline : List OrderedDashboardEvent

/-- The snapshot a browser takes from a capture. -/
def browserSnapshot (capture : SnapshotCapture) : BrowserSnapshot where
  cursor := capture.cursor
  digest := capture.digest
  latestEventDigest := capture.checkpoint.latestEventDigest
  state := capture.checkpoint.state
  timeline := capture.timeline

/-- Why the browser does not apply a frame. -/
inductive FrameRefusal where
  | digestMismatch
  | divergentDuplicate
  | eventBindingRefused
  | ordinalGapOrRegression
  | timelineCapacity
deriving DecidableEq

/-- A text member of the event's data. -/
def textField (data : Value.Members) (name : String) : Option String :=
  match Value.get name data with
  | .text value => some value
  | _ => none

/-- A number member of the event's data. -/
def numberField (data : Value.Members) (name : String) : Option Int :=
  match Value.get name data with
  | .int value => some value
  | _ => none

/-- A member of the event's data that is a text or null. -/
def nullableField (data : Value.Members) (name : String) :
    Option (Option String) :=
  match Value.get name data with
  | .text value => some (some value)
  | .null => some none
  | _ => none

/-- `eventBelongsToMission` -/
def eventBelongsToMission (state : DashboardReducedState)
    (event : DashboardEvent) : Bool :=
  match state.currentMission with
  | some mission => mission.identifier = event.mission
  | none => false

/-- The list with its first selected item updated, when there is one. -/
def updateSelected {γ : Type} (selects : γ → Bool) (update : γ → γ) :
    List γ → Option (List γ)
  | [] => none
  | item :: rest =>
      if selects item then some (update item :: rest)
      else (updateSelected selects update rest).map (item :: ·)

/-- A simulated member of that name. -/
def isSimulatedMember (identifier : String) : FleetMember → Bool
  | .simulated member => member.identifier = identifier
  | .declaredOnly _ => false

/-- The update of a simulated member. -/
def overSimulated (update : SimulatedFleetMember → SimulatedFleetMember) :
    FleetMember → FleetMember
  | .simulated member => .simulated (update member)
  | .declaredOnly identifier => .declaredOnly identifier

/-- The state with one simulated member updated. -/
def updateMember (state : DashboardReducedState) (identifier : String)
    (update : SimulatedFleetMember → SimulatedFleetMember) :
    Option DashboardReducedState :=
  (updateSelected (isSimulatedMember identifier) (overSimulated update)
    state.fleet).map fun fleet => { state with fleet }

/-- `updateMission` -/
def updateMission (state : DashboardReducedState) (event : DashboardEvent) :
    Option DashboardReducedState := do
  guard (eventBelongsToMission state event)
  let mission ← state.currentMission
  let lifecycle ← spelled missionLifecycles MissionLifecycle.text
    (Value.get "lifecycle" event.data)
  pure { state with currentMission := some { mission with lifecycle } }

/-- `updateTelemetry` -/
def updateTelemetry (state : DashboardReducedState)
    (event : DashboardEvent) : Option DashboardReducedState := do
  guard (eventBelongsToMission state event)
  let droneId ← textField event.data "droneId"
  let altitudeMetres ← numberField event.data "altitudeMetres"
  let batteryPercent ← numberField event.data "batteryPercent"
  let groundSpeedCentimetresPerSecond ← numberField event.data
    "groundSpeedCentimetresPerSecond"
  let headingDegrees ← numberField event.data "headingDegrees"
  let latitudeMicrodegrees ← numberField event.data "latitudeMicrodegrees"
  let longitudeMicrodegrees ← numberField event.data
    "longitudeMicrodegrees"
  updateMember state droneId fun member =>
    { member with
      telemetry := some
        { latitudeMicrodegrees, longitudeMicrodegrees, batteryPercent,
          altitudeMetres, headingDegrees,
          groundSpeedCentimetresPerSecond } }

/-- `updateConnectivity` -/
def updateConnectivity (state : DashboardReducedState)
    (event : DashboardEvent) : Option DashboardReducedState := do
  guard (eventBelongsToMission state event)
  let droneId ← textField event.data "droneId"
  let link ← spelled connectivities Connectivity.text
    (Value.get "connectivity" event.data)
  updateMember state droneId fun member =>
    { member with connectivity := link }

/-- `updateSector` -/
def updateSector (state : DashboardReducedState) (event : DashboardEvent) :
    Option DashboardReducedState := do
  guard (eventBelongsToMission state event)
  let sectorId ← textField event.data "sectorId"
  let assignedMemberId ← nullableField event.data "assignedMemberId"
  let sectorState ← spelled sectorStates SectorState.text
    (Value.get "state" event.data)
  let sectors ← updateSelected
    (fun sector : Sector => sector.identifier = sectorId)
    (fun sector => { sector with assignedMemberId, state := sectorState })
    state.sectors
  pure { state with sectors }

/-- `foldEvent` -/
def foldEvent (state : DashboardReducedState) (event : DashboardEvent) :
    Option DashboardReducedState :=
  if event.kind = "missionLifecycle" then updateMission state event
  else if event.kind = "droneTelemetry" then updateTelemetry state event
  else if event.kind = "connectivityChanged" then
    updateConnectivity state event
  else if event.kind = "sectorLifecycle" then updateSector state event
  else if eventBelongsToMission state event then some state
  else none

/-- `timelineEvent`, appended to the timeline. -/
def appendTimeline (timeline : List OrderedDashboardEvent)
    (ordered : OrderedDashboardEvent) : List OrderedDashboardEvent :=
  if ordered.event.kind = "droneTelemetry" then timeline
  else timeline ++ [ordered]

/-- `digestMatches`: two digests in form, and equal. -/
def browserDigestMatches (expected actual : String) : Bool :=
  isDigest expected && isDigest actual && expected == actual

/-- Largest timeline the browser keeps. -/
def timelineCapacity : Nat := 256

/-- `isExactDuplicate` -/
def isExactDuplicate (host : Host) (snapshot : BrowserSnapshot)
    (frame : EventFrame) : Except DigestFailure Bool :=
  match snapshot.latestEventDigest with
  | none => pure false
  | some latest => do
      let candidate ← orderedEventDigest host frame.event
      pure (browserDigestMatches latest candidate)

/-- The snapshot after a frame whose state and digest were accepted. -/
def acceptFrame (host : Host) (snapshot : BrowserSnapshot)
    (frame : EventFrame) (state : DashboardReducedState) :
    Except DigestFailure (Except FrameRefusal BrowserSnapshot) := do
  let timeline := appendTimeline snapshot.timeline frame.event
  if timelineCapacity < timeline.length then
    pure (.error .timelineCapacity)
  else
    let latestEventDigest ← orderedEventDigest host frame.event
    pure
      (.ok
        { cursor := frame.cursor
          digest := frame.digest
          latestEventDigest := some latestEventDigest
          state
          timeline })

/-- `applyDashboardEventFrame` -/
def applyDashboardEventFrame (host : Host) (snapshot : BrowserSnapshot)
    (frame : EventFrame) :
    Except DigestFailure (Except FrameRefusal BrowserSnapshot) :=
  let ordinal := frame.event.auditOrdinal
  if ordinal = snapshot.state.latestAuditOrdinal then do
    let duplicate ← isExactDuplicate host snapshot frame
    pure (if duplicate then .ok snapshot else .error .divergentDuplicate)
  else if ordinal ≠ snapshot.state.latestAuditOrdinal + 1 then
    pure (.error .ordinalGapOrRegression)
  else
    match foldEvent snapshot.state frame.event.event with
    | none => pure (.error .eventBindingRefused)
    | some folded => do
        let state := { folded with latestAuditOrdinal := ordinal }
        let calculated ← stateDigest host state
        if browserDigestMatches frame.digest calculated then
          acceptFrame host snapshot frame state
        else
          pure (.error .digestMismatch)

/-! ## Agreement with the server's reducer -/

/-- The server's target is the member the browser selects. -/
theorem updateSelected_simulatedTarget {identifier : String}
    {fleet : List FleetMember} {index : Nat} {member : SimulatedFleetMember}
    (update : SimulatedFleetMember → SimulatedFleetMember)
    (target : simulatedTarget identifier fleet = .ok (index, member)) :
    updateSelected (isSimulatedMember identifier) (overSimulated update)
        fleet =
      some (fleet.set index (.simulated (update member))) := by
  induction fleet generalizing index with
  | nil => cases target
  | cons first rest inductionHypothesis =>
      have later :
          ∀ found : Except Problem (Nat × SimulatedFleetMember),
            found = simulatedTarget identifier rest →
            (found.map fun position => (position.1 + 1, position.2)) =
              .ok (index, member) →
            ∃ earlier, index = earlier + 1 ∧
              simulatedTarget identifier rest = .ok (earlier, member) := by
        intro found same mapped
        cases found with
        | error problem => cases mapped
        | ok position =>
            cases mapped
            exact ⟨position.1, rfl, same.symm⟩
      cases first with
      | declaredOnly declared =>
          simp only [simulatedTarget] at target
          split_ifs at target
          rcases later _ rfl target with ⟨earlier, rfl, tail⟩
          simp [updateSelected, isSimulatedMember,
            inductionHypothesis tail]
      | simulated candidate =>
          simp only [simulatedTarget] at target
          split_ifs at target with named
          · cases target
            simp [updateSelected, isSimulatedMember, named, overSimulated]
          · rcases later _ rfl target with ⟨earlier, rfl, tail⟩
            simp [updateSelected, isSimulatedMember, named,
              inductionHypothesis tail]

/-- The server's sector is the one the browser selects. -/
theorem updateSelected_findIdx {identifier : String} {sectors : List Sector}
    {index : Nat} (sectorState : SectorState) (assignee : Option String)
    (found :
      sectors.findIdx? (fun sector => sector.identifier = identifier) =
        some index) :
    updateSelected (fun sector : Sector => sector.identifier = identifier)
        (fun sector =>
          { sector with assignedMemberId := assignee, state := sectorState })
        sectors =
      some (sectors.set index ⟨identifier, sectorState, assignee⟩) := by
  induction sectors generalizing index with
  | nil => cases found
  | cons first rest inductionHypothesis =>
      rw [List.findIdx?_cons] at found
      by_cases named : first.identifier = identifier
      · simp only [named, decide_true, if_true, Option.some.injEq] at found
        subst found
        simp [updateSelected, named]
      · simp only [named, decide_false, Bool.false_eq_true, if_false,
          Option.map_eq_some_iff] at found
        rcases found with ⟨earlier, tail, rfl⟩
        simp [updateSelected, named, inductionHypothesis tail]

theorem updateMember_of_reduceMember {state reduced : DashboardReducedState}
    {identifier : String}
    {update : SimulatedFleetMember → SimulatedFleetMember}
    (reduction : reduceMember state identifier update = .ok reduced) :
    updateMember state identifier update = some reduced := by
  simp only [reduceMember, bind_eq_ok, pure_eq_ok] at reduction
  rcases reduction with ⟨⟨index, member⟩, target, rfl⟩
  simp [updateMember, updateSelected_simulatedTarget update target]

theorem nullableField_of_ofText? {data : Value.Members} {name : String}
    {value : Option String}
    (member : Value.get name data = Value.ofText? value) :
    nullableField data name = some value := by
  unfold nullableField
  rw [member]
  cases value <;> rfl

/-- What the server's reducer makes of an event, the browser's makes too. -/
theorem foldEvent_of_reduce {state reduced : DashboardReducedState}
    {ordered : OrderedDashboardEvent} {event : StateEvent}
    {mission : Mission}
    (validated : validateOrderedEventBoundary ordered = .ok event)
    (prepared : state.currentMission = some mission)
    (belongs : ordered.event.mission = mission.identifier)
    (reduction : event.reduce state mission = .ok reduced) :
    foldEvent state ordered.event = some reduced := by
  have belongsHere : eventBelongsToMission state ordered.event = true := by
    simp [eventBelongsToMission, prepared, belongs]
  simp only [validateOrderedEventBoundary, bind_eq_ok, ensure_eq_ok,
    present_eq_ok] at validated
  rcases validated with ⟨_, _, validator, chosen, _, _, _, _, accepted⟩
  unfold boundaryValidator at chosen
  split at chosen
  · rename_i kind
    cases chosen
    simp only [validateMissionEvent, bind_eq_ok, enumMember_eq_ok,
      pure_eq_ok] at accepted
    rcases accepted with ⟨_, _, _, _, lifecycle, member, rfl⟩
    simp only [StateEvent.reduce, pure_eq_ok] at reduction
    simp [foldEvent, kind, updateMission, belongsHere, prepared, member,
      reduction]
  · rename_i kind
    cases chosen
    simp only [validateConnectivityEvent, bind_eq_ok, enumMember_eq_ok,
      eventIdentifier_eq_ok, pure_eq_ok] at accepted
    rcases accepted with
      ⟨_, _, _, _, droneId, ⟨named, _⟩, link, member, rfl⟩
    simp only [StateEvent.reduce] at reduction
    simp [foldEvent, kind, updateConnectivity, belongsHere, textField, named,
      member, updateMember_of_reduceMember reduction]
  · rename_i kind
    cases chosen
    simp only [validateTelemetryEvent, bind_eq_ok, eventIdentifier_eq_ok,
      boundedInteger_eq_ok, pure_eq_ok] at accepted
    rcases accepted with
      ⟨_, _, _, _, droneId, ⟨named, _⟩, latitude, ⟨atLatitude, _⟩,
        longitude, ⟨atLongitude, _⟩, battery, ⟨atBattery, _⟩,
        altitude, ⟨atAltitude, _⟩, heading, ⟨atHeading, _⟩,
        speed, ⟨atSpeed, _⟩, rfl⟩
    simp only [StateEvent.reduce] at reduction
    simp [foldEvent, kind, updateTelemetry, belongsHere, textField, named,
      numberField, atLatitude, atLongitude, atBattery, atAltitude, atHeading,
      atSpeed, updateMember_of_reduceMember reduction]
  · rename_i kind
    cases chosen
    simp only [validateSectorEvent, bind_eq_ok, eventIdentifier_eq_ok,
      enumMember_eq_ok, pure_eq_ok] at accepted
    rcases accepted with
      ⟨_, _, _, _, sectorId, ⟨named, _⟩, sectorState, member, assignee,
        assigned, rfl⟩
    simp only [StateEvent.reduce, bind_eq_ok, sectorIndex, present_eq_ok,
      pure_eq_ok] at reduction
    rcases reduction with ⟨index, found, _, _, rfl⟩
    have carried := nullableField_of_ofText? (sectorAssignee_eq_ok assigned)
    simp [foldEvent, kind, updateSector, belongsHere, textField, named,
      carried, member, updateSelected_findIdx sectorState assignee found]
  · rename_i notMission notConnectivity notTelemetry notSector
    rw [Option.map_eq_some_iff] at chosen
    rcases chosen with ⟨expected, _, rfl⟩
    simp only [validateTimelineEvent, bind_eq_ok, pure_eq_ok] at accepted
    rcases accepted with ⟨_, _, rfl⟩
    simp only [StateEvent.reduce, pure_eq_ok] at reduction
    subst reduction
    have distinct :
        ordered.event.kind ≠ "missionLifecycle" ∧
          ordered.event.kind ≠ "droneTelemetry" ∧
          ordered.event.kind ≠ "connectivityChanged" ∧
          ordered.event.kind ≠ "sectorLifecycle" :=
      ⟨notMission, notTelemetry, notConnectivity, notSector⟩
    simp [foldEvent, distinct, belongsHere]

/-- A browser snapshot of one of the server's checkpoints. -/
structure Mirrors (snapshot : BrowserSnapshot)
    (checkpoint : ReducerCheckpoint) : Prop where
  state : snapshot.state = checkpoint.state
  latestEventDigest :
    snapshot.latestEventDigest = checkpoint.latestEventDigest

theorem mirrors_browserSnapshot (capture : SnapshotCapture) :
    Mirrors (browserSnapshot capture) capture.checkpoint :=
  ⟨rfl, rfl⟩

/-- `hexdigest` of SHA-256: sixty-four lowercase hexadecimal digits. -/
def Hexadecimal (host : Host) : Prop :=
  ∀ bytes, isDigest (host.sha256 bytes) = true

theorem isDigest_of_digest {host : Host} (hexadecimal : Hexadecimal host)
    {context : Context} {payload : Value.Members} {found : String}
    (computed : digest host context payload = .ok found) :
    isDigest found = true := by
  simp only [digest, digestCovered, bind_eq_ok, recast_eq_ok,
    pure_eq_ok] at computed
  rcases computed with ⟨_, _, bytes, _, rfl⟩
  exact hexadecimal _

theorem digestsMatch_eq_true {expected actual : String}
    (matched : digestsMatch expected actual = .ok true) :
    expected = actual := by
  unfold digestsMatch at matched
  split_ifs at matched
  simpa using matched

theorem length_le_appendTimeline (timeline : List OrderedDashboardEvent)
    (ordered : OrderedDashboardEvent) :
    timeline.length ≤ (appendTimeline timeline ordered).length := by
  unfold appendTimeline
  split_ifs
  · exact Nat.le_refl _
  · simp

/-- A duplicate for the server is a duplicate for the browser. -/
theorem isExactDuplicate_of_witnesses {host : Host}
    (hexadecimal : Hexadecimal host) {checkpoint : ReducerCheckpoint}
    {snapshot : BrowserSnapshot} {frame : EventFrame}
    (mirrors : Mirrors snapshot checkpoint)
    (witnessed : witnesses host checkpoint frame.event = .ok true) :
    isExactDuplicate host snapshot frame = .ok true := by
  simp only [witnesses, bind_eq_ok] at witnessed
  rcases witnessed with ⟨incoming, computed, compared⟩
  have form := isDigest_of_digest hexadecimal computed
  cases latest : checkpoint.latestEventDigest with
  | none =>
      rw [latest] at compared
      cases compared
  | some witness =>
      rw [latest] at compared
      cases digestsMatch_eq_true compared
      unfold isExactDuplicate
      rw [mirrors.latestEventDigest, latest]
      simp [computed, browserDigestMatches, form, bind, Except.bind, pure,
        Except.pure]

/--
A frame the server folded takes a snapshot of its checkpoint to a snapshot of
the next one, when the timeline has room for the event.
-/
theorem applyDashboardEventFrame_of_frame {host : Host}
    (hexadecimal : Hexadecimal host) {checkpoint : ReducerCheckpoint}
    {folded : FoldedFrame} {snapshot : BrowserSnapshot}
    (frame : FrameOf host checkpoint folded)
    (mirrors : Mirrors snapshot checkpoint)
    (room :
      (appendTimeline snapshot.timeline folded.body.event).length ≤
        timelineCapacity) :
    ∃ next,
      applyDashboardEventFrame host snapshot folded.body = .ok (.ok next) ∧
        Mirrors next folded.checkpoint ∧
        next.timeline.length ≤
          (appendTimeline snapshot.timeline folded.body.event).length := by
  rcases frame.fold with applied | duplicate
  · rcases foldOrderedEvent_accepted applied with
      ⟨event, reduced, witness, applies, made, _⟩ | ⟨impossible, _⟩ |
        ⟨problem, impossible⟩
    · have next := FoldOutcome.applied.inj made
      have computed := frame.digest
      rw [next] at computed ⊢
      have form := isDigest_of_digest hexadecimal computed
      have preflight := applies.preflight
      simp only [foldPreflight, bind_eq_ok, pure_eq_ok] at preflight
      rcases preflight with ⟨_, validated, _, _, rfl⟩
      have reduction := applies.reduction
      simp only [reduceOrdered, bind_eq_ok, present_eq_ok,
        ensure_eq_ok] at reduction
      rcases reduction with ⟨mission, prepared, _, belongs, reduction⟩
      have browser :=
        foldEvent_of_reduce validated prepared belongs reduction
      have ordinal := applies.next
      rw [← mirrors.state] at browser ordinal
      have later :
          folded.body.event.auditOrdinal ≠
            snapshot.state.latestAuditOrdinal := by
        omega
      refine
        ⟨{ cursor := folded.body.cursor
           digest := folded.body.digest
           latestEventDigest := some witness
           state :=
             { reduced with
               latestAuditOrdinal := folded.body.event.auditOrdinal }
           timeline :=
             appendTimeline snapshot.timeline folded.body.event },
          ?_, ⟨rfl, rfl⟩, Nat.le_refl _⟩
      have computedState :
          stateDigest host
              { reduced with
                latestAuditOrdinal := folded.body.event.auditOrdinal } =
            .ok folded.body.digest :=
        computed
      unfold applyDashboardEventFrame
      simp only
      rw [if_neg later, if_neg (not_not.2 ordinal), browser]
      simp [computedState, browserDigestMatches, form, acceptFrame,
        Nat.not_lt.2 room, applies.digest, bind, Except.bind, pure,
        Except.pure]
    · cases impossible
    · cases impossible
  · rcases foldOrderedEvent_accepted duplicate with
      ⟨_, _, _, _, impossible, _⟩ | ⟨made, same, witnessed, _⟩ |
        ⟨problem, impossible⟩
    · cases impossible
    · have kept := FoldOutcome.duplicate.inj made
      rw [kept]
      refine ⟨snapshot, ?_, mirrors, length_le_appendTimeline _ _⟩
      have ordinal : folded.body.event.auditOrdinal =
          snapshot.state.latestAuditOrdinal := by
        rw [same, mirrors.state]
      have exact :=
        isExactDuplicate_of_witnesses hexadecimal mirrors witnessed
      simp [applyDashboardEventFrame, ordinal, exact, bind, Except.bind,
        pure, Except.pure]
    · cases impossible

end AerialRescue.Dashboard
