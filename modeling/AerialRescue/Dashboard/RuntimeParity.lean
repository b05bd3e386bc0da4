import AerialRescue.Dashboard.ReducerParity

/-!
# The browser's two reducers

The dashboard's running application folds the frames of a stream with
`applyDashboardEventFrame`; its replay folds ordered events with
`foldVerifiedOrderedDashboardEvent`.  From a snapshot that both accept they
treat a sequence of schema-valid frames alike, as long as the timeline has room
and the events say what the schema alone does not ask of them.
-/

namespace AerialRescue.Dashboard.RuntimeParity

open AerialRescue.Contracts
open AerialRescue.Contracts.Canonical
open AerialRescue.Contracts.Digest
open AerialRescue.Contracts.DigestSeparation
open AerialRescue.Contracts.Envelopes
open AerialRescue.Contracts.Instant
open AerialRescue.Contracts.Rpc
open AerialRescue.Contracts.SharedJson
open AerialRescue.Contracts.Topics
open AerialRescue.Contracts.View
open AerialRescue.Dashboard.CanonicalText
open AerialRescue.Dashboard.DomainReducer
open AerialRescue.Dashboard.ReducerParity
open AerialRescue.Lib.Binary64
open AerialRescue.Lib.Guard

variable {host : Host} {number : String → Double} {accepts : Value → Bool}

/-! ## Frames the schema accepts -/

/-- The pattern of an instant: a day of the month need not be one of it. -/
def instantPattern (text : String) : Bool :=
  match instantGroups text.toList with
  | none => false
  | some (years, months, days, hours, minutes, seconds, fraction) =>
      let month := digitsValue months
      let day := digitsValue days
      (years ++ months ++ days ++ hours ++ minutes ++ seconds ++
          fraction).all isDigit &&
        digitsValue years ≠ 0 && 1 ≤ month && month ≤ 12 && 1 ≤ day &&
        day ≤ 31 && digitsValue hours < 24 && digitsValue minutes < 60 &&
        digitsValue seconds < 60

/-- The schema of the data of one event kind, with its class. -/
def schemaData (number : String → Double) (accepts : Value → Bool)
    (event : DashboardEvent) : Bool :=
  match event.kind with
  | "droneTelemetry" =>
      event.eventClass = .telemetry &&
        (telemetryData number event.data).isSome
  | "connectivityChanged" =>
      event.eventClass = .connectivity && (connectivityData event.data).isSome
  | "missionLifecycle" =>
      event.eventClass = .mission && (missionData event.data).isSome
  | "sectorLifecycle" =>
      event.eventClass = .mission && (sectorForm event.data).isSome
  | kind =>
      timelineEventClass kind = some event.eventClass &&
        accepts (timelineCandidate (eventDocument event))

/-- The event frame's schema accepts a decoded frame.  A decoded number that
is a safe integer is held as an `int`, whatever its numeral was. -/
structure SchemaValid (number : String → Double) (accepts : Value → Bool)
    (frame : EventFrame) : Prop where
  digest : isDigest frame.digest = true
  ordinal : 1 ≤ frame.event.auditOrdinal ∧
    frame.event.auditOrdinal ≤ maxSafeInteger
  mission : isIdentifier frame.event.event.mission = true
  time : instantPattern frame.event.event.time = true
  data : schemaData number accepts frame.event.event = true
  keys : (Value.keys frame.event.event.data).Nodup
  plain : IntegersPlain (jsonOf number (eventDocument frame.event.event))

/-- What the reducers ask of a frame beyond its schema, at a snapshot: a date
of the calendar, a simulated assignee exactly for an assigned sector, and, of
a repeat, the digest of the state it repeats. -/
structure Regular (snapshot : BrowserSnapshot) (frame : EventFrame) :
    Prop where
  calendar : isInstant frame.event.event.time = true
  assignment : frame.event.event.kind = "sectorLifecycle" →
    ∀ sectorId sectorState assignee,
      sectorForm frame.event.event.data =
          some (sectorId, sectorState, assignee) →
        Assigned snapshot.state.fleet ⟨sectorId, sectorState, assignee⟩
  repeated :
    frame.event.auditOrdinal = snapshot.state.latestAuditOrdinal →
      frame.digest = snapshot.digest

/-- The timeline has room for the event of a frame. -/
def HasRoom (snapshot : BrowserSnapshot) (frame : EventFrame) : Prop :=
  (appendTimeline snapshot.timeline frame.event).length ≤ timelineCapacity

/-! ## Treatments -/

/-- The reducers treat a frame alike at a snapshot: both apply it and reach
the same state and witness, both know it as a duplicate, or neither accepts
it.  A call that throws accepts nothing, as a refusal does. -/
inductive SameTreatment (snapshot : BrowserSnapshot) :
    Except DigestFailure (Except FrameRefusal BrowserSnapshot) →
      Except DigestRefusal FoldResult → Prop where
  | applied {next : BrowserSnapshot} {checkpoint : ReducerCheckpoint}
      (advances : next.state.latestAuditOrdinal =
        snapshot.state.latestAuditOrdinal + 1)
      (mirrors : Mirrors next checkpoint) :
      SameTreatment snapshot (.ok (.ok next)) (.ok (.applied checkpoint))
  | duplicate (checkpoint : ReducerCheckpoint) :
      SameTreatment snapshot (.ok (.ok snapshot))
        (.ok (.duplicate checkpoint))
  | rejected
      {runtime : Except DigestFailure (Except FrameRefusal BrowserSnapshot)}
      {domain : Except DigestRefusal FoldResult}
      (refuses : ∀ next, runtime ≠ .ok (.ok next))
      (unapplied : ∀ checkpoint, domain ≠ .ok (.applied checkpoint))
      (unrepeated : ∀ checkpoint, domain ≠ .ok (.duplicate checkpoint)) :
      SameTreatment snapshot runtime domain

/-! ## The event of a regular frame -/

theorem kind_listed {event : DashboardEvent}
    (valid : schemaData number accepts event = true) :
    event.kind ∈ dashboardEventKinds := by
  unfold schemaData at valid
  split at valid
  · rename_i kind
    rw [kind]
    decide
  · rename_i kind
    rw [kind]
    decide
  · rename_i kind
    rw [kind]
    decide
  · rename_i kind
    rw [kind]
    decide
  · rw [Bool.and_eq_true, decide_eq_true_eq] at valid
    exact timelineEventClass_listed valid.1

/-- The browser reads the data that the schema accepts. -/
theorem kindData_of_schema {event : DashboardEvent}
    (valid : schemaData number accepts event = true)
    (assignment : event.kind = "sectorLifecycle" →
      ∀ sectorId sectorState assignee,
        sectorForm event.data = some (sectorId, sectorState, assignee) →
          (assignee.isSome = true ↔ sectorState ≠ .unassigned)) :
    ∃ read,
      kindData number accepts event.kind (.text event.eventClass.text)
        event.data (eventDocument event) = .ok read := by
  unfold schemaData at valid
  split at valid
  · rename_i kind
    rw [Bool.and_eq_true, decide_eq_true_eq] at valid
    rcases Option.isSome_iff_exists.1 valid.2 with ⟨read, found⟩
    have class_ := (@eventClass_text _ .telemetry).2 valid.1
    refine ⟨read, ?_⟩
    rw [kind]
    simp only [kindData, bind_eq_ok, ensure_eq_ok, present_eq_ok]
    exact ⟨(), class_, found⟩
  · rename_i kind
    rw [Bool.and_eq_true, decide_eq_true_eq] at valid
    rcases Option.isSome_iff_exists.1 valid.2 with ⟨read, found⟩
    have class_ := (@eventClass_text _ .connectivity).2 valid.1
    refine ⟨read, ?_⟩
    rw [kind]
    simp only [kindData, bind_eq_ok, ensure_eq_ok, present_eq_ok]
    exact ⟨(), class_, found⟩
  · rename_i kind
    rw [Bool.and_eq_true, decide_eq_true_eq] at valid
    rcases Option.isSome_iff_exists.1 valid.2 with ⟨read, found⟩
    have class_ := (@eventClass_text _ .mission).2 valid.1
    refine ⟨read, ?_⟩
    rw [kind]
    simp only [kindData, bind_eq_ok, ensure_eq_ok, present_eq_ok]
    exact ⟨(), class_, found⟩
  · rename_i kind
    rw [Bool.and_eq_true, decide_eq_true_eq] at valid
    rcases Option.isSome_iff_exists.1 valid.2 with ⟨read, found⟩
    rcases read with ⟨sectorId, sectorState, assignee⟩
    have class_ := (@eventClass_text _ .mission).2 valid.1
    have consistent := assignment kind _ _ _ found
    refine ⟨.sectorLifecycle sectorId sectorState assignee, ?_⟩
    rw [kind]
    simp only [kindData, sectorData, bind_eq_ok, ensure_eq_ok,
      present_eq_ok, pure_eq_ok]
    refine ⟨(), class_, _, found, (), ?_, (), ?_, rfl⟩
    · rintro ⟨unassigned, named⟩
      exact consistent.1 (Option.isSome_iff_ne_none.2 named) unassigned
    · rintro ⟨assigned, absent⟩
      dsimp only at assigned absent
      have named := consistent.2 assigned
      rw [absent] at named
      cases named
  · rw [Bool.and_eq_true, decide_eq_true_eq] at valid
    refine ⟨.timeline, ?_⟩
    rw [kindData_timeline valid.1, ensure_of valid.2]
    rfl

/-- A member of plain data is no real that stands for a safe integer. -/
theorem plain_get {data : Value.Members} {name repr : String}
    (plain : MembersPlain (jsonOfMembers number data))
    (held : Value.get name data = .float repr) :
    ¬IsSafeInteger (number repr) := by
  unfold Value.get at held
  induction data with
  | nil => cases held
  | cons first rest inductionHypothesis =>
      rw [jsonOfMembers, MembersPlain] at plain
      rw [Value.member?] at held
      split at held
      · change first.2 = .float repr at held
        rw [held] at plain
        exact plain.1
      · exact inductionHypothesis plain.2 held

/-- A real that stands for no safe integer is out of every range. -/
theorem integerInRange_real {repr : String} {minimum maximum : Int}
    (fractional : ¬IsSafeInteger (number repr)) :
    integerInRange number (.float repr) minimum maximum = none := by
  have unsafe_ : safeInteger number (.float repr) = none := by
    rw [safeInteger, Option.filter_eq_none_iff]
    intro integer found small
    exact fractional ⟨integer, found, of_decide_eq_true small⟩
  rw [integerInRange, unsafe_]
  rfl

/-- Plain telemetry holds no real where an integer is asked. -/
theorem telemetryData_plain {data : Value.Members} {event : StateEvent}
    (plain : MembersPlain (jsonOfMembers number data))
    (found : telemetryData number data = some event) :
    ∀ name ∈ telemetryNumbers, NotReal (Value.get name data) := by
  intro name listed repr held
  have outside (minimum maximum : Int) :
      integerInRange number (Value.get name data) minimum maximum = none := by
    rw [held]
    exact integerInRange_real (plain_get plain held)
  rcases telemetryData_eq_some.1 found with
    ⟨_, _, _, _, latitude, _, longitude, _, battery, _, altitude, _,
      heading, _, speed, _⟩
  simp only [telemetryNumbers, List.mem_cons, List.not_mem_nil,
    or_false] at listed
  rcases listed with rfl | rfl | rfl | rfl | rfl | rfl
  · rw [outside] at latitude
    cases latitude
  · rw [outside] at longitude
    cases longitude
  · rw [outside] at battery
    cases battery
  · rw [outside] at altitude
    cases altitude
  · rw [outside] at heading
    cases heading
  · rw [outside] at speed
    cases speed

/-- No frame of the schema divides the boundaries. -/
theorem united_of_schema {frame : EventFrame}
    (valid : SchemaValid number accepts frame) :
    ¬Divides number accepts frame.event := by
  have data := valid.data
  rintro ⟨_, ⟨_, _, found, name, listed, repr, held⟩ |
    ⟨kind, ⟨_, head⟩, named, other⟩ | ⟨expected, listed, parted⟩⟩
  · rcases Option.isSome_iff_exists.1 found with ⟨read, found⟩
    exact telemetryData_plain valid.plain.2.2.2.2.1 found name listed repr
      held
  · rw [schemaData, kind] at data
    rw [sectorForm_of_head valid.keys head, assigneeValue_named named,
      other] at data
    simp at data
  · have both : frame.event.event.eventClass = expected ∧
        accepts (timelineCandidate (eventDocument frame.event.event)) =
          true := by
      unfold schemaData at data
      split at data
      · rename_i kind
        rw [kind] at listed
        cases listed
      · rename_i kind
        rw [kind] at listed
        cases listed
      · rename_i kind
        rw [kind] at listed
        cases listed
      · rename_i kind
        rw [kind] at listed
        cases listed
      · rw [Bool.and_eq_true, decide_eq_true_eq, listed,
          Option.some.injEq] at data
        exact ⟨data.1.symm, data.2⟩
    exact parted (iff_of_true both.1 both.2)

/-- Both boundaries accept the event of a regular frame. -/
theorem boundaries_accept {snapshot : BrowserSnapshot} {frame : EventFrame}
    (valid : SchemaValid number accepts frame)
    (regular : Regular snapshot frame) :
    ∃ event,
      validateOrderedEventBoundary frame.event = .ok event ∧
        orderedEventBoundary number accepts (documentOf frame.event) =
          .ok (boundEvent frame.event event) := by
  rcases kindData_of_schema valid.data fun kind sectorId sectorState
    assignee form => (regular.assignment kind _ _ _ form).1 with ⟨read, data⟩
  have accepted : orderedEventBoundary number accepts
      (documentOf frame.event) = .ok (boundEvent frame.event read) := by
    rw [orderedEventBoundary_documentOf, ensure_of valid.ordinal,
      ensure_of (kind_listed valid.data), ensure_of valid.mission,
      ensure_of regular.calendar, data]
    rfl
  have verdicts := boundary_sameVerdict valid.keys (united_of_schema valid)
  rw [accepted] at verdicts
  cases contracts : validateOrderedEventBoundary frame.event with
  | error problem =>
      rw [contracts] at verdicts
      nomatch verdicts
  | ok event =>
      rw [contracts] at verdicts
      generalize same : boundEvent frame.event read = bound
        at verdicts accepted
      cases verdicts
      exact ⟨event, rfl, accepted⟩

/-! ## What the running reducer does not find -/

theorem updateSelected_eq_none {γ : Type} {selects : γ → Bool}
    {update : γ → γ} {items : List γ}
    (unselected : ∀ item ∈ items, selects item = false) :
    updateSelected selects update items = none := by
  induction items with
  | nil => rfl
  | cons first rest inductionHypothesis =>
      rw [List.forall_mem_cons] at unselected
      rw [updateSelected, unselected.1, inductionHypothesis unselected.2]
      rfl

/-- The domain's reducer refuses a target that no simulated member is. -/
theorem unselected_of_simulatedTarget {identifier : String}
    {fleet : List FleetMember} {problem : Problem}
    (distinct : (fleet.map FleetMember.identifier).Nodup)
    (refused : simulatedTarget identifier fleet = .error problem) :
    ∀ member ∈ fleet, isSimulatedMember identifier member = false := by
  induction fleet with
  | nil => exact nofun
  | cons first rest inductionHypothesis =>
      rw [List.map_cons, List.nodup_cons] at distinct
      have later
          (moved : (simulatedTarget identifier rest).map (fun found =>
            (found.1 + 1, found.2)) = .error problem) :
          ∀ member ∈ rest, isSimulatedMember identifier member = false := by
        cases inner : simulatedTarget identifier rest with
        | error other =>
            rw [inner] at moved
            cases moved
            exact inductionHypothesis distinct.2 inner
        | ok found =>
            rw [inner] at moved
            cases moved
      rw [List.forall_mem_cons]
      cases first with
      | simulated member =>
          rw [simulatedTarget] at refused
          split at refused
          · cases refused
          · rename_i other
            exact ⟨decide_eq_false other, later refused⟩
      | declaredOnly declared =>
          refine ⟨rfl, ?_⟩
          rw [simulatedTarget] at refused
          split at refused
          · rename_i same
            intro member among
            cases member with
            | declaredOnly other => rfl
            | simulated held =>
                refine decide_eq_false fun named => distinct.1 ?_
                exact List.mem_map.2 ⟨_, among, named.trans same.symm⟩
          · exact later refused

theorem updateMember_of_refused {state : DashboardReducedState}
    {identifier : String} {problem : Problem}
    {update : SimulatedFleetMember → SimulatedFleetMember}
    (canonical : CanonicalState state)
    (refused : reduceMember state identifier update = .error problem) :
    updateMember state identifier update = none := by
  rcases bind_eq_error.1 refused with untargeted | ⟨_, _, returned⟩
  · rw [updateMember, updateSelected_eq_none
      (unselected_of_simulatedTarget
        (nodup_of_strictlySorted canonical.members) untargeted)]
    rfl
  · cases returned

/-- An event of another mission is not folded. -/
theorem foldEvent_unbound {state : DashboardReducedState}
    {event : DashboardEvent}
    (foreign : eventBelongsToMission state event = false) :
    foldEvent state event = none := by
  unfold foldEvent
  split_ifs
  · simp [updateMission, foreign]
  · simp [updateTelemetry, foreign]
  · simp [updateConnectivity, foreign]
  · simp [updateSector, foreign]
  · rename_i belongs
    rw [foreign] at belongs
    cases belongs
  · rfl

/-- What the domain's reducer refuses to reduce, the running one does not
fold. -/
theorem foldEvent_of_refused {state : DashboardReducedState}
    {ordered : OrderedDashboardEvent} {event : StateEvent}
    {mission : Mission} {problem : Problem}
    (canonical : CanonicalState state)
    (validated : validateOrderedEventBoundary ordered = .ok event)
    (assigned : ∀ sectorId sectorState assignee,
      event = .sectorLifecycle sectorId sectorState assignee →
        ∀ member ∈ assignee, simulatedAssignee state.fleet member = true)
    (refused : event.reduce state mission = .error problem) :
    foldEvent state ordered.event = none := by
  simp only [validateOrderedEventBoundary, bind_eq_ok, ensure_eq_ok,
    present_eq_ok] at validated
  rcases validated with ⟨_, _, validator, chosen, _, _, _, _, accepted⟩
  unfold boundaryValidator at chosen
  split at chosen
  · cases chosen
    simp only [validateMissionEvent, bind_eq_ok, pure_eq_ok] at accepted
    rcases accepted with ⟨_, _, _, _, lifecycle, _, rfl⟩
    cases refused
  · rename_i kind
    cases chosen
    simp only [validateConnectivityEvent, bind_eq_ok, enumMember_eq_ok,
      eventIdentifier_eq_ok, pure_eq_ok] at accepted
    rcases accepted with
      ⟨_, _, _, _, droneId, ⟨named, _⟩, link, member, rfl⟩
    simp only [StateEvent.reduce] at refused
    simp [foldEvent, kind, updateConnectivity, textField, named, member,
      updateMember_of_refused canonical refused]
  · rename_i kind
    cases chosen
    simp only [validateTelemetryEvent, bind_eq_ok, eventIdentifier_eq_ok,
      boundedInteger_eq_ok, pure_eq_ok] at accepted
    rcases accepted with
      ⟨_, _, _, _, droneId, ⟨named, _⟩, latitude, ⟨atLatitude, _⟩,
        longitude, ⟨atLongitude, _⟩, battery, ⟨atBattery, _⟩,
        altitude, ⟨atAltitude, _⟩, heading, ⟨atHeading, _⟩,
        speed, ⟨atSpeed, _⟩, rfl⟩
    simp only [StateEvent.reduce] at refused
    simp [foldEvent, kind, updateTelemetry, textField, named, numberField,
      atLatitude, atLongitude, atBattery, atAltitude, atHeading, atSpeed,
      updateMember_of_refused canonical refused]
  · rename_i kind
    cases chosen
    simp only [validateSectorEvent, bind_eq_ok, eventIdentifier_eq_ok,
      enumMember_eq_ok, pure_eq_ok] at accepted
    rcases accepted with
      ⟨_, _, _, _, sectorId, ⟨named, _⟩, sectorState, member, assignee,
        read, rfl⟩
    have carried := nullableField_of_ofText? (sectorAssignee_eq_ok read)
    rw [StateEvent.reduce] at refused
    rcases bind_eq_error.1 refused with unknown | ⟨_, _, rest⟩
    · have absent := (present_eq_error.1 unknown).1
      rw [List.findIdx?_eq_none_iff] at absent
      simp [foldEvent, kind, updateSector, textField, named, carried, member,
        updateSelected_eq_none absent]
    · rcases bind_eq_error.1 rest with foreign | ⟨_, _, returned⟩
      · exact absurd (assigned _ _ _ rfl) (ensure_eq_error.1 foreign).1
      · cases returned
  · rcases Option.map_eq_some_iff.1 chosen with ⟨expected, _, rfl⟩
    simp only [validateTimelineEvent, bind_eq_ok, pure_eq_ok] at accepted
    rcases accepted with ⟨_, _, rfl⟩
    cases refused

/-! ## The digest of a state -/

theorem itemsPlain_map {γ : Type} {document : γ → Value} {items : List γ}
    (plain : ∀ item ∈ items, IntegersPlain (jsonOf number (document item))) :
    ItemsPlain (jsonOfItems number (items.map document)) := by
  induction items with
  | nil => exact trivial
  | cons first rest inductionHypothesis =>
      rw [List.forall_mem_cons] at plain
      exact ⟨plain.1, inductionHypothesis plain.2⟩

theorem plain_ofText? (text : Option String) :
    IntegersPlain (jsonOf number (Value.ofText? text)) := by
  cases text <;> exact trivial

theorem plain_memberDocument (member : FleetMember) :
    IntegersPlain (jsonOf number (memberDocument member)) := by
  cases member with
  | declaredOnly identifier => exact ⟨trivial, trivial, trivial⟩
  | simulated held =>
      refine ⟨trivial, trivial, trivial, ?_, trivial⟩
      cases held.telemetry with
      | none => exact trivial
      | some telemetry =>
          exact ⟨trivial, trivial, trivial, trivial, trivial, trivial,
            trivial⟩

/-- The document of a state holds no real. -/
theorem plain_stateDocument (state : DashboardReducedState) :
    IntegersPlain (jsonOf number (.object (stateDocument state))) := by
  refine ⟨trivial, trivial, ?_, ?_, trivial, ?_, trivial⟩
  · cases state.currentMission with
    | none => exact trivial
    | some mission =>
        exact ⟨trivial, trivial, plain_ofText? _, trivial⟩
  · exact itemsPlain_map fun member _ => plain_memberDocument member
  · exact itemsPlain_map fun sector _ =>
      ⟨trivial, trivial, plain_ofText? _, trivial⟩

/-- Both languages give a state the same digest. -/
theorem replayStateDigest_agrees (state : DashboardReducedState) :
    Agree (stateDigest host state) (replayStateDigest host number state) := by
  have octets := @canonicalOctets_agrees host _
    (@plain_stateDocument number state)
  have covered := @digestMaterial_whole host .replayState []
    (jsonOfMembers number (stateDocument state).tail) (by
      change ∀ name ∈ [utf16 "stateVersion", utf16 "currentMission",
          utf16 "fleet", utf16 "latestAuditOrdinal", utf16 "sectors"],
        name ≠ asciiUnits "canonicalizationVersion" ∧
          name ≠ asciiUnits "digest"
      decide)
  intro found
  have browser : replayStateDigest host number state = .ok found ↔
      ∃ bytes, digestMaterial host .replayState
          (jsonOf number (.object (stateDocument state))) = .ok bytes ∧
        host.sha256 bytes = found := by
    simp only [replayStateDigest, digestDocument, bind_eq_ok, pure_eq_ok]
  rw [stateDigest_eq_ok, browser]
  refine exists_congr fun bytes => and_congr_left fun _ => ?_
  change _ ↔ digestMaterial host .replayState (.object ([] ++
    (asciiUnits "canonicalizationVersion", .integer false 1) ::
      jsonOfMembers number (stateDocument state).tail)) = _
  rw [covered, material]
  simp only [bind_eq_ok, recast_eq_ok, pure_eq_ok]
  refine exists_congr fun written => and_congr_left fun _ => ?_
  rw [← @canonicalJson_jsonOf host number]
  exact (octets written).symm

/-! ## One frame -/

/-- What the two reducers hold of one state. -/
structure Twin (host : Host) (snapshot : BrowserSnapshot)
    (checkpoint : ReducerCheckpoint) : Prop where
  mirrors : Mirrors snapshot checkpoint
  anchored :
    checkAnchor checkpoint.state checkpoint.latestEventDigest = .ok ()
  digest : stateDigest host snapshot.state = .ok snapshot.digest

/-- A frame is treated alike, and what is held of the state stays so. -/
inductive Treated (host : Host) (snapshot : BrowserSnapshot)
    (checkpoint : ReducerCheckpoint) :
    Except DigestFailure (Except FrameRefusal BrowserSnapshot) →
      Except DigestRefusal FoldResult → Prop where
  | applied {next : BrowserSnapshot} {successor : ReducerCheckpoint}
      (advances : next.state.latestAuditOrdinal =
        snapshot.state.latestAuditOrdinal + 1)
      (twin : Twin host next successor) :
      Treated host snapshot checkpoint (.ok (.ok next))
        (.ok (.applied successor))
  | duplicate :
      Treated host snapshot checkpoint (.ok (.ok snapshot))
        (.ok (.duplicate checkpoint))
  | rejected
      {runtime : Except DigestFailure (Except FrameRefusal BrowserSnapshot)}
      {domain : Except DigestRefusal FoldResult}
      (refuses : ∀ next, runtime ≠ .ok (.ok next))
      (unapplied : ∀ next, domain ≠ .ok (.applied next))
      (unrepeated : ∀ held, domain ≠ .ok (.duplicate held)) :
      Treated host snapshot checkpoint runtime domain

theorem Treated.same {snapshot : BrowserSnapshot}
    {checkpoint : ReducerCheckpoint}
    {runtime : Except DigestFailure (Except FrameRefusal BrowserSnapshot)}
    {domain : Except DigestRefusal FoldResult}
    (treated : Treated host snapshot checkpoint runtime domain) :
    SameTreatment snapshot runtime domain := by
  cases treated with
  | applied advances twin => exact .applied advances twin.mirrors
  | duplicate => exact .duplicate _
  | rejected refuses unapplied unrepeated =>
      exact .rejected refuses unapplied unrepeated

/-- A computed digest passes the server's exactly when the running reducer
matches them. -/
theorem serverDigestFailure_eq_none {expected computed : String} :
    serverDigestFailure expected computed = none ↔
      browserDigestMatches expected computed = true := by
  unfold serverDigestFailure browserDigestMatches
  by_cases formed : (isDigest expected && isDigest computed) = true
  · by_cases same : expected = computed <;> simp [formed, same]
  · simp [formed]

section Frame

variable {snapshot : BrowserSnapshot} {checkpoint : ReducerCheckpoint}
  {frame : EventFrame} {event : StateEvent}

/-- An accepted event of a sound checkpoint goes on to the ordinals. -/
theorem foldOrderedDashboardEvent_bound
    (accepted : orderedEventBoundary number accepts
      (documentOf frame.event) = .ok (boundEvent frame.event event))
    (anchored :
      checkAnchor checkpoint.state checkpoint.latestEventDigest = .ok ()) :
    foldOrderedDashboardEvent host number accepts checkpoint
        (documentOf frame.event) =
      foldBound host number checkpoint (documentOf frame.event)
        (boundEvent frame.event event) := by
  have same := anchor_sameVerdict checkpoint
  rw [anchored] at same
  rw [foldOrderedDashboardEvent, accepted]
  dsimp only
  generalize DomainReducer.checkpointFromAnchor checkpoint.state
    checkpoint.latestEventDigest = verdict at same ⊢
  cases same
  rfl

/-- The assignee of a regular sector event is a simulated member. -/
theorem assignee_simulated {sectorId : String} {sectorState : SectorState}
    {assignee : Option String} (regular : Regular snapshot frame)
    (validated : validateOrderedEventBoundary frame.event =
      .ok (.sectorLifecycle sectorId sectorState assignee))
    (accepted : orderedEventBoundary number accepts
        (documentOf frame.event) =
      .ok (boundEvent frame.event
        (.sectorLifecycle sectorId sectorState assignee))) :
    ∀ member ∈ assignee,
      simulatedAssignee snapshot.state.fleet member = true := by
  have kind : frame.event.event.kind = "sectorLifecycle" := by
    cases validateOrderedEventBoundary_reads validated with
    | sectorLifecycle _ _ _ kind _ _ => exact kind
  rw [orderedEventBoundary_documentOf, kind] at accepted
  simp only [bind_eq_ok, pure_eq_ok, kindData, sectorData,
    present_eq_ok] at accepted
  rcases accepted with ⟨_, _, _, _, _, _, _, _, _, ⟨_, _, form, found, _, _,
    _, _, rfl⟩, same⟩
  cases same
  exact (regular.assignment kind _ _ _ found).2

/-- The checkpoint after an applied event is sound. -/
theorem anchored_successor {reduced : DashboardReducedState}
    {witness : String} (hexadecimal : HexadecimalDigests host)
    (applies : Applies host checkpoint frame.event event reduced witness)
    (positive : 1 ≤ frame.event.auditOrdinal) :
    checkAnchor (successor frame.event reduced witness).state
        (successor frame.event reduced witness).latestEventDigest =
      .ok () := by
  have canonical := (checkAnchor_eq_ok.1
    (foldPreflight_eq_ok.1 applies.preflight).2).2.1
  refine checkAnchor_eq_ok.2 ⟨?_, applies.canonical canonical, ?_⟩
  · intro held same
    cases same
    exact isDigest_of_orderedEventDigest hexadecimal applies.digest
  · refine iff_of_true ?_ rfl
    change frame.event.auditOrdinal ≠ 0
    omega

/-- The reducers hash one event of the schema alike. -/
theorem eventDigest_of_plain (valid : SchemaValid number accepts frame) :
    (∃ digest, orderedEventDigest host frame.event = .ok digest ∧
        eventDigest host number (documentOf frame.event) = .ok digest) ∨
      ∃ failure refusal, orderedEventDigest host frame.event =
          .error failure ∧
        eventDigest host number (documentOf frame.event) = .error refusal := by
  have agree := @digest_agrees host number _ valid.plain
  cases computed : orderedEventDigest host frame.event with
  | ok digest => exact .inl ⟨digest, rfl, (agree digest).1 computed⟩
  | error failure =>
      cases other : eventDigest host number (documentOf frame.event) with
      | ok digest =>
          rw [(agree digest).2 other] at computed
          cases computed
      | error refusal => exact .inr ⟨failure, refusal, rfl, rfl⟩

/-- A repeat is treated alike. -/
theorem treated_current (twin : Twin host snapshot checkpoint)
    (valid : SchemaValid number accepts frame)
    (regular : Regular snapshot frame)
    (current :
      frame.event.auditOrdinal = snapshot.state.latestAuditOrdinal)
    (accepted : orderedEventBoundary number accepts
      (documentOf frame.event) = .ok (boundEvent frame.event event)) :
    Treated host snapshot checkpoint
      (applyDashboardEventFrame host snapshot frame)
      (foldVerifiedOrderedDashboardEvent host number accepts checkpoint
        (documentOf frame.event) frame.digest) := by
  have also : (boundEvent frame.event event).auditOrdinal =
      checkpoint.state.latestAuditOrdinal := by
    rw [← twin.mirrors.state]
    exact current
  have runtime : applyDashboardEventFrame host snapshot frame =
      isExactDuplicate host snapshot frame >>= fun duplicate =>
        pure (if duplicate then .ok snapshot
          else .error .divergentDuplicate) := if_pos current
  have stateDigested :
      replayStateDigest host number checkpoint.state =
        .ok frame.digest := by
    refine (replayStateDigest_agrees checkpoint.state _).1 ?_
    rw [regular.repeated current, ← twin.mirrors.state]
    exact twin.digest
  have unchanged : serverDigestFailure frame.digest frame.digest = none := by
    rw [serverDigestFailure_eq_none]
    simp [browserDigestMatches, valid.digest]
  rw [foldVerifiedOrderedDashboardEvent,
    foldOrderedDashboardEvent_bound accepted twin.anchored,
    foldBound_current also, runtime, isExactDuplicate,
    twin.mirrors.latestEventDigest]
  rcases @eventDigest_of_plain host _ _ _ valid with
    ⟨digest, computed, browser⟩ | ⟨failure, refusal, raised, browser⟩
  · rw [computed, browser]
    cases checkpoint.latestEventDigest with
    | none => exact .rejected (by simp) (by simp) (by simp)
    | some latest =>
        simp only [bind, Except.bind, pure, Except.pure, Option.any_some]
        by_cases same : browserDigestMatches latest digest = true
        · simp only [same, if_true, verified, stateDigested, unchanged,
            bind, Except.bind, pure, Except.pure]
          exact .duplicate
        · simp only [same, Bool.false_eq_true, if_false]
          exact .rejected (by simp) (by simp) (by simp)
  · rw [raised, browser]
    cases checkpoint.latestEventDigest with
    | none => exact .rejected (by simp) (by simp) (by simp)
    | some latest => exact .rejected (by simp) (by simp) (by simp)

/-- A state that both reducers made is treated alike, when the timeline has
room. -/
theorem treated_reduced (hexadecimal : HexadecimalDigests host)
    (twin : Twin host snapshot checkpoint)
    (valid : SchemaValid number accepts frame) (room : HasRoom snapshot frame)
    (next : frame.event.auditOrdinal =
      snapshot.state.latestAuditOrdinal + 1)
    (preflight : foldPreflight checkpoint frame.event = .ok event)
    {reduced : DashboardReducedState}
    (reduction : reduceOrdered checkpoint frame.event event = .ok reduced) :
    Treated host snapshot checkpoint
      (stateDigest host
          { reduced with latestAuditOrdinal := frame.event.auditOrdinal } >>=
        fun calculated =>
          if browserDigestMatches frame.digest calculated then
            acceptFrame host snapshot frame
              { reduced with
                latestAuditOrdinal := frame.event.auditOrdinal }
          else pure (.error .digestMismatch))
      (eventDigest host number (documentOf frame.event) >>= fun digest =>
        verified host number checkpoint
          (.applied ⟨finalizedState reduced frame.event.auditOrdinal,
            some digest⟩)
          (finalizedState reduced frame.event.auditOrdinal)
          frame.digest) := by
  have canonical :=
    (checkAnchor_eq_ok.1 (foldPreflight_eq_ok.1 preflight).2).2.1
  have following : frame.event.auditOrdinal =
      checkpoint.state.latestAuditOrdinal + 1 := by
    rw [← twin.mirrors.state]
    exact next
  rcases @eventDigest_of_plain host _ _ _ valid with
    ⟨digest, computed, browser⟩ | ⟨failure, refusal, raised, browser⟩
  · have applies : Applies host checkpoint frame.event event reduced digest :=
      ⟨preflight, following, reduction, computed⟩
    have final := congrArg ReducerCheckpoint.state
      (finalizedState_applied canonical applies)
    dsimp only [successor] at final
    have agree := @replayStateDigest_agrees host number
      { reduced with latestAuditOrdinal := frame.event.auditOrdinal }
    rw [browser, final]
    simp only [bind, Except.bind, verified, pure, Except.pure]
    cases digested : stateDigest host
        { reduced with latestAuditOrdinal := frame.event.auditOrdinal } with
    | error failure =>
        cases other : replayStateDigest host number
            { reduced with
              latestAuditOrdinal := frame.event.auditOrdinal } with
        | ok found =>
            rw [(agree found).2 other] at digested
            cases digested
        | error refusal => exact .rejected (by simp) (by simp) (by simp)
    | ok calculated =>
        rw [(agree calculated).1 digested]
        dsimp only
        by_cases same : browserDigestMatches frame.digest calculated = true
        · rw [if_pos same, serverDigestFailure_eq_none.2 same, acceptFrame]
          dsimp only
          rw [if_neg (Nat.not_lt.2 room), computed]
          simp only [browserDigestMatches, Bool.and_eq_true,
            beq_iff_eq] at same
          refine .applied next ⟨⟨rfl, rfl⟩, ?_, ?_⟩
          · exact anchored_successor hexadecimal applies valid.ordinal.1
          · exact digested.trans (congrArg Except.ok same.2.symm)
        · rw [if_neg same]
          cases failed : serverDigestFailure frame.digest calculated with
          | none => exact absurd (serverDigestFailure_eq_none.1 failed) same
          | some failure => exact .rejected (by simp) (by simp) (by simp)
  · rw [browser]
    refine .rejected (fun next accepted => ?_) (by simp) (by simp)
    rcases bind_eq_ok.1 accepted with ⟨calculated, _, rest⟩
    split at rest
    · unfold acceptFrame at rest
      rw [raised] at rest
      dsimp only at rest
      split at rest
      · cases rest
      · cases rest
    · cases rest

/-- The next event is treated alike, when the timeline has room. -/
theorem treated_next (hexadecimal : HexadecimalDigests host)
    (twin : Twin host snapshot checkpoint)
    (valid : SchemaValid number accepts frame)
    (regular : Regular snapshot frame) (room : HasRoom snapshot frame)
    (next : frame.event.auditOrdinal =
      snapshot.state.latestAuditOrdinal + 1)
    (validated : validateOrderedEventBoundary frame.event = .ok event)
    (accepted : orderedEventBoundary number accepts
      (documentOf frame.event) = .ok (boundEvent frame.event event)) :
    Treated host snapshot checkpoint
      (applyDashboardEventFrame host snapshot frame)
      (foldVerifiedOrderedDashboardEvent host number accepts checkpoint
        (documentOf frame.event) frame.digest) := by
  have following : (boundEvent frame.event event).auditOrdinal =
      checkpoint.state.latestAuditOrdinal + 1 := by
    rw [← twin.mirrors.state]
    exact next
  have preflight := foldPreflight_eq_ok.2 ⟨validated, twin.anchored⟩
  have canonical := (checkAnchor_eq_ok.1 twin.anchored).2.1
  have runtime : applyDashboardEventFrame host snapshot frame =
      (foldEvent checkpoint.state frame.event.event).elim
        (.ok (.error .eventBindingRefused)) fun folded =>
          stateDigest host
              { folded with
                latestAuditOrdinal := frame.event.auditOrdinal } >>=
            fun calculated =>
              if browserDigestMatches frame.digest calculated then
                acceptFrame host snapshot frame
                  { folded with
                    latestAuditOrdinal := frame.event.auditOrdinal }
              else pure (.error .digestMismatch) := by
    rw [← twin.mirrors.state]
    unfold applyDashboardEventFrame
    dsimp only
    rw [if_neg (by omega), if_neg (not_not.2 next)]
    cases foldEvent snapshot.state frame.event.event <;> rfl
  rw [foldVerifiedOrderedDashboardEvent,
    foldOrderedDashboardEvent_bound accepted twin.anchored,
    foldBound_next following, runtime]
  cases current : checkpoint.state.currentMission with
  | none =>
      have foreign : eventBelongsToMission checkpoint.state
          frame.event.event = false := by
        rw [eventBelongsToMission, current]
      rw [foldEvent_unbound foreign]
      exact .rejected (by simp) (by simp) (by simp)
  | some mission =>
      dsimp only
      by_cases same : frame.event.event.mission = mission.identifier
      · have kept : ¬(boundEvent frame.event event).mission ≠
            mission.identifier := not_not.2 same
        rw [if_neg kept]
        have verdict := applyEvent_sameVerdict canonical mission event
        change SameVerdict _ (applyEvent checkpoint.state mission
          (boundEvent frame.event event).event) at verdict
        generalize applied : applyEvent checkpoint.state mission
          (boundEvent frame.event event).event = change at verdict ⊢
        cases reduced : event.reduce checkpoint.state mission with
        | error problem =>
            rw [reduced] at verdict
            have assigned := fun sectorId sectorState assignee
                (sector : event =
                  .sectorLifecycle sectorId sectorState assignee) =>
              assignee_simulated regular (sector ▸ validated)
                (sector ▸ accepted)
            rw [twin.mirrors.state] at assigned
            rw [foldEvent_of_refused canonical validated assigned reduced]
            cases verdict
            exact .rejected (by simp) (by simp) (by simp)
        | ok state =>
            rw [reduced] at verdict
            have reduction : reduceOrdered checkpoint frame.event event =
                .ok state := by
              rw [reduceOrdered, current]
              simp only [present, bind, Except.bind, ensure_of same, reduced]
            rw [foldEvent_of_reduce validated current same reduced]
            cases verdict
            have treated := @treated_reduced host number accepts snapshot
              checkpoint frame event hexadecimal twin valid room next
              preflight state reduction
            dsimp only
            rw [bind_assoc]
            exact treated
      · have moved : (boundEvent frame.event event).mission ≠
            mission.identifier := same
        have foreign : eventBelongsToMission checkpoint.state
            frame.event.event = false := by
          rw [eventBelongsToMission, current]
          exact decide_eq_false fun equal => same equal.symm
        rw [if_pos moved, foldEvent_unbound foreign]
        exact .rejected (by simp) (by simp) (by simp)

/-- A regular frame that the schema accepts is treated alike, when the
timeline has room. -/
theorem frame_treated (hexadecimal : HexadecimalDigests host)
    (twin : Twin host snapshot checkpoint)
    (valid : SchemaValid number accepts frame)
    (regular : Regular snapshot frame) (room : HasRoom snapshot frame) :
    Treated host snapshot checkpoint
      (applyDashboardEventFrame host snapshot frame)
      (foldVerifiedOrderedDashboardEvent host number accepts checkpoint
        (documentOf frame.event) frame.digest) := by
  rcases boundaries_accept valid regular with ⟨event, validated, accepted⟩
  by_cases current :
      frame.event.auditOrdinal = snapshot.state.latestAuditOrdinal
  · exact treated_current twin valid regular current accepted
  · by_cases next :
        frame.event.auditOrdinal = snapshot.state.latestAuditOrdinal + 1
    · exact treated_next hexadecimal twin valid regular room next validated
        accepted
    · have other : (boundEvent frame.event event).auditOrdinal ≠
          checkpoint.state.latestAuditOrdinal := by
        rw [← twin.mirrors.state]
        exact current
      have gap : (boundEvent frame.event event).auditOrdinal ≠
          checkpoint.state.latestAuditOrdinal + 1 := by
        rw [← twin.mirrors.state]
        exact next
      have runtime : applyDashboardEventFrame host snapshot frame =
          .ok (.error .ordinalGapOrRegression) := by
        unfold applyDashboardEventFrame
        dsimp only
        rw [if_neg current, if_pos next]
        rfl
      rw [foldVerifiedOrderedDashboardEvent,
        foldOrderedDashboardEvent_bound accepted twin.anchored,
        foldBound_elsewhere other gap, runtime]
      exact .rejected (by simp) (by simp) (by simp)

/-- A frame that would be applied with an empty timeline is refused when the
timeline has no room. -/
theorem full_refuses {next : BrowserSnapshot}
    (advances : next.state.latestAuditOrdinal =
      snapshot.state.latestAuditOrdinal + 1)
    (full : ¬HasRoom snapshot frame)
    (applied : applyDashboardEventFrame host
      { snapshot with timeline := [] } frame = .ok (.ok next)) :
    applyDashboardEventFrame host snapshot frame =
      .ok (.error .timelineCapacity) := by
  unfold applyDashboardEventFrame at applied ⊢
  dsimp only at applied ⊢
  split_ifs at applied ⊢ with current gap
  · rcases bind_eq_ok.1 applied with ⟨duplicate, _, outcome⟩
    split at outcome
    · cases outcome
      dsimp only at advances
      omega
    · cases outcome
  · cases applied
  · cases folded : foldEvent snapshot.state frame.event.event with
    | none =>
        rw [folded] at applied
        cases applied
    | some state =>
        rw [folded] at applied
        rcases bind_eq_ok.1 applied with ⟨calculated, digested, rest⟩
        dsimp only
        rw [digested]
        split at rest
        · rename_i same
          have beyond : timelineCapacity <
              (appendTimeline snapshot.timeline frame.event).length :=
            Nat.lt_of_not_le full
          simp only [bind, Except.bind, same, if_true, acceptFrame, beyond]
          rfl
        · cases rest

/-- A frame that the domain applies is refused by the running reducer when
the timeline has no room. -/
theorem full_treated (hexadecimal : HexadecimalDigests host)
    (twin : Twin host snapshot checkpoint)
    (valid : SchemaValid number accepts frame)
    (regular : Regular snapshot frame) (full : ¬HasRoom snapshot frame)
    {successor : ReducerCheckpoint}
    (applied : foldVerifiedOrderedDashboardEvent host number accepts
      checkpoint (documentOf frame.event) frame.digest =
        .ok (.applied successor)) :
    applyDashboardEventFrame host snapshot frame =
      .ok (.error .timelineCapacity) := by
  have emptied : Twin host { snapshot with timeline := [] } checkpoint :=
    ⟨⟨twin.mirrors.state, twin.mirrors.latestEventDigest⟩, twin.anchored,
      twin.digest⟩
  have room : HasRoom { snapshot with timeline := [] } frame := by
    unfold HasRoom appendTimeline timelineCapacity
    split_ifs
    · exact Nat.zero_le _
    · exact Nat.succ_le_succ (Nat.zero_le 255)
  have treated := frame_treated hexadecimal emptied valid
    ⟨regular.calendar, regular.assignment, regular.repeated⟩ room
  rw [applied] at treated
  generalize runtime : applyDashboardEventFrame host
    { snapshot with timeline := [] } frame = outcome at treated
  cases treated with
  | applied advances twin => exact full_refuses advances full runtime
  | rejected refuses unapplied unrepeated =>
      exact absurd rfl (unapplied successor)

end Frame

/-! ## Runs -/

/-- The running application's snapshot after a frame. -/
def runtimeStep (host : Host) (snapshot : BrowserSnapshot)
    (frame : EventFrame) : BrowserSnapshot :=
  match applyDashboardEventFrame host snapshot frame with
  | .ok (.ok next) => next
  | _ => snapshot

/-- The domain's checkpoint after the ordered event of a frame. -/
def domainStep (host : Host) (number : String → Double)
    (accepts : Value → Bool) (checkpoint : ReducerCheckpoint)
    (frame : EventFrame) : ReducerCheckpoint :=
  match foldVerifiedOrderedDashboardEvent host number accepts checkpoint
      (documentOf frame.event) frame.digest with
  | .ok (.applied next) => next
  | _ => checkpoint

/-- Every frame of a run is regular, and finds room, where it arrives. -/
def RegularRun (host : Host) : BrowserSnapshot → List EventFrame → Prop
  | _, [] => True
  | snapshot, frame :: rest =>
      Regular snapshot frame ∧ HasRoom snapshot frame ∧
        RegularRun host (runtimeStep host snapshot frame) rest

/-- A frame treated alike leaves both reducers with one state. -/
theorem Treated.twin {snapshot : BrowserSnapshot}
    {checkpoint : ReducerCheckpoint} {frame : EventFrame}
    (twin : Twin host snapshot checkpoint)
    (treated : Treated host snapshot checkpoint
      (applyDashboardEventFrame host snapshot frame)
      (foldVerifiedOrderedDashboardEvent host number accepts checkpoint
        (documentOf frame.event) frame.digest)) :
    Twin host (runtimeStep host snapshot frame)
      (domainStep host number accepts checkpoint frame) := by
  unfold runtimeStep domainStep
  generalize applyDashboardEventFrame host snapshot frame = runtime
    at treated ⊢
  generalize foldVerifiedOrderedDashboardEvent host number accepts checkpoint
    (documentOf frame.event) frame.digest = domain at treated ⊢
  cases treated with
  | applied advances next => exact next
  | duplicate => exact twin
  | rejected refuses unapplied unrepeated =>
      split
      · rename_i next
        exact absurd rfl (refuses next)
      · split
        · rename_i next
          exact absurd rfl (unapplied next)
        · exact twin

theorem RegularRun.twin (hexadecimal : HexadecimalDigests host)
    {snapshot : BrowserSnapshot} {checkpoint : ReducerCheckpoint}
    {frames : List EventFrame} (twin : Twin host snapshot checkpoint)
    (valid : ∀ frame ∈ frames, SchemaValid number accepts frame)
    (run : RegularRun host snapshot frames) :
    Twin host (frames.foldl (runtimeStep host) snapshot)
      (frames.foldl (domainStep host number accepts) checkpoint) := by
  induction frames generalizing snapshot checkpoint with
  | nil => exact twin
  | cons frame rest inductionHypothesis =>
      rw [List.forall_mem_cons] at valid
      rcases run with ⟨regular, room, later⟩
      have treated := frame_treated hexadecimal twin valid.1 regular room
      exact inductionHypothesis (treated.twin twin) valid.2 later

/-- A snapshot that the domain accepts is held by both reducers. -/
theorem twin_of_snapshot {snapshot : BrowserSnapshot}
    {checkpoint : ReducerCheckpoint}
    (accepted : checkpointFromSnapshot host number snapshot =
      .ok (.ok checkpoint)) :
    Twin host snapshot checkpoint := by
  have same :=
    anchor_sameVerdict ⟨snapshot.state, snapshot.latestEventDigest⟩
  unfold checkpointFromSnapshot at accepted
  dsimp only at same
  generalize DomainReducer.checkpointFromAnchor snapshot.state
    snapshot.latestEventDigest = anchor at accepted same
  cases anchored : checkAnchor snapshot.state snapshot.latestEventDigest with
  | error problem =>
      rw [anchored] at same
      cases same
      cases accepted
  | ok _ =>
      rw [anchored] at same
      cases same
      rcases bind_eq_ok.1 accepted with ⟨computed, digested, rest⟩
      split at rest
      · cases rest
      · rename_i matched
        cases rest
        rw [serverDigestFailure_eq_none] at matched
        simp only [browserDigestMatches, Bool.and_eq_true,
          beq_iff_eq] at matched
        refine ⟨⟨rfl, rfl⟩, anchored, ?_⟩
        rw [matched.2]
        exact (replayStateDigest_agrees snapshot.state computed).2 digested

/-! ## A full timeline -/

/-- The planned mission, with a timeline that is full. -/
def fullSnapshot : BrowserSnapshot where
  cursor := "cursor-1"
  digest := String.ofList (List.replicate 64 '0')
  latestEventDigest := none
  state := preparedState plannedMission
  timeline := List.replicate 256 searching

/-- The first event of the planned mission. -/
def searchingFrame : EventFrame where
  cursor := "cursor-2"
  digest := String.ofList (List.replicate 64 '0')
  event := searching

/-- A runtime's reading of numerals, for documents that hold none. -/
def noNumber : String → Double :=
  fun _ => ofInteger false 0

/-- Whether a fold was applied. -/
def wasApplied : Except DigestRefusal FoldResult → Bool
  | .ok (.applied _) => true
  | _ => false

/-- Whether a snapshot was accepted. -/
def wasAccepted :
    Except DigestRefusal (Except ReducerFailure ReducerCheckpoint) → Bool
  | .ok (.ok _) => true
  | _ => false

/-- The planned mission, with an empty timeline. -/
def emptySnapshot : BrowserSnapshot :=
  { fullSnapshot with timeline := [] }

theorem planned_accepted :
    checkpointFromSnapshot zeroHost noNumber fullSnapshot =
      .ok (.ok ⟨preparedState plannedMission, none⟩) := by
  have accepted : wasAccepted
      (checkpointFromSnapshot zeroHost noNumber fullSnapshot) = true := by
    decide +kernel
  unfold wasAccepted at accepted
  split at accepted
  · rename_i checkpoint read
    have mirrors := (twin_of_snapshot read).mirrors
    rw [read]
    cases checkpoint
    cases mirrors.state
    cases mirrors.latestEventDigest
    rfl
  · cases accepted

theorem searching_applied :
    ∃ next, foldVerifiedOrderedDashboardEvent zeroHost noNumber
      (fun _ => false) ⟨preparedState plannedMission, none⟩
      (documentOf searchingFrame.event) searchingFrame.digest =
        .ok (.applied next) := by
  have applied : wasApplied (foldVerifiedOrderedDashboardEvent zeroHost
      noNumber (fun _ => false) ⟨preparedState plannedMission, none⟩
      (documentOf searchingFrame.event) searchingFrame.digest) = true := by
    decide +kernel
  unfold wasApplied at applied
  split at applied
  · rename_i next read
    exact ⟨next, read⟩
  · cases applied

theorem searching_valid :
    SchemaValid noNumber (fun _ => false) searchingFrame where
  digest := by decide
  ordinal := by decide
  mission := by decide
  time := by decide
  data := by decide
  keys := by decide
  plain := ⟨trivial, trivial, trivial, trivial, ⟨trivial, trivial⟩, trivial⟩

theorem searching_regular {timeline : List OrderedDashboardEvent} :
    Regular { fullSnapshot with timeline } searchingFrame where
  calendar := by decide
  assignment other := absurd other (by decide)
  repeated current := by
    change (1 : Int) = 0 at current
    cases current

end AerialRescue.Dashboard.RuntimeParity
