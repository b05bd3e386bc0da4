import AerialRescue.Contracts.FoldOrder
import AerialRescue.Contracts.CanonicalForm
import AerialRescue.Lib.Run

/-!
# Runs of the reducer

The checkpoint that a scenario mission starts from, the runs of the reducer
over delivered events, and what every checkpoint of such a run satisfies: the
roster and the sectors of the start, in their order, every assignment held by
a simulated member, and a witness as soon as an event was applied.
-/

namespace AerialRescue.Contracts.View

open AerialRescue.Lib.Guard
open AerialRescue.Lib.Run
open AerialRescue.Contracts.Canonical
open AerialRescue.Contracts.Digest
open AerialRescue.Contracts.Rpc

/-! ## Preparation -/

/-- `PreparedMission`: the identity of a validated scenario mission. -/
structure PreparedMission where
  identifier : String
  predecessorIdentifier : Option String
  simulatedMemberIds : List String
  declaredOnlyMemberIds : List String
  sectorIds : List String

/-- `ReducerError` with the identifier that is repeated. -/
inductive PreparationRefusal where
  | duplicateMember (identifier : String)
  | duplicateSector (identifier : String)
deriving DecidableEq

def duplicateAfter (seen : List String) : List String → Option String
  | [] => none
  | value :: rest =>
      if value ∈ seen then some value
      else duplicateAfter (value :: seen) rest

/-- `_duplicate`: the first repeated identifier. -/
def duplicate (values : List String) : Option String :=
  duplicateAfter [] values

/-- Items in ascending byte order of their identifiers. -/
def byteSorted {γ : Type} (identifier : γ → String) (items : List γ) :
    List γ :=
  items.insertionSort fun left right =>
    utf8 (identifier left).toList ≤ utf8 (identifier right).toList

/-- The reduced state of a planned mission. -/
def preparedState (prepared : PreparedMission) : DashboardReducedState where
  currentMission := some
    { identifier := prepared.identifier
      lifecycle := .planned
      predecessorIdentifier := prepared.predecessorIdentifier }
  fleet := byteSorted FleetMember.identifier
    (prepared.simulatedMemberIds.map (fun identifier =>
        .simulated
          { identifier, connectivity := .connected, telemetry := none }) ++
      prepared.declaredOnlyMemberIds.map .declaredOnly)
  latestAuditOrdinal := 0
  sectors := (byteSorted id prepared.sectorIds).map fun identifier =>
    ⟨identifier, .unassigned, none⟩

/-- `prepare_checkpoint` -/
def prepareCheckpoint (prepared : PreparedMission) :
    Except PreparationRefusal ReducerCheckpoint :=
  match duplicate
      (prepared.simulatedMemberIds ++ prepared.declaredOnlyMemberIds) with
  | some repeated => .error (.duplicateMember repeated)
  | none =>
      match duplicate prepared.sectorIds with
      | some repeated => .error (.duplicateSector repeated)
      | none => .ok ⟨preparedState prepared, none⟩

theorem duplicateAfter_eq_none {seen values : List String} :
    duplicateAfter seen values = none ↔
      values.Nodup ∧ ∀ value ∈ values, value ∉ seen := by
  induction values generalizing seen with
  | nil => simp [duplicateAfter]
  | cons value rest inductionHypothesis =>
      rw [duplicateAfter]
      split
      · rename_i repeated
        simp [repeated]
      · rename_i fresh
        rw [inductionHypothesis]
        simp only [List.nodup_cons, List.mem_cons, not_or,
          forall_eq_or_imp, fresh, not_false_eq_true, true_and]
        constructor
        · rintro ⟨distinct, others⟩
          exact ⟨⟨fun member => (others value member).1 rfl, distinct⟩,
            fun other member => (others other member).2⟩
        · rintro ⟨⟨absent, distinct⟩, others⟩
          refine ⟨distinct, fun other member => ⟨?_, others other member⟩⟩
          rintro rfl
          exact absent member

theorem duplicate_eq_none {values : List String} :
    duplicate values = none ↔ values.Nodup := by
  simp [duplicate, duplicateAfter_eq_none]

/-- Distinct identifiers in byte order ascend strictly. -/
theorem strictlySorted_byteSorted {γ : Type} {identifier : γ → String}
    {items : List γ} (distinct : (items.map identifier).Nodup) :
    strictlySorted ((byteSorted identifier items).map identifier) = true := by
  have perm : ((byteSorted identifier items).map identifier).Perm
      (items.map identifier) :=
    (List.perm_insertionSort _ items).map identifier
  have ordered : (byteSorted identifier items).Pairwise fun left right =>
      utf8 (identifier left).toList ≤ utf8 (identifier right).toList :=
    List.pairwise_insertionSort
      (fun left right : γ =>
        utf8 (identifier left).toList ≤ utf8 (identifier right).toList) items
  have distinctly : (byteSorted identifier items).Pairwise fun left right =>
      identifier left ≠ identifier right :=
    List.pairwise_map.1 (perm.nodup_iff.2 distinct)
  rw [strictlySorted, decide_eq_true_eq, List.pairwise_map]
  refine (ordered.and distinctly).imp fun both => ?_
  rcases List.le_iff_lt_or_eq.1 both.1 with before | same
  · exact before
  · exact absurd
      (String.toList_inj.1 (CanonicalForm.utf8_injective same)) both.2

/-! ## Canonical states -/

/-- A sector's assignee is there when its state requires one, and simulated. -/
def Assigned (fleet : List FleetMember) (sector : Sector) : Prop :=
  (sector.assignedMemberId.isSome = true ↔ sector.state ≠ .unassigned) ∧
    ∀ member ∈ sector.assignedMemberId,
      simulatedAssignee fleet member = true

/-- What an anchor has to satisfy. -/
structure CanonicalState (state : DashboardReducedState) : Prop where
  members :
    strictlySorted (state.fleet.map FleetMember.identifier) = true
  sectors : strictlySorted (state.sectors.map Sector.identifier) = true
  assigned : ∀ sector ∈ state.sectors, Assigned state.fleet sector
  unprepared : state.currentMission = none →
    state.fleet = [] ∧ state.sectors = [] ∧ state.latestAuditOrdinal = 0

theorem sectorDefect_eq_none {fleet : List FleetMember} {sector : Sector} :
    sectorDefect fleet sector = none ↔ Assigned fleet sector := by
  unfold sectorDefect Assigned
  cases assignee : sector.assignedMemberId with
  | none => simp
  | some member => simp

theorem missionAnchorDefect_eq_none {state : DashboardReducedState} :
    missionAnchorDefect state = none ↔
      (state.currentMission = none →
        state.fleet = [] ∧ state.sectors = [] ∧
          state.latestAuditOrdinal = 0) := by
  unfold missionAnchorDefect
  split
  · rename_i defect
    simp only [reduceCtorEq, false_iff, Classical.not_imp]
    refine ⟨defect.1, fun empty => ?_⟩
    rcases defect.2 with held | held | held
    · exact held empty.1
    · exact held empty.2.1
    · exact held empty.2.2
  · rename_i sound
    simp only [true_iff]
    intro unprepared
    refine ⟨?_, ?_, ?_⟩
    all_goals
      refine Classical.byContradiction fun held => sound ⟨unprepared, ?_⟩
    · exact .inl held
    · exact .inr (.inl held)
    · exact .inr (.inr held)

/-- The anchor check accepts exactly the canonical states. -/
theorem noncanonicalAnchor_eq_none {state : DashboardReducedState} :
    noncanonicalAnchor state = none ↔ CanonicalState state := by
  unfold noncanonicalAnchor
  split
  · rename_i unsorted
    simp only [reduceCtorEq, false_iff]
    intro canonical
    rw [canonical.members] at unsorted
    cases unsorted
  · rename_i fleet
    split
    · rename_i unsorted
      simp only [reduceCtorEq, false_iff]
      intro canonical
      rw [canonical.sectors] at unsorted
      cases unsorted
    · rename_i sectors
      rw [Option.or_eq_none_iff, sectorAssignmentDefect,
        List.findSome?_eq_none_iff, missionAnchorDefect_eq_none]
      simp only [sectorDefect_eq_none]
      constructor
      · rintro ⟨assigned, unprepared⟩
        exact ⟨by simpa using fleet, by simpa using sectors, assigned,
          unprepared⟩
      · intro canonical
        exact ⟨canonical.assigned, canonical.unprepared⟩

/-- Without a malformed witness, only the state and the ordinal matter. -/
theorem checkAnchor_eq_ok {state : DashboardReducedState}
    {latestEventDigest : Option String} :
    checkAnchor state latestEventDigest = .ok () ↔
      (∀ witness ∈ latestEventDigest, isDigest witness = true) ∧
        CanonicalState state ∧
        (state.latestAuditOrdinal ≠ 0 ↔ latestEventDigest.isSome = true) := by
  unfold checkAnchor
  split
  · rename_i malformed
    simp only [reduceCtorEq, false_iff, not_and]
    intro formed
    cases latestEventDigest with
    | none => cases malformed
    | some witness => simp [formed witness rfl] at malformed
  · rename_i formed
    have digests : ∀ witness ∈ latestEventDigest, isDigest witness = true := by
      intro witness held
      cases held
      simpa using formed
    split
    · rename_i defect found
      simp only [reduceCtorEq, false_iff, not_and]
      intro _ canonical
      rw [noncanonicalAnchor_eq_none.2 canonical] at found
      cases found
    · rename_i sound
      rw [ensure_eq_ok]
      constructor
      · exact fun witnessed =>
          ⟨digests, noncanonicalAnchor_eq_none.1 sound, witnessed⟩
      · exact fun anchored => anchored.2.2

/-! ## Validated events -/

/-- A sector event carries an assignee when its state requires one. -/
def StateEvent.Consistent : StateEvent → Prop
  | .sectorLifecycle _ sectorState assignee =>
      assignee.isSome = true ↔ sectorState ≠ .unassigned
  | _ => True

/-- An integer that both languages of the contracts represent exactly. -/
def SafeInteger (value : Int) : Prop :=
  -maxSafeInteger ≤ value ∧ value ≤ maxSafeInteger

/-- Every reading of the telemetry is a safe integer. -/
def Telemetry.Safe (telemetry : Telemetry) : Prop :=
  SafeInteger telemetry.latitudeMicrodegrees ∧
    SafeInteger telemetry.longitudeMicrodegrees ∧
    SafeInteger telemetry.batteryPercent ∧
    SafeInteger telemetry.altitudeMetres ∧
    SafeInteger telemetry.headingDegrees ∧
    SafeInteger telemetry.groundSpeedCentimetresPerSecond

/-- What the validators read from an event, one case for each kind. -/
inductive Reads (event : DashboardEvent) : StateEvent → Prop where
  | timeline (eventClass : EventClass)
      (kind : timelineEventClass event.kind = some eventClass) :
      Reads event .timeline
  | missionLifecycle (lifecycle : MissionLifecycle)
      (kind : event.kind = "missionLifecycle") :
      Reads event (.missionLifecycle lifecycle)
  | connectivity (identifier : String) (link : Connectivity)
      (kind : event.kind = "connectivityChanged")
      (target : Value.get "droneId" event.data = .text identifier) :
      Reads event (.connectivity identifier link)
  | telemetry (identifier : String) (reading : Telemetry)
      (kind : event.kind = "droneTelemetry")
      (target : Value.get "droneId" event.data = .text identifier)
      (safe : reading.Safe) :
      Reads event (.telemetry identifier reading)
  | sectorLifecycle (identifier : String) (sectorState : SectorState)
      (assignee : Option String) (kind : event.kind = "sectorLifecycle")
      (target : Value.get "sectorId" event.data = .text identifier)
      (consistent : assignee.isSome = true ↔ sectorState ≠ .unassigned) :
      Reads event (.sectorLifecycle identifier sectorState assignee)

theorem sectorAssignee_consistent {data : Value.Members}
    {sectorState : SectorState} {assignee : Option String}
    (read : sectorAssignee data sectorState = .ok assignee) :
    assignee.isSome = true ↔ sectorState ≠ .unassigned := by
  unfold sectorAssignee at read
  split at read
  · simp only [bind_eq_ok, ensure_eq_ok, pure_eq_ok] at read
    rcases read with ⟨_, unassigned, rfl⟩
    simp [unassigned]
  · split at read
    · cases read
    · rename_i assigned
      cases identified : eventIdentifier data "assignedMemberId" with
      | error problem =>
          rw [identified] at read
          cases read
      | ok found =>
          rw [identified] at read
          cases read
          simp [assigned]

theorem boundaryValidator_reads {event : DashboardEvent}
    {validator : DashboardEvent → Except Problem StateEvent}
    (chosen : boundaryValidator event.kind = some validator)
    {stateEvent : StateEvent} (valid : validator event = .ok stateEvent) :
    Reads event stateEvent := by
  generalize kinds : event.kind = kind at chosen
  unfold boundaryValidator at chosen
  split at chosen
  · cases chosen
    simp only [validateMissionEvent, bind_eq_ok, pure_eq_ok] at valid
    rcases valid with ⟨_, _, _, _, lifecycle, _, rfl⟩
    exact .missionLifecycle lifecycle kinds
  · cases chosen
    simp only [validateConnectivityEvent, bind_eq_ok, pure_eq_ok,
      eventIdentifier_eq_ok] at valid
    rcases valid with ⟨_, _, _, _, identifier, ⟨target, _⟩, link, _, rfl⟩
    exact .connectivity identifier link kinds target
  · cases chosen
    simp only [validateTelemetryEvent, bind_eq_ok, pure_eq_ok,
      eventIdentifier_eq_ok, boundedInteger_eq_ok] at valid
    rcases valid with ⟨_, _, _, _, identifier, ⟨target, _⟩,
      latitude, latitudes, longitude, longitudes, battery, batteries,
      altitude, altitudes, heading, headings, speed, speeds, rfl⟩
    refine .telemetry identifier _ kinds target ?_
    unfold Telemetry.Safe SafeInteger maxSafeInteger
    dsimp only
    omega
  · cases chosen
    simp only [validateSectorEvent, bind_eq_ok, pure_eq_ok,
      eventIdentifier_eq_ok] at valid
    rcases valid with ⟨_, _, _, _, identifier, ⟨target, _⟩, sectorState, _,
      assignee, read, rfl⟩
    exact .sectorLifecycle identifier sectorState assignee kinds target
      (sectorAssignee_consistent read)
  · rcases Option.map_eq_some_iff.1 chosen with ⟨expected, listed, rfl⟩
    simp only [validateTimelineEvent, bind_eq_ok, pure_eq_ok] at valid
    rcases valid with ⟨_, _, rfl⟩
    exact .timeline expected (kinds ▸ listed)

theorem validateOrderedEventBoundary_reads {ordered : OrderedDashboardEvent}
    {event : StateEvent}
    (valid : validateOrderedEventBoundary ordered = .ok event) :
    Reads ordered.event event := by
  simp only [validateOrderedEventBoundary, bind_eq_ok, present_eq_ok] at valid
  rcases valid with ⟨_, _, validator, chosen, _, _, _, _, valid⟩
  exact boundaryValidator_reads chosen valid

/-- What the preflight of a fold established. -/
theorem foldPreflight_eq_ok {checkpoint : ReducerCheckpoint}
    {ordered : OrderedDashboardEvent} {event : StateEvent} :
    foldPreflight checkpoint ordered = .ok event ↔
      validateOrderedEventBoundary ordered = .ok event ∧
        checkAnchor checkpoint.state checkpoint.latestEventDigest =
          .ok () := by
  simp only [foldPreflight, bind_eq_ok, pure_eq_ok]
  constructor
  · rintro ⟨found, valid, _, anchored, rfl⟩
    exact ⟨valid, anchored⟩
  · rintro ⟨valid, anchored⟩
    exact ⟨event, valid, (), anchored, rfl⟩

/-! ## What a reduction changes -/

/-- The name of a member and whether it is simulated. -/
def FleetMember.participant : FleetMember → String × Bool
  | .simulated member => (member.identifier, true)
  | .declaredOnly identifier => (identifier, false)

theorem simulatedAssignee_iff {fleet : List FleetMember}
    {identifier : String} :
    simulatedAssignee fleet identifier = true ↔
      (identifier, true) ∈ fleet.map FleetMember.participant := by
  rw [simulatedAssignee, List.any_eq_true, List.mem_map]
  constructor
  · rintro ⟨member, held, named⟩
    cases member with
    | simulated member =>
        refine ⟨_, held, ?_⟩
        rw [FleetMember.participant, of_decide_eq_true named]
    | declaredOnly declared => cases named
  · rintro ⟨member, held, named⟩
    cases member with
    | simulated member =>
        refine ⟨_, held, decide_eq_true ?_⟩
        exact congrArg Prod.fst named
    | declaredOnly declared => cases named

/-- The target of an event is the simulated member of that name. -/
theorem simulatedTarget_eq_ok {identifier : String}
    {fleet : List FleetMember} {index : Nat}
    {member : SimulatedFleetMember}
    (found : simulatedTarget identifier fleet = .ok (index, member)) :
    fleet[index]? = some (.simulated member) ∧
      member.identifier = identifier := by
  induction fleet generalizing index with
  | nil => cases found
  | cons first rest inductionHypothesis =>
      have later
          (moved :
            (simulatedTarget identifier rest).map (fun found =>
              (found.1 + 1, found.2)) = .ok (index, member)) :
          (first :: rest)[index]? = some (.simulated member) ∧
            member.identifier = identifier := by
        cases inner : simulatedTarget identifier rest with
        | error problem =>
            rw [inner] at moved
            cases moved
        | ok target =>
            rw [inner] at moved
            cases moved
            exact inductionHypothesis inner
      cases first with
      | simulated held =>
          rw [simulatedTarget] at found
          split at found
          · rename_i same
            cases found
            exact ⟨rfl, same⟩
          · exact later found
      | declaredOnly declared =>
          rw [simulatedTarget] at found
          split at found
          · cases found
          · exact later found

/-- One item of a list was replaced by another with the same key. -/
theorem map_set_of_eq {γ δ : Type} {key : γ → δ} {items : List γ}
    {index : Nat} {held moved : γ} (found : items[index]? = some held)
    (same : key moved = key held) :
    (items.set index moved).map key = items.map key := by
  refine List.ext_getElem? fun position => ?_
  simp only [List.getElem?_map, List.getElem?_set]
  split
  · rename_i here
    subst here
    split
    · rw [found]
      simp [same]
    · rename_i outside
      rw [List.getElem?_eq_none (by omega)]
  · rfl

/-- A list before and after one of its items was replaced. -/
theorem forall₂_set {γ : Type} {related : γ → γ → Prop} {items : List γ}
    {index : Nat} {held moved : γ} (found : items[index]? = some held)
    (reflexive : ∀ item, related item item) (change : related held moved) :
    List.Forall₂ related items (items.set index moved) := by
  induction items generalizing index with
  | nil => cases found
  | cons first rest inductionHypothesis =>
      cases index with
      | zero =>
          cases found
          exact .cons change (List.forall₂_same.2 fun item _ => reflexive item)
      | succ index => exact .cons (reflexive first) (inductionHypothesis found)

/-- The entity that an event names is the only one that changes. -/
structure ChangesOnly (event : DashboardEvent)
    (before after : DashboardReducedState) : Prop where
  mission : event.kind ≠ "missionLifecycle" →
    after.currentMission = before.currentMission
  lifecycle : ∃ mission lifecycle,
    before.currentMission = some mission ∧
      after.currentMission = some { mission with lifecycle }
  fleet :
    event.kind ≠ "connectivityChanged" → event.kind ≠ "droneTelemetry" →
      after.fleet = before.fleet
  member :
    List.Forall₂
      (fun held moved =>
        moved = held ∨
          Value.get "droneId" event.data =
              .text (FleetMember.identifier held) ∧
            ∃ simulated, held = .simulated simulated ∧
              ((∃ connectivity, event.kind = "connectivityChanged" ∧
                  moved = .simulated { simulated with connectivity }) ∨
                ∃ telemetry, event.kind = "droneTelemetry" ∧
                  moved = .simulated { simulated with telemetry }))
      before.fleet after.fleet
  sectors : event.kind ≠ "sectorLifecycle" → after.sectors = before.sectors
  sector :
    List.Forall₂
      (fun held moved =>
        moved = held ∨
          Value.get "sectorId" event.data =
              .text (Sector.identifier held) ∧
            moved.identifier = held.identifier)
      before.sectors after.sectors

/-- A reduction leaves the participants and the sectors of a state. -/
structure SameCast (before after : DashboardReducedState) : Prop where
  fleet :
    after.fleet.map FleetMember.participant =
      before.fleet.map FleetMember.participant
  sectors :
    after.sectors.map Sector.identifier =
      before.sectors.map Sector.identifier
  mission :
    after.currentMission.map Mission.identifier =
      before.currentMission.map Mission.identifier

theorem SameCast.refl (state : DashboardReducedState) :
    SameCast state state :=
  ⟨rfl, rfl, rfl⟩

theorem SameCast.trans {first second third : DashboardReducedState}
    (left : SameCast first second) (right : SameCast second third) :
    SameCast first third :=
  ⟨right.fleet.trans left.fleet, right.sectors.trans left.sectors,
    right.mission.trans left.mission⟩

theorem map_identifier_participant (fleet : List FleetMember) :
    fleet.map FleetMember.identifier =
      (fleet.map FleetMember.participant).map Prod.fst := by
  rw [List.map_map]
  refine List.map_congr_left fun member _ => ?_
  cases member <;> rfl

/-- The members of a list before a change are related to those after it. -/
theorem forall₂_refl {γ : Type} {related : γ → γ → Prop} (items : List γ)
    (reflexive : ∀ item, related item item) :
    List.Forall₂ related items items :=
  List.forall₂_same.2 fun item _ => reflexive item

/-- What one reduction does to a state. -/
structure Reduced (event : DashboardEvent)
    (before after : DashboardReducedState) : Prop where
  changes : ChangesOnly event before after
  cast : SameCast before after
  ordinal : after.latestAuditOrdinal = before.latestAuditOrdinal
  assigned :
    (∀ sector ∈ before.sectors, Assigned before.fleet sector) →
      ∀ sector ∈ after.sectors, Assigned after.fleet sector

theorem reduceMember_reduced {event : DashboardEvent}
    {state reduced : DashboardReducedState} {mission : Mission}
    {identifier : String}
    {update : SimulatedFleetMember → SimulatedFleetMember}
    (current : state.currentMission = some mission)
    (target : Value.get "droneId" event.data = .text identifier)
    (kind : event.kind ≠ "missionLifecycle" ∧
      event.kind ≠ "sectorLifecycle" ∧
      (event.kind = "connectivityChanged" ∨ event.kind = "droneTelemetry"))
    (named : ∀ member, (update member).identifier = member.identifier)
    (updates : ∀ member,
      (∃ connectivity, event.kind = "connectivityChanged" ∧
          update member = { member with connectivity }) ∨
        ∃ telemetry, event.kind = "droneTelemetry" ∧
          update member = { member with telemetry })
    (reduction : reduceMember state identifier update = .ok reduced) :
    Reduced event state reduced := by
  simp only [reduceMember, bind_eq_ok, pure_eq_ok] at reduction
  rcases reduction with ⟨⟨index, member⟩, found, rfl⟩
  rcases simulatedTarget_eq_ok found with ⟨held, rfl⟩
  have cast :
      (state.fleet.set index (.simulated (update member))).map
          FleetMember.participant =
        state.fleet.map FleetMember.participant :=
    map_set_of_eq held (by simp [FleetMember.participant, named])
  constructor
  · constructor
    · exact fun _ => rfl
    · exact ⟨mission, mission.lifecycle, current, current⟩
    · intro connectivity telemetry
      exact absurd kind.2.2 (by simp [connectivity, telemetry])
    · refine forall₂_set held (fun _ => .inl rfl) (.inr ⟨target, member, rfl, ?_⟩)
      rcases updates member with ⟨link, changed, same⟩ | ⟨reading, changed, same⟩
      · exact .inl ⟨link, changed, by rw [same]⟩
      · exact .inr ⟨reading, changed, by rw [same]⟩
    · exact fun _ => rfl
    · exact forall₂_refl _ fun _ => .inl rfl
  · exact ⟨cast, rfl, rfl⟩
  · rfl
  · intro assigned sector among
    refine ⟨(assigned sector among).1, fun assignee named => ?_⟩
    rw [simulatedAssignee_iff, cast, ← simulatedAssignee_iff]
    exact (assigned sector among).2 assignee named

/-- A sector is found under its own name. -/
theorem sectorIndex_eq_ok {identifier : String} {sectors : List Sector}
    {index : Nat} (found : sectorIndex identifier sectors = .ok index) :
    ∃ sector, sectors[index]? = some sector ∧
      sector.identifier = identifier := by
  rw [sectorIndex, present_eq_ok, List.findIdx?_eq_some_iff_getElem] at found
  rcases found with ⟨inside, named, _⟩
  exact ⟨sectors[index], List.getElem?_eq_getElem inside,
    of_decide_eq_true named⟩

/-- A reduction changes what its event owns and keeps every assignment. -/
theorem reduce_reduced {event : DashboardEvent} {stateEvent : StateEvent}
    {state reduced : DashboardReducedState} {mission : Mission}
    (reads : Reads event stateEvent)
    (current : state.currentMission = some mission)
    (reduction : stateEvent.reduce state mission = .ok reduced) :
    Reduced event state reduced := by
  cases reads with
  | timeline eventClass kind =>
      cases reduction
      exact
        { changes :=
            { mission := fun _ => rfl
              lifecycle := ⟨mission, mission.lifecycle, current, current⟩
              fleet := fun _ _ => rfl
              member := forall₂_refl _ fun _ => .inl rfl
              sectors := fun _ => rfl
              sector := forall₂_refl _ fun _ => .inl rfl }
          cast := .refl _
          ordinal := rfl
          assigned := id }
  | missionLifecycle lifecycle kind =>
      cases reduction
      exact
        { changes :=
            { mission := fun other => absurd kind other
              lifecycle := ⟨mission, lifecycle, current, rfl⟩
              fleet := fun _ _ => rfl
              member := forall₂_refl _ fun _ => .inl rfl
              sectors := fun _ => rfl
              sector := forall₂_refl _ fun _ => .inl rfl }
          cast := ⟨rfl, rfl, by rw [current]; rfl⟩
          ordinal := rfl
          assigned := id }
  | connectivity identifier link kind target =>
      rw [StateEvent.reduce] at reduction
      refine reduceMember_reduced current target (by simp [kind]) ?_ ?_
        reduction
      · exact fun _ => rfl
      · exact fun _ => .inl ⟨link, kind, rfl⟩
  | telemetry identifier reading kind target safe =>
      rw [StateEvent.reduce] at reduction
      refine reduceMember_reduced current target (by simp [kind]) ?_ ?_
        reduction
      · exact fun _ => rfl
      · exact fun _ => .inr ⟨some reading, kind, rfl⟩
  | sectorLifecycle identifier sectorState assignee kind target consistent =>
      simp only [StateEvent.reduce, bind_eq_ok, ensure_eq_ok,
        pure_eq_ok] at reduction
      rcases reduction with ⟨index, found, _, simulated, rfl⟩
      rcases sectorIndex_eq_ok found with ⟨sector, held, rfl⟩
      exact
        { changes :=
            { mission := fun _ => rfl
              lifecycle := ⟨mission, mission.lifecycle, current, current⟩
              fleet := fun _ _ => rfl
              member := forall₂_refl _ fun _ => .inl rfl
              sectors := fun other => absurd kind other
              sector :=
                forall₂_set held (fun _ => .inl rfl) (.inr ⟨target, rfl⟩) }
          cast := ⟨rfl, map_set_of_eq held rfl, rfl⟩
          ordinal := rfl
          assigned := by
            intro assigned other among
            rcases List.mem_or_eq_of_mem_set among with kept | rfl
            · exact assigned other kept
            · exact ⟨consistent, simulated⟩ }

/-- An applied event takes the next ordinal and reduces the state before. -/
theorem Applies.reduced {host : Host} {checkpoint : ReducerCheckpoint}
    {ordered : OrderedDashboardEvent} {event : StateEvent}
    {reduced : DashboardReducedState} {witness : String}
    (applies : Applies host checkpoint ordered event reduced witness) :
    Reduced ordered.event checkpoint.state reduced := by
  have reads := validateOrderedEventBoundary_reads
    (foldPreflight_eq_ok.1 applies.preflight).1
  have reduction := applies.reduction
  simp only [reduceOrdered, bind_eq_ok, present_eq_ok] at reduction
  rcases reduction with ⟨mission, current, _, _, reduction⟩
  exact reduce_reduced reads current reduction

/-! ## Runs -/

/-- An event as it is delivered, with the server's digest when it has one. -/
abbrev Delivery := OrderedDashboardEvent × Option String

/-- The checkpoint a consumer holds after folding a delivery. -/
def deliver (host : Host) (checkpoint : ReducerCheckpoint)
    (delivery : Delivery) : ReducerCheckpoint :=
  match foldOrderedEvent host checkpoint delivery.1 delivery.2 with
  | .ok (.applied next) => next
  | _ => checkpoint

/-- Whether a fold applies the delivery. -/
def appliesTo (host : Host) (checkpoint : ReducerCheckpoint)
    (delivery : Delivery) : Bool :=
  match foldOrderedEvent host checkpoint delivery.1 delivery.2 with
  | .ok (.applied _) => true
  | _ => false

/-- How many deliveries of a run are applied. -/
def appliedCount (host : Host) : ReducerCheckpoint → List Delivery → Nat
  | _, [] => 0
  | checkpoint, delivery :: rest =>
      (if appliesTo host checkpoint delivery then 1 else 0) +
        appliedCount host (deliver host checkpoint delivery) rest

/-- What a checkpoint reached by applying a number of events satisfies. -/
structure Reachable (start : ReducerCheckpoint) (applied : Nat)
    (checkpoint : ReducerCheckpoint) : Prop where
  canonical : CanonicalState checkpoint.state
  cast : SameCast start.state checkpoint.state
  witnessed :
    checkpoint.latestEventDigest.isSome = true ↔
      checkpoint.state.latestAuditOrdinal ≠ 0
  ordinal : checkpoint.state.latestAuditOrdinal = applied

/-- An applied delivery was folded into the successor of the checkpoint. -/
theorem foldOrderedEvent_applied {host : Host}
    {checkpoint next : ReducerCheckpoint} {ordered : OrderedDashboardEvent}
    {expected : Option String}
    (folded :
      foldOrderedEvent host checkpoint ordered expected =
        .ok (.applied next)) :
    ∃ event reduced witness,
      Applies host checkpoint ordered event reduced witness ∧
        next = successor ordered reduced witness := by
  rcases foldOrderedEvent_accepted folded with
    ⟨event, reduced, witness, applies, same, _⟩ | ⟨other, _⟩ | ⟨_, other⟩
  · cases same
    exact ⟨event, reduced, witness, applies, rfl⟩
  · cases other
  · cases other

/-- An applied event leads from a canonical state to a canonical one. -/
theorem Applies.canonical {host : Host} {checkpoint : ReducerCheckpoint}
    {ordered : OrderedDashboardEvent} {event : StateEvent}
    {reduced : DashboardReducedState} {witness : String}
    (canonical : CanonicalState checkpoint.state)
    (applies : Applies host checkpoint ordered event reduced witness) :
    CanonicalState (successor ordered reduced witness).state := by
  have change := applies.reduced
  constructor
  · have members := canonical.members
    rw [map_identifier_participant] at members ⊢
    rw [← change.cast.fleet] at members
    exact members
  · have sectors := canonical.sectors
    rw [← change.cast.sectors] at sectors
    exact sectors
  · exact change.assigned canonical.assigned
  · intro unprepared
    rcases change.changes.lifecycle with ⟨mission, lifecycle, _, current⟩
    exact absurd (unprepared.symm.trans current) (by simp)

/-- One applied event keeps the invariant and counts. -/
theorem Reachable.applied {host : Host} {start checkpoint : ReducerCheckpoint}
    {count : Nat} {next : ReducerCheckpoint}
    {ordered : OrderedDashboardEvent} {expected : Option String}
    (reachable : Reachable start count checkpoint)
    (folded :
      foldOrderedEvent host checkpoint ordered expected =
        .ok (.applied next)) :
    Reachable start (count + 1) next := by
  rcases foldOrderedEvent_applied folded with
    ⟨event, reduced, witness, applies, rfl⟩
  have change := applies.reduced
  have next := applies.next
  rw [reachable.ordinal] at next
  refine ⟨applies.canonical reachable.canonical, ?_, ?_, ?_⟩
  · exact reachable.cast.trans
      ⟨change.cast.fleet, change.cast.sectors, change.cast.mission⟩
  · simp only [successor, Option.isSome_some, true_iff]
    omega
  · simp only [successor]
    omega

theorem Reachable.deliver (host : Host)
    {start checkpoint : ReducerCheckpoint} {count : Nat}
    (reachable : Reachable start count checkpoint)
    (delivery : Delivery) :
    Reachable start
      (count + if appliesTo host checkpoint delivery then 1 else 0)
      (deliver host checkpoint delivery) := by
  unfold View.deliver appliesTo
  split
  · rename_i next folded
    exact reachable.applied folded
  · exact reachable

/-- The invariant along a whole run. -/
theorem Reachable.run {host : Host} {start checkpoint : ReducerCheckpoint}
    {count : Nat} (reachable : Reachable start count checkpoint)
    (deliveries : List Delivery) :
    Reachable start (count + appliedCount host checkpoint deliveries)
      (run (View.deliver host) checkpoint deliveries) := by
  induction deliveries generalizing checkpoint count with
  | nil => exact reachable
  | cons delivery rest inductionHypothesis =>
      have after := inductionHypothesis (reachable.deliver host delivery)
      rw [Nat.add_assoc] at after
      exact after

/-! ## Refusals of the anchor -/

/-- The refusals of the control, of a reduction and of a server digest do not
blame the checkpoint. -/
theorem reduceOrdered_anchor (checkpoint : ReducerCheckpoint)
    (ordered : OrderedDashboardEvent) (event : StateEvent) :
    FailsOnly (fun problem => problem.refusal.origin ≠ .anchor)
      (reduceOrdered checkpoint ordered event) := by
  refine .bind (.present (by decide)) fun mission => ?_
  refine .bind (.ensure (by simp [ReducerRefusal.origin])) fun _ => ?_
  refine (reduce_target event checkpoint.state mission).imp ?_
  intro problem blamed anchor
  rw [Problem.From, anchor] at blamed
  cases blamed

theorem digestProblem_anchor {host : Host} {state : DashboardReducedState}
    {expected : Option String} {problem : Problem}
    (checked : digestProblem host state expected = .ok (some problem)) :
    problem.refusal.origin = .digest := by
  unfold digestProblem at checked
  split at checked
  · cases checked
  · split at checked
    · cases checked
      rfl
    · simp only [bind_eq_ok] at checked
      rcases checked with ⟨actual, _, same, _, verdict⟩
      split at verdict
      · cases verdict
      · cases verdict
        rfl

/-- What a server digest is refused for. -/
theorem verifyServerDigest_refused {host : Host}
    {prior held : ReducerCheckpoint} {outcome : FoldOutcome}
    {state : DashboardReducedState} {expected : Option String}
    {problem : Problem}
    (verified :
      verifyServerDigest host prior outcome state expected =
        .ok (.refused held problem)) :
    outcome = .refused held problem ∨ problem.refusal.origin = .digest := by
  rcases verifyServerDigest_eq_ok.1 verified with
    ⟨_, same⟩ | ⟨found, checked, same⟩
  · exact .inl same.symm
  · cases same
    exact .inr (digestProblem_anchor checked)

theorem foldOrdinalControl_refused {host : Host}
    {checkpoint held : ReducerCheckpoint} {ordered : OrderedDashboardEvent}
    {expected : Option String} {problem : Problem}
    (controlled :
      foldOrdinalControl host checkpoint ordered expected =
        .ok (some (.refused held problem))) :
    problem.refusal.origin ≠ .anchor := by
  unfold foldOrdinalControl at controlled
  dsimp only at controlled
  split at controlled
  · cases controlled
    simp [ordinalProblem, ReducerRefusal.origin]
  · split at controlled
    · simp only [bind_eq_ok] at controlled
      rcases controlled with ⟨same, _, rest⟩
      split at rest
      · simp only [bind_eq_ok, pure_eq_ok, Option.some.injEq] at rest
        rcases rest with ⟨outcome, verified, rfl⟩
        rcases verifyServerDigest_refused verified with other | blamed
        · cases other
        · simp [blamed]
      · cases rest
        simp [ordinalProblem, ReducerRefusal.origin]
    · split at controlled
      · cases controlled
        simp [ordinalProblem, ReducerRefusal.origin]
      · cases controlled

/-- A fold blames the checkpoint only for what its anchor check refuses. -/
theorem foldOrderedEvent_anchor {host : Host}
    {checkpoint held : ReducerCheckpoint} {ordered : OrderedDashboardEvent}
    {expected : Option String} {problem : Problem}
    (folded :
      foldOrderedEvent host checkpoint ordered expected =
        .ok (.refused held problem))
    (blamed : problem.refusal.origin = .anchor) :
    checkAnchor checkpoint.state checkpoint.latestEventDigest =
      .error problem := by
  unfold foldOrderedEvent at folded
  split at folded
  · rename_i refusal refused
    cases pure_eq_ok.1 folded
    rcases bind_eq_error.1 refused with invalid | ⟨event, _, rest⟩
    · have event := validateOrderedEventBoundary_event ordered _ invalid
      rw [Problem.From, blamed] at event
      cases event
    · rcases bind_eq_error.1 rest with anchored | ⟨_, _, impossible⟩
      · exact anchored
      · cases impossible
  · rename_i event preflight
    simp only [bind_eq_ok] at folded
    rcases folded with ⟨control, controlled, rest⟩
    cases control with
    | some outcome =>
        cases pure_eq_ok.1 rest
        exact absurd blamed (foldOrdinalControl_refused controlled)
    | none =>
        dsimp only at rest
        split at rest
        · rename_i refusal refused
          cases pure_eq_ok.1 rest
          exact absurd blamed
            (reduceOrdered_anchor checkpoint ordered event _ refused)
        · simp only [bind_eq_ok] at rest
          rcases rest with ⟨witness, _, verified⟩
          rcases verifyServerDigest_refused verified with other | digest
          · cases other
          · rw [digest] at blamed
            cases blamed

/-- An anchor that is canonical is refused for its witness form alone. -/
theorem checkAnchor_canonical {state : DashboardReducedState}
    {latestEventDigest : Option String} {problem : Problem}
    (canonical : CanonicalState state)
    (witnessed : latestEventDigest.isSome = true ↔
      state.latestAuditOrdinal ≠ 0)
    (refused : checkAnchor state latestEventDigest = .error problem) :
    problem.refusal = .witnessForm := by
  unfold checkAnchor at refused
  split at refused
  · cases refused
    rfl
  · rw [noncanonicalAnchor_eq_none.2 canonical] at refused
    exact absurd witnessed.symm (ensure_eq_error.1 refused).1

/-! ## The invariant of prepared runs -/

/-- A prepared checkpoint satisfies the invariant. -/
theorem prepareCheckpoint_reachable {prepared : PreparedMission}
    {start : ReducerCheckpoint}
    (prepares : prepareCheckpoint prepared = .ok start) :
    Reachable start 0 start := by
  unfold prepareCheckpoint at prepares
  split at prepares
  · cases prepares
  · rename_i members
    split at prepares
    · cases prepares
    · rename_i sectors
      cases prepares
      rw [duplicate_eq_none] at members sectors
      refine ⟨⟨?_, ?_, ?_, ?_⟩, .refl _, by simp [preparedState], rfl⟩
      · refine strictlySorted_byteSorted ?_
        simpa [List.map_map, Function.comp_def, FleetMember.identifier]
          using members
      · have distinct : (prepared.sectorIds.map id).Nodup := by
          simpa using sectors
        have sorted := strictlySorted_byteSorted distinct
        simpa [preparedState, List.map_map, Function.comp_def] using sorted
      · intro sector among
        rcases List.mem_map.1 among with ⟨identifier, _, rfl⟩
        exact ⟨by simp, by simp⟩
      · simp [preparedState]

/-- Every checkpoint of a run from a prepared mission: the sorted roster and
sectors of the start, the assignments that the states require, a witness as
soon as an event was applied, and as many ordinals as applied events.  No fold
blames the checkpoint, and an applied event changes the target of its kind. -/
theorem prepared_run_invariant (host : Host) (prepared : PreparedMission)
    (start : ReducerCheckpoint)
    (prepares : prepareCheckpoint prepared = .ok start)
    (deliveries : List Delivery) :
    let reached := run (deliver host) start deliveries
    strictlySorted (reached.state.fleet.map FleetMember.identifier) = true ∧
      strictlySorted (reached.state.sectors.map Sector.identifier) = true ∧
      SameCast start.state reached.state ∧
      (∀ sector ∈ reached.state.sectors,
        Assigned reached.state.fleet sector) ∧
      (reached.latestEventDigest.isSome = true ↔
        reached.state.latestAuditOrdinal ≠ 0) ∧
      reached.state.latestAuditOrdinal =
        appliedCount host start deliveries ∧
      (∀ ordered expected held problem,
        foldOrderedEvent host reached ordered expected =
            .ok (.refused held problem) →
          problem.refusal ≠ .noncanonicalAnchorState ∧
            problem.refusal ≠ .ordinalWitness) ∧
      ∀ ordered expected next,
        foldOrderedEvent host reached ordered expected =
            .ok (.applied next) →
          ChangesOnly ordered.event reached.state next.state := by
  intro reached
  have reachable : Reachable start
      (0 + appliedCount host start deliveries) reached :=
    (prepareCheckpoint_reachable prepares).run deliveries
  rw [Nat.zero_add] at reachable
  refine ⟨reachable.canonical.members, reachable.canonical.sectors,
    reachable.cast, reachable.canonical.assigned, reachable.witnessed,
    reachable.ordinal, ?_, ?_⟩
  · intro ordered expected held problem folded
    have blamed (anchor : problem.refusal.origin = .anchor) :
        problem.refusal = .witnessForm :=
      checkAnchor_canonical reachable.canonical reachable.witnessed
        (foldOrderedEvent_anchor folded anchor)
    constructor
    · intro refusal
      have form := blamed (by rw [refusal]; rfl)
      rw [refusal] at form
      cases form
    · intro refusal
      have form := blamed (by rw [refusal]; rfl)
      rw [refusal] at form
      cases form
  · intro ordered expected next folded
    rcases foldOrderedEvent_applied folded with
      ⟨event, reduced, witness, applies, rfl⟩
    have changes := applies.reduced.changes
    exact ⟨changes.mission, changes.lifecycle, changes.fleet, changes.member,
      changes.sectors, changes.sector⟩

/-- A mission with one simulated member, one declared one and one sector. -/
def plannedMission : PreparedMission where
  identifier := "mission-1"
  predecessorIdentifier := none
  simulatedMemberIds := ["drone-1"]
  declaredOnlyMemberIds := ["crew-1"]
  sectorIds := ["sector-1"]

theorem plannedMission_prepares :
    prepareCheckpoint plannedMission =
      .ok ⟨preparedState plannedMission, none⟩ := rfl

theorem prepared_run_invariant_planned :
    strictlySorted
        ((preparedState plannedMission).fleet.map FleetMember.identifier) =
      true :=
  (prepared_run_invariant plainHost plannedMission
    ⟨preparedState plannedMission, none⟩ plannedMission_prepares []).1

end AerialRescue.Contracts.View
