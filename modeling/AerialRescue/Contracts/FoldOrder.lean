import AerialRescue.Contracts.View

/-!
# The place of an event

Five refusals of the reducer are about the place of an event: the mission it
belongs to and the ordinal it carries.  A fold raises one of them only when the
event is not the next one of the checkpoint's mission; every other refusal is
about what the event says.
-/

namespace AerialRescue.Contracts.View

open AerialRescue.Lib.Guard
open AerialRescue.Contracts.Canonical
open AerialRescue.Contracts.Digest

/-- Whether a refusal is about an event's mission or ordinal. -/
def ReducerRefusal.aboutPlace : ReducerRefusal → Bool
  | .missionUnprepared | .missionMismatch => true
  | .ordinalRegression | .ordinalDivergence | .ordinalGap => true
  | _ => false

/-- A problem with what an event says, wherever the event stands. -/
def Problem.Content (problem : Problem) : Prop :=
  problem.refusal.aboutPlace = false

/-- What a refusal blames. -/
inductive Origin where
  | event
  | anchor
  | place
  | target
  | digest
deriving DecidableEq

/-- The event's own form, the checkpoint, the place of the event, the entity
it is about, or the digest that the server supplied. -/
def ReducerRefusal.origin : ReducerRefusal → Origin
  | .eventData | .unprojected => .event
  | .assignmentForbidden | .assignmentRequired => .event
  | .noncanonicalAnchorState | .witnessForm | .ordinalWitness => .anchor
  | .ordinalDivergence | .ordinalRegression | .ordinalGap => .place
  | .missionUnprepared | .missionMismatch => .place
  | .unknownMember | .declaredOnlyMember => .target
  | .unknownSector | .invalidAssignee => .target
  | .serverDigestForm | .serverDigestMismatch => .digest

def Problem.From (origin : Origin) (problem : Problem) : Prop :=
  problem.refusal.origin = origin

theorem Problem.From.content {origin : Origin} (other : origin ≠ .place)
    {problem : Problem} (blamed : problem.From origin) : problem.Content := by
  unfold Problem.From at blamed
  unfold Problem.Content
  cases kind : problem.refusal <;> simp_all [ReducerRefusal.origin,
    ReducerRefusal.aboutPlace]

/-- A refusal of the event's envelope or of its data. -/
def Problem.EventData (problem : Problem) : Prop :=
  problem.refusal = .eventData

theorem Problem.EventData.event {problem : Problem}
    (malformed : problem.EventData) : problem.From .event := by
  unfold Problem.EventData at malformed
  rw [Problem.From, malformed]
  rfl

/-! ## Validators -/

theorem closedEventData_eventData (data : Value.Members)
    (required : List String) :
    FailsOnly Problem.EventData (closedEventData data required) := by
  unfold closedEventData
  simp only
  split
  · exact .error rfl
  · split
    · exact .error rfl
    · exact .ok ()

theorem requireEventClass_eventData (event : DashboardEvent)
    (expected : EventClass) :
    FailsOnly Problem.EventData (requireEventClass event expected) :=
  .ensure rfl

theorem enumMember_eventData {γ : Type} (vocabulary : List γ)
    (text : γ → String) (data : Value.Members) (name : String) :
    FailsOnly Problem.EventData (enumMember vocabulary text data name) :=
  .present rfl

theorem eventIdentifier_eventData (data : Value.Members) (name : String) :
    FailsOnly Problem.EventData (eventIdentifier data name) := by
  unfold eventIdentifier
  split
  · split
    · exact .ok _
    · exact .error rfl
  · exact .error rfl

theorem boundedInteger_eventData (data : Value.Members) (name : String)
    (minimum maximum : Int) :
    FailsOnly Problem.EventData
      (boundedInteger data name minimum maximum) := by
  unfold boundedInteger
  split
  · split
    · exact .ok _
    · exact .error rfl
  · exact .error rfl

theorem sectorAssignee_event (data : Value.Members)
    (sectorState : SectorState) :
    FailsOnly (Problem.From .event) (sectorAssignee data sectorState) := by
  unfold sectorAssignee
  split
  · exact .bind (.ensure rfl) fun _ => .ok none
  · split
    · exact .error rfl
    · exact .map ((eventIdentifier_eventData data "assignedMemberId").imp
        fun _ => Problem.EventData.event)

theorem validateMissionEvent_eventData (event : DashboardEvent) :
    FailsOnly Problem.EventData (validateMissionEvent event) :=
  .bind (requireEventClass_eventData event .mission) fun _ =>
    .bind (closedEventData_eventData event.data _) fun _ =>
      .bind (enumMember_eventData _ _ event.data "lifecycle") fun _ => .ok _

theorem validateConnectivityEvent_eventData (event : DashboardEvent) :
    FailsOnly Problem.EventData (validateConnectivityEvent event) :=
  .bind (requireEventClass_eventData event .connectivity) fun _ =>
    .bind (closedEventData_eventData event.data _) fun _ =>
      .bind (eventIdentifier_eventData event.data "droneId") fun _ =>
        .bind (enumMember_eventData _ _ event.data "connectivity") fun _ =>
          .ok _

theorem validateTelemetryEvent_eventData (event : DashboardEvent) :
    FailsOnly Problem.EventData (validateTelemetryEvent event) := by
  unfold validateTelemetryEvent
  refine .bind (requireEventClass_eventData event .telemetry) fun _ => ?_
  refine .bind (closedEventData_eventData event.data _) fun _ => ?_
  refine .bind (eventIdentifier_eventData event.data "droneId") fun _ => ?_
  iterate 6
    refine .bind (boundedInteger_eventData event.data _ _ _) fun _ => ?_
  exact .ok _

theorem validateTimelineEvent_eventData (event : DashboardEvent)
    (expected : EventClass) :
    FailsOnly Problem.EventData (validateTimelineEvent event expected) :=
  .bind (requireEventClass_eventData event expected) fun _ => .ok _

theorem validateSectorEvent_event (event : DashboardEvent) :
    FailsOnly (Problem.From .event) (validateSectorEvent event) := by
  have malformed (problem : Problem) (refused : problem.EventData) :
      problem.From .event := refused.event
  exact
    .bind ((requireEventClass_eventData event .mission).imp malformed)
      fun _ =>
    .bind ((closedEventData_eventData event.data _).imp malformed) fun _ =>
      .bind ((eventIdentifier_eventData event.data "sectorId").imp malformed)
        fun _ =>
        .bind ((enumMember_eventData _ _ event.data "state").imp malformed)
          fun _ => .bind (sectorAssignee_event event.data _) fun _ => .ok _

theorem boundaryValidator_event {kind : String}
    {validator : DashboardEvent → Except Problem StateEvent}
    (chosen : boundaryValidator kind = some validator)
    (event : DashboardEvent) :
    FailsOnly (Problem.From .event) (validator event) := by
  have malformed (problem : Problem) (refused : problem.EventData) :
      problem.From .event := refused.event
  unfold boundaryValidator at chosen
  split at chosen
  · cases chosen
    exact (validateMissionEvent_eventData event).imp malformed
  · cases chosen
    exact (validateConnectivityEvent_eventData event).imp malformed
  · cases chosen
    exact (validateTelemetryEvent_eventData event).imp malformed
  · cases chosen
    exact validateSectorEvent_event event
  · rcases Option.map_eq_some_iff.1 chosen with ⟨expected, _, rfl⟩
    exact (validateTimelineEvent_eventData event expected).imp malformed

/-- The validated boundary looks at the event alone. -/
theorem validateOrderedEventBoundary_event
    (ordered : OrderedDashboardEvent) :
    FailsOnly (Problem.From .event) (validateOrderedEventBoundary ordered) := by
  unfold validateOrderedEventBoundary
  refine .bind (.ensure rfl) fun _ => ?_
  refine .bindOf (.present rfl) fun validator chosen => ?_
  refine .bind (.ensure rfl) fun _ => ?_
  refine .bind (.ensure rfl) fun _ => ?_
  exact boundaryValidator_event (present_eq_ok.1 chosen) ordered.event

theorem checkAnchor_anchor (state : DashboardReducedState)
    (latestEventDigest : Option String) :
    FailsOnly (Problem.From .anchor) (checkAnchor state latestEventDigest) := by
  unfold checkAnchor
  split
  · exact .error rfl
  · split
    · exact .error rfl
    · exact .ensure rfl

theorem foldPreflight_content (checkpoint : ReducerCheckpoint)
    (ordered : OrderedDashboardEvent) :
    FailsOnly Problem.Content (foldPreflight checkpoint ordered) :=
  .bind ((validateOrderedEventBoundary_event ordered).imp fun _ =>
      Problem.From.content (by decide)) fun _ =>
    .bind ((checkAnchor_anchor _ _).imp fun _ =>
      Problem.From.content (by decide)) fun _ => .ok _

/-! ## Reduction -/

theorem simulatedTarget_target (identifier : String)
    (fleet : List FleetMember) :
    FailsOnly (Problem.From .target) (simulatedTarget identifier fleet) := by
  induction fleet with
  | nil => exact .error rfl
  | cons member rest inductionHypothesis =>
      cases member with
      | declaredOnly declared =>
          unfold simulatedTarget
          split
          · exact .error rfl
          · exact .map inductionHypothesis
      | simulated member =>
          unfold simulatedTarget
          split
          · exact .ok _
          · exact .map inductionHypothesis

theorem reduce_target (event : StateEvent) (state : DashboardReducedState)
    (mission : Mission) :
    FailsOnly (Problem.From .target) (event.reduce state mission) := by
  cases event with
  | timeline => exact .ok _
  | missionLifecycle lifecycle => exact .ok _
  | connectivity identifier link =>
      exact .bind (simulatedTarget_target identifier state.fleet) fun _ =>
        .ok _
  | telemetry identifier reading =>
      exact .bind (simulatedTarget_target identifier state.fleet) fun _ =>
        .ok _
  | sectorLifecycle identifier sectorState assignee =>
      exact .bind (.present rfl) fun _ =>
        .bind (.ensure rfl) fun _ => .ok _

/-- A reduction keeps the mission's identifier. -/
theorem reduce_mission {event : StateEvent}
    {state reduced : DashboardReducedState} {mission : Mission}
    (current : state.currentMission = some mission)
    (reduction : event.reduce state mission = .ok reduced) :
    ∃ next,
      reduced.currentMission = some next ∧
        next.identifier = mission.identifier := by
  cases event with
  | timeline =>
      cases reduction
      exact ⟨mission, current, rfl⟩
  | missionLifecycle lifecycle =>
      cases reduction
      exact ⟨_, rfl, rfl⟩
  | connectivity identifier link =>
      simp only [StateEvent.reduce, reduceMember, bind_eq_ok,
        pure_eq_ok] at reduction
      rcases reduction with ⟨_, _, rfl⟩
      exact ⟨mission, current, rfl⟩
  | telemetry identifier reading =>
      simp only [StateEvent.reduce, reduceMember, bind_eq_ok,
        pure_eq_ok] at reduction
      rcases reduction with ⟨_, _, rfl⟩
      exact ⟨mission, current, rfl⟩
  | sectorLifecycle identifier sectorState assignee =>
      simp only [StateEvent.reduce, bind_eq_ok, pure_eq_ok] at reduction
      rcases reduction with ⟨_, _, _, _, rfl⟩
      exact ⟨mission, current, rfl⟩

/-! ## Folds in place -/

/-- The mission that a checkpoint reduces. -/
def ReducerCheckpoint.mission? (checkpoint : ReducerCheckpoint) :
    Option String :=
  checkpoint.state.currentMission.map Mission.identifier

/-- The event is the next one of the checkpoint's mission. -/
structure InPlace (checkpoint : ReducerCheckpoint)
    (ordered : OrderedDashboardEvent) : Prop where
  mission : checkpoint.mission? = some ordered.event.mission
  next : ordered.auditOrdinal = checkpoint.state.latestAuditOrdinal + 1

theorem reduceOrdered_content {checkpoint : ReducerCheckpoint}
    {ordered : OrderedDashboardEvent} (place : InPlace checkpoint ordered)
    (event : StateEvent) :
    FailsOnly Problem.Content (reduceOrdered checkpoint ordered event) := by
  rcases Option.map_eq_some_iff.1 place.mission with
    ⟨mission, current, identifier⟩
  intro problem refused
  simp only [reduceOrdered, current] at refused
  rcases bind_eq_error.1 refused with here | ⟨found, kept, rest⟩
  · cases present_eq_error.1 here |>.1
  · cases present_eq_ok.1 kept
    rcases bind_eq_error.1 rest with mismatch | ⟨_, _, reduced⟩
    · exact absurd identifier.symm (ensure_eq_error.1 mismatch).1
    · exact (reduce_target event _ _ problem reduced).content (by decide)

/-- An event in its place is refused only for what it says. -/
theorem foldOrderedEvent_content {host : Host}
    {checkpoint : ReducerCheckpoint} {ordered : OrderedDashboardEvent}
    (place : InPlace checkpoint ordered) {outcome : FoldOutcome}
    (folded :
      foldOrderedEvent host checkpoint ordered none = .ok outcome) :
    (∃ event reduced witness,
        Applies host checkpoint ordered event reduced witness ∧
          outcome = .applied (successor ordered reduced witness)) ∨
      ∃ problem,
        outcome = .refused checkpoint problem ∧ problem.Content := by
  unfold foldOrderedEvent at folded
  split at folded
  · rename_i problem refused
    exact .inr ⟨problem, (pure_eq_ok.1 folded).symm,
      foldPreflight_content checkpoint ordered problem refused⟩
  · rename_i event preflight
    have unblocked :
        foldOrdinalControl host checkpoint ordered none = .ok none :=
      foldOrdinalControl_eq_none.2 place.next
    rw [unblocked] at folded
    simp only [bind_eq_ok, Except.ok.injEq, exists_eq_left'] at folded
    split at folded
    · rename_i problem refused
      exact .inr ⟨problem, (pure_eq_ok.1 folded).symm,
        reduceOrdered_content place event problem refused⟩
    · rename_i reduced reduction
      simp only [bind_eq_ok] at folded
      rcases folded with ⟨witness, computed, verified⟩
      rcases verifyServerDigest_eq_ok.1 verified with
        ⟨_, rfl⟩ | ⟨problem, checked, _⟩
      · exact .inl ⟨event, reduced, witness,
          ⟨preflight, place.next, reduction, computed⟩, rfl⟩
      · cases checked

/-- An event that a fold accepts has a digest. -/
theorem foldOrderedEvent_digest {host : Host}
    {checkpoint : ReducerCheckpoint} {ordered : OrderedDashboardEvent}
    {outcome : FoldOutcome}
    (folded :
      foldOrderedEvent host checkpoint ordered none = .ok outcome)
    (accepted : ∀ problem, outcome ≠ .refused checkpoint problem) :
    ∃ witness, orderedEventDigest host ordered = .ok witness := by
  rcases foldOrderedEvent_accepted folded with
    ⟨_, _, witness, applies, _⟩ | ⟨_, _, witnessed, _⟩ | ⟨problem, refused⟩
  · exact ⟨witness, applies.digest⟩
  · simp only [witnesses, bind_eq_ok] at witnessed
    rcases witnessed with ⟨incoming, computed, _⟩
    exact ⟨incoming, computed⟩
  · exact absurd refused (accepted problem)

/-- An applied event leaves the mission and takes the next ordinal. -/
theorem Applies.mission {host : Host} {checkpoint : ReducerCheckpoint}
    {ordered : OrderedDashboardEvent} {event : StateEvent}
    {reduced : DashboardReducedState} {witness : String}
    (applies : Applies host checkpoint ordered event reduced witness) :
    (successor ordered reduced witness).mission? = checkpoint.mission? := by
  have reduction := applies.reduction
  simp only [reduceOrdered, bind_eq_ok, present_eq_ok] at reduction
  rcases reduction with ⟨mission, current, _, _, reduction⟩
  rcases reduce_mission current reduction with ⟨next, moved, same⟩
  simp [ReducerCheckpoint.mission?, successor, moved, current, same]

end AerialRescue.Contracts.View
