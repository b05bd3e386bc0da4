import AerialRescue.Contracts.FoldOrder
import AerialRescue.Contracts.Projection
import AerialRescue.Dashboard.Snapshot
import AerialRescue.Store.Audit

/-!
# The projection hub

The hub owns the one reducer checkpoint of the broker path.  `apply_audit`
validates an audit row against its columns and its schema, projects it and
folds it; an applied row moves the checkpoint before its frame is serialized,
so a frame that fails leaves the checkpoint moved.

The schema registry, the cursor and the wire check of a frame are parameters.
The clients a frame is offered to change no checkpoint and are left out.
-/

namespace AerialRescue.Dashboard.ProjectionHub

open AerialRescue.Lib.Guard
open AerialRescue.Contracts
open AerialRescue.Contracts.Canonical
open AerialRescue.Contracts.Digest
open AerialRescue.Contracts.Envelopes
open AerialRescue.Contracts.View
open AerialRescue.Store

/-! ## Exceptions -/

/-- `ProjectionRefusal` of an audit row, and what a frame can raise. -/
inductive ProjectionRaised where
  | auditBinding
  | payloadSchema
  | eventProjection
  | reducer (refusal : ReducerRefusal)
  | digest (failure : DigestFailure)
  | canonicalization (refusal : Refusal)
  /-- `parse_wire_document` refuses the serialized frame. -/
  | output
deriving DecidableEq

/-- What the projection takes from outside. -/
structure Registry where
  host : Host
  /-- `schemas.validate` -/
  schema : String → Value.Members → Bool
  /-- The cursor of an ordinal and its event digest. -/
  cursor : Int → Option String → String
  /-- `parse_wire_document` of an event frame. -/
  frame : Bytes → Bool

/-! ## An audit row -/

/-- Whether the columns of a row are those of its envelope. -/
def ColumnsMatch (record : AuditRecord) (envelope : Envelope)
    (payload : Bytes) : Prop :=
  payload = record.payload ∧ record.missionId = envelope.subject ∧
    record.kind = envelope.type ∧ record.occurredAt = envelope.time ∧
    record.correlationId = envelope.correlationId ∧
    record.causationId = envelope.causationId ∧
    record.traceparent = envelope.traceparent

instance (record : AuditRecord) (envelope : Envelope) (payload : Bytes) :
    Decidable (ColumnsMatch record envelope payload) :=
  inferInstanceAs (Decidable (_ ∧ _))

/-- `_validated_audit_envelope` -/
def validatedAuditEnvelope (registry : Registry) (record : AuditRecord) :
    Except ProjectionRaised Envelope := do
  let envelope ← recast (fun _ => .auditBinding)
    (decodeEnvelope registry.host record.payload)
  let payload ← recast (fun _ => .auditBinding)
    (canonicalBytes registry.host (.object (envelopeDocument envelope)))
  ensure (ColumnsMatch record envelope payload) .auditBinding
  ensure (registry.schema envelope.dataschema envelope.data = true)
    .payloadSchema
  pure envelope

/-- The ordered event of an audit row. -/
def auditEvent (registry : Registry) (row : StoredAuditRecord) :
    Except ProjectionRaised OrderedDashboardEvent := do
  let envelope ← validatedAuditEnvelope registry row.record
  let event ← recast (fun _ => .eventProjection) (project envelope)
  pure ⟨row.ordinal, event⟩

/-- What folding an audit row comes to. -/
inductive FoldedRow where
  | duplicate
  | applied (ordered : OrderedDashboardEvent) (checkpoint : ReducerCheckpoint)

/-- The fold of `apply_audit`. -/
def foldRow (registry : Registry) (checkpoint : ReducerCheckpoint)
    (row : StoredAuditRecord) : Except ProjectionRaised FoldedRow := do
  let ordered ← auditEvent registry row
  let outcome ← recast ProjectionRaised.digest
    (foldOrderedEvent registry.host checkpoint ordered none)
  match outcome with
  | .duplicate _ => pure .duplicate
  | .refused _ problem => .error (.reducer problem.refusal)
  | .applied next => pure (.applied ordered next)

/-- `_event_frame`, serialized and checked. -/
def emitFrame (registry : Registry) (checkpoint : ReducerCheckpoint)
    (ordered : OrderedDashboardEvent) : Except ProjectionRaised Unit := do
  let cursor := registry.cursor checkpoint.state.latestAuditOrdinal
    checkpoint.latestEventDigest
  let digest ← recast ProjectionRaised.digest
    (stateDigest registry.host checkpoint.state)
  let serialized ← recast ProjectionRaised.canonicalization
    (canonicalBytes registry.host
      (frameDocument ⟨cursor, digest, ordered⟩))
  ensure (registry.frame serialized = true) .output

/-- `ApplyDecision` -/
inductive ApplyDecision where
  | applied
  | duplicate
deriving DecidableEq

/-- `apply_audit`: its answer and the checkpoint it leaves. -/
def applyAudit (registry : Registry) (checkpoint : ReducerCheckpoint)
    (row : StoredAuditRecord) :
    Except ProjectionRaised ApplyDecision × ReducerCheckpoint :=
  match foldRow registry checkpoint row with
  | .error raised => (.error raised, checkpoint)
  | .ok .duplicate => (.ok .duplicate, checkpoint)
  | .ok (.applied ordered next) =>
      ((emitFrame registry next ordered).map fun _ => .applied, next)

/-! ## Replacing a run -/

/-- A process that has not seeded its projection. -/
def emptyCheckpoint : ReducerCheckpoint where
  state :=
    { currentMission := none
      fleet := []
      latestAuditOrdinal := 0
      sectors := [] }
  latestEventDigest := none

/-- `checkpoint_from_prepared_state`, of a validated document. -/
def preparedCheckpoint (registry : Registry)
    (prepared : DashboardReducedState) : Option ReducerCheckpoint :=
  match checkpointFromAnchor registry.host prepared none none with
  | .ok (.ok checkpoint) => some checkpoint
  | _ => none

/-! ## What a row does to the checkpoint -/

/-- A row at the next ordinal of the checkpoint's mission. -/
structure RowInPlace (checkpoint : ReducerCheckpoint)
    (row : StoredAuditRecord) : Prop where
  mission : checkpoint.mission? = some row.record.missionId
  next : (row.ordinal : Int) = checkpoint.state.latestAuditOrdinal + 1

/-- A row's mission and ordinal are not what is wrong. -/
def ProjectionRaised.Content : ProjectionRaised → Prop
  | .reducer refusal => refusal.aboutPlace = false
  | _ => True

theorem validatedAuditEnvelope_content (registry : Registry)
    (record : AuditRecord) :
    FailsOnly ProjectionRaised.Content
      (validatedAuditEnvelope registry record) :=
  .bind (.recast fun _ => trivial) fun _ =>
    .bind (.recast fun _ => trivial) fun _ =>
      .bind (.ensure trivial) fun _ =>
        .bind (.ensure trivial) fun _ => .ok _

theorem auditEvent_content (registry : Registry) (row : StoredAuditRecord) :
    FailsOnly ProjectionRaised.Content (auditEvent registry row) :=
  .bind (validatedAuditEnvelope_content registry row.record) fun _ =>
    .bind (.recast fun _ => trivial) fun _ => .ok _

theorem emitFrame_content (registry : Registry)
    (checkpoint : ReducerCheckpoint) (ordered : OrderedDashboardEvent) :
    FailsOnly ProjectionRaised.Content
      (emitFrame registry checkpoint ordered) :=
  .bind (.recast fun _ => trivial) fun _ =>
    .bind (.recast fun _ => trivial) fun _ => .ensure trivial

theorem auditEvent_ok {registry : Registry} {row : StoredAuditRecord}
    {ordered : OrderedDashboardEvent}
    (read : auditEvent registry row = .ok ordered) :
    ordered.auditOrdinal = row.ordinal ∧
      ordered.event.mission = row.record.missionId := by
  simp only [auditEvent, validatedAuditEnvelope, bind_eq_ok, recast_eq_ok,
    ensure_eq_ok, pure_eq_ok] at read
  rcases read with ⟨envelope, ⟨_, _, _, _, _, columns, _, _, rfl⟩, event,
    projected, rfl⟩
  exact ⟨rfl, (project_mission projected).trans columns.2.1.symm⟩

theorem RowInPlace.event {registry : Registry}
    {checkpoint : ReducerCheckpoint} {row : StoredAuditRecord}
    {ordered : OrderedDashboardEvent} (place : RowInPlace checkpoint row)
    (read : auditEvent registry row = .ok ordered) :
    InPlace checkpoint ordered := by
  rcases auditEvent_ok read with ⟨ordinal, mission⟩
  exact ⟨by rw [mission]; exact place.mission,
    by rw [ordinal]; exact place.next⟩

/-- A row in its place is refused only for what it says. -/
theorem foldRow_content {registry : Registry}
    {checkpoint : ReducerCheckpoint} {row : StoredAuditRecord}
    (place : RowInPlace checkpoint row) :
    FailsOnly ProjectionRaised.Content
      (foldRow registry checkpoint row) := by
  refine .bindOf (auditEvent_content registry row) fun ordered read => ?_
  refine .bindOf (.recast fun _ => trivial) fun outcome ran => ?_
  rcases foldOrderedEvent_content (place.event read)
      (recast_eq_ok.1 ran) with
    ⟨event, reduced, witness, _, rfl⟩ | ⟨problem, rfl, content⟩
  · exact .ok _
  · exact .error content

/-- A row in its place is applied at its ordinal, in the same mission. -/
theorem foldRow_inPlace {registry : Registry}
    {checkpoint : ReducerCheckpoint} {row : StoredAuditRecord}
    {folded : FoldedRow} (place : RowInPlace checkpoint row)
    (returned : foldRow registry checkpoint row = .ok folded) :
    ∃ ordered next,
      folded = .applied ordered next ∧
        next.mission? = checkpoint.mission? ∧
        next.state.latestAuditOrdinal = row.ordinal := by
  simp only [foldRow, bind_eq_ok] at returned
  rcases returned with ⟨ordered, read, outcome, ran, last⟩
  rcases foldOrderedEvent_content (place.event read)
      (recast_eq_ok.1 ran) with
    ⟨event, reduced, witness, applies, rfl⟩ | ⟨problem, rfl, _⟩
  · cases pure_eq_ok.1 last
    exact ⟨ordered, successor ordered reduced witness, rfl, applies.mission,
      (auditEvent_ok read).1⟩
  · cases last

/-- What `apply_audit` makes of a row in its place. -/
structure AppliedInPlace (checkpoint next : ReducerCheckpoint)
    (row : StoredAuditRecord)
    (answer : Except ProjectionRaised ApplyDecision) : Prop where
  mission : next.mission? = checkpoint.mission?
  content : FailsOnly ProjectionRaised.Content answer
  ordinal :
    next = checkpoint ∧ (∀ decision, answer ≠ .ok decision) ∨
      next.state.latestAuditOrdinal = row.ordinal

theorem applyAudit_inPlace {registry : Registry}
    {checkpoint : ReducerCheckpoint} {row : StoredAuditRecord}
    (place : RowInPlace checkpoint row) :
    AppliedInPlace checkpoint (applyAudit registry checkpoint row).2 row
      (applyAudit registry checkpoint row).1 := by
  unfold applyAudit
  cases folded : foldRow registry checkpoint row with
  | error raised =>
      refine ⟨rfl, .error (foldRow_content place raised folded),
        .inl ⟨rfl, ?_⟩⟩
      intro decision impossible
      cases impossible
  | ok found =>
      rcases foldRow_inPlace place folded with
        ⟨ordered, next, rfl, mission, ordinal⟩
      exact ⟨mission, .map (emitFrame_content registry next ordered),
        .inr ordinal⟩

theorem preparedCheckpoint_eq_some {registry : Registry}
    {prepared : DashboardReducedState} {checkpoint : ReducerCheckpoint}
    (seeded : preparedCheckpoint registry prepared = some checkpoint) :
    checkpoint = ⟨prepared, none⟩ ∧ prepared.latestAuditOrdinal = 0 := by
  unfold preparedCheckpoint checkpointFromAnchor at seeded
  cases checked : checkAnchor prepared none with
  | error problem => simp [checked, pure, Except.pure] at seeded
  | ok _ =>
      simp only [checked, digestProblem, bind, Except.bind, pure,
        Except.pure, Option.some.injEq] at seeded
      refine ⟨seeded.symm, ?_⟩
      unfold checkAnchor at checked
      simp only [Option.any_none, Bool.false_eq_true, if_false] at checked
      split at checked
      · cases checked
      · have witnessed := ensure_eq_ok.1 checked
        simpa using witnessed

end AerialRescue.Dashboard.ProjectionHub
