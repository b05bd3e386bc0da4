import AerialRescue.Contracts.View

/-!
# Folding stored events into frames

The snapshot service of the dashboard: it reads the stored normalized events
of a run in audit order, folds them with the contracts-owned reducer and
serializes what a client receives.  The wire schemas are a parameter; an event
or a frame that does not pass its schema raises, as any refusal of the reducer
does.

A frame is kept as the document it serializes, after the serialization and the
schema have accepted it.
-/

namespace AerialRescue.Dashboard

open AerialRescue.Lib.Guard
open AerialRescue.Contracts
open AerialRescue.Contracts.Canonical
open AerialRescue.Contracts.Digest
open AerialRescue.Contracts.View

/-- The codes the modelled operations of the dashboard refuse with. -/
inductive ErrorCode where
  | cancellationNotEstablished
  | dependencyUnavailable
  | idempotencyConflict
  | modeUnavailable
  | noCurrentRun
  | operationConflict
  | replayReadOnly
  | runConflict
  | scenarioNotFound
  | scenarioRevisionMismatch
  | sseCapacityExceeded
deriving DecidableEq

/-- What escapes a read of the dashboard. -/
inductive Raised where
  /-- `ApiError` -/
  | api (code : ErrorCode)
  /-- A `ValueError` of the cursor codec. -/
  | value
  /-- The `KeyError` of an unknown event class. -/
  | key
  | canonicalization (refusal : Refusal)
  | digest (failure : DigestFailure)
deriving DecidableEq

/-- The wire schemas the snapshot service checks documents with. -/
inductive WireSchema where
  | dashboardEvent
  | orderedEvent
  | frame
  | snapshot
  | reducedState
deriving DecidableEq

/-- What the snapshot service takes from outside. -/
structure Boundary where
  host : Host
  /-- `parse_wire_document`, dumped by alias. -/
  wire : WireSchema → Bytes → Option Value.Members
  /-- `hmac.new(key, ·, sha256).hexdigest()` -/
  hmac : Bytes → String
  runtimeId : String

/-- One audit ordinal with its canonical normalized-event bytes. -/
structure StoredEvent where
  auditOrdinal : Int
  kind : String
  payload : Bytes
deriving DecidableEq

/-- What the browser receives for one ordered event. -/
structure EventFrame where
  cursor : String
  digest : String
  event : OrderedDashboardEvent

/-- One successor checkpoint and its serialized frame. -/
structure FoldedFrame where
  checkpoint : ReducerCheckpoint
  eventClass : EventClass
  cursor : String
  body : EventFrame

/-- Largest timeline a snapshot carries. -/
def eventPageSize : Nat := 256

/--
A folded checkpoint and what its snapshot says.  A fold that collects more
timeline entries raises.
-/
structure SnapshotCapture where
  checkpoint : ReducerCheckpoint
  timeline : List OrderedDashboardEvent
  cursor : String
  digest : String
  bounded : timeline.length ≤ eventPageSize

/-- Largest normalized event, in bytes. -/
def maximumEventBytes : Nat := 64 * 1024

/-- Largest snapshot or frame, in bytes. -/
def maximumDocumentBytes : Nat := 512 * 1024

/-- `validated_document` -/
def validatedDocument (boundary : Boundary) (schema : WireSchema)
    (raw : Bytes) (maximumBytes : Nat) : Except Raised Value.Members :=
  if maximumBytes < raw.length then .error (.api .dependencyUnavailable)
  else
    present (boundary.wire schema raw) (.api .dependencyUnavailable)

/-- `_string` of a member. -/
def stringMember (document : Value.Members) (name : String) :
    Except Raised String :=
  match Value.get name document with
  | .text value => .ok value
  | _ => .error (.api .dependencyUnavailable)

/-- `_mapping` of a member. -/
def mappingMember (document : Value.Members) (name : String) :
    Except Raised Value.Members :=
  match Value.get name document with
  | .object members => .ok members
  | _ => .error (.api .dependencyUnavailable)

def eventClasses : List EventClass :=
  [.telemetry, .connectivity, .mission, .command, .evidence, .approval,
    .audit]

/-- `EventClass[name]` -/
def eventClassNamed (name : String) : Except Raised EventClass :=
  present (eventClasses.find? fun found => found.text = name) .key

/-- `_dashboard_event` -/
def dashboardEvent (document : Value.Members) :
    Except Raised DashboardEvent := do
  let kind ← stringMember document "kind"
  let className ← stringMember document "eventClass"
  let eventClass ← eventClassNamed className
  let mission ← stringMember document "mission"
  let time ← stringMember document "time"
  let data ← mappingMember document "data"
  pure { kind, eventClass, mission, time, data }

/-- `canonical.canonical_bytes` -/
def encodedDocument (boundary : Boundary) (document : Value) :
    Except Raised Bytes :=
  recast Raised.canonicalization (canonicalBytes boundary.host document)

/-- `_ordered_event` -/
def orderedEvent (boundary : Boundary) (stored : StoredEvent) :
    Except Raised OrderedDashboardEvent := do
  let document ← validatedDocument boundary .dashboardEvent
    stored.payload maximumEventBytes
  let kind ← stringMember document "kind"
  ensure (stored.kind = kind) (Raised.api .dependencyUnavailable)
  let encoded ← encodedDocument boundary
    (.object
      [ ("auditOrdinal", .int stored.auditOrdinal),
        ("event", .object document) ])
  let _ ← validatedDocument boundary .orderedEvent encoded maximumEventBytes
  let event ← dashboardEvent document
  pure ⟨stored.auditOrdinal, event⟩

/-- `_fold`: only an applied event or an exact duplicate. -/
def foldStored (boundary : Boundary) (checkpoint : ReducerCheckpoint)
    (ordered : OrderedDashboardEvent) :
    Except Raised ReducerCheckpoint := do
  let outcome ← recast Raised.digest
    (foldOrderedEvent boundary.host checkpoint ordered none)
  match outcome with
  | .applied next => pure next
  | .duplicate next => pure next
  | .refused _ _ => .error (.api .dependencyUnavailable)

/-- `CursorCodec.issue` -/
def issueCursor (boundary : Boundary) (runId : String) (ordinal : Int) :
    Except Raised String := do
  ensure (0 ≤ ordinal) Raised.value
  let covered ← encodedDocument boundary
    (.object
      [ ("auditOrdinal", .int ordinal),
        ("cursorVersion", .int 1),
        ("runId", .text runId),
        ("runtimeId", .text boundary.runtimeId) ])
  pure (boundary.hmac covered)

/-- The document of a frame. -/
def frameDocument (frame : EventFrame) : Value :=
  .object
    [ ("cursor", .text frame.cursor),
      ("digest", .text frame.digest),
      ("event",
        .object
          [ ("auditOrdinal", .int frame.event.auditOrdinal),
            ("event", eventDocument frame.event.event) ]),
      ("frameVersion", .text "ordered-dashboard-event-frame/v1") ]

/-- `SnapshotService.fold_frame` -/
def foldFrame (boundary : Boundary) (runIdentity : String)
    (checkpoint : ReducerCheckpoint) (stored : StoredEvent) :
    Except Raised FoldedFrame := do
  let ordered ← orderedEvent boundary stored
  let successor ← foldStored boundary checkpoint ordered
  let cursor ← issueCursor boundary runIdentity
    successor.state.latestAuditOrdinal
  let digest ← recast Raised.digest
    (stateDigest boundary.host successor.state)
  let frame : EventFrame := ⟨cursor, digest, ordered⟩
  let encoded ← encodedDocument boundary (frameDocument frame)
  let _ ← validatedDocument boundary .frame encoded maximumDocumentBytes
  pure ⟨successor, ordered.event.eventClass, cursor, frame⟩

/-- What a folded frame was made from. -/
structure FrameOf (host : Host) (checkpoint : ReducerCheckpoint)
    (folded : FoldedFrame) : Prop where
  fold :
    foldOrderedEvent host checkpoint folded.body.event none =
        .ok (.applied folded.checkpoint) ∨
      foldOrderedEvent host checkpoint folded.body.event none =
        .ok (.duplicate folded.checkpoint)
  digest :
    stateDigest host folded.checkpoint.state = .ok folded.body.digest
  eventClass : folded.eventClass = folded.body.event.event.eventClass

theorem foldStored_eq_ok {boundary : Boundary}
    {checkpoint next : ReducerCheckpoint}
    {ordered : OrderedDashboardEvent}
    (folded : foldStored boundary checkpoint ordered = .ok next) :
    foldOrderedEvent boundary.host checkpoint ordered none =
        .ok (.applied next) ∨
      foldOrderedEvent boundary.host checkpoint ordered none =
        .ok (.duplicate next) := by
  simp only [foldStored, bind_eq_ok, recast_eq_ok] at folded
  rcases folded with ⟨outcome, computed, kept⟩
  cases outcome with
  | applied found =>
      cases pure_eq_ok.1 kept
      exact .inl computed
  | duplicate found =>
      cases pure_eq_ok.1 kept
      exact .inr computed
  | refused prior problem => cases kept

theorem foldFrame_eq_ok {boundary : Boundary} {runIdentity : String}
    {checkpoint : ReducerCheckpoint} {stored : StoredEvent}
    {folded : FoldedFrame}
    (produced :
      foldFrame boundary runIdentity checkpoint stored = .ok folded) :
    FrameOf boundary.host checkpoint folded := by
  simp only [foldFrame, bind_eq_ok, recast_eq_ok, pure_eq_ok] at produced
  rcases produced with
    ⟨ordered, _, successor, advanced, cursor, _, digest, computed, _, _, _, _,
      rfl⟩
  exact ⟨foldStored_eq_ok advanced, computed, rfl⟩

end AerialRescue.Dashboard
