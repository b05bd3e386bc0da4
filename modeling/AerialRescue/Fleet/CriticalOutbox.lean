import AerialRescue.Fleet.Commands
import AerialRescue.Fleet.OutboxSessions
import AerialRescue.Lib.Worlds
import Mathlib.Data.String.Basic

/-!
# Recovery of the critical outbox

The drain of one connected epoch and the recovery around it, as clients of the
durable outbox, of the publisher and of the broker's readiness, and the world
they work in: transactions stage further events at any time, and every read
and every recording is a transaction of its own.
-/

namespace AerialRescue.Fleet.Recovery

open AerialRescue.Contracts.Envelopes
open AerialRescue.Domain.Commands
open AerialRescue.Fleet.Sessions
open AerialRescue.Lib AerialRescue.Lib.Guard AerialRescue.Lib.Clients
open AerialRescue.Store

/-! ## Ports -/

/-- `PublicationOutcome` -/
inductive PublicationOutcome where
  | confirmed
  | refused
  | ambiguous
deriving DecidableEq

/-- `PublicationResult`; it has an instant when it is confirmed, and no other
one does. -/
structure PublicationResult where
  outcome : PublicationOutcome
  confirmedAt : Option String
  evidence : decide (outcome = .confirmed) = confirmedAt.isSome
  instant : ∀ text ∈ confirmedAt, isInstant text = true

/-- What a recovery asks of its ports. -/
inductive Query where
  | recoveryRequired
  | isConnected
  | markReady
  | pending (droneId : String)
  | reconciliation (droneId : String)
  | publish (event : StagedApplicationEvent)
  | record (key : String × String) (event : OutboxEvent)
      (confirmedAt : Option String)

/-- What the ports return, or that they raise. -/
def Answer : Query → Type
  | .recoveryRequired => Unit
  | .isConnected => Bool
  | .markReady => Unit
  | .pending _ => Except Unit (List StagedApplicationEvent)
  | .reconciliation _ => Except Unit (List StagedApplicationEvent)
  | .publish _ => Except Unit PublicationResult
  | .record _ _ _ => Except Unit Unit

/-- Why a recovery ends early. -/
inductive RecoveryFailure where
  | noncriticalFamily (family : String)
  | batchBound (droneId : String)
  | routerUnavailable
  /-- What a port raises. -/
  | port
deriving DecidableEq

/-- A client of the ports. -/
abbrev Recovering :=
  Client Query Answer RecoveryFailure

/-! ## The drain -/

/-- `require_critical` -/
def requireCritical (event : StagedApplicationEvent) :
    Except RecoveryFailure StagedApplicationEvent := do
  ensure (event.family ∈ criticalFamilies) (.noncriticalFamily event.family)
  pure event

/-- `APPLICATION_OUTBOX_BATCH_SIZE` -/
def applicationOutboxBatchSize : Nat :=
  50

/-- The checks of a batch. -/
def checkBatch (droneId : String) (pending : List StagedApplicationEvent) :
    Except RecoveryFailure (List StagedApplicationEvent) := do
  ensure (pending.length ≤ applicationOutboxBatchSize) (.batchBound droneId)
  pending.mapM requireCritical

/-- `_batch` -/
def batch (droneId : String) : Recovering (List StagedApplicationEvent) :=
  Client.query (.pending droneId) fun pending => do
    let events ← recast (fun _ => .port) pending
    checkBatch droneId events

/-- The key of an event in the outbox. -/
def keyOf (event : StagedApplicationEvent) : String × String :=
  (event.producer, event.eventId)

/-- `_record` -/
def record (event : StagedApplicationEvent) (result : PublicationResult) :
    Recovering Unit :=
  match result.outcome with
  | .refused => pure ()
  | .confirmed =>
      Client.query (.record (keyOf event) .confirm result.confirmedAt)
        (recast fun _ => .port)
  | .ambiguous =>
      Client.query (.record (keyOf event) .ambiguous result.confirmedAt)
        (recast fun _ => .port)

/-- How many publications had each outcome. -/
structure Counts where
  confirmed : Nat
  refused : Nat
  ambiguous : Nat
deriving DecidableEq

/-- `counts[result.outcome] += 1` -/
def Counts.add (counts : Counts) : PublicationOutcome → Counts
  | .confirmed => { counts with confirmed := counts.confirmed + 1 }
  | .refused => { counts with refused := counts.refused + 1 }
  | .ambiguous => { counts with ambiguous := counts.ambiguous + 1 }

/-- `visited` -/
def Counts.visited (counts : Counts) : Nat :=
  counts.confirmed + counts.refused + counts.ambiguous

/-- The publications of one batch. -/
def publishBatch : List StagedApplicationEvent → Counts → Recovering Counts
  | [], counts => pure counts
  | event :: rest, counts => do
      let result ← Client.query (.publish event) (recast fun _ => .port)
      record event result
      publishBatch rest (counts.add result.outcome)

/-- One batch of each drone. -/
def drainDrones : List String → Counts → Recovering Counts
  | [], counts => pure counts
  | droneId :: rest, counts => do
      let events ← batch droneId
      let counted ← publishBatch events counts
      drainDrones rest counted

/-- `_has_pending` -/
def hasPending : List String → Recovering Bool
  | [] => pure false
  | droneId :: rest => do
      let events ← batch droneId
      if events ≠ [] then pure true else hasPending rest

/-- `RecoveryReport` -/
structure RecoveryReport where
  visited : Nat
  confirmed : Nat
  refused : Nat
  ambiguous : Nat
  ready : Bool
deriving DecidableEq

/-- The report of a drain. -/
def Counts.report (counts : Counts) (ready : Bool) : RecoveryReport where
  visited := counts.visited
  confirmed := counts.confirmed
  refused := counts.refused
  ambiguous := counts.ambiguous
  ready := ready

/-- Whether work of the drones is left, which a drain with a refusal or an
ambiguity does not ask. -/
def isUnresolved (droneIds : List String) (counts : Counts) :
    Recovering Bool :=
  if 0 < counts.refused ∨ 0 < counts.ambiguous then pure true
  else hasPending droneIds

/-- What a drain does once it has published. -/
def concludeDrain (counts : Counts) (unresolved : Bool) :
    Recovering RecoveryReport :=
  if unresolved then pure (counts.report false)
  else do
    Client.query .markReady fun _ => .ok ()
    pure (counts.report true)

/-- `drain_recovery` of a connected broker. -/
def drainConnected (droneIds : List String) : Recovering RecoveryReport := do
  let counts ← drainDrones droneIds ⟨0, 0, 0⟩
  let unresolved ← isUnresolved droneIds counts
  concludeDrain counts unresolved

/-- `sorted` -/
def ordered (droneIds : List String) : List String :=
  droneIds.insertionSort (· ≤ ·)

/-- `drain_recovery` -/
def drainRecovery (droneIds : List String) : Recovering RecoveryReport := do
  Client.query .recoveryRequired fun _ => .ok ()
  let connected ← Client.query .isConnected fun (connected : Bool) =>
    .ok connected
  if connected then drainConnected (ordered droneIds)
  else pure ⟨0, 0, 0, 0, false⟩

/-! ## The recovery -/

/-- Whether some drone has ambiguous rows. -/
def anyAmbiguous : List String → Recovering Bool
  | [] => pure false
  | droneId :: rest => do
      let events ← Client.query (.reconciliation droneId)
        (recast fun _ => .port)
      if events ≠ [] then pure true else anyAmbiguous rest

/-- What a recovery does without ambiguous rows. -/
def drainRouted (droneIds : List String) (routed : Bool) :
    Recovering Unit := do
  Client.lift (ensure (routed = true) .routerUnavailable)
  let _ ← drainRecovery droneIds
  pure ()

/-- `_recover_locked` -/
def recoverLocked (configured : List String) (routed : Bool) :
    Recovering Unit := do
  let ambiguous ← anyAmbiguous (ordered configured.dedup)
  if ambiguous then Client.query .recoveryRequired fun _ => .ok ()
  else drainRouted (ordered configured.dedup) routed

/-! ## The world -/

/-- The order in which rows are read. -/
def Earlier (left right : StagedApplicationEvent) : Prop :=
  left.stagedAt < right.stagedAt ∨
    left.stagedAt = right.stagedAt ∧ left.eventId ≤ right.eventId

instance Earlier.decidable : DecidableRel Earlier :=
  fun _ _ => inferInstanceAs (Decidable (_ ∨ _))

variable {σ : Type}

/-- The committed rows of a producer in one state. -/
def committed (engine : Engine σ) (producer : String) (state : OutboxState) :
    List (Held ApplicationOutboxRow σ) :=
  engine.outbox.rows.filter fun held =>
    held.holder.isNone ∧ held.row.event.producer = producer ∧
      held.row.state = state

/-- `_selection_statement` -/
def selection (engine : Engine σ) (producer : String) (state : OutboxState) :
    List StagedApplicationEvent :=
  (((committed engine producer state).map fun held =>
      held.row.event).insertionSort Earlier).take applicationOutboxBatchSize

variable [DecidableEq σ]

/-- What the ports may answer; what they raise may come after the recording
of a publication or before it. -/
def responds (engine : Engine σ) (query : Query) (answer : Answer query)
    (next : Engine σ) : Prop :=
  match query, answer with
  | .pending droneId, answer =>
      next = engine ∧ ∀ events, answer = .ok events →
        events = selection engine (eventSource droneId) .staged
  | .reconciliation droneId, answer =>
      next = engine ∧ ∀ events, answer = .ok events →
        events =
          selection engine (eventSource droneId) .reconciliationNeeded
  | .record key event confirmedAt, answer =>
      engine.record key event confirmedAt = some next ∨
        answer = .error () ∧ next = engine
  | _, _ => next = engine

/-- Transactions stage events between the queries of a recovery. -/
def outboxWorld (σ : Type) [DecidableEq σ] : World (Engine σ) Query Answer where
  drifts engine next := ∃ session act, next = engine.act session act
  responds := responds

end AerialRescue.Fleet.Recovery
