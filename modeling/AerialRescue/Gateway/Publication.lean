import AerialRescue.Gateway.Authorization

/-!
# Outbox publication

The bounded publication batches of the command gateway.  A row is validated
against its own bytes, handed to the broker, and moved by the broker's answer:
a confirmation or an ambiguity is recorded in a transaction of its own, and a
definite refusal leaves the row staged.  The broker's answers are inputs.
-/

namespace AerialRescue.Gateway

open AerialRescue.Contracts
open AerialRescue.Contracts.Canonical
open AerialRescue.Contracts.Envelopes
open AerialRescue.Contracts.Instant
open AerialRescue.Contracts.Topics
open AerialRescue.Domain.Commands
open AerialRescue.Lib
open AerialRescue.Lib.Guard
open AerialRescue.Lib.Transaction
open AerialRescue.Store

/-- What the broker answers to one publication. -/
inductive BrokerAnswer where
  | confirmed
  | ambiguous
  | refused
  | failed
deriving DecidableEq

/-- Counts of one bounded publication turn. -/
structure PublicationReport where
  visited : Nat
  confirmed : Nat
  ambiguous : Nat
  refused : Nat
deriving DecidableEq

namespace PublicationReport

/-- The report of a turn that visited nothing. -/
def zero : PublicationReport := ⟨0, 0, 0, 0⟩

/-- Count one answer. -/
def count (report : PublicationReport) (answer : BrokerAnswer) :
    PublicationReport :=
  match answer with
  | .confirmed =>
      { report with
        visited := report.visited + 1, confirmed := report.confirmed + 1 }
  | .ambiguous =>
      { report with
        visited := report.visited + 1, ambiguous := report.ambiguous + 1 }
  | .refused =>
      { report with
        visited := report.visited + 1, refused := report.refused + 1 }
  | .failed => report

end PublicationReport

section Worker

variable (host : Host)

/-! ## Commands -/

/-- The command type after the prefix of a drone-command event type. -/
def publishedCommandType (type : String) : Option String :=
  if type = "aerial-rescue.v1.drone.command.assign-sector" then
    some "assign-sector"
  else if type = "aerial-rescue.v1.drone.command.escalate-rescue" then
    some "escalate-rescue"
  else
    none

/-- `_topic`: the command topic that the stored bytes bind to. -/
def publicationTopic (command : StagedCommand) : Except Failure String := do
  let envelope ← recast (fun _ => .publication .binding)
    (decodeEnvelope host command.payload.bytes)
  let commandType ← present (publishedCommandType envelope.type)
    (.publication .binding)
  ensure
    (memberEq envelope.data "missionId" (.text command.missionId) = true ∧
      memberEq envelope.data "droneId" (.text command.droneId) = true ∧
      memberEq envelope.data "commandId" (.text command.commandId) = true ∧
      envelope.correlationId = command.correlationId ∧
      envelope.causationId = command.causationId ∧
      envelope.traceparent = command.traceparent)
    (.publication .binding)
  let topic : Topic :=
    { family := .droneCommand
      missionId := command.missionId
      parameters :=
        [("droneId", command.droneId), ("commandType", commandType)] }
  recast Failure.envelope (checkTopicBinding envelope topic)
  recast (fun refusal => .envelope (.topic refusal)) (formatTopic topic)

/-- `StoreCommandOutbox.record` -/
def recordCommand (commandId : String) (was : OutboxState)
    (event : OutboxEvent) (confirmedAt : Option String) : Handler Unit := do
  require (event = .confirm ↔ confirmedAt.isSome = true)
    (.adapter .confirmation)
  require (confirmedAt.all fun text => (parseInstant text).isOk)
    (.adapter .confirmation)
  let _ ← transaction
    (rethrow Failure.store (recordPublication commandId was event))

/-- `_publish_one` -/
def publishOne (answer : BrokerAnswer) (row : CommandOutboxRow)
    (confirmedAt : String) : Handler Unit := do
  require (row.state = .staged) (.publication .state)
  let _ ← lift id (publicationTopic host row.command)
  match answer with
  | .refused => pure ()
  | .failed => raise (.publication .brokerOutcome)
  | .ambiguous =>
      recordCommand row.command.commandId row.state .ambiguous none
  | .confirmed =>
      recordCommand row.command.commandId row.state .confirm
        (some confirmedAt)

/-- Publish the rows of one batch in order. -/
def publishRows (answers : CommandOutboxRow → BrokerAnswer)
    (confirmedAt : String) :
    PublicationReport → List CommandOutboxRow → Handler PublicationReport
  | report, [] => pure report
  | report, row :: rest => do
      publishOne host (answers row) row confirmedAt
      publishRows answers confirmedAt (report.count (answers row)) rest

/-- `publish_batch` -/
def publishBatch (answers : CommandOutboxRow → BrokerAnswer)
    (confirmedAt : String) : Handler PublicationReport := do
  let rows ← transaction (rethrow Failure.store
    (pendingCommands .staged commandPublicationBatchSize))
  publishRows host answers confirmedAt .zero rows

/-- `reconcile_publication`: positive evidence alone confirms a row. -/
def reconcilePublication (row : CommandOutboxRow) (evidence : Bool)
    (confirmedAt : String) : Handler Bool := do
  require (row.state = .reconciliationNeeded) (.publication .state)
  if evidence then
    recordCommand row.command.commandId row.state .confirm
      (some confirmedAt)
    pure true
  else
    pure false

/-! ## Application events -/

/-- `_application_properties`, with `_bind_application_event`. -/
def applicationProperties (event : StagedApplicationEvent) :
    Except Failure Value.Members := do
  let topic ← recast (fun _ => .publication .binding)
    (parseTopic event.topic)
  ensure
    (event.producer = producer ∧ event.family = topic.family.outboxFamily)
    (.publication .binding)
  let envelope ← recast (fun _ => .publication .binding)
    (decodeEnvelope host event.payload)
  recast (fun _ => .publication .binding) (checkTopicBinding envelope topic)
  ensure
    (envelope.id = event.eventId ∧
      envelope.traceparent = event.traceparent ∧
      envelope.tracestate = event.tracestate ∧
      envelope.correlationId = event.correlationId ∧
      envelope.causationId = event.causationId ∧
      envelope.time = event.stagedAt)
    (.publication .binding)
  present (canonicalObject host event.headers) (.publication .headers)

/-- `StoreApplicationOutbox.record` -/
def recordApplication (event : StagedApplicationEvent)
    (outcome : OutboxEvent) (confirmedAt : Option String) :
    Handler Unit := do
  let _ ← transaction (rethrow Failure.store
    (recordApplicationPublication event.producer event.eventId .staged
      outcome confirmedAt))

/-- One iteration of `publish_application_batch`. -/
def publishApplicationOne (answer : BrokerAnswer)
    (event : StagedApplicationEvent) (confirmedAt : String) :
    Handler Unit := do
  let _ ← lift id (applicationProperties host event)
  match answer with
  | .refused => pure ()
  | .failed => raise (.publication .brokerOutcome)
  | .ambiguous => recordApplication event .ambiguous none
  | .confirmed => recordApplication event .confirm (some confirmedAt)

/-- Publish the events of one batch in order. -/
def publishEvents (answers : StagedApplicationEvent → BrokerAnswer)
    (confirmedAt : String) :
    PublicationReport → List StagedApplicationEvent →
      Handler PublicationReport
  | report, [] => pure report
  | report, event :: rest => do
      publishApplicationOne host (answers event) event confirmedAt
      publishEvents answers confirmedAt (report.count (answers event)) rest

/-- `publish_application_batch` -/
def publishApplicationBatch (answers : StagedApplicationEvent → BrokerAnswer)
    (confirmedAt : String) : Handler PublicationReport := do
  require ((parseInstant confirmedAt).isOk = true)
    (.publication .confirmation)
  let events ← transaction (rethrow Failure.store
    (pendingApplication producer))
  publishEvents host answers confirmedAt .zero events

end Worker

/-! ## What publication changes -/

/--
Two databases that differ in publication states at most: the outboxes keep
their rows up to the state, and no other table changes.
-/
structure PublicationOnly (before after : Database) : Prop where
  frame :
    after =
      { before with
        commandOutbox := after.commandOutbox
        applicationOutbox := after.applicationOutbox }
  commands :
    after.commandOutbox.rows.map CommandOutboxRow.command =
      before.commandOutbox.rows.map CommandOutboxRow.command
  events :
    after.applicationOutbox.rows.map ApplicationOutboxRow.event =
      before.applicationOutbox.rows.map ApplicationOutboxRow.event

theorem PublicationOnly.refl (database : Database) :
    PublicationOnly database database :=
  ⟨rfl, rfl, rfl⟩

theorem PublicationOnly.trans {first second third : Database}
    (early : PublicationOnly first second)
    (late : PublicationOnly second third) : PublicationOnly first third := by
  refine ⟨?_, late.commands.trans early.commands,
    late.events.trans early.events⟩
  rw [late.frame, early.frame]

/-- Two worlds whose databases differ in publication states at most. -/
def Publishes (before after : World) : Prop :=
  PublicationOnly before.database after.database

theorem moveCommand_commands (database : Database) (commandId : String)
    (became : OutboxState) :
    (moveCommand database commandId became).commandOutbox.rows.map
        CommandOutboxRow.command =
      database.commandOutbox.rows.map CommandOutboxRow.command := by
  simp only [moveCommand]
  exact Table.amend_map _ _ _ _ fun _ => rfl

theorem moveApplication_events (database : Database)
    (key : String × String) (became : OutboxState)
    (confirmedAt : Option String) :
    (moveApplication database key became
        confirmedAt).applicationOutbox.rows.map
        ApplicationOutboxRow.event =
      database.applicationOutbox.rows.map ApplicationOutboxRow.event := by
  simp only [moveApplication]
  exact Table.amend_map _ _ _ _ fun _ => rfl

/-- A step that returns or raises without touching the world. -/
theorem respects_pureStep {α : Type} {body : Handler α}
    (same : ∀ world, (exec body world).2 = world) :
    Respects Publishes body :=
  Respects.of_same (fun world => PublicationOnly.refl world.database) same

theorem respects_bind {α β : Type} {body : Handler α}
    {next : α → Handler β} (first : Respects Publishes body)
    (second : ∀ value, Respects Publishes (next value)) :
    Respects Publishes (body >>= next) :=
  Respects.bind (fun _ _ _ early late => early.trans late) first second

/-- A transaction respects publication when its commits do. -/
theorem respects_transaction {α : Type} {body : Body α}
    (commits :
      ∀ before value after, exec body before = (.ok value, after) →
        PublicationOnly before after) :
    Respects Publishes (transaction body) := by
  intro before
  rcases transaction_cases body before with
    ⟨value, database, returned, committed⟩ | ⟨_, failure, raised⟩
  · rw [committed]
    exact commits _ value database returned
  · rw [raised]
    exact PublicationOnly.refl before.database

theorem respects_require {condition : Prop} [Decidable condition]
    {failure : Failure} :
    Respects Publishes (require condition failure : Handler Unit) := by
  apply respects_pureStep
  intro world
  unfold require
  split <;> rfl

theorem respects_lift {α : Type} {value : Except Failure α} :
    Respects Publishes (lift id value : Handler α) := by
  apply respects_pureStep
  intro world
  cases value <;> rfl

theorem recordCommand_respects (commandId : String) (was : OutboxState)
    (event : OutboxEvent) (confirmedAt : Option String) :
    Respects Publishes
      (recordCommand commandId was event confirmedAt) := by
  refine respects_bind respects_require fun _ =>
    respects_bind respects_require fun _ =>
      respects_bind (respects_transaction ?_) fun _ =>
        respects_pureStep fun _ => rfl
  intro before became after recorded
  simp only [exec_rethrow_eq_ok] at recorded
  rw [(recordPublication_ok recorded).2]
  exact ⟨rfl, moveCommand_commands _ _ _, rfl⟩

theorem recordApplication_respects (event : StagedApplicationEvent)
    (outcome : OutboxEvent) (confirmedAt : Option String) :
    Respects Publishes
      (recordApplication event outcome confirmedAt) := by
  refine respects_bind (respects_transaction ?_) fun _ =>
    respects_pureStep fun _ => rfl
  intro before became after recorded
  simp only [exec_rethrow_eq_ok] at recorded
  rw [recordApplicationPublication_ok recorded]
  exact ⟨rfl, rfl, moveApplication_events _ _ _ _⟩

theorem publishOne_respects (host : Host) (answer : BrokerAnswer)
    (row : CommandOutboxRow) (confirmedAt : String) :
    Respects Publishes (publishOne host answer row confirmedAt) := by
  refine respects_bind respects_require fun _ =>
    respects_bind respects_lift fun _ => ?_
  cases answer with
  | refused => exact respects_pureStep fun _ => rfl
  | failed => exact respects_pureStep fun _ => rfl
  | ambiguous => exact recordCommand_respects _ _ _ _
  | confirmed => exact recordCommand_respects _ _ _ _

theorem publishRows_respects (host : Host)
    (answers : CommandOutboxRow → BrokerAnswer) (confirmedAt : String)
    (report : PublicationReport) (rows : List CommandOutboxRow) :
    Respects Publishes
      (publishRows host answers confirmedAt report rows) := by
  induction rows generalizing report with
  | nil => exact respects_pureStep fun _ => rfl
  | cons row rest inductionHypothesis =>
      exact respects_bind (publishOne_respects host _ row confirmedAt)
        fun _ => inductionHypothesis _

/-- A command batch changes publication states only. -/
theorem publishBatch_respects (host : Host)
    (answers : CommandOutboxRow → BrokerAnswer) (confirmedAt : String) :
    Respects Publishes (publishBatch host answers confirmedAt) := by
  refine respects_bind (respects_transaction ?_) fun rows =>
    publishRows_respects host answers confirmedAt .zero rows
  intro before rows after listed
  simp only [exec_rethrow_eq_ok, pendingCommands, exec_bind_eq_ok,
    exec_require_eq_ok, exec_read, exec_pure, Prod.mk.injEq,
    Except.ok.injEq] at listed
  rcases listed with ⟨_, _, ⟨_, rfl⟩, _, _, ⟨_, rfl⟩, _, _, ⟨rfl, rfl⟩, _,
    rfl⟩
  exact ⟨rfl, rfl, rfl⟩

theorem publishApplicationOne_respects (host : Host)
    (answer : BrokerAnswer) (event : StagedApplicationEvent)
    (confirmedAt : String) :
    Respects Publishes
      (publishApplicationOne host answer event confirmedAt) := by
  refine respects_bind respects_lift fun _ => ?_
  cases answer with
  | refused => exact respects_pureStep fun _ => rfl
  | failed => exact respects_pureStep fun _ => rfl
  | ambiguous => exact recordApplication_respects _ _ _
  | confirmed => exact recordApplication_respects _ _ _

theorem publishEvents_respects (host : Host)
    (answers : StagedApplicationEvent → BrokerAnswer)
    (confirmedAt : String) (report : PublicationReport)
    (events : List StagedApplicationEvent) :
    Respects Publishes
      (publishEvents host answers confirmedAt report events) := by
  induction events generalizing report with
  | nil => exact respects_pureStep fun _ => rfl
  | cons event rest inductionHypothesis =>
      exact respects_bind
        (publishApplicationOne_respects host _ event confirmedAt)
        fun _ => inductionHypothesis _

/-- An application batch changes publication states only. -/
theorem publishApplicationBatch_respects (host : Host)
    (answers : StagedApplicationEvent → BrokerAnswer)
    (confirmedAt : String) :
    Respects Publishes
      (publishApplicationBatch host answers confirmedAt) := by
  refine respects_bind respects_require fun _ =>
    respects_bind (respects_transaction ?_) fun events =>
      publishEvents_respects host answers confirmedAt .zero events
  intro before events after listed
  simp only [exec_rethrow_eq_ok, pendingApplication, exec_bind_eq_ok,
    exec_read, exec_pure, Prod.mk.injEq, Except.ok.injEq] at listed
  rcases listed with ⟨_, _, ⟨rfl, rfl⟩, _, rfl⟩
  exact ⟨rfl, rfl, rfl⟩

/-- A reconciliation changes publication states only. -/
theorem reconcilePublication_respects (row : CommandOutboxRow)
    (evidence : Bool) (confirmedAt : String) :
    Respects Publishes
      (reconcilePublication row evidence confirmedAt) := by
  refine respects_bind respects_require fun _ => ?_
  cases evidence with
  | false => exact respects_pureStep fun _ => rfl
  | true =>
      exact respects_bind (recordCommand_respects _ _ _ _) fun _ =>
        respects_pureStep fun _ => rfl

end AerialRescue.Gateway
