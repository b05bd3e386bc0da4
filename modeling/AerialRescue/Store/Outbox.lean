import AerialRescue.Store.Schema
import Mathlib.Data.List.Sort

/-!
# Outboxes and command progress

The command outbox with its bound on unconfirmed rows, the application outbox
keyed by producer and event, and the dispatch progress of a command.  Every
write is an insert of a fresh identity or a compare-and-set on the state that
the caller read.
-/

namespace AerialRescue.Store

open AerialRescue.Contracts
open AerialRescue.Domain.Commands
open AerialRescue.Lib
open AerialRescue.Lib.Transaction

/-! ## The command outbox -/

/-- How many unconfirmed commands the outbox holds at most. -/
def maximumUnconfirmedRecords : Nat := 500

/-- The unconfirmed rows of the command outbox. -/
def Database.unconfirmedCommands (database : Database) : Nat :=
  database.commandOutbox.rows.countP fun row => decide (row.state ≠ .confirmed)

/-- `outbox.stage`: one insert that checks the bound inside the statement. -/
def stageCommand (command : StagedCommand) : StoreTx Unit := do
  let database ← read
  require (database.unconfirmedCommands < maximumUnconfirmedRecords)
    (.command .atCapacity)
  let commandOutbox ← demand
    (database.commandOutbox.insert? ⟨command, .staged⟩) .integrity
  write { database with commandOutbox }

theorem stageCommand_ok {command : StagedCommand} {before after : Database}
    {value : Unit} :
    exec (stageCommand command) before = (.ok value, after) ↔
      before.unconfirmedCommands < maximumUnconfirmedRecords ∧
        ∃ commandOutbox,
          before.commandOutbox.insert? ⟨command, .staged⟩ =
              some commandOutbox ∧
            after = { before with commandOutbox } := by
  simp only [stageCommand, exec_bind_eq_ok, exec_read, exec_require_eq_ok,
    exec_demand_eq_ok, exec_write, Prod.mk.injEq, Except.ok.injEq]
  constructor
  · rintro ⟨_, _, ⟨rfl, rfl⟩, _, _, ⟨room, rfl⟩, table, _, ⟨inserted, rfl⟩,
      _, rfl⟩
    exact ⟨room, table, inserted, rfl⟩
  · rintro ⟨room, table, inserted, rfl⟩
    exact ⟨_, _, ⟨rfl, rfl⟩, (), _, ⟨room, rfl⟩, table, _, ⟨inserted, rfl⟩,
      trivial, rfl⟩

/-- Move one command row from a compared state. -/
def moveCommand (database : Database) (commandId : String)
    (became : OutboxState) : Database :=
  { database with
    commandOutbox := database.commandOutbox.amend commandId
      (fun row => { row with state := became })
      (fun _ => rfl) }

/-- The moved row is found in its new state. -/
theorem moveCommand_find? {database : Database} {commandId : String}
    {became : OutboxState} {row : CommandOutboxRow}
    (found : database.commandOutbox.find? commandId = some row) :
    (moveCommand database commandId became).commandOutbox.find? commandId =
      some { row with state := became } := by
  have amended := Table.find?_amend_self database.commandOutbox commandId
    (fun row => { row with state := became }) (fun _ => rfl)
  rw [found] at amended
  exact amended

/-- `outbox.record_publication` -/
def recordPublication (commandId : String) (was : OutboxState)
    (event : OutboxEvent) : StoreTx OutboxState := do
  let became ← demand (outboxTransition was event) .outboxTransition
  let database ← read
  match database.commandOutbox.find? commandId with
  | some row =>
      require (row.state = was) (.command .notInExpectedState)
      write (moveCommand database commandId became)
      pure became
  | none => raise (.command .notInExpectedState)

theorem recordPublication_ok {commandId : String} {was became : OutboxState}
    {event : OutboxEvent} {before after : Database}
    (recorded :
      exec (recordPublication commandId was event) before =
        (.ok became, after)) :
    outboxTransition was event = some became ∧
      after = moveCommand before commandId became := by
  simp only [recordPublication, exec_bind_eq_ok, exec_demand_eq_ok,
    exec_read, Prod.mk.injEq, Except.ok.injEq] at recorded
  rcases recorded with ⟨state, _, ⟨legal, rfl⟩, _, _, ⟨rfl, rfl⟩, rest⟩
  split at rest
  · simp only [exec_bind_eq_ok, exec_require_eq_ok, exec_write, exec_pure,
      Prod.mk.injEq, Except.ok.injEq] at rest
    rcases rest with ⟨_, _, ⟨_, rfl⟩, _, _, ⟨_, rfl⟩, rfl, rfl⟩
    exact ⟨legal, rfl⟩
  · simp at rest

/-- A publication is recorded for a row in the compared state. -/
theorem recordPublication_compared {commandId : String}
    {was became : OutboxState} {event : OutboxEvent}
    {before after : Database}
    (recorded :
      exec (recordPublication commandId was event) before =
        (.ok became, after)) :
    ∃ row,
      before.commandOutbox.find? commandId = some row ∧ row.state = was := by
  simp only [recordPublication, exec_bind_eq_ok, exec_demand_eq_ok,
    exec_read, Prod.mk.injEq, Except.ok.injEq] at recorded
  rcases recorded with ⟨_, _, ⟨_, rfl⟩, _, _, ⟨rfl, rfl⟩, rest⟩
  split at rest
  · next row found =>
      simp only [exec_bind_eq_ok, exec_require_eq_ok] at rest
      rcases rest with ⟨_, _, ⟨compared, _⟩, _⟩
      exact ⟨row, found, compared⟩
  · simp at rest

/-- A legal move from the compared state is recorded. -/
theorem recordPublication_of {commandId : String}
    {was became : OutboxState} {event : OutboxEvent}
    {row : CommandOutboxRow} {before : Database}
    (legal : outboxTransition was event = some became)
    (found : before.commandOutbox.find? commandId = some row)
    (compared : row.state = was) :
    exec (recordPublication commandId was event) before =
      (.ok became, moveCommand before commandId became) := by
  unfold recordPublication
  rw [exec_bind_of_ok (exec_demand_eq_ok.2 ⟨legal, rfl⟩),
    exec_bind_of_ok (exec_read _)]
  simp only [found]
  rw [exec_bind_of_ok (exec_require_of compared _ _),
    exec_bind_of_ok (exec_write _ _), exec_pure]

/-- The largest command batch a publisher reads. -/
def commandPublicationBatchSize : Nat := 50

/-- Oldest first, then by identity. -/
def CommandOutboxRow.precedes (left right : CommandOutboxRow) : Prop :=
  left.command.stagedAt < right.command.stagedAt ∨
    (left.command.stagedAt = right.command.stagedAt ∧
      left.command.commandId ≤ right.command.commandId)

instance : DecidableRel CommandOutboxRow.precedes := fun _ _ =>
  inferInstanceAs (Decidable (_ ∨ _))

/-- `outbox.pending`: a bounded batch of one recoverable state. -/
def pendingCommands (state : OutboxState) (limit : Nat) :
    StoreTx (List CommandOutboxRow) := do
  require (1 ≤ limit ∧ limit ≤ commandPublicationBatchSize)
    (.command .invalidReadLimit)
  require (state ≠ .confirmed) (.command .terminalRead)
  let database ← read
  let rows := database.commandOutbox.rows.filter fun row =>
    decide (row.state = state)
  pure ((rows.insertionSort CommandOutboxRow.precedes).take limit)

/-! ## The application outbox -/

/-- `application_outbox.stage` -/
def stageApplication (event : StagedApplicationEvent) : StoreTx Unit := do
  let database ← read
  let applicationOutbox ← demand
    (database.applicationOutbox.insert? ⟨event, .staged, none⟩)
    (.application .alreadyStaged)
  write { database with applicationOutbox }

theorem stageApplication_ok {event : StagedApplicationEvent}
    {before after : Database} {value : Unit} :
    exec (stageApplication event) before = (.ok value, after) ↔
      ∃ applicationOutbox,
        before.applicationOutbox.insert? ⟨event, .staged, none⟩ =
            some applicationOutbox ∧
          after = { before with applicationOutbox } := by
  simp only [stageApplication, exec_bind_eq_ok, exec_read, exec_demand_eq_ok,
    exec_write, Prod.mk.injEq, Except.ok.injEq]
  constructor
  · rintro ⟨_, _, ⟨rfl, rfl⟩, table, _, ⟨inserted, rfl⟩, _, rfl⟩
    exact ⟨table, inserted, rfl⟩
  · rintro ⟨table, inserted, rfl⟩
    exact ⟨_, _, ⟨rfl, rfl⟩, table, _, ⟨inserted, rfl⟩, trivial, rfl⟩

/-- `application_outbox.is_staged` -/
def Database.isStaged (database : Database) (producer eventId : String) :
    Bool :=
  (database.applicationOutbox.find? (producer, eventId)).isSome

/-- The largest application batch a publisher reads. -/
def applicationOutboxBatchSize : Nat := 50

/-- Oldest first, then by identity. -/
def ApplicationOutboxRow.precedes (left right : ApplicationOutboxRow) :
    Prop :=
  left.event.stagedAt < right.event.stagedAt ∨
    (left.event.stagedAt = right.event.stagedAt ∧
      left.event.eventId ≤ right.event.eventId)

instance : DecidableRel ApplicationOutboxRow.precedes := fun _ _ =>
  inferInstanceAs (Decidable (_ ∨ _))

/-- `application_outbox.pending` -/
def pendingApplication (producer : String) :
    StoreTx (List StagedApplicationEvent) := do
  let database ← read
  let rows := database.applicationOutbox.rows.filter fun row =>
    decide (row.event.producer = producer ∧ row.state = .staged)
  let batch := (rows.insertionSort ApplicationOutboxRow.precedes).take
    applicationOutboxBatchSize
  pure (batch.map ApplicationOutboxRow.event)

/-- `application_outbox.reconciliation`: ambiguous rows, never published. -/
def reconciliationApplication (producer : String) :
    StoreTx (List StagedApplicationEvent) := do
  let database ← read
  let rows := database.applicationOutbox.rows.filter fun row =>
    decide
      (row.event.producer = producer ∧ row.state = .reconciliationNeeded)
  let batch := (rows.insertionSort ApplicationOutboxRow.precedes).take
    applicationOutboxBatchSize
  pure (batch.map ApplicationOutboxRow.event)

/-- Move one application row from a compared state. -/
def moveApplication (database : Database) (key : String × String)
    (became : OutboxState) (confirmedAt : Option String) : Database :=
  { database with
    applicationOutbox := database.applicationOutbox.amend key
      (fun row => { row with state := became, confirmedAt })
      (fun _ => rfl) }

/-- `application_outbox.record_publication` -/
def recordApplicationPublication (producer eventId : String)
    (was : OutboxState) (event : OutboxEvent)
    (confirmedAt : Option String) : StoreTx OutboxState := do
  let became ← demand (outboxTransition was event) .outboxTransition
  require (became = .confirmed ↔ confirmedAt.isSome = true)
    (.application .confirmationEvidence)
  let database ← read
  match database.applicationOutbox.find? (producer, eventId) with
  | some row =>
      require (row.state = was) (.application .notInExpectedState)
      write (moveApplication database (producer, eventId) became confirmedAt)
      pure became
  | none => raise (.application .notInExpectedState)

theorem recordApplicationPublication_ok {producer eventId : String}
    {was became : OutboxState} {event : OutboxEvent}
    {confirmedAt : Option String} {before after : Database}
    (recorded :
      exec (recordApplicationPublication producer eventId was event
        confirmedAt) before = (.ok became, after)) :
    after = moveApplication before (producer, eventId) became
      confirmedAt := by
  simp only [recordApplicationPublication, exec_bind_eq_ok,
    exec_demand_eq_ok, exec_require_eq_ok, exec_read, Prod.mk.injEq,
    Except.ok.injEq] at recorded
  rcases recorded with
    ⟨state, _, ⟨_, rfl⟩, _, _, ⟨_, rfl⟩, _, _, ⟨rfl, rfl⟩, rest⟩
  split at rest
  · simp only [exec_bind_eq_ok, exec_require_eq_ok, exec_write, exec_pure,
      Prod.mk.injEq, Except.ok.injEq] at rest
    rcases rest with ⟨_, _, ⟨_, rfl⟩, _, _, ⟨_, rfl⟩, rfl, rfl⟩
    rfl
  · simp at rest

/-- An application publication is a legal move from the compared state. -/
theorem recordApplicationPublication_compared {producer eventId : String}
    {was became : OutboxState} {event : OutboxEvent}
    {confirmedAt : Option String} {before after : Database}
    (recorded :
      exec (recordApplicationPublication producer eventId was event
        confirmedAt) before = (.ok became, after)) :
    outboxTransition was event = some became ∧
      ∃ row,
        before.applicationOutbox.find? (producer, eventId) = some row ∧
          row.state = was := by
  simp only [recordApplicationPublication, exec_bind_eq_ok,
    exec_demand_eq_ok, exec_require_eq_ok, exec_read, Prod.mk.injEq,
    Except.ok.injEq] at recorded
  rcases recorded with
    ⟨state, _, ⟨legal, rfl⟩, _, _, ⟨_, rfl⟩, _, _, ⟨rfl, rfl⟩, rest⟩
  split at rest
  · next row found =>
      simp only [exec_bind_eq_ok, exec_require_eq_ok, exec_write, exec_pure,
        Prod.mk.injEq, Except.ok.injEq] at rest
      rcases rest with ⟨_, _, ⟨compared, rfl⟩, _, _, ⟨_, rfl⟩, rfl, _⟩
      exact ⟨legal, row, found, compared⟩
  · simp at rest

/-! ## Command progress -/

/-- The migrated ceiling on the send count. -/
def maximumSendCount : Nat := 5

/-- The row a newly staged command starts with. -/
def initialRow (identity : CommandIdentity) (updatedAt : String) :
    StoredCommandProgress where
  identity := identity
  progress := initialProgress
  lastSentAt := none
  deadlineAt := none
  resultId := none
  updatedAt := updatedAt

/-- `command_progress.initialize` -/
def initializeProgress (identity : CommandIdentity) (updatedAt : String) :
    StoreTx Unit := do
  let database ← read
  let progress ← demand
    (database.progress.insert? (initialRow identity updatedAt))
    (.progress .alreadyExists)
  write { database with progress }

theorem initializeProgress_ok {identity : CommandIdentity}
    {updatedAt : String} {before after : Database} {value : Unit} :
    exec (initializeProgress identity updatedAt) before =
        (.ok value, after) ↔
      ∃ progress,
        before.progress.insert? (initialRow identity updatedAt) =
            some progress ∧
          after = { before with progress } := by
  simp only [initializeProgress, exec_bind_eq_ok, exec_read,
    exec_demand_eq_ok, exec_write, Prod.mk.injEq, Except.ok.injEq]
  constructor
  · rintro ⟨_, _, ⟨rfl, rfl⟩, table, _, ⟨inserted, rfl⟩, _, rfl⟩
    exact ⟨table, inserted, rfl⟩
  · rintro ⟨table, inserted, rfl⟩
    exact ⟨_, _, ⟨rfl, rfl⟩, table, _, ⟨inserted, rfl⟩, trivial, rfl⟩

/-- `command_progress.load` -/
def loadProgress (commandId : String) : StoreTx StoredCommandProgress := do
  let database ← read
  let row ← demand (database.progress.find? commandId) (.progress .notFound)
  require (row.progress.sends ≤ maximumSendCount) (.progress .unreadableRow)
  pure row

theorem loadProgress_ok {commandId : String} {before after : Database}
    {row : StoredCommandProgress} :
    exec (loadProgress commandId) before = (.ok row, after) ↔
      before.progress.find? commandId = some row ∧
        row.progress.sends ≤ maximumSendCount ∧ after = before := by
  simp only [loadProgress, exec_bind_eq_ok, exec_read, exec_demand_eq_ok,
    exec_require_eq_ok, exec_pure, Prod.mk.injEq, Except.ok.injEq]
  constructor
  · rintro ⟨_, _, ⟨rfl, rfl⟩, _, _, ⟨found, rfl⟩, _, _, ⟨bounded, rfl⟩, rfl,
      rfl⟩
    exact ⟨found, bounded, rfl⟩
  · rintro ⟨found, bounded, rfl⟩
    exact ⟨_, _, ⟨rfl, rfl⟩, _, _, ⟨found, rfl⟩, (), _, ⟨bounded, rfl⟩, rfl,
      rfl⟩

/-- Adapter-owned facts stored with a transition. -/
structure TransitionFacts where
  lastSentAt : Option String
  deadlineAt : Option String
  resultId : Option String
  updatedAt : String
deriving DecidableEq

/-- A progress row after a transition. -/
def transitioned (current : StoredCommandProgress)
    (became : CommandProgress) (facts : TransitionFacts) :
    StoredCommandProgress where
  identity := current.identity
  progress := became
  lastSentAt := facts.lastSentAt
  deadlineAt := facts.deadlineAt
  resultId := facts.resultId
  updatedAt := facts.updatedAt

/-- `command_progress.record_transition`: a compare-and-set on the state. -/
def recordTransition (current : StoredCommandProgress) (event : CommandEvent)
    (budget : SendBudget) (facts : TransitionFacts) :
    StoreTx StoredCommandProgress := do
  require (current.progress.sends ≤ maximumSendCount)
    (.progress .sendCountOutOfRange)
  let became ← demand (advance current.progress event budget)
    .commandTransition
  require (became.sends ≤ maximumSendCount) (.progress .sendCountOutOfRange)
  let database ← read
  match database.progress.find? current.key with
  | some row =>
      require (row.progress = current.progress) (.progress .staleProgress)
      write
        { database with
          progress := database.progress.amend current.key
            (fun row => transitioned row became facts)
            (fun _ => rfl) }
      pure (transitioned current became facts)
  | none => raise (.progress .staleProgress)

/-- A recorded transition is a legal one of the row it was compared with. -/
theorem recordTransition_ok {current next : StoredCommandProgress}
    {event : CommandEvent} {budget : SendBudget} {facts : TransitionFacts}
    {before after : Database}
    (recorded :
      exec (recordTransition current event budget facts) before =
        (.ok next, after)) :
    ∃ became,
      advance current.progress event budget = some became ∧
        next = transitioned current became facts ∧
        after =
          { before with
            progress := before.progress.amend current.key
              (fun row => transitioned row became facts)
              (fun _ => rfl) } := by
  simp only [recordTransition, exec_bind_eq_ok, exec_require_eq_ok,
    exec_demand_eq_ok, exec_read, Prod.mk.injEq, Except.ok.injEq] at recorded
  rcases recorded with
    ⟨_, _, ⟨_, rfl⟩, became, _, ⟨legal, rfl⟩, _, _, ⟨_, rfl⟩, _, _,
      ⟨rfl, rfl⟩, rest⟩
  split at rest
  · simp only [exec_bind_eq_ok, exec_require_eq_ok, exec_write, exec_pure,
      Prod.mk.injEq, Except.ok.injEq] at rest
    rcases rest with ⟨_, _, ⟨_, rfl⟩, _, _, ⟨_, rfl⟩, rfl, rfl⟩
    exact ⟨became, legal, rfl, rfl⟩
  · simp at rest

/-- A transition that the lifecycle refuses changes nothing. -/
theorem recordTransition_illegal {current : StoredCommandProgress}
    {event : CommandEvent} {budget : SendBudget} {facts : TransitionFacts}
    {before after : Database}
    (refused :
      exec (recordTransition current event budget facts) before =
        (.error .commandTransition, after)) :
    after = before ∧ advance current.progress event budget = none := by
  simp only [recordTransition, exec_bind_eq_error, exec_require_eq_error,
    exec_demand_eq_error, exec_require_eq_ok, exec_demand_eq_ok, exec_read,
    reduceCtorEq, Prod.mk.injEq, false_and, and_false, false_or,
    Except.ok.injEq] at refused
  rcases refused with ⟨_, _, ⟨_, rfl⟩, ⟨none, _, rfl⟩ | ⟨_, _, _, _, _, _,
    rest⟩⟩
  · exact ⟨rfl, none⟩
  · rcases rest with ⟨database, _, ⟨rfl, rfl⟩, rest⟩
    split at rest
    · simp only [exec_bind_eq_error, exec_require_eq_error, exec_write,
        exec_pure, reduceCtorEq, Prod.mk.injEq, false_and, and_false,
        false_or, exists_false] at rest
    · simp at rest

/-- A legal transition of the stored row is recorded. -/
theorem recordTransition_of {current : StoredCommandProgress}
    {event : CommandEvent} {budget : SendBudget} {facts : TransitionFacts}
    {became : CommandProgress} {before : Database}
    (found : before.progress.find? current.key = some current)
    (bounded : current.progress.sends ≤ maximumSendCount)
    (legal : advance current.progress event budget = some became)
    (within : became.sends ≤ maximumSendCount) :
    exec (recordTransition current event budget facts) before =
      (.ok (transitioned current became facts),
        { before with
          progress := before.progress.amend current.key
            (fun row => transitioned row became facts)
            (fun _ => rfl) }) := by
  unfold recordTransition
  rw [exec_bind_of_ok (exec_require_of bounded _ _),
    exec_bind_of_ok (exec_demand_eq_ok.2 ⟨legal, rfl⟩),
    exec_bind_of_ok (exec_require_of within _ _),
    exec_bind_of_ok (exec_read _)]
  simp only [found]
  rw [exec_bind_of_ok (exec_require_of rfl _ _),
    exec_bind_of_ok (exec_write _ _), exec_pure]

/-- A transition that the lifecycle lacks is refused. -/
theorem recordTransition_refused {current : StoredCommandProgress}
    {event : CommandEvent} {budget : SendBudget} {facts : TransitionFacts}
    {before : Database}
    (bounded : current.progress.sends ≤ maximumSendCount)
    (illegal : advance current.progress event budget = none) :
    exec (recordTransition current event budget facts) before =
      (.error .commandTransition, before) := by
  unfold recordTransition
  rw [exec_bind_of_ok (exec_require_of bounded _ _),
    exec_bind_of_error (exec_demand_eq_error.2 ⟨illegal, rfl, rfl⟩)]

end AerialRescue.Store
