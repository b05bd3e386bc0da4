import AerialRescue.Gateway.Publication
import AerialRescue.Lib.Run
import Mathlib.Logic.Function.Basic

/-!
# Outbox workers

Publishers, reconcilers and recoveries that act on the two outboxes at once.  A
worker runs from one transaction or broker call to the next, and between two
of them it has only its memory: the batch it read, which may be stale by then.
A crash clears the memory.  What the broker and its evidence answered is kept
as a history beside the store.
-/

namespace AerialRescue.Gateway

open AerialRescue.Contracts
open AerialRescue.Contracts.Canonical
open AerialRescue.Contracts.Instant
open AerialRescue.Domain.Commands
open AerialRescue.Lib
open AerialRescue.Lib.Guard
open AerialRescue.Lib.Run
open AerialRescue.Lib.Transaction
open AerialRescue.Store

/-! ## The states of a row -/

/-- The publication state of a command, if it is staged at all. -/
def commandState (database : Database) (commandId : String) :
    Option OutboxState :=
  (database.commandOutbox.find? commandId).map CommandOutboxRow.state

/-- The publication state of an application event. -/
def applicationState (database : Database) (key : String × String) :
    Option OutboxState :=
  (database.applicationOutbox.find? key).map ApplicationOutboxRow.state

/-- How far a row is in its lifecycle. -/
def lifecycleRank : OutboxState → Nat
  | .staged => 0
  | .reconciliationNeeded => 1
  | .confirmed => 2

/-- A row is kept, and its state does not go back. -/
def Onward : Option OutboxState → Option OutboxState → Prop
  | none, none => True
  | some before, some after => lifecycleRank before ≤ lifecycleRank after
  | _, _ => False

@[refl]
theorem Onward.refl (state : Option OutboxState) : Onward state state := by
  cases state with
  | none => trivial
  | some state => exact Nat.le_refl _

theorem Onward.trans {first second third : Option OutboxState}
    (early : Onward first second) (late : Onward second third) :
    Onward first third := by
  cases first <;> cases second <;> cases third <;>
    simp_all only [Onward]
  exact Nat.le_trans early late

theorem Onward.of_transition {was became : OutboxState} {event : OutboxEvent}
    (legal : outboxTransition was event = some became) :
    Onward (some was) (some became) := by
  cases was <;> cases event <;> cases legal <;>
    simp [Onward, lifecycleRank]

theorem Onward.confirmed {after : Option OutboxState}
    (onward : Onward (some .confirmed) after) : after = some .confirmed := by
  cases after with
  | none => exact onward.elim
  | some state =>
      cases state with
      | confirmed => rfl
      | staged => exact absurd onward (by simp [Onward, lifecycleRank])
      | reconciliationNeeded => exact absurd onward (by simp [Onward, lifecycleRank])

/-- What has left the staged state does not come back to it. -/
theorem Onward.unstaged {before after : Option OutboxState}
    (onward : Onward before after) (left : before ≠ some .staged) :
    after ≠ some .staged := by
  rintro rfl
  cases before with
  | none => exact onward
  | some state =>
      cases state with
      | staged => exact left rfl
      | reconciliationNeeded => exact absurd onward (by simp [Onward, lifecycleRank])
      | confirmed => exact absurd onward (by simp [Onward, lifecycleRank])

theorem confirmed_of_transition {was became : OutboxState}
    {event : OutboxEvent} (legal : outboxTransition was event = some became)
    (confirmed : became = .confirmed) : event = .confirm := by
  cases was <;> cases event <;> cases legal <;> first | rfl | cases confirmed

theorem commandState_moveCommand (database : Database)
    (moved commandId : String) (became : OutboxState) :
    commandState (moveCommand database moved became) commandId =
      if commandId = moved then
        (commandState database commandId).map fun _ => became
      else commandState database commandId := by
  have amended :
      (moveCommand database moved became).commandOutbox.find? commandId = _ :=
    Table.find?_amend database.commandOutbox moved
      (fun row => { row with state := became }) (fun _ => rfl) commandId
  unfold commandState
  rw [amended]
  split
  · rw [Option.map_map, Option.map_map]
    rfl
  · rfl

theorem applicationState_moveApplication (database : Database)
    (moved key : String × String) (became : OutboxState)
    (confirmedAt : Option String) :
    applicationState (moveApplication database moved became confirmedAt) key =
      if key = moved then
        (applicationState database key).map fun _ => became
      else applicationState database key := by
  have amended :
      (moveApplication database moved became
        confirmedAt).applicationOutbox.find? key = _ :=
    Table.find?_amend database.applicationOutbox moved
      (fun row => { row with state := became, confirmedAt })
      (fun _ => rfl) key
  unfold applicationState
  rw [amended]
  split
  · rw [Option.map_map, Option.map_map]
    rfl
  · rfl

/-! ## What one transaction does -/

/-- `StoreCommandOutbox.record` moves its row from the compared state. -/
theorem recordCommand_cases (commandId : String) (was : OutboxState)
    (event : OutboxEvent) (confirmedAt : Option String) (before : World) :
    (∃ became after,
      exec (recordCommand commandId was event confirmedAt) before =
          (.ok (), after) ∧
        commandState before.database commandId = some was ∧
          outboxTransition was event = some became ∧
            after.database = moveCommand before.database commandId became) ∨
      ∃ failure,
        exec (recordCommand commandId was event confirmedAt) before =
          (.error failure, before) := by
  unfold recordCommand
  by_cases shaped : event = .confirm ↔ confirmedAt.isSome = true
  · rw [exec_bind_of_ok (exec_require_of shaped _ _)]
    by_cases timed : (confirmedAt.all fun text =>
        (parseInstant text).isOk) = true
    · rw [exec_bind_of_ok (exec_require_of timed _ _)]
      rcases transaction_cases (rethrow Failure.store
          (recordPublication commandId was event)) before with
        ⟨became, database, recorded, committed⟩ | ⟨_, failure, raised⟩
      · rw [exec_bind_of_ok committed]
        have stored := exec_rethrow_eq_ok.1 recorded
        rcases recordPublication_ok stored with ⟨legal, moved⟩
        rcases recordPublication_compared stored with ⟨row, found, compared⟩
        refine .inl ⟨became, _, rfl, ?_, legal, moved⟩
        rw [commandState, found, Option.map_some, compared]
      · exact .inr ⟨failure, exec_bind_of_error raised⟩
    · refine .inr ⟨.adapter .confirmation, exec_bind_of_error ?_⟩
      exact (exec_require_eq_error _).2 ⟨timed, rfl, rfl⟩
  · refine .inr ⟨.adapter .confirmation, exec_bind_of_error ?_⟩
    exact (exec_require_eq_error _).2 ⟨shaped, rfl, rfl⟩

/-- `StoreApplicationOutbox.record` moves its row out of the staged state. -/
theorem recordApplication_cases (event : StagedApplicationEvent)
    (outcome : OutboxEvent) (confirmedAt : Option String) (before : World) :
    (∃ became after,
      exec (recordApplication event outcome confirmedAt) before =
          (.ok (), after) ∧
        applicationState before.database (event.producer, event.eventId) =
            some .staged ∧
          outboxTransition .staged outcome = some became ∧
            after.database =
              moveApplication before.database
                (event.producer, event.eventId) became confirmedAt) ∨
      ∃ failure,
        exec (recordApplication event outcome confirmedAt) before =
          (.error failure, before) := by
  unfold recordApplication
  rcases transaction_cases (rethrow Failure.store
      (recordApplicationPublication event.producer event.eventId .staged
        outcome confirmedAt)) before with
    ⟨became, database, recorded, committed⟩ | ⟨_, failure, raised⟩
  · rw [exec_bind_of_ok committed]
    have stored := exec_rethrow_eq_ok.1 recorded
    rcases recordApplicationPublication_compared stored with
      ⟨legal, row, found, compared⟩
    refine .inl ⟨became, _, rfl, ?_, legal,
      recordApplicationPublication_ok stored⟩
    rw [applicationState, found, Option.map_some, compared]
  · exact .inr ⟨failure, exec_bind_of_error raised⟩

/-! ## Workers -/

/-- What the broker or its evidence answered, and the row's state then. -/
inductive BrokerEvent where
  | command (commandId : String) (found : Option OutboxState)
      (answer : BrokerAnswer)
  | application (key : String × String) (found : Option OutboxState)
      (answer : BrokerAnswer)
  | evidence (commandId : String) (confirms : Bool)
deriving DecidableEq

/-- What a worker remembers between two of its suspension points. -/
inductive Worker where
  | idle
  | events (recovering : Bool) (confirmedAt : String)
      (report : PublicationReport) (rest : List StagedApplicationEvent)
  | eventAnswered (recovering : Bool) (confirmedAt : String)
      (report : PublicationReport) (event : StagedApplicationEvent)
      (outcome : OutboxEvent) (rest : List StagedApplicationEvent)
  | eventsDrained
  | commandsDue
  | commands (recovering : Bool) (confirmedAt : String)
      (report : PublicationReport) (rest : List CommandOutboxRow)
  | commandAnswered (recovering : Bool) (confirmedAt : String)
      (report : PublicationReport) (row : CommandOutboxRow)
      (outcome : OutboxEvent) (rest : List CommandOutboxRow)
  | commandsDrained
  | evidenceDue (row : CommandOutboxRow) (confirmedAt : String)
  | evidenced (row : CommandOutboxRow) (confirmedAt : String)
  | ready

/-- What a worker meets at its next suspension point. -/
structure Seen where
  answer : BrokerAnswer
  confirms : Bool
  observedAt : String
  restored : Bool

/-- A call that an idle worker starts. -/
inductive WorkerCall where
  | publishApplicationBatch (confirmedAt : String)
  | publishBatch (confirmedAt : String)
  | reconcilePublication (row : CommandOutboxRow) (confirmedAt : String)
  | recoverApplication (connected : Bool) (observedAt : String)

/-- The next thing that happens to a worker. -/
inductive WorkerAction where
  | call (call : WorkerCall)
  | resume (seen : Seen)
  | crash

/-- What an outcome is recorded with. -/
def confirmation (outcome : OutboxEvent) (confirmedAt : String) :
    Option String :=
  match outcome with
  | .confirm => some confirmedAt
  | .ambiguous => none

/-- The answer that an outcome was. -/
def answerOf : OutboxEvent → BrokerAnswer
  | .confirm => .confirmed
  | .ambiguous => .ambiguous

/-- A worker runs one transaction; what it raises ends its call. -/
def turn {α : Type} (body : Handler α) (world : World) (next : α → Worker) :
    World × Worker :=
  match exec body world with
  | (.ok value, after) => (after, next value)
  | (.error _, after) => (after, .idle)

/-- The read that opens `publish_application_batch`. -/
def openEvents (confirmedAt : String) :
    Handler (List StagedApplicationEvent) := do
  require ((parseInstant confirmedAt).isOk = true)
    (.publication .confirmation)
  transaction (rethrow Failure.store (pendingApplication producer))

/-- A read of the command outbox in one state. -/
def readCommands (state : OutboxState) : Handler (List CommandOutboxRow) :=
  transaction (rethrow Failure.store
    (pendingCommands state commandPublicationBatchSize))

/-- `StoreApplicationOutbox.reconciliation` -/
def readAmbiguousEvents : Handler (List StagedApplicationEvent) :=
  transaction (rethrow Failure.store (reconciliationApplication producer))

section Step

variable (host : Host)

/-- The first turn of a call. -/
def beginCall (world : World) : WorkerCall → World × Worker
  | .publishApplicationBatch confirmedAt =>
      turn (openEvents confirmedAt) world
        (.events false confirmedAt .zero)
  | .publishBatch confirmedAt =>
      turn (readCommands .staged) world (.commands false confirmedAt .zero)
  | .reconcilePublication row confirmedAt =>
      turn (require (row.state = .reconciliationNeeded)
        (.publication .state)) world fun _ => .evidenceDue row confirmedAt
  | .recoverApplication connected observedAt =>
      if connected then
        turn (openEvents observedAt) world (.events true observedAt .zero)
      else
        (world, .idle)

/-- The worker after the broker answered for an event. -/
def eventPublished (recovering : Bool) (confirmedAt : String)
    (report : PublicationReport) (event : StagedApplicationEvent)
    (rest : List StagedApplicationEvent) : BrokerAnswer → Worker
  | .refused => .events recovering confirmedAt (report.count .refused) rest
  | .failed => .idle
  | .ambiguous =>
      .eventAnswered recovering confirmedAt report event .ambiguous rest
  | .confirmed =>
      .eventAnswered recovering confirmedAt report event .confirm rest

/-- The worker after the broker answered for a command. -/
def commandPublished (recovering : Bool) (confirmedAt : String)
    (report : PublicationReport) (row : CommandOutboxRow)
    (rest : List CommandOutboxRow) : BrokerAnswer → Worker
  | .refused => .commands recovering confirmedAt (report.count .refused) rest
  | .failed => .idle
  | .ambiguous =>
      .commandAnswered recovering confirmedAt report row .ambiguous rest
  | .confirmed =>
      .commandAnswered recovering confirmedAt report row .confirm rest

/-- The checks that `_publish_one` makes before the broker call. -/
def publishable (row : CommandOutboxRow) : Except Failure String := do
  ensure (row.state = .staged) (.publication .state)
  publicationTopic host row.command

/-- A worker runs to its next suspension point. -/
def resume (seen : Seen) (world : World) :
    Worker → (World × Worker) × List BrokerEvent
  | .events recovering _ report [] =>
      ((world,
        if recovering = true ∧ report.ambiguous = 0 ∧ report.refused = 0 ∧
            report.visited = 0 then
          .eventsDrained
        else .idle), [])
  | .events recovering confirmedAt report (event :: rest) =>
      match applicationProperties host event with
      | .error _ => ((world, .idle), [])
      | .ok _ =>
          ((world,
            eventPublished recovering confirmedAt report event rest
              seen.answer),
            [.application (event.producer, event.eventId)
              (applicationState world.database
                (event.producer, event.eventId)) seen.answer])
  | .eventAnswered recovering confirmedAt report event outcome rest =>
      (turn (recordApplication event outcome
          (confirmation outcome confirmedAt)) world fun _ =>
        .events recovering confirmedAt (report.count (answerOf outcome)) rest,
        [])
  | .eventsDrained =>
      (turn readAmbiguousEvents world fun found =>
        if found.isEmpty then .commandsDue else .idle, [])
  | .commandsDue =>
      (turn (readCommands .staged) world
        (.commands true seen.observedAt .zero), [])
  | .commands recovering _ report [] =>
      ((world,
        if recovering = true ∧ report.ambiguous = 0 ∧ report.refused = 0 ∧
            report.confirmed = 0 then
          .commandsDrained
        else .idle), [])
  | .commands recovering confirmedAt report (row :: rest) =>
      match publishable host row with
      | .error _ => ((world, .idle), [])
      | .ok _ =>
          ((world,
            commandPublished recovering confirmedAt report row rest
              seen.answer),
            [.command row.command.commandId
              (commandState world.database row.command.commandId)
              seen.answer])
  | .commandAnswered recovering confirmedAt report row outcome rest =>
      (turn (recordCommand row.command.commandId row.state outcome
          (confirmation outcome confirmedAt)) world fun _ =>
        .commands recovering confirmedAt (report.count (answerOf outcome))
          rest, [])
  | .commandsDrained =>
      (turn (readCommands .reconciliationNeeded) world fun found =>
        if found.isEmpty = true ∧ seen.restored = true then .ready
        else .idle, [])
  | .evidenceDue row confirmedAt =>
      ((world, if seen.confirms then .evidenced row confirmedAt else .idle),
        [.evidence row.command.commandId seen.confirms])
  | .evidenced row confirmedAt =>
      (turn (recordCommand row.command.commandId row.state .confirm
        (some confirmedAt)) world fun _ => .idle, [])
  | .idle => ((world, .idle), [])
  | .ready => ((world, .ready), [])

/-- What one action does with the memory of the worker that takes it. -/
def takeAction (world : World) (worker : Worker) :
    WorkerAction → (World × Worker) × List BrokerEvent
  | .call call =>
      match worker with
      | .idle | .ready => (beginCall world call, [])
      | busy => ((world, busy), [])
  | .resume seen => resume host seen world worker
  | .crash => ((world, .idle), [])

end Step

/-- The store, the workers' memories and what the broker answered. -/
structure OutboxSystem (ι : Type) where
  world : World
  workers : ι → Worker
  history : List BrokerEvent

variable {ι : Type}

/-- No worker runs, and the broker has answered nothing. -/
def OutboxSystem.start (world : World) : OutboxSystem ι where
  world := world
  workers := fun _ => .idle
  history := []

/-- One worker takes one action. -/
def outboxStep [DecidableEq ι] (host : Host) (system : OutboxSystem ι)
    (taken : ι × WorkerAction) : OutboxSystem ι :=
  let next := takeAction host system.world (system.workers taken.1) taken.2
  { world := next.1.1
    workers := Function.update system.workers taken.1 next.1.2
    history := system.history ++ next.2 }

/-! ## What a batch reads -/

/-- The rows of one state that a batch of commands read. -/
structure ReadsCommands (database : Database) (state : OutboxState)
    (rows : List CommandOutboxRow) : Prop where
  member : ∀ row ∈ rows,
    commandState database row.command.commandId = some state ∧
      row.state = state
  distinct : (rows.map CommandOutboxRow.key).Nodup
  total : rows = [] → ∀ commandId, commandState database commandId ≠ some state

/-- The events of one state that a batch of the gateway's own events read. -/
structure ReadsEvents (database : Database) (state : OutboxState)
    (events : List StagedApplicationEvent) : Prop where
  member : ∀ event ∈ events,
    applicationState database (event.producer, event.eventId) = some state
  distinct :
    (events.map fun event => (event.producer, event.eventId)).Nodup
  total : events = [] →
    ∀ eventId, applicationState database (producer, eventId) ≠ some state

section Batches

variable {ρ : Type} {order : ρ → ρ → Prop} [DecidableRel order]
  {rows : List ρ} {limit : Nat}

/-- A bounded sorted batch holds rows of its selection only. -/
theorem mem_of_batch {row : ρ}
    (member : row ∈ (rows.insertionSort order).take limit) : row ∈ rows :=
  (List.perm_insertionSort order rows).mem_iff.1
    (List.mem_of_mem_take member)

/-- A bounded batch is empty when its selection is. -/
theorem eq_nil_of_batch (room : 0 < limit)
    (empty : (rows.insertionSort order).take limit = []) : rows = [] := by
  rcases List.take_eq_nil_iff.1 empty with none | sorted
  · omega
  · have same := (List.perm_insertionSort order rows).length_eq
    rw [sorted, List.length_nil] at same
    exact List.length_eq_zero_iff.1 same.symm

theorem batch_nodup {κ : Type} {key : ρ → κ}
    (distinct : (rows.map key).Nodup) :
    (((rows.insertionSort order).take limit).map key).Nodup := by
  have sorted : ((rows.insertionSort order).map key).Nodup :=
    ((List.perm_insertionSort order rows).map key).nodup_iff.2 distinct
  exact sorted.sublist ((List.take_sublist limit _).map key)

end Batches

theorem readCommands_ok {state : OutboxState} {before after : World}
    {rows : List CommandOutboxRow}
    (returned : exec (readCommands state) before = (.ok rows, after)) :
    after.database = before.database ∧
      ReadsCommands before.database state rows := by
  have stored := exec_rethrow_eq_ok.1 (transaction_ok.1 returned).1
  simp only [pendingCommands, exec_bind_eq_ok, exec_require_eq_ok, exec_read,
    exec_pure, Prod.mk.injEq, Except.ok.injEq] at stored
  rcases stored with ⟨_, _, ⟨_, rfl⟩, _, _, ⟨_, rfl⟩, _, _, ⟨rfl, rfl⟩, rfl,
    same⟩
  refine ⟨same.symm, ?_, ?_, ?_⟩
  · intro row member
    have chosen := List.mem_filter.1 (mem_of_batch member)
    have held : row.state = state := of_decide_eq_true chosen.2
    have found : before.database.commandOutbox.find? row.key = some row :=
      Table.find?_eq_some.2 ⟨chosen.1, rfl⟩
    refine ⟨?_, held⟩
    rw [commandState]
    exact (congrArg (Option.map CommandOutboxRow.state) found).trans
      (congrArg some held)
  · refine batch_nodup ?_
    exact before.database.commandOutbox.distinct.sublist
      (List.filter_sublist.map _)
  · intro empty commandId found
    have none := eq_nil_of_batch (by decide) empty
    rcases Option.map_eq_some_iff.1 found with ⟨row, held, stateOf⟩
    exact List.filter_eq_nil_iff.1 none row (Table.find?_mem held)
      (decide_eq_true stateOf)

/-- What a read of the gateway's own events selects. -/
theorem readsEvents_of_batch {database : Database} {state : OutboxState} :
    ReadsEvents database state
      ((((database.applicationOutbox.rows.filter fun row =>
          decide (row.event.producer = producer ∧ row.state = state)
        ).insertionSort ApplicationOutboxRow.precedes).take
          applicationOutboxBatchSize).map ApplicationOutboxRow.event) := by
  refine ⟨?_, ?_, ?_⟩
  · intro event member
    rcases List.mem_map.1 member with ⟨row, batched, rfl⟩
    have chosen := List.mem_filter.1 (mem_of_batch batched)
    have held := of_decide_eq_true chosen.2
    have found :
        database.applicationOutbox.find?
          (row.event.producer, row.event.eventId) = some row :=
      Table.find?_eq_some.2 ⟨chosen.1, rfl⟩
    rw [applicationState, found, Option.map_some, held.2]
  · rw [List.map_map]
    refine batch_nodup ?_
    exact database.applicationOutbox.distinct.sublist
      (List.filter_sublist.map _)
  · intro empty eventId found
    have none := eq_nil_of_batch (by decide) (List.map_eq_nil_iff.1 empty)
    rcases Option.map_eq_some_iff.1 found with ⟨row, held, stateOf⟩
    have owned := congrArg Prod.fst (Table.find?_key held)
    exact List.filter_eq_nil_iff.1 none row (Table.find?_mem held)
      (decide_eq_true ⟨owned, stateOf⟩)

theorem openEvents_ok {confirmedAt : String} {before after : World}
    {events : List StagedApplicationEvent}
    (returned : exec (openEvents confirmedAt) before = (.ok events, after)) :
    after.database = before.database ∧
      ReadsEvents before.database .staged events := by
  simp only [openEvents, exec_bind_eq_ok, exec_require_eq_ok] at returned
  rcases returned with ⟨_, _, ⟨_, rfl⟩, read⟩
  have stored := exec_rethrow_eq_ok.1 (transaction_ok.1 read).1
  simp only [pendingApplication, exec_bind_eq_ok, exec_read, exec_pure,
    Prod.mk.injEq, Except.ok.injEq] at stored
  rcases stored with ⟨_, _, ⟨rfl, rfl⟩, rfl, same⟩
  exact ⟨same.symm, readsEvents_of_batch⟩

theorem readAmbiguousEvents_ok {before after : World}
    {events : List StagedApplicationEvent}
    (returned : exec readAmbiguousEvents before = (.ok events, after)) :
    after.database = before.database ∧
      ReadsEvents before.database .reconciliationNeeded events := by
  have stored := exec_rethrow_eq_ok.1 (transaction_ok.1 returned).1
  simp only [reconciliationApplication, exec_bind_eq_ok, exec_read, exec_pure,
    Prod.mk.injEq, Except.ok.injEq] at stored
  rcases stored with ⟨_, _, ⟨rfl, rfl⟩, rfl, same⟩
  exact ⟨same.symm, readsEvents_of_batch⟩

/-! ## What one action can do -/

/-- A report of a turn that changed and refused nothing. -/
def Untouched (report : PublicationReport) : Prop :=
  report.ambiguous = 0 ∧ report.refused = 0 ∧ report.confirmed = 0

/-- Everything that one action can do to a worker and to the store. -/
inductive Turned (world : World) :
    Worker → (World × Worker) × List BrokerEvent → Prop
  | stopped {worker : Worker} {after : World}
      (same : after.database = world.database) :
      Turned world worker ((after, .idle), [])
  | waits {worker : Worker} : Turned world worker ((world, worker), [])
  | eventsOpened {worker : Worker} {recovering : Bool} {confirmedAt : String}
      {events : List StagedApplicationEvent} {after : World}
      (same : after.database = world.database)
      (reads : ReadsEvents world.database .staged events) :
      Turned world worker
        ((after, .events recovering confirmedAt .zero events), [])
  | eventPublished {recovering : Bool} {confirmedAt : String}
      {report : PublicationReport} {event : StagedApplicationEvent}
      {rest : List StagedApplicationEvent} {answer : BrokerAnswer} :
      Turned world (.events recovering confirmedAt report (event :: rest))
        ((world,
          eventPublished recovering confirmedAt report event rest answer),
          [.application (event.producer, event.eventId)
            (applicationState world.database
              (event.producer, event.eventId)) answer])
  | eventRecorded {recovering : Bool} {confirmedAt : String}
      {report : PublicationReport} {event : StagedApplicationEvent}
      {outcome : OutboxEvent} {rest : List StagedApplicationEvent}
      {became : OutboxState} {after : World}
      (held :
        applicationState world.database (event.producer, event.eventId) =
          some .staged)
      (legal : outboxTransition .staged outcome = some became)
      (moved :
        after.database =
          moveApplication world.database (event.producer, event.eventId)
            became (confirmation outcome confirmedAt)) :
      Turned world
        (.eventAnswered recovering confirmedAt report event outcome rest)
        ((after,
          .events recovering confirmedAt (report.count (answerOf outcome))
            rest), [])
  | eventsDrained {confirmedAt : String} {report : PublicationReport}
      (none : report.visited = 0) :
      Turned world (.events true confirmedAt report [])
        ((world, .eventsDrained), [])
  | eventsSettled {after : World} (same : after.database = world.database)
      (reads : ReadsEvents world.database .reconciliationNeeded []) :
      Turned world .eventsDrained ((after, .commandsDue), [])
  | commandsOpened {worker : Worker} {recovering : Bool}
      {confirmedAt : String} {rows : List CommandOutboxRow} {after : World}
      (due : recovering = true → worker = .commandsDue)
      (same : after.database = world.database)
      (reads : ReadsCommands world.database .staged rows) :
      Turned world worker
        ((after, .commands recovering confirmedAt .zero rows), [])
  | commandPublished {recovering : Bool} {confirmedAt : String}
      {report : PublicationReport} {row : CommandOutboxRow}
      {rest : List CommandOutboxRow} {answer : BrokerAnswer}
      (staged : row.state = .staged) :
      Turned world (.commands recovering confirmedAt report (row :: rest))
        ((world,
          commandPublished recovering confirmedAt report row rest answer),
          [.command row.command.commandId
            (commandState world.database row.command.commandId) answer])
  | commandRecorded {recovering : Bool} {confirmedAt : String}
      {report : PublicationReport} {row : CommandOutboxRow}
      {outcome : OutboxEvent} {rest : List CommandOutboxRow}
      {became : OutboxState} {after : World}
      (held :
        commandState world.database row.command.commandId = some row.state)
      (legal : outboxTransition row.state outcome = some became)
      (moved :
        after.database =
          moveCommand world.database row.command.commandId became) :
      Turned world
        (.commandAnswered recovering confirmedAt report row outcome rest)
        ((after,
          .commands recovering confirmedAt (report.count (answerOf outcome))
            rest), [])
  | commandsDrained {confirmedAt : String} {report : PublicationReport}
      (untouched : Untouched report) :
      Turned world (.commands true confirmedAt report [])
        ((world, .commandsDrained), [])
  | ready {after : World} (same : after.database = world.database)
      (reads : ReadsCommands world.database .reconciliationNeeded []) :
      Turned world .commandsDrained ((after, .ready), [])
  | evidenceDue {worker : Worker} {row : CommandOutboxRow}
      {confirmedAt : String} {after : World}
      (same : after.database = world.database)
      (ambiguous : row.state = .reconciliationNeeded) :
      Turned world worker ((after, .evidenceDue row confirmedAt), [])
  | evidenced {row : CommandOutboxRow} {confirmedAt : String}
      {confirms : Bool} :
      Turned world (.evidenceDue row confirmedAt)
        ((world, if confirms then .evidenced row confirmedAt else .idle),
          [.evidence row.command.commandId confirms])
  | reconciled {row : CommandOutboxRow} {confirmedAt : String}
      {became : OutboxState} {after : World}
      (held :
        commandState world.database row.command.commandId = some row.state)
      (legal : outboxTransition row.state .confirm = some became)
      (moved :
        after.database =
          moveCommand world.database row.command.commandId became) :
      Turned world (.evidenced row confirmedAt) ((after, .idle), [])

/-- A turn of a body that keeps the store where it raises. -/
theorem turn_cases {α : Type} (body : Handler α) (world : World)
    (next : α → Worker)
    (keeps : ∀ failure after, exec body world = (.error failure, after) →
      after.database = world.database) :
    (∃ value after,
      exec body world = (.ok value, after) ∧
        turn body world next = (after, next value)) ∨
      ∃ after : World,
        after.database = world.database ∧
          turn body world next = (after, .idle) := by
  unfold turn
  rcases outcome : exec body world with ⟨result, after⟩
  cases result with
  | ok value => exact .inl ⟨value, after, rfl, rfl⟩
  | error failure => exact .inr ⟨after, keeps failure after outcome, rfl⟩

/-- A transaction keeps the store where it raises. -/
theorem transaction_keeps {α : Type} {body : Body α} {world after : World}
    {failure : Failure}
    (raised : exec (transaction body) world = (.error failure, after)) :
    after.database = world.database :=
  congrArg World.database (transaction_error raised).1

theorem openEvents_keeps {confirmedAt : String} {world after : World}
    {failure : Failure}
    (raised : exec (openEvents confirmedAt) world = (.error failure, after)) :
    after.database = world.database := by
  simp only [openEvents, exec_bind_eq_error, exec_require_eq_error,
    exec_require_eq_ok] at raised
  rcases raised with ⟨_, _, rfl⟩ | ⟨_, _, ⟨_, rfl⟩, read⟩
  · rfl
  · exact transaction_keeps read

/-- A call to publish events reads its batch or raises. -/
theorem turned_openEvents (worker : Worker) (recovering : Bool)
    (confirmedAt : String) (world : World) :
    Turned world worker
      (turn (openEvents confirmedAt) world
        (.events recovering confirmedAt .zero), []) := by
  rcases turn_cases (openEvents confirmedAt) world
      (.events recovering confirmedAt .zero)
      (fun _ _ => openEvents_keeps) with
    ⟨events, after, returned, turned⟩ | ⟨after, same, turned⟩
  · rw [turned]
    exact .eventsOpened (openEvents_ok returned).1 (openEvents_ok returned).2
  · rw [turned]
    exact .stopped same

/-- A call to publish commands reads its batch or raises. -/
theorem turned_readCommands {worker : Worker} {recovering : Bool}
    (due : recovering = true → worker = .commandsDue) (confirmedAt : String)
    (world : World) :
    Turned world worker
      (turn (readCommands .staged) world
        (.commands recovering confirmedAt .zero), []) := by
  rcases turn_cases (readCommands .staged) world
      (.commands recovering confirmedAt .zero)
      (fun _ _ => transaction_keeps) with
    ⟨rows, after, returned, turned⟩ | ⟨after, same, turned⟩
  · rw [turned]
    exact .commandsOpened due (readCommands_ok returned).1
      (readCommands_ok returned).2
  · rw [turned]
    exact .stopped same

theorem turned_beginCall (worker : Worker) (world : World) (call : WorkerCall) :
    Turned world worker (beginCall world call, []) := by
  cases call with
  | publishApplicationBatch confirmedAt =>
      exact turned_openEvents worker false confirmedAt world
  | publishBatch confirmedAt =>
      exact turned_readCommands (fun recovering => by cases recovering)
        confirmedAt world
  | reconcilePublication row confirmedAt =>
      simp only [beginCall, turn]
      by_cases ambiguous : row.state = .reconciliationNeeded
      · rw [exec_require_of ambiguous]
        exact .evidenceDue rfl ambiguous
      · rw [(exec_require_eq_error _).2 ⟨ambiguous, rfl, rfl⟩]
        exact .stopped rfl
  | recoverApplication connected observedAt =>
      cases connected with
      | false => exact .stopped rfl
      | true => exact turned_openEvents worker true observedAt world

theorem turned_resume (host : Host) (seen : Seen) (worker : Worker)
    (world : World) : Turned world worker (resume host seen world worker) := by
  cases worker with
  | idle => exact .waits
  | ready => exact .waits
  | events recovering confirmedAt report rest =>
      cases rest with
      | nil =>
          simp only [resume]
          split
          · next quiet =>
              rw [quiet.1]
              exact .eventsDrained quiet.2.2.2
          · exact .stopped rfl
      | cons event rest =>
          simp only [resume]
          cases applicationProperties host event with
          | error failure => exact .stopped rfl
          | ok properties => exact .eventPublished
  | eventAnswered recovering confirmedAt report event outcome rest =>
      simp only [resume, turn]
      rcases recordApplication_cases event outcome
          (confirmation outcome confirmedAt) world with
        ⟨became, after, returned, held, legal, moved⟩ | ⟨failure, raised⟩
      · rw [returned]
        exact .eventRecorded held legal moved
      · rw [raised]
        exact .stopped rfl
  | eventsDrained =>
      simp only [resume]
      rcases turn_cases readAmbiguousEvents world
          (fun found => if found.isEmpty then .commandsDue else .idle)
          (fun _ _ => transaction_keeps) with
        ⟨found, after, returned, turned⟩ | ⟨after, same, turned⟩
      · rw [turned]
        rcases readAmbiguousEvents_ok returned with ⟨same, reads⟩
        cases found with
        | nil => exact .eventsSettled same reads
        | cons => exact .stopped same
      · rw [turned]
        exact .stopped same
  | commandsDue =>
      exact turned_readCommands (fun _ => rfl) seen.observedAt world
  | commands recovering confirmedAt report rest =>
      cases rest with
      | nil =>
          simp only [resume]
          split
          · next quiet =>
              rw [quiet.1]
              exact .commandsDrained quiet.2
          · exact .stopped rfl
      | cons row rest =>
          simp only [resume]
          cases checked : publishable host row with
          | error failure => exact .stopped rfl
          | ok topic =>
              rcases bind_eq_ok.1 checked with ⟨_, staged, _⟩
              exact .commandPublished (ensure_eq_ok.1 staged)
  | commandAnswered recovering confirmedAt report row outcome rest =>
      simp only [resume, turn]
      rcases recordCommand_cases row.command.commandId row.state outcome
          (confirmation outcome confirmedAt) world with
        ⟨became, after, returned, held, legal, moved⟩ | ⟨failure, raised⟩
      · rw [returned]
        exact .commandRecorded held legal moved
      · rw [raised]
        exact .stopped rfl
  | commandsDrained =>
      simp only [resume]
      rcases turn_cases (readCommands .reconciliationNeeded) world
          (fun found =>
            if found.isEmpty = true ∧ seen.restored = true then .ready
            else .idle)
          (fun _ _ => transaction_keeps) with
        ⟨found, after, returned, turned⟩ | ⟨after, same, turned⟩
      · rw [turned]
        rcases readCommands_ok returned with ⟨same, reads⟩
        split
        · next restored =>
            rw [List.isEmpty_iff.1 restored.1] at reads
            exact .ready same reads
        · exact .stopped same
      · rw [turned]
        exact .stopped same
  | evidenceDue row confirmedAt => exact .evidenced
  | evidenced row confirmedAt =>
      simp only [resume, turn]
      rcases recordCommand_cases row.command.commandId row.state .confirm
          (some confirmedAt) world with
        ⟨became, after, returned, held, legal, moved⟩ | ⟨failure, raised⟩
      · rw [returned]
        exact .reconciled held legal moved
      · rw [raised]
        exact .stopped rfl

/-- Every action is one of the turns. -/
theorem takeAction_turned (host : Host) (world : World) (worker : Worker)
    (action : WorkerAction) :
    Turned world worker (takeAction host world worker action) := by
  cases action with
  | crash => exact .stopped rfl
  | resume seen => exact turned_resume host seen worker world
  | call call =>
      cases worker <;> first
        | exact turned_beginCall _ world call
        | exact .waits

/-! ## A batch that nothing interrupts -/

section Uninterrupted

variable (host : Host)

/-- A worker resumed again and again, with nothing in between. -/
def resumeAll (memory : World × Worker) (seen : List Seen) :
    World × Worker :=
  run (fun memory next => (resume host next memory.1 memory.2).1) memory seen

/-- What a worker meets when the broker gives an answer. -/
def seenAnswer (answer : BrokerAnswer) : Seen where
  answer := answer
  confirms := false
  observedAt := ""
  restored := true

variable {host}

/-- `_publish_one` checks its row before it asks the broker. -/
theorem publishOne_eq (answer : BrokerAnswer) (row : CommandOutboxRow)
    (confirmedAt : String) (world : World) :
    exec (publishOne host answer row confirmedAt) world =
      match publishable host row with
      | .error failure => (.error failure, world)
      | .ok _ =>
          match answer with
          | .refused => (.ok (), world)
          | .failed => (.error (.publication .brokerOutcome), world)
          | .ambiguous =>
              exec (recordCommand row.command.commandId row.state .ambiguous
                none) world
          | .confirmed =>
              exec (recordCommand row.command.commandId row.state .confirm
                (some confirmedAt)) world := by
  unfold publishOne publishable
  by_cases staged : row.state = .staged
  · rw [exec_bind_of_ok (exec_require_of staged _ _), ensure_of staged]
    cases publicationTopic host row.command with
    | error failure =>
        rw [exec_bind_of_error (exec_lift_error id failure world)]
        rfl
    | ok topic =>
        rw [exec_bind_of_ok (exec_lift_ok id topic world)]
        cases answer <;> rfl
  · have refused :
        ensure (row.state = .staged)
            (Failure.publication PublicationRefusal.state) =
          .error (.publication .state) :=
      ensure_eq_error.2 ⟨staged, rfl⟩
    rw [exec_bind_of_error
      ((exec_require_eq_error _).2 ⟨staged, rfl, rfl⟩), refused]
    rfl

/-- One iteration of a batch is one or two turns of its worker. -/
theorem publishOne_resumes (answer : BrokerAnswer) (row : CommandOutboxRow)
    (rest : List CommandOutboxRow) (confirmedAt : String)
    (report : PublicationReport) (world : World) :
    ∃ seen,
      resumeAll host (world, .commands false confirmedAt report (row :: rest))
          seen =
        ((exec (publishOne host answer row confirmedAt) world).2,
          match (exec (publishOne host answer row confirmedAt) world).1 with
          | .ok _ => .commands false confirmedAt (report.count answer) rest
          | .error _ => .idle) := by
  rw [publishOne_eq]
  cases checked : publishable host row with
  | error failure =>
      exact ⟨[seenAnswer answer], by simp [resumeAll, resume, checked]⟩
  | ok topic =>
      cases answer with
      | refused =>
          refine ⟨[seenAnswer .refused], ?_⟩
          simp [resumeAll, resume, checked, seenAnswer, commandPublished]
      | failed =>
          refine ⟨[seenAnswer .failed], ?_⟩
          simp [resumeAll, resume, checked, seenAnswer, commandPublished]
      | ambiguous =>
          refine ⟨[seenAnswer .ambiguous, seenAnswer .ambiguous], ?_⟩
          simp only [resumeAll, run_cons, run_nil, resume, checked,
            seenAnswer, commandPublished, turn, confirmation, answerOf]
          rcases exec (recordCommand row.command.commandId row.state
            .ambiguous none) world with ⟨result, after⟩
          cases result <;> rfl
      | confirmed =>
          refine ⟨[seenAnswer .confirmed, seenAnswer .confirmed], ?_⟩
          simp only [resumeAll, run_cons, run_nil, resume, checked,
            seenAnswer, commandPublished, turn, confirmation, answerOf]
          rcases exec (recordCommand row.command.commandId row.state
            .confirm (some confirmedAt)) world with ⟨result, after⟩
          cases result <;> rfl

theorem resumeAll_append (memory : World × Worker) (first second : List Seen) :
    resumeAll host memory (first ++ second) =
      resumeAll host (resumeAll host memory first) second :=
  run_append _ _ _ _

/-- A batch of commands is a worker that nothing interrupts. -/
theorem publishRows_resumes (answers : CommandOutboxRow → BrokerAnswer)
    (confirmedAt : String) (report : PublicationReport)
    (rows : List CommandOutboxRow) (world : World) :
    ∃ seen,
      resumeAll host (world, .commands false confirmedAt report rows) seen =
        ((exec (publishRows host answers confirmedAt report rows) world).2,
          .idle) := by
  induction rows generalizing report world with
  | nil => exact ⟨[seenAnswer .refused], rfl⟩
  | cons row rest inductionHypothesis =>
      rcases publishOne_resumes (answers row) row rest confirmedAt report
        world with ⟨first, turned⟩
      rcases outcome : exec (publishOne host (answers row) row confirmedAt)
        world with ⟨result, after⟩
      rw [outcome] at turned
      simp only [publishRows]
      cases result with
      | error failure =>
          rw [exec_bind_of_error outcome]
          exact ⟨first, turned⟩
      | ok value =>
          rw [exec_bind_of_ok outcome]
          rcases inductionHypothesis (report.count (answers row)) after with
            ⟨second, later⟩
          refine ⟨first ++ second, ?_⟩
          rw [resumeAll_append, turned]
          exact later

/-- `publish_batch` is a call of a worker that nothing interrupts. -/
theorem publishBatch_resumes (answers : CommandOutboxRow → BrokerAnswer)
    (confirmedAt : String) (world : World) :
    ∃ seen,
      resumeAll host (beginCall world (.publishBatch confirmedAt)) seen =
        ((exec (publishBatch host answers confirmedAt) world).2, .idle) := by
  unfold publishBatch beginCall turn
  rcases outcome : exec (readCommands .staged) world with ⟨result, after⟩
  have read :
      exec (transaction (rethrow Failure.store
        (pendingCommands .staged commandPublicationBatchSize))) world =
        (result, after) :=
    outcome
  cases result with
  | error failure =>
      rw [exec_bind_of_error read]
      exact ⟨[], by simp [resumeAll]⟩
  | ok rows =>
      rw [exec_bind_of_ok read]
      exact publishRows_resumes answers confirmedAt .zero rows after

end Uninterrupted

end AerialRescue.Gateway
