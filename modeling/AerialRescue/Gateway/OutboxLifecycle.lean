import AerialRescue.Gateway.OutboxWorkers
import AerialRescue.Gateway.SendSchedule

/-!
# The outbox lifecycle under concurrency

What holds in every run of publishers, reconcilers, recoveries and crashes on
the two outboxes: rows are kept and go forward only, a confirmation has the
broker's word, a batch publishes what it read as staged, a refusal writes
nothing, and a recovery is ready when both outboxes are drained.  A batch may
be stale when two of them run at once; one publisher finds every row staged.
-/

namespace AerialRescue.Gateway

open AerialRescue.Contracts
open AerialRescue.Contracts.Canonical
open AerialRescue.Domain.Commands
open AerialRescue.Lib
open AerialRescue.Lib.Guard
open AerialRescue.Lib.Run
open AerialRescue.Lib.Transaction
open AerialRescue.Store

variable {ι : Type}

/-! ## Rows only go forward -/

/-- Every row of both outboxes is kept, and none goes back. -/
structure Advances (before after : Database) : Prop where
  commands : ∀ commandId,
    Onward (commandState before commandId) (commandState after commandId)
  events : ∀ key,
    Onward (applicationState before key) (applicationState after key)

theorem Advances.refl (database : Database) : Advances database database :=
  ⟨fun _ => .refl _, fun _ => .refl _⟩

theorem Advances.trans {first second third : Database}
    (early : Advances first second) (late : Advances second third) :
    Advances first third :=
  ⟨fun commandId => (early.commands commandId).trans (late.commands commandId),
    fun key => (early.events key).trans (late.events key)⟩

/-- One action moves one row along a legal edge, or no row. -/
inductive Effects (before : Database) : Database → Prop
  | same {after : Database} (same : after = before) : Effects before after
  | command {commandId : String} {was became : OutboxState}
      {event : OutboxEvent} {after : Database}
      (held : commandState before commandId = some was)
      (legal : outboxTransition was event = some became)
      (moved : after = moveCommand before commandId became) :
      Effects before after
  | application {key : String × String} {became : OutboxState}
      {event : OutboxEvent} {confirmedAt : Option String} {after : Database}
      (held : applicationState before key = some .staged)
      (legal : outboxTransition .staged event = some became)
      (moved : after = moveApplication before key became confirmedAt) :
      Effects before after

theorem Turned.effects {world : World} {worker : Worker}
    {next : (World × Worker) × List BrokerEvent}
    (turned : Turned world worker next) :
    Effects world.database next.1.1.database := by
  cases turned with
  | stopped same => exact .same same
  | waits => exact .same rfl
  | eventsOpened same => exact .same same
  | eventPublished => exact .same rfl
  | eventRecorded held legal moved => exact .application held legal moved
  | eventsDrained => exact .same rfl
  | eventsSettled same => exact .same same
  | commandsOpened _ same => exact .same same
  | commandPublished => exact .same rfl
  | commandRecorded held legal moved => exact .command held legal moved
  | commandsDrained => exact .same rfl
  | ready same => exact .same same
  | evidenceDue same => exact .same same
  | evidenced => exact .same rfl
  | reconciled held legal moved => exact .command held legal moved

theorem Effects.advances {before after : Database}
    (effects : Effects before after) : Advances before after := by
  cases effects with
  | same same =>
      rw [same]
      exact .refl before
  | command held legal moved =>
      rw [moved]
      refine ⟨fun other => ?_, fun _ => .refl _⟩
      rw [commandState_moveCommand]
      split
      · next same =>
          rw [same, held]
          exact .of_transition legal
      · rfl
  | application held legal moved =>
      rw [moved]
      refine ⟨fun _ => .refl _, fun other => ?_⟩
      rw [applicationState_moveApplication]
      split
      · next same =>
          rw [same, held]
          exact .of_transition legal
      · rfl

theorem Effects.publication {before after : Database}
    (effects : Effects before after) : PublicationOnly before after := by
  cases effects with
  | same same =>
      rw [same]
      exact .refl before
  | command _ _ moved =>
      rw [moved]
      exact ⟨rfl, moveCommand_commands _ _ _, rfl⟩
  | application _ _ moved =>
      rw [moved]
      exact ⟨rfl, rfl, moveApplication_events _ _ _ _⟩

section Runs

variable {host : Host}

theorem outboxStep_turned (host : Host) (system : OutboxSystem ι)
    (taken : ι × WorkerAction) :
    Turned system.world (system.workers taken.1)
      (takeAction host system.world (system.workers taken.1) taken.2) :=
  takeAction_turned host system.world _ taken.2

variable [DecidableEq ι]

/-- The memory of a worker after a step, if it took the step or not. -/
theorem outboxStep_workers (holds : Worker → Prop)
    (system : OutboxSystem ι) (taken : ι × WorkerAction)
    (own :
      holds (takeAction host system.world (system.workers taken.1)
        taken.2).1.2)
    (others : ∀ worker, worker ≠ taken.1 → holds (system.workers worker))
    (worker : ι) : holds ((outboxStep host system taken).workers worker) := by
  by_cases same : worker = taken.1
  · subst same
    simpa [outboxStep] using own
  · simpa [outboxStep, same] using others worker same

theorem run_effects (host : Host) (system : OutboxSystem ι)
    (actions : List (ι × WorkerAction)) :
    Advances system.world.database
        (run (outboxStep host) system actions).world.database ∧
      PublicationOnly system.world.database
        (run (outboxStep host) system actions).world.database := by
  have keeps : ∀ (later : OutboxSystem ι) (taken : ι × WorkerAction),
      Advances system.world.database later.world.database ∧
          PublicationOnly system.world.database later.world.database →
        Advances system.world.database
            (outboxStep host later taken).world.database ∧
          PublicationOnly system.world.database
            (outboxStep host later taken).world.database := by
    rintro later taken ⟨advances, publication⟩
    have effects := (outboxStep_turned host later taken).effects
    exact ⟨advances.trans effects.advances,
      publication.trans effects.publication⟩
  exact run_keeps_always keeps actions ⟨.refl _, .refl _⟩

end Runs

/-! ## Confirmations have grounds -/

/-- The broker confirmed the command, or its evidence did. -/
def CommandGrounds (history : List BrokerEvent) (commandId : String) : Prop :=
  (∃ found, .command commandId found .confirmed ∈ history) ∨
    .evidence commandId true ∈ history

/-- The broker confirmed the event. -/
def EventGrounds (history : List BrokerEvent) (key : String × String) :
    Prop :=
  ∃ found, .application key found .confirmed ∈ history

/-- What a worker is about to confirm has grounds. -/
def Worker.Grounded (history : List BrokerEvent) : Worker → Prop
  | .eventAnswered _ _ _ event .confirm _ =>
      EventGrounds history (event.producer, event.eventId)
  | .commandAnswered _ _ _ row .confirm _ =>
      CommandGrounds history row.command.commandId
  | .evidenced row _ => CommandGrounds history row.command.commandId
  | _ => True

/-- Every confirmed row was confirmed at the start or has grounds. -/
structure Grounded (start : Database) (database : Database)
    (history : List BrokerEvent) : Prop where
  commands : ∀ commandId,
    commandState database commandId = some .confirmed →
      commandState start commandId = some .confirmed ∨
        CommandGrounds history commandId
  events : ∀ key,
    applicationState database key = some .confirmed →
      applicationState start key = some .confirmed ∨ EventGrounds history key

theorem CommandGrounds.append {history : List BrokerEvent}
    {commandId : String} (grounds : CommandGrounds history commandId)
    (more : List BrokerEvent) : CommandGrounds (history ++ more) commandId := by
  rcases grounds with ⟨found, member⟩ | member
  · exact .inl ⟨found, List.mem_append_left _ member⟩
  · exact .inr (List.mem_append_left _ member)

theorem EventGrounds.append {history : List BrokerEvent}
    {key : String × String} (grounds : EventGrounds history key)
    (more : List BrokerEvent) : EventGrounds (history ++ more) key := by
  rcases grounds with ⟨found, member⟩
  exact ⟨found, List.mem_append_left _ member⟩

theorem Worker.Grounded.append {history : List BrokerEvent} {worker : Worker}
    (grounded : worker.Grounded history) (more : List BrokerEvent) :
    worker.Grounded (history ++ more) := by
  cases worker with
  | eventAnswered _ _ _ _ outcome _ =>
      cases outcome with
      | confirm => exact EventGrounds.append grounded more
      | ambiguous => trivial
  | commandAnswered _ _ _ _ outcome _ =>
      cases outcome with
      | confirm => exact CommandGrounds.append grounded more
      | ambiguous => trivial
  | evidenced _ _ => exact CommandGrounds.append grounded more
  | _ => trivial

/-- A worker that is about to confirm has the broker's answer for it. -/
theorem Turned.grounded {world : World} {worker : Worker}
    {next : (World × Worker) × List BrokerEvent}
    {history : List BrokerEvent} (turned : Turned world worker next)
    (grounded : worker.Grounded history) :
    next.1.2.Grounded (history ++ next.2) := by
  cases turned with
  | waits => exact grounded.append []
  | @eventPublished _ _ _ _ _ answer =>
      cases answer with
      | confirmed =>
          exact ⟨_, List.mem_append_right _ List.mem_cons_self⟩
      | _ => trivial
  | @commandPublished _ _ _ _ _ answer =>
      cases answer with
      | confirmed =>
          exact .inl ⟨_, List.mem_append_right _ List.mem_cons_self⟩
      | _ => trivial
  | @evidenced _ _ confirms =>
      cases confirms with
      | true => exact .inr (List.mem_append_right _ List.mem_cons_self)
      | false => trivial
  | _ => trivial

theorem Grounded.append {start database : Database}
    {history : List BrokerEvent} (grounded : Grounded start database history)
    (more : List BrokerEvent) : Grounded start database (history ++ more) where
  commands := fun commandId confirmed =>
    (grounded.commands commandId confirmed).imp_right (·.append more)
  events := fun key confirmed =>
    (grounded.events key confirmed).imp_right (·.append more)

/-- A command that moves keeps the grounds when its own move has them. -/
theorem Grounded.move_command {start database : Database}
    {history : List BrokerEvent} {moved : String} {was became : OutboxState}
    {event : OutboxEvent} (grounded : Grounded start database history)
    (legal : outboxTransition was event = some became)
    (grounds : event = .confirm → CommandGrounds history moved) :
    Grounded start (moveCommand database moved became) history where
  commands := by
    intro commandId confirmed
    rw [commandState_moveCommand] at confirmed
    split at confirmed
    · next same =>
        rcases Option.map_eq_some_iff.1 confirmed with ⟨_, _, rfl⟩
        rw [same]
        exact .inr (grounds (confirmed_of_transition legal rfl))
    · exact grounded.commands commandId confirmed
  events := grounded.events

/-- An event that moves keeps the grounds when its own move has them. -/
theorem Grounded.move_event {start database : Database}
    {history : List BrokerEvent} {moved : String × String}
    {was became : OutboxState} {event : OutboxEvent}
    {confirmedAt : Option String} (grounded : Grounded start database history)
    (legal : outboxTransition was event = some became)
    (grounds : event = .confirm → EventGrounds history moved) :
    Grounded start (moveApplication database moved became confirmedAt)
      history where
  commands := grounded.commands
  events := by
    intro key confirmed
    rw [applicationState_moveApplication] at confirmed
    split at confirmed
    · next same =>
        rcases Option.map_eq_some_iff.1 confirmed with ⟨_, _, rfl⟩
        rw [same]
        exact .inr (grounds (confirmed_of_transition legal rfl))
    · exact grounded.events key confirmed

theorem Turned.rows_grounded {world : World} {worker : Worker}
    {next : (World × Worker) × List BrokerEvent} {start : Database}
    {history : List BrokerEvent} (turned : Turned world worker next)
    (memory : worker.Grounded history)
    (grounded : Grounded start world.database history) :
    Grounded start next.1.1.database (history ++ next.2) := by
  refine Grounded.append ?_ next.2
  cases turned with
  | stopped same => exact same ▸ grounded
  | waits => exact grounded
  | eventsOpened same => exact same ▸ grounded
  | eventPublished => exact grounded
  | @eventRecorded _ _ _ _ outcome _ _ _ held legal moved =>
      rw [moved]
      refine grounded.move_event legal ?_
      rintro rfl
      exact memory
  | eventsDrained => exact grounded
  | eventsSettled same => exact same ▸ grounded
  | commandsOpened _ same => exact same ▸ grounded
  | commandPublished => exact grounded
  | @commandRecorded _ _ _ _ outcome _ _ _ held legal moved =>
      rw [moved]
      refine grounded.move_command legal ?_
      rintro rfl
      exact memory
  | commandsDrained => exact grounded
  | ready same => exact same ▸ grounded
  | evidenceDue same => exact same ▸ grounded
  | evidenced => exact grounded
  | reconciled held legal moved =>
      rw [moved]
      exact grounded.move_command legal fun _ => memory

theorem run_grounded [DecidableEq ι] {host : Host} (start : World)
    (actions : List (ι × WorkerAction)) :
    Grounded start.database
      (run (outboxStep host) (.start start) actions).world.database
      (run (outboxStep host) (.start start) actions).history := by
  have keeps : ∀ (system : OutboxSystem ι) (taken : ι × WorkerAction),
      Grounded start.database system.world.database system.history ∧
          (∀ worker, (system.workers worker).Grounded system.history) →
        Grounded start.database
            (outboxStep host system taken).world.database
            (outboxStep host system taken).history ∧
          ∀ worker,
            ((outboxStep host system taken).workers worker).Grounded
              (outboxStep host system taken).history := by
    rintro system taken ⟨rows, memories⟩
    have turned := outboxStep_turned host system taken
    refine ⟨turned.rows_grounded (memories taken.1) rows, ?_⟩
    refine outboxStep_workers (Worker.Grounded _) system taken
      (turned.grounded (memories taken.1)) ?_
    intro worker _
    exact (memories worker).append _
  refine (run_keeps_always keeps actions ⟨⟨?_, ?_⟩, ?_⟩).1
  · exact fun _ => .inl
  · exact fun _ => .inl
  · exact fun _ => trivial

/-! ## What a recovery drained -/

/-- No event of the gateway is staged. -/
def EventsPublished (database : Database) : Prop :=
  ∀ eventId, applicationState database (producer, eventId) ≠ some .staged

/-- No command is staged. -/
def CommandsPublished (database : Database) : Prop :=
  ∀ commandId, commandState database commandId ≠ some .staged

/-- Every event of the gateway is confirmed. -/
def EventsConfirmed (database : Database) : Prop :=
  ∀ eventId state,
    applicationState database (producer, eventId) = some state →
      state = .confirmed

/-- Every command is confirmed. -/
def CommandsConfirmed (database : Database) : Prop :=
  ∀ commandId state,
    commandState database commandId = some state → state = .confirmed

/-- What a recovery in progress has established about the store. -/
def Worker.Drained (database : Database) : Worker → Prop
  | .events true _ report rest =>
      report.visited = 0 → rest = [] → EventsPublished database
  | .eventsDrained => EventsPublished database
  | .commandsDue => EventsConfirmed database
  | .commands true _ report rest =>
      EventsConfirmed database ∧
        (Untouched report → rest = [] → CommandsPublished database)
  | .commandAnswered true _ _ _ _ _ => EventsConfirmed database
  | .commandsDrained =>
      EventsConfirmed database ∧ CommandsPublished database
  | .ready => EventsConfirmed database ∧ CommandsConfirmed database
  | _ => True

theorem EventsPublished.advances {before after : Database}
    (published : EventsPublished before) (advances : Advances before after) :
    EventsPublished after :=
  fun eventId => (advances.events _).unstaged (published eventId)

theorem CommandsPublished.advances {before after : Database}
    (published : CommandsPublished before) (advances : Advances before after) :
    CommandsPublished after :=
  fun commandId => (advances.commands _).unstaged (published commandId)

/-- A row of the later store was there, and was confirmed. -/
theorem Onward.confirmed_of {before after : Option OutboxState}
    (onward : Onward before after)
    (confirmed : ∀ state, before = some state → state = .confirmed)
    (state : OutboxState) (found : after = some state) :
    state = .confirmed := by
  subst found
  cases before with
  | none => exact onward.elim
  | some held =>
      rw [confirmed held rfl] at onward
      exact Option.some.inj onward.confirmed

theorem EventsConfirmed.advances {before after : Database}
    (confirmed : EventsConfirmed before) (advances : Advances before after) :
    EventsConfirmed after :=
  fun eventId => (advances.events _).confirmed_of (confirmed eventId)

theorem CommandsConfirmed.advances {before after : Database}
    (confirmed : CommandsConfirmed before) (advances : Advances before after) :
    CommandsConfirmed after :=
  fun commandId => (advances.commands _).confirmed_of (confirmed commandId)

theorem Worker.Drained.advances {before after : Database} {worker : Worker}
    (drained : worker.Drained before) (advances : Advances before after) :
    worker.Drained after := by
  cases worker with
  | events recovering _ _ _ =>
      cases recovering with
      | false => trivial
      | true =>
          intro visited none
          exact (drained visited none).advances advances
  | eventsDrained => exact EventsPublished.advances drained advances
  | commandsDue => exact EventsConfirmed.advances drained advances
  | commands recovering _ _ _ =>
      cases recovering with
      | false => trivial
      | true =>
          refine ⟨drained.1.advances advances, ?_⟩
          intro untouched none
          exact (drained.2 untouched none).advances advances
  | commandAnswered recovering _ _ _ _ _ =>
      cases recovering with
      | false => trivial
      | true => exact EventsConfirmed.advances drained advances
  | commandsDrained =>
      exact ⟨drained.1.advances advances, drained.2.advances advances⟩
  | ready => exact ⟨drained.1.advances advances, drained.2.advances advances⟩
  | _ => trivial

/-- Rows that are neither staged nor ambiguous are confirmed. -/
theorem confirmed_of_neither {held : Option OutboxState} {state : OutboxState}
    (published : held ≠ some .staged)
    (settled : held ≠ some .reconciliationNeeded)
    (found : held = some state) : state = .confirmed := by
  subst found
  cases state with
  | staged => exact absurd rfl published
  | reconciliationNeeded => exact absurd rfl settled
  | confirmed => rfl

theorem Turned.drained {world : World} {worker : Worker}
    {next : (World × Worker) × List BrokerEvent}
    (turned : Turned world worker next)
    (drained : worker.Drained world.database) :
    next.1.2.Drained next.1.1.database := by
  have advances := turned.effects.advances
  cases turned with
  | stopped => trivial
  | waits => exact drained
  | @eventsOpened _ recovering _ _ _ same reads =>
      cases recovering with
      | false => trivial
      | true =>
          intro _ none
          exact same ▸ reads.total none
  | @eventPublished recovering _ report _ _ answer =>
      cases answer with
      | refused =>
          cases recovering with
          | false => trivial
          | true => exact fun visited => absurd visited (Nat.succ_ne_zero _)
      | _ => trivial
  | @eventRecorded recovering _ _ _ outcome =>
      cases recovering with
      | false => trivial
      | true =>
          intro visited
          cases outcome <;> exact absurd visited (Nat.succ_ne_zero _)
  | eventsDrained none => exact drained none rfl
  | eventsSettled same reads =>
      refine EventsConfirmed.advances ?_ advances
      intro eventId state found
      exact confirmed_of_neither (drained eventId) (reads.total rfl eventId)
        found
  | @commandsOpened _ recovering _ _ _ due same reads =>
      cases recovering with
      | false => trivial
      | true =>
          cases due rfl
          refine ⟨EventsConfirmed.advances drained advances, ?_⟩
          intro _ none
          exact same ▸ reads.total none
  | @commandPublished recovering _ report _ _ answer =>
      cases recovering with
      | false => cases answer <;> trivial
      | true =>
          cases answer with
          | refused =>
              refine ⟨drained.1, ?_⟩
              intro untouched
              exact absurd untouched.2.1 (Nat.succ_ne_zero _)
          | failed => trivial
          | ambiguous => exact drained.1
          | confirmed => exact drained.1
  | @commandRecorded recovering _ _ _ outcome =>
      cases recovering with
      | false => trivial
      | true =>
          refine ⟨EventsConfirmed.advances drained advances, ?_⟩
          intro untouched
          cases outcome with
          | confirm => exact absurd untouched.2.2 (Nat.succ_ne_zero _)
          | ambiguous => exact absurd untouched.1 (Nat.succ_ne_zero _)
  | commandsDrained untouched => exact ⟨drained.1, drained.2 untouched rfl⟩
  | ready same reads =>
      refine ⟨drained.1.advances advances, ?_⟩
      refine CommandsConfirmed.advances ?_ advances
      intro commandId state found
      exact confirmed_of_neither (drained.2 commandId)
        (reads.total rfl commandId) found
  | evidenceDue => trivial
  | @evidenced _ _ confirms => cases confirms <;> trivial
  | reconciled => trivial

theorem run_drained [DecidableEq ι] (host : Host) (start : World)
    (actions : List (ι × WorkerAction)) (worker : ι) :
    ((run (outboxStep host) (.start start) actions).workers worker).Drained
      (run (outboxStep host) (.start start) actions).world.database := by
  have keeps : ∀ (system : OutboxSystem ι) (taken : ι × WorkerAction),
      (∀ worker,
          (system.workers worker).Drained system.world.database) →
        ∀ worker,
          ((outboxStep host system taken).workers worker).Drained
            (outboxStep host system taken).world.database := by
    intro system taken memories
    have turned := outboxStep_turned host system taken
    refine outboxStep_workers (Worker.Drained _) system taken
      (turned.drained (memories taken.1)) ?_
    intro worker _
    exact (memories worker).advances turned.effects.advances
  refine run_keeps_always keeps actions ?_ worker
  exact fun _ => trivial

/-! ## What a batch publishes -/

/-- A command that a batch in progress has still to publish. -/
def Worker.Holds (commandId : String) : Worker → Prop
  | .commands _ _ _ rest | .commandAnswered _ _ _ _ _ rest =>
      ∃ row ∈ rest, row.command.commandId = commandId
  | _ => False

theorem Turned.holds {world : World} {worker : Worker}
    {next : (World × Worker) × List BrokerEvent} {commandId : String}
    (turned : Turned world worker next)
    (left : commandState world.database commandId ≠ some .staged)
    (free : ¬worker.Holds commandId) :
    ¬next.1.2.Holds commandId ∧
      ∀ found answer, .command commandId found answer ∉ next.2 := by
  cases turned with
  | waits => exact ⟨free, by simp⟩
  | @eventPublished _ _ _ _ _ answer =>
      exact ⟨by cases answer <;> exact id, by simp⟩
  | commandsOpened _ _ reads =>
      refine ⟨?_, by simp⟩
      rintro ⟨row, member, rfl⟩
      exact left (reads.member row member).1
  | @commandPublished _ _ _ row rest answer =>
      have later : ¬∃ other ∈ rest, other.command.commandId = commandId := by
        rintro ⟨other, member, same⟩
        exact free ⟨other, List.mem_cons_of_mem _ member, same⟩
      refine ⟨?_, ?_⟩
      · cases answer with
        | failed => exact id
        | _ => exact later
      · intro found answer published
        rcases List.mem_singleton.1 published with ⟨rfl, _⟩
        exact free ⟨row, List.mem_cons_self, rfl⟩
  | commandRecorded => exact ⟨free, by simp⟩
  | @evidenced _ _ confirms =>
      exact ⟨by cases confirms <;> exact id, by simp⟩
  | _ => exact ⟨id, by simp⟩

/-- A command that no batch holds and that left the staged state stays put. -/
theorem run_unpublished [DecidableEq ι] {host : Host}
    (system : OutboxSystem ι) (actions : List (ι × WorkerAction))
    {commandId : String}
    (left : commandState system.world.database commandId ≠ some .staged)
    (free : ∀ worker, ¬(system.workers worker).Holds commandId)
    (found : Option OutboxState) (answer : BrokerAnswer)
    (published :
      .command commandId found answer ∈
        (run (outboxStep host) system actions).history) :
    .command commandId found answer ∈ system.history := by
  induction actions generalizing system with
  | nil => exact published
  | cons taken rest inductionHypothesis =>
      have turned := outboxStep_turned host system taken
      rcases turned.holds left (free taken.1) with ⟨own, silent⟩
      have earlier := inductionHypothesis (outboxStep host system taken)
        ((turned.effects.advances.commands commandId).unstaged left)
        (outboxStep_workers (fun worker => ¬worker.Holds commandId) system
          taken own fun worker _ => free worker)
        published
      rcases List.mem_append.1 earlier with old | new
      · exact old
      · exact absurd new (silent found answer)

/-! ## A single publisher -/

/-- A call that opens a batch. -/
def Publishing : WorkerAction → Prop
  | .call (.publishApplicationBatch _) | .call (.publishBatch _)
  | .call (.recoverApplication _ _) => True
  | _ => False

/-- A worker that publishes nothing, and reconciles ambiguous rows only. -/
def Worker.Aside : Worker → Prop
  | .idle | .ready => True
  | .evidenceDue row _ | .evidenced row _ =>
      row.state = .reconciliationNeeded
  | _ => False

/-- Commands that are staged, each of them once. -/
def StagedCommands (database : Database) (rows : List CommandOutboxRow) :
    Prop :=
  (∀ row ∈ rows,
      commandState database row.command.commandId = some .staged) ∧
    (rows.map CommandOutboxRow.key).Nodup

/-- Events that are staged, each of them once. -/
def StagedEvents (database : Database) (events : List StagedApplicationEvent) :
    Prop :=
  (∀ event ∈ events,
      applicationState database (event.producer, event.eventId) =
        some .staged) ∧
    (events.map fun event => (event.producer, event.eventId)).Nodup

/-- What a worker has still to publish or to record is staged. -/
def Worker.Fresh (database : Database) : Worker → Prop
  | .events _ _ _ rest => StagedEvents database rest
  | .eventAnswered _ _ _ event _ rest => StagedEvents database (event :: rest)
  | .commands _ _ _ rest => StagedCommands database rest
  | .commandAnswered _ _ _ row _ rest =>
      StagedCommands database (row :: rest)
  | .evidenceDue row _ | .evidenced row _ =>
      row.state = .reconciliationNeeded
  | _ => True

/-- The row of a publication was staged when it was published. -/
def BrokerEvent.FoundStaged : BrokerEvent → Prop
  | .command _ found _ | .application _ found _ => found = some .staged
  | .evidence _ _ => True

theorem StagedCommands.tail {database : Database} {row : CommandOutboxRow}
    {rest : List CommandOutboxRow}
    (staged : StagedCommands database (row :: rest)) :
    StagedCommands database rest :=
  ⟨fun other member => staged.1 other (List.mem_cons_of_mem _ member),
    (List.nodup_cons.1 staged.2).2⟩

theorem StagedEvents.tail {database : Database}
    {event : StagedApplicationEvent} {rest : List StagedApplicationEvent}
    (staged : StagedEvents database (event :: rest)) :
    StagedEvents database rest :=
  ⟨fun other member => staged.1 other (List.mem_cons_of_mem _ member),
    (List.nodup_cons.1 staged.2).2⟩

/-- Commands other than the one that moves stay staged. -/
theorem StagedCommands.move {database : Database}
    {rows : List CommandOutboxRow} {moved : String} {became : OutboxState}
    (staged : StagedCommands database rows)
    (other : ∀ row ∈ rows, row.command.commandId ≠ moved) :
    StagedCommands (moveCommand database moved became) rows := by
  refine ⟨?_, staged.2⟩
  intro row member
  rw [commandState_moveCommand, if_neg (other row member)]
  exact staged.1 row member

/-- Events other than the one that moves stay staged. -/
theorem StagedEvents.move {database : Database}
    {events : List StagedApplicationEvent} {moved : String × String}
    {became : OutboxState} {confirmedAt : Option String}
    (staged : StagedEvents database events)
    (other : ∀ event ∈ events, (event.producer, event.eventId) ≠ moved) :
    StagedEvents (moveApplication database moved became confirmedAt)
      events := by
  refine ⟨?_, staged.2⟩
  intro event member
  rw [applicationState_moveApplication, if_neg (other event member)]
  exact staged.1 event member

/-- A memory survives a reconciliation, which moves no staged row. -/
theorem Worker.Fresh.reconciled {database : Database} {worker : Worker}
    {moved : String} {became : OutboxState} (fresh : worker.Fresh database)
    (ambiguous : commandState database moved = some .reconciliationNeeded) :
    worker.Fresh (moveCommand database moved became) := by
  have apart : ∀ rows, StagedCommands database rows →
      StagedCommands (moveCommand database moved became) rows := by
    intro rows staged
    refine staged.move ?_
    rintro row member rfl
    rw [staged.1 row member] at ambiguous
    cases ambiguous
  cases worker with
  | commands => exact apart _ fresh
  | commandAnswered => exact apart _ fresh
  | _ => exact fresh

/-- The publisher's own turn leaves what it has still to do staged. -/
theorem Turned.fresh {world : World} {worker : Worker}
    {next : (World × Worker) × List BrokerEvent}
    (turned : Turned world worker next)
    (fresh : worker.Fresh world.database) :
    next.1.2.Fresh next.1.1.database ∧
      ∀ event ∈ next.2, event.FoundStaged := by
  cases turned with
  | stopped => exact ⟨trivial, by simp⟩
  | waits => exact ⟨fresh, by simp⟩
  | eventsOpened same reads =>
      exact ⟨same ▸ ⟨reads.member, reads.distinct⟩, by simp⟩
  | @eventPublished _ _ _ event rest answer =>
      refine ⟨?_, ?_⟩
      · cases answer with
        | refused => exact StagedEvents.tail fresh
        | failed => trivial
        | ambiguous => exact fresh
        | confirmed => exact fresh
      · intro published member
        rw [List.mem_singleton.1 member]
        exact fresh.1 event List.mem_cons_self
  | @eventRecorded _ _ _ event _ rest _ _ _ _ moved =>
      refine ⟨?_, by simp⟩
      rw [moved]
      refine (StagedEvents.tail fresh).move ?_
      intro other member same
      refine (List.nodup_cons.1 fresh.2).1 (List.mem_map.2 ⟨other, member, ?_⟩)
      exact same
  | eventsDrained => exact ⟨trivial, by simp⟩
  | eventsSettled => exact ⟨trivial, by simp⟩
  | commandsOpened _ same reads =>
      refine ⟨same ▸ ⟨?_, reads.distinct⟩, by simp⟩
      exact fun row member => (reads.member row member).1
  | @commandPublished _ _ _ row rest answer =>
      refine ⟨?_, ?_⟩
      · cases answer with
        | refused => exact StagedCommands.tail fresh
        | failed => trivial
        | ambiguous => exact fresh
        | confirmed => exact fresh
      · intro published member
        rw [List.mem_singleton.1 member]
        exact fresh.1 row List.mem_cons_self
  | @commandRecorded _ _ _ row _ rest _ _ _ _ moved =>
      refine ⟨?_, by simp⟩
      rw [moved]
      refine (StagedCommands.tail fresh).move ?_
      intro other member same
      refine (List.nodup_cons.1 fresh.2).1 (List.mem_map.2 ⟨other, member, ?_⟩)
      exact same
  | commandsDrained => exact ⟨trivial, by simp⟩
  | ready => exact ⟨trivial, by simp⟩
  | evidenceDue _ ambiguous => exact ⟨ambiguous, by simp⟩
  | @evidenced row _ confirms =>
      refine ⟨?_, ?_⟩
      · cases confirms with
        | true => exact fresh
        | false => trivial
      · intro event member
        rw [List.mem_singleton.1 member]
        trivial
  | reconciled => exact ⟨trivial, by simp⟩

/-- A turn of a worker aside keeps every memory, and publishes nothing. -/
theorem Turned.aside {world : World} {worker other : Worker}
    {next : (World × Worker) × List BrokerEvent}
    (turned : Turned world worker next) (aside : worker.Aside)
    (fresh : other.Fresh world.database) :
    other.Fresh next.1.1.database ∧ ∀ event ∈ next.2, event.FoundStaged := by
  cases turned with
  | stopped same => exact ⟨same ▸ fresh, by simp⟩
  | waits => exact ⟨fresh, by simp⟩
  | eventsOpened same => exact ⟨same ▸ fresh, by simp⟩
  | commandsOpened _ same => exact ⟨same ▸ fresh, by simp⟩
  | evidenceDue same => exact ⟨same ▸ fresh, by simp⟩
  | evidenced =>
      refine ⟨fresh, ?_⟩
      intro event member
      rw [List.mem_singleton.1 member]
      trivial
  | reconciled held _ moved =>
      refine ⟨?_, by simp⟩
      rw [moved]
      exact fresh.reconciled (held.trans (congrArg some aside))
  | _ => exact aside.elim

/-- A worker aside that opens no batch stays aside. -/
theorem takeAction_aside {host : Host} {world : World} {worker : Worker}
    {action : WorkerAction} (aside : worker.Aside)
    (quiet : ¬Publishing action) :
    (takeAction host world worker action).1.2.Aside := by
  have reconciles : ∀ call, ¬Publishing (.call call) →
      (beginCall world call).2.Aside := by
    intro call quiet
    cases call with
    | reconcilePublication row confirmedAt =>
        simp only [beginCall, turn]
        by_cases ambiguous : row.state = .reconciliationNeeded
        · rw [exec_require_of ambiguous]
          exact ambiguous
        · rw [(exec_require_eq_error _).2 ⟨ambiguous, rfl, rfl⟩]
          trivial
    | _ => exact absurd trivial quiet
  have resumes : ∀ seen, (resume host seen world worker).1.2.Aside := by
    intro seen
    cases worker with
    | idle => trivial
    | ready => trivial
    | evidenceDue row confirmedAt =>
        simp only [resume]
        split
        · exact aside
        · trivial
    | evidenced row confirmedAt =>
        simp only [resume, turn]
        split <;> trivial
    | _ => exact aside.elim
  cases action with
  | crash => trivial
  | resume seen => exact resumes seen
  | call call =>
      cases worker with
      | idle => exact reconciles call quiet
      | ready => exact reconciles call quiet
      | evidenceDue => exact aside
      | evidenced => exact aside
      | _ => exact aside.elim

/-- One worker publishes, and finds every row that it publishes staged. -/
structure Solo (publisher : ι) (system : OutboxSystem ι) : Prop where
  aside : ∀ worker, worker ≠ publisher → (system.workers worker).Aside
  fresh : (system.workers publisher).Fresh system.world.database
  found : ∀ event ∈ system.history, event.FoundStaged

theorem Solo.step [DecidableEq ι] {host : Host} {publisher : ι}
    {system : OutboxSystem ι} {taken : ι × WorkerAction}
    (solo : Solo publisher system)
    (sole : Publishing taken.2 → taken.1 = publisher) :
    Solo publisher (outboxStep host system taken) := by
  have turned := outboxStep_turned host system taken
  have silent : ∀ event ∈ system.history ++
      (takeAction host system.world (system.workers taken.1) taken.2).2,
      (∀ event ∈ (takeAction host system.world (system.workers taken.1)
        taken.2).2, event.FoundStaged) → event.FoundStaged := by
    intro event member fresh
    rcases List.mem_append.1 member with old | new
    · exact solo.found event old
    · exact fresh event new
  by_cases own : taken.1 = publisher
  · have kept := turned.fresh (own ▸ solo.fresh)
    refine ⟨?_, ?_, fun event member => silent event member kept.2⟩
    · intro worker other
      have same :
          (outboxStep host system taken).workers worker =
            system.workers worker := by
        simp [outboxStep, own, other]
      rw [same]
      exact solo.aside worker other
    · have same :
          (outboxStep host system taken).workers publisher =
            (takeAction host system.world (system.workers taken.1)
              taken.2).1.2 := by
        simp [outboxStep, own]
      rw [same]
      exact kept.1
  · have kept := turned.aside (solo.aside taken.1 own) solo.fresh
    refine ⟨?_, ?_, fun event member => silent event member kept.2⟩
    · intro worker other
      by_cases actor : worker = taken.1
      · subst actor
        have same :
            (outboxStep host system taken).workers taken.1 =
              (takeAction host system.world (system.workers taken.1)
                taken.2).1.2 := by
          simp [outboxStep]
        rw [same]
        exact takeAction_aside (solo.aside _ own) (mt sole own)
      · have same :
            (outboxStep host system taken).workers worker =
              system.workers worker := by
          simp [outboxStep, actor]
        rw [same]
        exact solo.aside worker other
    · have same :
          (outboxStep host system taken).workers publisher =
            system.workers publisher := by
        simp [outboxStep, Ne.symm own]
      rw [same]
      exact kept.1

theorem run_solo [DecidableEq ι] {host : Host} (start : World)
    {publisher : ι} {actions : List (ι × WorkerAction)}
    (sole : ∀ taken ∈ actions, Publishing taken.2 → taken.1 = publisher) :
    Solo publisher (run (outboxStep host) (.start start) actions) := by
  refine run_keeps (fun _ _ admissible solo => solo.step admissible)
    (Along.of_mem (fun taken member _ => sole taken member) _) ?_
  exact ⟨fun _ _ => trivial, trivial, by simp [OutboxSystem.start]⟩

/-! ## Every run -/

/-- The broker refused a publication. -/
def BrokerEvent.Refused : BrokerEvent → Prop
  | .command _ _ answer | .application _ _ answer => answer = .refused
  | .evidence _ _ => False

/-- An action that asks the broker or its evidence writes nothing. -/
theorem takeAction_asks {host : Host} {world : World} {worker : Worker}
    {action : WorkerAction} {event : BrokerEvent}
    (emitted : event ∈ (takeAction host world worker action).2) :
    (takeAction host world worker action).1.1 = world := by
  have turned := takeAction_turned host world worker action
  generalize takeAction host world worker action = next at turned emitted ⊢
  cases turned with
  | eventPublished => rfl
  | commandPublished => rfl
  | evidenced => rfl
  | waits => rfl
  | eventsDrained => rfl
  | commandsDrained => rfl
  | _ => cases emitted

section Lifecycle

variable [DecidableEq ι]

/--
In every run of publishers, reconcilers, recoveries and crashes on the two
outboxes, a row is confirmed only with the broker's word, a confirmed row stays
confirmed, no row is lost, a refusal writes nothing, a command that left the
staged state is published only by a batch that read it before, and a recovery
is ready only when every command and every event of the gateway is confirmed.
With one publisher every published row is staged when it is published.
-/
theorem outboxes_lifecycle (host : Host) (start : World)
    (actions : List (ι × WorkerAction)) :
    Grounded start.database
        (run (outboxStep host) (.start start) actions).world.database
        (run (outboxStep host) (.start start) actions).history ∧
      PublicationOnly start.database
        (run (outboxStep host) (.start start) actions).world.database ∧
      (∀ earlier later, actions = earlier ++ later →
        (∀ commandId,
          commandState (run (outboxStep host) (.start start)
              earlier).world.database commandId = some .confirmed →
            commandState (run (outboxStep host) (.start start)
              actions).world.database commandId = some .confirmed) ∧
        (∀ key,
          applicationState (run (outboxStep host) (.start start)
              earlier).world.database key = some .confirmed →
            applicationState (run (outboxStep host) (.start start)
              actions).world.database key = some .confirmed) ∧
        ∀ commandId,
          commandState (run (outboxStep host) (.start start)
              earlier).world.database commandId ≠ some .staged →
            (∀ worker, ¬((run (outboxStep host) (.start start)
              earlier).workers worker).Holds commandId) →
              ∀ found answer,
                .command commandId found answer ∈
                    (run (outboxStep host) (.start start) actions).history →
                  .command commandId found answer ∈
                    (run (outboxStep host) (.start start)
                      earlier).history) ∧
      (∀ earlier taken later, actions = earlier ++ taken :: later →
        ∀ event ∈ (takeAction host
            (run (outboxStep host) (.start start) earlier).world
            ((run (outboxStep host) (.start start) earlier).workers taken.1)
            taken.2).2,
          event.Refused →
            (run (outboxStep host) (.start start)
                (earlier ++ [taken])).world =
              (run (outboxStep host) (.start start) earlier).world) ∧
      (∀ worker,
        (run (outboxStep host) (.start start) actions).workers worker =
            .ready →
          EventsConfirmed
              (run (outboxStep host) (.start start)
                actions).world.database ∧
            CommandsConfirmed
              (run (outboxStep host) (.start start)
                actions).world.database) ∧
      ∀ publisher,
        (∀ taken ∈ actions, Publishing taken.2 → taken.1 = publisher) →
          ∀ event ∈ (run (outboxStep host) (.start start) actions).history,
            event.FoundStaged := by
  have effects := run_effects host (.start start) actions
  refine ⟨run_grounded start actions, effects.2, ?_, ?_, ?_, ?_⟩
  · rintro earlier later rfl
    rw [run_append]
    have advances := (run_effects host
      (run (outboxStep host) (.start start) earlier) later).1
    refine ⟨?_, ?_, ?_⟩
    · intro commandId confirmed
      have onward := advances.commands commandId
      rw [confirmed] at onward
      exact onward.confirmed
    · intro key confirmed
      have onward := advances.events key
      rw [confirmed] at onward
      exact onward.confirmed
    · intro commandId left free found answer published
      exact run_unpublished _ later left free found answer published
  · rintro earlier taken later rfl event emitted _
    rw [run_append, run_cons, run_nil]
    exact takeAction_asks emitted
  · intro worker ready
    have drained := run_drained host start actions worker
    rw [ready] at drained
    exact drained
  · intro publisher sole
    exact (run_solo start sole).found

end Lifecycle

/-! ## Two publishers -/

/-- One valid command is staged. -/
def oneStaged : World where
  database :=
    { Database.empty with
      commandOutbox :=
        { rows := [⟨sampleStaged, .staged⟩]
          distinct := List.nodup_singleton _ } }
  journal := []

/--
Two publishers read the same staged command.  The answer to the first one is
ambiguous and recorded; then the second one publishes from its stale batch.
-/
def staleBatch : List (Bool × WorkerAction) :=
  [ (false, .call (.publishBatch "2026-01-01T00:00:00.000Z")),
    (true, .call (.publishBatch "2026-01-01T00:00:00.000Z")),
    (true, .resume (seenAnswer .ambiguous)),
    (true, .resume (seenAnswer .ambiguous)),
    (false, .resume (seenAnswer .refused)) ]

theorem oneStaged_read (journal : List Effect) :
    exec (readCommands .staged) ⟨oneStaged.database, journal⟩ =
      (.ok [⟨sampleStaged, .staged⟩],
        ⟨oneStaged.database, journal ++ [.committed]⟩) :=
  rfl

theorem oneStaged_publishable :
    publishable sampleHost ⟨sampleStaged, .staged⟩ =
      .ok "aerial-rescue/v1/mission-1/drone/drone-1/command/escalate-rescue" :=
  bind_eq_ok.2 ⟨(), ensure_eq_ok.2 rfl, sampleStaged_published⟩

theorem oneStaged_recorded (journal : List Effect) :
    exec (recordCommand "command-1" .staged .ambiguous none)
        ⟨oneStaged.database, journal⟩ =
      (.ok (),
        ⟨moveCommand oneStaged.database "command-1" .reconciliationNeeded,
          journal ++ [.committed]⟩) :=
  rfl

/-- A worker asks the broker for a row that passes its checks. -/
theorem resume_publishable {host : Host} {row : CommandOutboxRow}
    {topic : String} (formed : publishable host row = .ok topic)
    (seen : Seen) (world : World) (recovering : Bool) (confirmedAt : String)
    (report : PublicationReport) (rest : List CommandOutboxRow) :
    resume host seen world
        (.commands recovering confirmedAt report (row :: rest)) =
      ((world,
        commandPublished recovering confirmedAt report row rest seen.answer),
        [.command row.command.commandId
          (commandState world.database row.command.commandId)
          seen.answer]) := by
  simp only [resume, formed]

/-- A worker records what the broker answered for a row. -/
theorem resume_commandAnswered (host : Host) (seen : Seen) (world : World)
    (recovering : Bool) (confirmedAt : String) (report : PublicationReport)
    (row : CommandOutboxRow) (outcome : OutboxEvent)
    (rest : List CommandOutboxRow) :
    resume host seen world
        (.commandAnswered recovering confirmedAt report row outcome rest) =
      (turn (recordCommand row.command.commandId row.state outcome
          (confirmation outcome confirmedAt)) world fun _ =>
        .commands recovering confirmedAt (report.count (answerOf outcome))
          rest, []) :=
  rfl

/-- The stale batch publishes an ambiguous command, and is refused. -/
theorem staleBatch_publishes :
    (run (outboxStep sampleHost) (.start oneStaged) staleBatch).history =
        [.command "command-1" (some .staged) .ambiguous,
          .command "command-1" (some .reconciliationNeeded) .refused] ∧
      commandState
          (run (outboxStep sampleHost) (.start oneStaged)
            staleBatch).world.database "command-1" =
        some .reconciliationNeeded := by
  have held : commandState oneStaged.database "command-1" = some .staged :=
    rfl
  have moved :
      commandState
          (moveCommand oneStaged.database "command-1" .reconciliationNeeded)
          "command-1" = some .reconciliationNeeded := by
    rw [commandState_moveCommand, if_pos rfl, held]
    rfl
  have identity : sampleStaged.commandId = "command-1" := rfl
  have first := oneStaged_read oneStaged.journal
  have asked := resume_publishable oneStaged_publishable
  simp [staleBatch, outboxStep, OutboxSystem.start, takeAction, beginCall,
    turn, first, oneStaged_read, asked, resume_commandAnswered,
    oneStaged_recorded, commandPublished, seenAnswer, confirmation, identity,
    held, moved]

/-- A stale batch publishes an ambiguous row, and a refusal finds it so. -/
theorem ambiguous_republished :
    (¬∀ (host : Host) (start : World) (actions : List (Bool × WorkerAction))
      (commandId : String) (found : Option OutboxState)
      (answer : BrokerAnswer),
      .command commandId found answer ∈
          (run (outboxStep host) (.start start) actions).history →
        found ≠ some .reconciliationNeeded) ∧
      ¬∀ (host : Host) (start : World) (actions : List (Bool × WorkerAction))
        (commandId : String) (found : Option OutboxState),
        .command commandId found .refused ∈
            (run (outboxStep host) (.start start) actions).history →
          commandState
              (run (outboxStep host) (.start start)
                actions).world.database commandId = some .staged := by
  rcases staleBatch_publishes with ⟨history, state⟩
  constructor
  · intro never
    refine never sampleHost oneStaged staleBatch "command-1"
      (some .reconciliationNeeded) .refused ?_ rfl
    rw [history]
    exact List.mem_cons_of_mem _ List.mem_cons_self
  · intro stays
    have staged := stays sampleHost oneStaged staleBatch "command-1"
      (some .reconciliationNeeded) (by
        rw [history]
        exact List.mem_cons_of_mem _ List.mem_cons_self)
    rw [state] at staged
    cases staged

end AerialRescue.Gateway
