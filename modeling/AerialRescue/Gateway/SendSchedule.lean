import AerialRescue.Gateway.Resolution
import AerialRescue.Lib.Run

/-!
# Command progress and publication

The serving loop publishes the command outbox and handles command results, and
no turn of it records a send.  Over every run the progress of every command
therefore stays where authorization put it, and the acknowledgement of a
command is stale even when its outbox row is confirmed.
-/

namespace AerialRescue.Gateway

open AerialRescue.Contracts
open AerialRescue.Contracts.Canonical
open AerialRescue.Contracts.Envelopes
open AerialRescue.Contracts.Instant
open AerialRescue.Contracts.Topics
open AerialRescue.Domain.Commands
open AerialRescue.Gateway.Ingress
open AerialRescue.Lib
open AerialRescue.Lib.Guard
open AerialRescue.Lib.Run
open AerialRescue.Lib.Transaction
open AerialRescue.Store

variable {host : Host}

/-! ## The invariant -/

/-- No command of the database was ever sent. -/
def Unsent (database : Database) : Prop :=
  ∀ row ∈ database.progress.rows, row.progress = initialProgress

/-- The stored progress of a command is acknowledged. -/
def IsAcknowledged (database : Database) (commandId : String) : Prop :=
  ∃ row,
    database.progress.find? commandId = some row ∧
      row.progress.state = .acknowledged

theorem Unsent.not_acknowledged {database : Database}
    (unsent : Unsent database) (commandId : String) :
    ¬IsAcknowledged database commandId := by
  rintro ⟨row, found, acknowledged⟩
  rw [unsent row (Table.find?_mem found)] at acknowledged
  cases acknowledged

/-- No result moves a command that was never sent. -/
theorem advance_initial (outcome : ResultOutcome) (budget : SendBudget) :
    advance initialProgress (resultEvent outcome) budget = none := by
  cases outcome <;> rfl

/-- A step of the loop sends no command. -/
theorem unsent_stable {before after : Database}
    (effect : StepEffect host before after) (unsent : Unsent before) :
    Unsent after := by
  cases effect with
  | refusal same =>
      rw [same]
      exact unsent
  | command _ _ turn _ committed =>
      cases committed with
      | redelivery _ _ _ _ _ _ unchanged =>
          rw [unchanged]
          exact unsent
      | prior _ _ frame _ =>
          rw [frame]
          exact unsent
      | decided _ _ artifacts _ _ written =>
          intro row member
          rw [written.progress] at member
          rcases List.mem_append.1 member with old | started
          · exact unsent row old
          · unfold startedProgress at started
            cases held : artifacts.command with
            | none => simp [held] at started
            | some pair =>
                simp only [held, Option.elim_some,
                  List.mem_singleton] at started
                rw [started]
                rfl
  | approval bound =>
      rw [bound.frame]
      exact unsent
  | result moved =>
      rcases moved.progress with same | ⟨current, outcome, became, _, found,
        legal, _⟩
      · intro row member
        rw [same] at member
        exact unsent row member
      · rw [unsent current (Table.find?_mem found), advance_initial] at legal
        cases legal
  | publication published =>
      rw [published.frame]
      exact unsent

theorem run_unsent (host : Host) {start : World}
    (unsent : Unsent start.database) (steps : List GatewayStep) :
    Unsent (run (gatewayStep host) start steps).database := by
  have keeps :
      ∀ (world : World) (step : GatewayStep), Unsent world.database →
        Unsent (gatewayStep host world step).database :=
    fun world step => unsent_stable (gatewayStep_effect world step)
  exact run_keeps_always keeps steps unsent

/-! ## Results -/

/-- A first result of a command that was never sent is stale. -/
theorem commandResultBody_unsent {ingress : CommandResultIngress}
    {identity : InboxIdentity} {current : StoredCommandProgress}
    {before after : Database} {result : CommandResult}
    (unsent : Unsent before)
    (free : before.inbox.find? identity.key = none)
    (found :
      before.progress.find? ingress.payload.commandId = some current)
    (addressed : resultMatches ingress current = true)
    (returned :
      exec (commandResultBody host ingress identity) before =
        (.ok result, after)) :
    result.outcome = .stale ∧ result.state = .accepted := by
  have initial : current.progress = initialProgress :=
    unsent current (Table.find?_mem found)
  simp only [commandResultBody, exec_bind_eq_ok,
    exec_rethrow_eq_ok] at returned
  rcases returned with ⟨claim, _, claimed, answered⟩
  rcases claimInbox_ok claimed with
    ⟨rfl, inbox, inserted, rfl⟩ | ⟨row, _, _, rfl, rfl, taken, _⟩
  · simp only [answerResult, exec_bind_eq_ok, exec_rethrow_eq_ok,
      loadProgress_ok, exec_pure, Prod.mk.injEq, Except.ok.injEq]
      at answered
    rcases answered with ⟨loaded, _, ⟨stored, _, rfl⟩, _, _, applied, _, _,
      _, rfl, _⟩
    rw [found] at stored
    cases stored
    simp only [applyResult, addressed, Bool.true_eq_false, if_false,
      exec_bind_eq_ok] at applied
    rcases applied with ⟨outcome, _, attempted, rest⟩
    rcases attemptTransition_ok attempted with
      ⟨rfl, rfl, _⟩ | ⟨became, legal, _, _⟩
    · simp only [exec_bind_eq_ok, exec_lift_eq_ok, exec_pure,
        Prod.mk.injEq, Except.ok.injEq] at rest
      rcases rest with ⟨_, _, _, rfl, _⟩
      exact ⟨rfl, by rw [initial]; rfl⟩
    · rw [initial, advance_initial] at legal
      cases legal
  · rw [free] at taken
    cases taken

/-- A first result that is handled in an unsent database is stale. -/
theorem handleCommandResult_unsent {ingress : CommandResultIngress}
    {identity : InboxIdentity} {current : StoredCommandProgress}
    {observedAt : String} {settlement : SettlementPort}
    {delivery : GuaranteedDelivery} {before after : World}
    {result : CommandResult} (unsent : Unsent before.database)
    (admitted :
      acceptIngress host delivery.payload delivery.topic =
        .ok (.commandResult ingress))
    (identified :
      inboxIdentity host ingress.envelope ingress.payload.missionId =
        .ok identity)
    (free : before.database.inbox.find? identity.key = none)
    (found :
      before.database.progress.find? ingress.payload.commandId =
        some current)
    (addressed : resultMatches ingress current = true)
    (returned :
      exec (handleCommandResult host observedAt settlement delivery)
        before = (.ok result, after)) :
    result.outcome = .stale ∧ result.state = .accepted := by
  unfold handleCommandResult at returned
  rw [handleDelivery_of_some _ _ _ _ _ _ _ _ _ admitted rfl] at returned
  exact commandResultBody_unsent unsent free found addressed
    (process_returned identified returned)

/-- Handling a result leaves a database in which nothing was sent. -/
theorem handleCommandResult_keepsUnsent (host : Host)
    (observedAt : String) (settlement : SettlementPort) (delivery : GuaranteedDelivery)
    {before : World} (unsent : Unsent before.database) :
    Unsent (exec (handleCommandResult host observedAt settlement delivery)
      before).2.database := by
  have effect : StepEffect host before.database
      (exec (handleCommandResult host observedAt settlement delivery)
        before).2.database := by
    rcases handleCommandResult_database observedAt settlement delivery
        before with same | moved
    · exact .refusal same
    · exact .result moved
  exact unsent_stable effect unsent

/--
Over every run of the serving loop from a store in which nothing was sent, no
handled result leaves any command acknowledged, and the first result that a
command's own drone sends is answered as stale in the accepted state, whatever
the state of the command's outbox row.
-/
theorem publishedCommand_neverAcknowledged (host : Host) (start : World)
    (unsent : Unsent start.database) (steps : List GatewayStep)
    (observedAt : String) (settlement : SettlementPort)
    (delivery : GuaranteedDelivery) :
    (∀ commandId,
      ¬IsAcknowledged
        (exec (handleCommandResult host observedAt settlement delivery)
          (run (gatewayStep host) start steps)).2.database commandId) ∧
      ∀ ingress identity current result after,
        acceptIngress host delivery.payload delivery.topic =
            .ok (.commandResult ingress) →
          inboxIdentity host ingress.envelope ingress.payload.missionId =
            .ok identity →
          (run (gatewayStep host) start steps).database.inbox.find?
              identity.key = none →
          (run (gatewayStep host) start steps).database.progress.find?
              ingress.payload.commandId = some current →
          resultMatches ingress current = true →
          exec (handleCommandResult host observedAt settlement delivery)
              (run (gatewayStep host) start steps) = (.ok result, after) →
          result.outcome = .stale ∧ result.state = .accepted := by
  have reached := run_unsent host unsent steps
  constructor
  · intro commandId
    exact (handleCommandResult_keepsUnsent host observedAt settlement
      delivery reached).not_acknowledged commandId
  · intro ingress identity current result after admitted identified free
      found addressed returned
    exact handleCommandResult_unsent reached admitted identified free found
      addressed returned

/-! ## A confirmed command -/

/-- A batch of one valid row that the broker confirms is confirmed. -/
theorem publishBatch_single {command : StagedCommand} {topic : String}
    {confirmedAt : String} {world : World}
    (rows :
      world.database.commandOutbox.rows = [⟨command, .staged⟩])
    (published : publicationTopic host command = .ok topic)
    (instant : (parseInstant confirmedAt).isOk = true) :
    (exec (publishBatch host (fun _ => .confirmed) confirmedAt)
        world).2.database =
      moveCommand world.database command.commandId .confirmed := by
  have held :
      world.database.commandOutbox.find? command.commandId =
        some ⟨command, .staged⟩ :=
    Table.find?_eq_some.2 ⟨by simp [rows], rfl⟩
  have listed :
      exec (transaction (rethrow Failure.store
        (pendingCommands .staged commandPublicationBatchSize))) world =
        (.ok [⟨command, .staged⟩],
          ⟨world.database, world.journal ++ [.committed]⟩) := by
    refine transaction_ok.2 ⟨exec_rethrow_eq_ok.2 ?_, rfl⟩
    unfold pendingCommands
    rw [exec_bind_of_ok (exec_require_of (by decide) _ _),
      exec_bind_of_ok (exec_require_of (by decide) _ _),
      exec_bind_of_ok (exec_read _)]
    simp [rows, commandPublicationBatchSize]
  have recorded :
      exec (transaction (rethrow Failure.store
        (recordPublication command.commandId .staged .confirm)))
        ⟨world.database, world.journal ++ [.committed]⟩ =
        (.ok .confirmed,
          ⟨moveCommand world.database command.commandId .confirmed,
            world.journal ++ [.committed] ++ [.committed]⟩) :=
    transaction_ok.2
      ⟨exec_rethrow_eq_ok.2 (recordPublication_of rfl held rfl), rfl⟩
  have moved :
      exec (recordCommand command.commandId .staged .confirm
        (some confirmedAt)) ⟨world.database, world.journal ++ [.committed]⟩ =
        (.ok (),
          ⟨moveCommand world.database command.commandId .confirmed,
            world.journal ++ [.committed] ++ [.committed]⟩) := by
    unfold recordCommand
    rw [exec_bind_of_ok (exec_require_of (by simp) _ _),
      exec_bind_of_ok (exec_require_of (by simpa using instant) _ _),
      exec_bind_of_ok recorded, exec_pure]
  have one :
      exec (publishOne host .confirmed ⟨command, .staged⟩ confirmedAt)
        ⟨world.database, world.journal ++ [.committed]⟩ =
        (.ok (),
          ⟨moveCommand world.database command.commandId .confirmed,
            world.journal ++ [.committed] ++ [.committed]⟩) := by
    unfold publishOne
    rw [exec_bind_of_ok (exec_require_of rfl _ _),
      exec_bind_of_ok (exec_lift_eq_ok.2 ⟨published, rfl⟩)]
    exact moved
  unfold publishBatch
  rw [exec_bind_of_ok listed]
  simp only [publishRows]
  rw [exec_bind_of_ok one, exec_pure]

theorem sampleStaged_published :
    publicationTopic sampleHost sampleStaged =
      .ok "aerial-rescue/v1/mission-1/drone/drone-1/command/escalate-rescue" := by
  have decoded :
      decodeEnvelope sampleHost sampleStaged.payload.bytes =
        .ok sampleStagedEnvelope :=
    sampleStaged_formed.2
  simp only [publicationTopic, decoded, bind_eq_ok, recast_eq_ok,
    present_eq_ok, ensure_eq_ok]
  refine ⟨_, rfl, "escalate-rescue", by decide, (),
    by decide, (), by decide, by decide⟩

/-- The loop authorizes the sample command and publishes it. -/
def sampleTurns : List GatewayStep :=
  [ .dispatch (literalSuffix .operatorCommand) sampleDelivery sampleTurn
      boundSettlement,
    .publishCommands (fun _ => .confirmed) "2026-01-01T00:00:15.000Z" ]

/-- The world after the sample turns. -/
def samplePublished : World :=
  run (gatewayStep sampleHost) ⟨sampleDatabase, []⟩ sampleTurns

theorem samplePublished_database :
    ∃ claim artifacts after,
      samplePublished.database =
          moveCommand after sampleStaged.commandId .confirmed ∧
        artifacts.command =
          some (sampleStaged, ⟨"command-1", "mission-1", "drone-1"⟩) ∧
        Written sampleHost sampleDatabase after sampleIngress
          sampleIdentity sampleStamp claim
          (.authorized (some (sampleBound .executed))) artifacts := by
  rcases sampleHandled sampleTurn.observedAt boundSettlement with
    ⟨claim, artifacts, after, handled, held, written⟩
  refine ⟨claim, artifacts, after, ?_, held, written⟩
  have dispatched :
      (gatewayStep sampleHost ⟨sampleDatabase, []⟩
        (.dispatch (literalSuffix .operatorCommand) sampleDelivery
          sampleTurn boundSettlement)).database = after := by
    rw [gatewayStep_operatorCommand]
    have called :
        exec (handleOperatorCommand sampleHost
          (storeAuthorizationTransaction sampleHost) sampleTurn.observedAt
          boundSettlement sampleDelivery sampleTurn.stamp sampleTurn.clock)
          ⟨sampleDatabase, []⟩ =
          exec
            (do
              boundSettlement.accept "event-1"
              pure ⟨.authorized, artifacts.result, none⟩)
            ⟨after, [.committed]⟩ :=
      handled
    rw [called]
    exact exec_bind_database (boundSettlement.acceptKeeps _ _)
  have rows : after.commandOutbox.rows = [⟨sampleStaged, .staged⟩] := by
    rw [written.commandOutbox]
    simp [stagedCommands, held, sampleDatabase, Database.empty]
  have instant :
      (parseInstant "2026-01-01T00:00:15.000Z").isOk = true := by
    decide
  have moved :
      ∀ world : World, world.database = after →
        (gatewayStep sampleHost world
          (.publishCommands (fun _ => .confirmed)
            "2026-01-01T00:00:15.000Z")).database =
          moveCommand after sampleStaged.commandId .confirmed := by
    rintro world rfl
    exact publishBatch_single rows sampleStaged_published instant
  rw [samplePublished, sampleTurns, run_cons, run_cons, run_nil]
  exact moved _ dispatched

theorem samplePublished_confirmed :
    (⟨sampleStaged, .confirmed⟩ : CommandOutboxRow) ∈
      samplePublished.database.commandOutbox.rows := by
  rcases samplePublished_database with
    ⟨_, artifacts, after, published, held, written⟩
  have staged :
      after.commandOutbox.find? sampleStaged.commandId =
        some ⟨sampleStaged, .staged⟩ := by
    refine Table.find?_eq_some.2 ⟨?_, rfl⟩
    simp [written.commandOutbox, stagedCommands, held]
  rw [published]
  exact Table.find?_mem (moveCommand_find? staged)

theorem sampleDatabase_unsent : Unsent sampleDatabase := by
  simp [Unsent, sampleDatabase, Database.empty]

/-- The inbox identity of the sample acknowledgement. -/
def sampleResultIdentity : InboxIdentity where
  consumer := consumer
  source := "urn:aerial-rescue:drone:drone-1"
  eventId := "result-1"
  missionId := "mission-1"
  canonicalDigest :=
    sampleSha256 (bytesOf (.object (envelopeDocument sampleResult)))

theorem sampleResultIdentified :
    inboxIdentity sampleHost sampleResult "mission-1" =
      .ok sampleResultIdentity := by
  have member :
      Value.object (envelopeDocument sampleResult) ∈ sampleDocuments := by
    simp [sampleDocuments]
  simp only [inboxIdentity, (sampleDecode member).1, bind_eq_ok,
    recast_eq_ok, pure_eq_ok]
  exact ⟨_, rfl, rfl⟩

/-- The published sample command takes a first result of its drone. -/
theorem samplePublished_resultFits :
    samplePublished.database.inbox.find? sampleResultIdentity.key = none ∧
      samplePublished.database.progress.find? "command-1" =
        some (initialRow ⟨"command-1", "mission-1", "drone-1"⟩
          sampleStamp.occurredAt) := by
  rcases samplePublished_database with
    ⟨_, artifacts, after, published, held, written⟩
  have keys :
      after.inbox.rows.map InboxRow.key = [sampleIdentity.key] := by
    rw [written.inbox]
    rfl
  rw [published]
  constructor
  · simp only [moveCommand, Table.find?_eq_none, keys]
    decide
  · simp only [moveCommand, Table.find?_eq_some, written.progress]
    simp [startedProgress, held, initialRow, StoredCommandProgress.key]

/-- The acknowledgement of the published sample command is handled. -/
theorem samplePublished_handled :
    ∃ result after,
      exec (handleCommandResult sampleHost sampleTurn.observedAt
        boundSettlement sampleResultDelivery) samplePublished =
        (.ok result, after) := by
  rcases samplePublished_resultFits with ⟨free, found⟩
  have encodes :
      ∃ bytes,
        commandResultBytes sampleHost sampleResultIngress .stale .accepted =
          .ok bytes := by
    refine ⟨_, recast_eq_ok.2 (canonicalBytes_bytesOf rfl ?_)⟩
    decide
  rcases encodes with ⟨bytes, encoded⟩
  have succeeds :
      Succeeds (commandResultBody sampleHost sampleResultIngress
        sampleResultIdentity) samplePublished.database :=
    succeeds_commandResultBody.2 ⟨by decide,
      .applied _ bytes free found (by decide) encoded⟩
  rcases succeeds with ⟨result, database, returned⟩
  have selected :
      commandResult? (.commandResult sampleResultIngress) =
        some sampleResultIngress := rfl
  have processed :
      exec (process sampleHost sampleResult "mission-1"
        (fun identity =>
          commandResultBody sampleHost sampleResultIngress identity)
        boundSettlement) samplePublished =
        exec
          (do
            boundSettlement.accept "result-1"
            pure result)
          ⟨database, samplePublished.journal ++ [.committed]⟩ :=
    process_committed _ sampleResultIdentified returned
  refine ⟨result, ⟨database,
    samplePublished.journal ++ [.committed] ++ [.accepted "result-1"]⟩, ?_⟩
  unfold handleCommandResult
  rw [handleDelivery_of_some _ _ _ _ _ _ _ _ _ sampleResultAccepted
    selected]
  exact processed

/--
The sample command is confirmed in the outbox, its own drone's first
acknowledgement is handled, and it is stale and moves nothing.
-/
theorem confirmedCommand_stale :
    (⟨sampleStaged, .confirmed⟩ : CommandOutboxRow) ∈
        samplePublished.database.commandOutbox.rows ∧
      acceptIngress sampleHost sampleResultDelivery.payload
          sampleResultDelivery.topic =
        .ok (.commandResult sampleResultIngress) ∧
      sampleResultIngress.payload.outcome = .acknowledged ∧
      ∃ result after,
        exec (handleCommandResult sampleHost sampleTurn.observedAt
            boundSettlement sampleResultDelivery) samplePublished =
          (.ok result, after) ∧
          result.outcome = .stale ∧
          ¬IsAcknowledged after.database sampleStaged.commandId := by
  refine ⟨samplePublished_confirmed, sampleResultAccepted, rfl, ?_⟩
  rcases samplePublished_handled with ⟨result, after, handled⟩
  rcases samplePublished_resultFits with ⟨free, found⟩
  have unsent : Unsent samplePublished.database :=
    run_unsent sampleHost sampleDatabase_unsent sampleTurns
  have stale := handleCommandResult_unsent unsent sampleResultAccepted
    sampleResultIdentified free found (by decide) handled
  have kept := handleCommandResult_keepsUnsent sampleHost
    sampleTurn.observedAt boundSettlement sampleResultDelivery unsent
  rw [handled] at kept
  exact ⟨result, after, handled, stale.1,
    kept.not_acknowledged sampleStaged.commandId⟩

/-- The general result at the sample run, whose command is confirmed. -/
theorem publishedCommand_neverAcknowledged_sample :
    Unsent sampleDatabase ∧
      (⟨sampleStaged, .confirmed⟩ : CommandOutboxRow) ∈
        (run (gatewayStep sampleHost) ⟨sampleDatabase, []⟩
          sampleTurns).database.commandOutbox.rows ∧
      ¬IsAcknowledged
        (exec (handleCommandResult sampleHost sampleTurn.observedAt
          boundSettlement sampleResultDelivery)
          (run (gatewayStep sampleHost) ⟨sampleDatabase, []⟩
            sampleTurns)).2.database sampleStaged.commandId := by
  have confirmed := samplePublished_confirmed
  rw [samplePublished] at confirmed
  exact ⟨sampleDatabase_unsent, confirmed,
    (publishedCommand_neverAcknowledged sampleHost ⟨sampleDatabase, []⟩
      sampleDatabase_unsent sampleTurns sampleTurn.observedAt
      boundSettlement sampleResultDelivery).1 sampleStaged.commandId⟩

end AerialRescue.Gateway
