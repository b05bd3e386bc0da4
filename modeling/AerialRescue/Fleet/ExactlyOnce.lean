import AerialRescue.Fleet.NoLoss
import Mathlib.Data.List.Induction

/-!
# A drone command is applied once

One transaction writes everything a new command leaves behind: its effect, its
completed receipt and its two results.  Over any run the three tables are the
records of the same commits in the same order, so that an effect stands for one
completed receipt, one acknowledged and one final result.  Every other delivery
leaves the rows as they were.
-/

namespace AerialRescue.Fleet

open AerialRescue.Contracts
open AerialRescue.Domain.Commands
open AerialRescue.Lib
open AerialRescue.Lib.Run
open AerialRescue.Lib.Transaction
open AerialRescue.Store

/-! ## Commits -/

/-- The records that one new command leaves behind. -/
structure CommandCommit where
  effect : DurableCommandEffect
  acknowledged : StagedApplicationEvent
  final : StagedApplicationEvent

namespace CommandCommit

/-- The receipt is completed with the final result. -/
def receipt (commit : CommandCommit) : ReceiptRow where
  identity := commit.effect.identity
  completion :=
    some
      ⟨commit.final.payload, commit.effect.appliedSequence,
        commit.effect.appliedAt⟩

/-- The results of the commit, in the order they are staged. -/
def results (commit : CommandCommit) : List StagedApplicationEvent :=
  [commit.acknowledged, commit.final]

/-- The results report the acknowledgement and the effect of one command. -/
def Reports (commit : CommandCommit) : Prop :=
  ∃ (context : CommandContext) (command : IncomingCommand) (stamps : Stamps),
    command.commandId = commit.effect.identity.commandId ∧
      storeOutcome
          (context.effect commit.effect.identity.droneId command).event =
        some commit.effect.outcome ∧
      stagedReport context commit.effect.identity command .acknowledge
          stamps.acknowledged =
        .ok commit.acknowledged ∧
      stagedReport context commit.effect.identity command
          (context.effect commit.effect.identity.droneId command).event
          stamps.final =
        .ok commit.final

/-- One transaction appends the records of the commit and no others. -/
structure Appends (commit : CommandCommit) (before after : FleetDatabase) :
    Prop where
  effects : after.effects.rows = before.effects.rows ++ [commit.effect]
  receipts : after.receipts.rows = before.receipts.rows ++ [commit.receipt]
  outbox :
    after.outbox.rows =
      before.outbox.rows ++
        commit.results.map fun event => ⟨event, .staged, none⟩

end CommandCommit

/-! ## The rows of one transaction -/

theorem stageAll_rows {identity : DroneStreamIdentity}
    {events : List StagedApplicationEvent} {before after : FleetDatabase}
    {value : Unit}
    (staged : exec (stageAll identity events) before = (.ok value, after)) :
    after.outbox.rows =
      before.outbox.rows ++
        events.map fun event => ⟨event, .staged, none⟩ := by
  induction events generalizing before with
  | nil =>
      simp only [stageAll, exec_pure, Prod.mk.injEq] at staged
      rw [staged.2, List.map_nil, List.append_nil]
  | cons event rest inductionHypothesis =>
      simp only [stageAll, exec_bind_eq_ok] at staged
      rcases staged with ⟨_, middle, first, others⟩
      rw [inductionHypothesis others,
        Table.insert?_rows (stageCritical_ok first).2.2]
      simp

/-- What a new outcome writes when its receipt was just claimed. -/
theorem persistOutcome_appends {identity : DroneStreamIdentity}
    {commit : CommandCommit} {claimed : Table ReceiptRow.key}
    {before middle after : FleetDatabase} {value : Unit}
    (inserted :
      before.receipts.insert? ⟨commit.effect.identity, none⟩ = some claimed)
    (receipts : middle.receipts = claimed)
    (effects : middle.effects = before.effects)
    (outbox : middle.outbox = before.outbox)
    (persisted :
      exec (persistOutcome identity commit.effect commit.results
          commit.final.payload) middle =
        (.ok value, after)) :
    commit.Appends before after := by
  simp only [persistOutcome, exec_bind_eq_ok, exec_require_eq_ok] at persisted
  rcases persisted with
    ⟨_, _, ⟨_, rfl⟩, _, first, recorded, _, second, staged, completed⟩
  rcases recordEffect_ok recorded with ⟨recordedEffects, newEffect, rfl⟩
  rcases stageAll_ok staged with ⟨sameReceipts, sameEffects, _, _⟩
  have stagedRows := stageAll_rows staged
  rcases completeReceipt_ok completed with ⟨_, rfl⟩
  have sameTable : second.receipts = claimed := sameReceipts.trans receipts
  refine ⟨?_, ?_, ?_⟩
  · dsimp only
    rw [sameEffects, Table.insert?_rows newEffect, effects]
  · rw [sameTable]
    exact Table.amend_insert?_rows before.receipts
      (fun row => { row with completion := commit.receipt.completion })
      (fun _ => rfl) inserted
  · dsimp only
    rw [stagedRows, outbox]

/--
A transaction that returns appends one commit, or it met a completed receipt
and wrote nothing.
-/
theorem insideTransaction_appends {context : CommandContext}
    {identity : CommandReceiptIdentity} {command : IncomingCommand}
    {stamps : Stamps} {before after : FleetDatabase}
    {outcome : CommandProcessingOutcome}
    (names : command.commandId = identity.commandId)
    (returned :
      exec (insideTransaction context identity command stamps) before =
        (.ok outcome, after)) :
    (∃ commit : CommandCommit,
      commit.effect.identity = identity ∧ commit.Reports ∧
        commit.Appends before after ∧
        outcome = .applied commit.final.payload) ∨
    after = before ∧
      ∃ completion, outcome = .duplicate completion.result ∧
        ⟨identity, some completion⟩ ∈ before.receipts.rows := by
  simp only [insideTransaction, exec_bind_eq_ok] at returned
  rcases returned with ⟨decision, middle, claim, rest⟩
  rcases claimReceipt_ok claim with
    ⟨rfl, receipts, inserted, rfl⟩ |
      ⟨row, completion, rfl, rfl, found, rfl, complete⟩
  · simp only [exec_bind_eq_ok, exec_require_eq_ok, exec_pure,
      Prod.mk.injEq, Except.ok.injEq, applyNew, exec_demand_eq_ok,
      exec_lift_eq_ok, exec_rethrow_eq_ok] at rest
    rcases rest with
      ⟨_, admitted, admission, _, _, ⟨_, rfl⟩, _, _,
        ⟨effect, _, ⟨selected, rfl⟩, acknowledged, _, ⟨first, rfl⟩, final, _,
          ⟨second, rfl⟩, _, _, persisted, rfl, rfl⟩, rfl, rfl⟩
    have same := (admitSequence_ok admission).1
    let commit : CommandCommit :=
      { effect :=
          { identity
            outcome := effect
            effectPayload :=
              (context.effect identity.droneId command).effectPayload
            appliedSequence :=
              (context.effect identity.droneId command).appliedSequence
            appliedAt := stamps.processedAt }
        acknowledged
        final }
    refine .inl ⟨commit, rfl,
      ⟨context, command, stamps, names, selected, first, second⟩, ?_, rfl⟩
    exact persistOutcome_appends inserted same.receipts same.effects
      same.outbox persisted
  · simp only [exec_pure, Prod.mk.injEq, Except.ok.injEq] at rest
    rcases rest with ⟨rfl, rfl⟩
    refine .inr ⟨rfl, completion, rfl, ?_⟩
    have member := Table.find?_mem found
    rcases row with ⟨held, outcome⟩
    rw [← complete]
    exact member

/-- A completed receipt answers for its command without a write. -/
theorem insideTransaction_duplicate {context : CommandContext}
    {identity : CommandReceiptIdentity} {command : IncomingCommand}
    {stamps : Stamps} {database : FleetDatabase}
    {completion : ReceiptCompletion}
    (held : ⟨identity, some completion⟩ ∈ database.receipts.rows) :
    exec (insideTransaction context identity command stamps) database =
      (.ok (.duplicate completion.result), database) := by
  have found :
      database.receipts.find? identity.key =
        some ⟨identity, some completion⟩ :=
    Table.find?_eq_some.2 ⟨held, rfl⟩
  have taken : database.receipts.insert? ⟨identity, none⟩ = none :=
    Table.insert?_eq_none.2 ⟨_, found⟩
  have claimed :
      exec (claimReceipt identity) database =
        (.ok (.duplicate completion), database) := by
    simp [claimReceipt, exec_bind, taken, found, demand, require]
  simp [insideTransaction, exec_bind, claimed]

/-! ## One delivery -/

/-- The transaction of a delivery raises a failure from these rows. -/
def FleetDatabase.Raises (database : FleetDatabase)
    (context : CommandContext) (delivery : CommandDelivery)
    (stamps : Stamps) (failure : FleetFailure) : Prop :=
  ∃ droneId command,
    intake context delivery = .ok (droneId, command) ∧
      ∃ working,
        exec
            (insideTransaction context
              (receiptIdentity context delivery droneId command) command
              stamps)
            database =
          (.error failure, working)

/-- The transaction of a delivery returns and commits these rows. -/
def FleetDatabase.Returns (database : FleetDatabase)
    (context : CommandContext) (delivery : CommandDelivery)
    (stamps : Stamps) (outcome : CommandProcessingOutcome)
    (after : FleetDatabase) : Prop :=
  ∃ droneId command,
    intake context delivery = .ok (droneId, command) ∧
      exec
          (insideTransaction context
            (receiptIdentity context delivery droneId command) command stamps)
          database =
        (.ok outcome, after)

/-- What one handling of a delivery asks of its ports, in order. -/
inductive PortCall where
  /-- The evidence of a malformed command is recorded on its own. -/
  | refuse
  | commit (database : FleetDatabase)
  | rollback
  | accept
  | fail
  | reject

/-- The calls of `handle_command`. -/
def handleCalls (context : CommandContext) (delivery : CommandDelivery)
    (stamps : Stamps) (database : FleetDatabase) : List PortCall :=
  match intake context delivery with
  | .error _ => [.refuse, .reject]
  | .ok (droneId, command) =>
      let identity := receiptIdentity context delivery droneId command
      match exec (atomically (insideTransaction context identity command
          stamps)) database with
      | (.ok _, after) => [.commit after, .accept]
      | (.error .superseded, _) => [.rollback, .accept]
      | (.error (.processing .criticalOutboxCapacity), _) =>
          [.rollback, .fail]
      | (.error _, _) => [.rollback]

/-- Every way one delivery is handled. -/
inductive Handled (context : CommandContext) (delivery : CommandDelivery)
    (stamps : Stamps) (database : FleetDatabase) :
    FleetDatabase × Settlement → List PortCall → Prop where
  | malformed {refusal : ProcessingRefusal}
      (refused : intake context delivery = .error refusal) :
      Handled context delivery stamps database (database, .rejected)
        [.refuse, .reject]
  | committed {outcome : CommandProcessingOutcome} {after : FleetDatabase}
      (returns : database.Returns context delivery stamps outcome after) :
      Handled context delivery stamps database (after, .accepted)
        [.commit after, .accept]
  | superseded
      (raises : database.Raises context delivery stamps .superseded) :
      Handled context delivery stamps database (database, .accepted)
        [.rollback, .accept]
  | full
      (raises :
        database.Raises context delivery stamps
          (.processing .criticalOutboxCapacity)) :
      Handled context delivery stamps database (database, .failed)
        [.rollback, .fail]
  | escaped {failure : FleetFailure}
      (raises : database.Raises context delivery stamps failure) :
      Handled context delivery stamps database (database, .unsettled)
        [.rollback]

/-- `handle_command` ends in one of these ways. -/
theorem handled (context : CommandContext) (delivery : CommandDelivery)
    (stamps : Stamps) (database : FleetDatabase) :
    Handled context delivery stamps database
      (handleCommand context delivery stamps database)
      (handleCalls context delivery stamps database) := by
  cases accepted : intake context delivery with
  | error refusal =>
      simp only [handleCommand, handleCalls, accepted]
      exact .malformed accepted
  | ok routed =>
      rcases routed with ⟨droneId, command⟩
      have raises {failure : FleetFailure} {after : FleetDatabase}
          (raised :
            exec
                (atomically
                  (insideTransaction context
                    (receiptIdentity context delivery droneId command)
                    command stamps))
                database =
              (.error failure, after)) :
          after = database ∧
            database.Raises context delivery stamps failure :=
        ⟨atomically_rolls_back raised, droneId, command, accepted,
          atomically_raises raised⟩
      simp only [handleCommand, handleCalls, accepted]
      rcases ended : exec (atomically (insideTransaction context
        (receiptIdentity context delivery droneId command) command stamps))
        database with ⟨result, after⟩
      cases result with
      | ok outcome =>
          exact .committed
            ⟨droneId, command, accepted, exec_atomically_eq_ok.1 ended⟩
      | error failure =>
          rcases raises ended with ⟨rfl, raised⟩
          cases failure with
          | superseded => exact .superseded raised
          | processing refusal =>
              cases refusal with
              | criticalOutboxCapacity => exact .full raised
              | _ => exact .escaped raised
          | _ => exact .escaped raised

/-- A transaction that raises leaves no trace of its delivery. -/
theorem handleCommand_raises {database : FleetDatabase}
    {context : CommandContext} {delivery : CommandDelivery} {stamps : Stamps}
    {failure : FleetFailure}
    (raises : database.Raises context delivery stamps failure) :
    (handleCommand context delivery stamps database).1 = database := by
  have cases := handled context delivery stamps database
  generalize handleCommand context delivery stamps database = handling,
    handleCalls context delivery stamps database = calls at cases
  rcases raises with ⟨droneId, command, accepted, working, raised⟩
  cases cases with
  | committed returns =>
      rcases returns with ⟨other, again, routed, returned⟩
      rw [accepted] at routed
      cases routed
      rw [raised] at returned
      cases returned
  | malformed => rfl
  | superseded => rfl
  | full => rfl
  | escaped => rfl

/-- A delivery appends one commit to the rows or leaves them alone. -/
theorem handleCommand_appends (context : CommandContext)
    (delivery : CommandDelivery) (stamps : Stamps)
    (database : FleetDatabase) :
    (handleCommand context delivery stamps database).1 = database ∨
      ∃ commit : CommandCommit, commit.Reports ∧
        commit.Appends database
          (handleCommand context delivery stamps database).1 := by
  have cases := handled context delivery stamps database
  generalize handleCommand context delivery stamps database = handling,
    handleCalls context delivery stamps database = calls at cases
  cases cases with
  | committed returns =>
      rcases returns with ⟨droneId, command, _, returned⟩
      rcases insideTransaction_appends rfl returned with
        ⟨commit, _, reports, appends, _⟩ | ⟨rfl, _⟩
      · exact .inr ⟨commit, reports, appends⟩
      · exact .inl rfl
  | malformed => exact .inl rfl
  | superseded => exact .inl rfl
  | full => exact .inl rfl
  | escaped => exact .inl rfl

/-- A delivery is accepted in one call, after its transaction has ended. -/
theorem accept_after_commit {context : CommandContext}
    {delivery : CommandDelivery} {stamps : Stamps} {database : FleetDatabase}
    (accepts : .accept ∈ handleCalls context delivery stamps database) :
    (∃ outcome after,
      database.Returns context delivery stamps outcome after ∧
        handleCalls context delivery stamps database =
          [.commit after, .accept]) ∨
      database.Raises context delivery stamps .superseded ∧
        handleCalls context delivery stamps database =
          [.rollback, .accept] := by
  have cases := handled context delivery stamps database
  generalize handleCommand context delivery stamps database = handling,
    handleCalls context delivery stamps database = calls at cases accepts
  cases cases with
  | committed returns => exact .inl ⟨_, _, returns, rfl⟩
  | superseded raises => exact .inr ⟨raises, rfl⟩
  | malformed => simp at accepts
  | full => simp at accepts
  | escaped => simp at accepts

/-! ## Attempts -/

/-- What a call changes. -/
def FleetWorld.perform (entry : CommandContext × CommandDelivery)
    (world : FleetWorld) : PortCall → FleetWorld
  | .commit database => { world with database }
  | .accept => { world with accepted := world.accepted ++ [entry] }
  | _ => world

/-- How many calls an attempt gets through. -/
def Attempt.calls : Attempt → Nat
  | .crashesBeforeCommit => 0
  | .crashesBeforeSettlement => 1
  | .completes => 2

/-- An attempt performs a prefix of the calls of its delivery. -/
theorem step_deliver (world : FleetWorld) (context : CommandContext)
    (delivery : CommandDelivery) (stamps : Stamps) (attempt : Attempt) :
    world.step (.deliver context delivery stamps attempt) =
      ((handleCalls context delivery stamps world.database).take
          attempt.calls).foldl
        (FleetWorld.perform (context, delivery)) world := by
  have cases := handled context delivery stamps world.database
  dsimp only [FleetWorld.step]
  generalize handleCommand context delivery stamps world.database = handling,
    handleCalls context delivery stamps world.database = calls at cases ⊢
  cases cases <;> cases attempt <;> rfl

/-! ## Whole runs -/

/-- The rows after a run that starts with empty tables. -/
def rowsAfter (actions : List FleetAction) : FleetDatabase :=
  (run FleetWorld.step FleetWorld.initial actions).database

theorem rowsAfter_concat (actions : List FleetAction)
    (action : FleetAction) :
    rowsAfter (actions ++ [action]) =
      ((run FleetWorld.step FleetWorld.initial actions).step
        action).database := by
  rw [rowsAfter, run_append, run_cons, run_nil]

/-- The tables hold the records of the same commits in the same order. -/
structure Journal (commits : List CommandCommit)
    (database : FleetDatabase) : Prop where
  effects : database.effects.rows = commits.map CommandCommit.effect
  receipts : database.receipts.rows = commits.map CommandCommit.receipt
  outbox :
    database.outbox.rows.map ApplicationOutboxRow.event =
      commits.flatMap CommandCommit.results

/-- One action of the run made the commit. -/
def CommandCommit.MadeIn (commit : CommandCommit)
    (actions : List FleetAction) : Prop :=
  ∃ earlier action later,
    actions = earlier ++ action :: later ∧
      commit.Appends (rowsAfter earlier) (rowsAfter (earlier ++ [action]))

theorem CommandCommit.MadeIn.mono {commit : CommandCommit}
    {actions : List FleetAction} (made : commit.MadeIn actions)
    (action : FleetAction) : commit.MadeIn (actions ++ [action]) := by
  rcases made with ⟨earlier, own, later, rfl, appends⟩
  exact ⟨earlier, own, later ++ [action], by simp, appends⟩

/-- A publication outcome records no command. -/
theorem Journal.recordPublication {commits : List CommandCommit}
    {database : FleetDatabase} (journal : Journal commits database)
    (producer eventId : String) (was : OutboxState) (event : OutboxEvent)
    (confirmedAt : Option String) :
    Journal commits
      (database.recordPublication producer eventId was event
        confirmedAt) := by
  unfold FleetDatabase.recordPublication
  split
  · split
    · rename_i became _ _ _ _
      have unseen (row : ApplicationOutboxRow) :
          { row with state := became, confirmedAt }.event = row.event :=
        rfl
      have events :=
        Table.amend_map database.outbox (producer, eventId)
          (fun row => { row with state := became, confirmedAt })
          (fun _ => rfl) unseen
      exact ⟨journal.effects, journal.receipts, events.trans journal.outbox⟩
    · exact journal
  · exact journal

theorem Journal.append {commits : List CommandCommit}
    {commit : CommandCommit} {before after : FleetDatabase}
    (journal : Journal commits before)
    (appends : commit.Appends before after) :
    Journal (commits ++ [commit]) after where
  effects := by
    rw [appends.effects, journal.effects, List.map_append, List.map_singleton]
  receipts := by
    rw [appends.receipts, journal.receipts, List.map_append,
      List.map_singleton]
  outbox := by
    rw [appends.outbox, List.map_append, journal.outbox, List.flatMap_append,
      List.flatMap_singleton, List.map_map]
    simp [Function.comp_def]

/-- Every action makes one commit or none. -/
theorem FleetWorld.step_journal {commits : List CommandCommit}
    (world : FleetWorld) (action : FleetAction)
    (journal : Journal commits world.database) :
    Journal commits (world.step action).database ∨
      ∃ commit : CommandCommit, commit.Reports ∧
        commit.Appends world.database (world.step action).database := by
  cases action with
  | publication producer eventId was event confirmedAt =>
      exact .inl (journal.recordPublication producer eventId was event
        confirmedAt)
  | deliver context delivery stamps attempt =>
      have appends :=
        handleCommand_appends context delivery stamps world.database
      have kept
          (unchanged :
            (handleCommand context delivery stamps world.database).1 =
              world.database) :
          Journal commits
            (handleCommand context delivery stamps world.database).1 := by
        rw [unchanged]
        exact journal
      cases attempt with
      | crashesBeforeCommit => exact .inl journal
      | crashesBeforeSettlement => exact appends.imp_left kept
      | completes => exact appends.imp_left kept

/-- The rows after any run are a journal of the commits it made. -/
theorem journal_of_run (actions : List FleetAction) :
    ∃ commits, Journal commits (rowsAfter actions) ∧
      ∀ commit ∈ commits, commit.Reports ∧ commit.MadeIn actions := by
  induction actions using List.reverseRecOn with
  | nil => exact ⟨[], ⟨rfl, rfl, rfl⟩, by simp⟩
  | append_singleton actions action inductionHypothesis =>
      rcases inductionHypothesis with ⟨commits, journal, made⟩
      have earlier :
          ∀ commit ∈ commits,
            commit.Reports ∧ commit.MadeIn (actions ++ [action]) :=
        fun commit member =>
          ⟨(made commit member).1, (made commit member).2.mono action⟩
      rcases FleetWorld.step_journal _ action journal with
        same | ⟨commit, reports, appends⟩
      · rw [← rowsAfter_concat] at same
        exact ⟨commits, same, earlier⟩
      · rw [← rowsAfter_concat] at appends
        refine ⟨commits ++ [commit], journal.append appends, ?_⟩
        intro other member
        rcases List.mem_append.1 member with old | new
        · exact earlier other old
        · rw [List.mem_singleton.1 new]
          exact ⟨reports, actions, action, [], rfl, appends⟩

/-- An effect stands for a completed receipt of the same command. -/
theorem Journal.effect_iff_receipt {commits : List CommandCommit}
    {database : FleetDatabase} (journal : Journal commits database)
    (identity : CommandReceiptIdentity) :
    (∃ effect ∈ database.effects.rows, effect.identity = identity) ↔
      ∃ completion,
        ⟨identity, some completion⟩ ∈ database.receipts.rows := by
  rw [journal.effects, journal.receipts]
  constructor
  · rintro ⟨effect, member, rfl⟩
    rcases List.mem_map.1 member with ⟨commit, made, rfl⟩
    exact ⟨_, List.mem_map_of_mem made⟩
  · rintro ⟨completion, member⟩
    rcases List.mem_map.1 member with ⟨commit, made, same⟩
    exact ⟨commit.effect, List.mem_map_of_mem made,
      congrArg ReceiptRow.identity same⟩

/-- The rows a run reaches depend on nothing but the rows it starts from. -/
theorem run_database_congr {left right : FleetWorld}
    (same : left.database = right.database) (actions : List FleetAction) :
    (run FleetWorld.step left actions).database =
      (run FleetWorld.step right actions).database := by
  induction actions generalizing left right with
  | nil => exact same
  | cons action rest inductionHypothesis =>
      refine inductionHypothesis ?_
      cases action with
      | publication producer eventId was event confirmedAt =>
          dsimp only [FleetWorld.step]
          rw [same]
      | deliver context delivery stamps attempt =>
          cases attempt <;> simp only [FleetWorld.step, same]

/-- A delivery whose transaction raises might as well not have come. -/
theorem rowsAfter_raises {actions : List FleetAction}
    {context : CommandContext} {delivery : CommandDelivery} {stamps : Stamps}
    {failure : FleetFailure}
    (raises : (rowsAfter actions).Raises context delivery stamps failure)
    (attempt : Attempt) (later : List FleetAction) :
    rowsAfter (actions ++ .deliver context delivery stamps attempt :: later) =
      rowsAfter (actions ++ later) := by
  rw [rowsAfter, rowsAfter, run_append, run_append, run_cons]
  refine run_database_congr ?_ later
  have unchanged := handleCommand_raises raises
  rw [rowsAfter] at unchanged
  cases attempt with
  | crashesBeforeCommit => rfl
  | crashesBeforeSettlement => exact unchanged
  | completes => exact unchanged

/--
A drone command is applied exactly once.  Whatever run of deliveries,
redeliveries, crashes and publications led to the rows, each effect is the only
one of its command, and the effects, the completed receipts and the staged
results are the records of one list of commits, each appended by one action.  A
completed command answers its redelivery with its result and no write, a
delivery that raises leaves every later row as if it had not come, and a
delivery is accepted after its transaction has ended.
-/
theorem command_applied_exactly_once (actions : List FleetAction) :
    (∀ left ∈ (rowsAfter actions).effects.rows,
      ∀ right ∈ (rowsAfter actions).effects.rows,
        left.key = right.key → left = right) ∧
    (∃ commits, Journal commits (rowsAfter actions) ∧
      ∀ commit ∈ commits, commit.Reports ∧ commit.MadeIn actions) ∧
    (∀ identity,
      (∃ effect ∈ (rowsAfter actions).effects.rows,
          effect.identity = identity) ↔
        ∃ completion,
          ⟨identity, some completion⟩ ∈
            (rowsAfter actions).receipts.rows) ∧
    (∀ context delivery stamps droneId command completion,
      intake context delivery = .ok (droneId, command) →
        ⟨receiptIdentity context delivery droneId command,
            some completion⟩ ∈ (rowsAfter actions).receipts.rows →
          (rowsAfter actions).Returns context delivery stamps
              (.duplicate completion.result) (rowsAfter actions) ∧
            handleCommand context delivery stamps (rowsAfter actions) =
              (rowsAfter actions, .accepted)) ∧
    (∀ context delivery stamps failure,
      (rowsAfter actions).Raises context delivery stamps failure →
        ∀ attempt later,
          rowsAfter
              (actions ++ .deliver context delivery stamps attempt :: later) =
            rowsAfter (actions ++ later)) ∧
    (∀ context delivery stamps,
      .accept ∈ handleCalls context delivery stamps (rowsAfter actions) →
        (∃ outcome after,
          (rowsAfter actions).Returns context delivery stamps outcome
              after ∧
            handleCalls context delivery stamps (rowsAfter actions) =
              [.commit after, .accept]) ∨
        (rowsAfter actions).Raises context delivery stamps .superseded ∧
          handleCalls context delivery stamps (rowsAfter actions) =
            [.rollback, .accept]) := by
  rcases journal_of_run actions with ⟨commits, journal, made⟩
  refine ⟨?_, ⟨commits, journal, made⟩, journal.effect_iff_receipt, ?_, ?_,
    fun context delivery stamps => accept_after_commit⟩
  · intro left leftMember right rightMember sameKey
    exact Table.eq_of_key leftMember rightMember sameKey
  · intro context delivery stamps droneId command completion accepted held
    have returned :
        exec
            (insideTransaction context
              (receiptIdentity context delivery droneId command) command
              stamps)
            (rowsAfter actions) =
          (.ok (.duplicate completion.result), rowsAfter actions) :=
      insideTransaction_duplicate held
    exact ⟨⟨droneId, command, accepted, returned⟩,
      handleCommand_applied accepted rfl returned⟩
  · intro context delivery stamps failure raises attempt later
    exact rowsAfter_raises raises attempt later

end AerialRescue.Fleet
