import AerialRescue.Contracts.PlainText
import AerialRescue.Fleet.Commands
import AerialRescue.Lib.Run

/-!
# No accepted command is lost

A run of the fleet is a sequence of command deliveries, in any order and with
redeliveries, and of publication outcomes of its outbox.  An attempt at a
delivery may end before its commit or between its commit and its settlement.

A command that advances the mark of its drone is settled together with its
effect, both its results and its completed receipt.  A new command at or below
the mark is settled as accepted and leaves nothing behind: the marks of one
drone are compared across producers that each count from zero.
-/

namespace AerialRescue.Fleet

open AerialRescue.Contracts
open AerialRescue.Contracts.Canonical
open AerialRescue.Contracts.Envelopes
open AerialRescue.Domain.Commands
open AerialRescue.Lib
open AerialRescue.Lib.Guard
open AerialRescue.Lib.Run
open AerialRescue.Lib.Transaction
open AerialRescue.Store

/-! ## Runs -/

/-- How far one attempt at a delivery gets. -/
inductive Attempt where
  | completes
  | crashesBeforeCommit
  | crashesBeforeSettlement
deriving DecidableEq

/-- What happens to the fleet. -/
inductive FleetAction where
  | deliver (context : CommandContext) (delivery : CommandDelivery)
      (stamps : Stamps) (attempt : Attempt)
  /-- The outbox publisher records what the broker said of a row. -/
  | publication (producer eventId : String) (was : OutboxState)
      (event : OutboxEvent) (confirmedAt : Option String)

/-- The durable rows with the deliveries that were settled as accepted. -/
structure FleetWorld where
  database : FleetDatabase
  accepted : List (CommandContext × CommandDelivery)

def FleetWorld.initial : FleetWorld where
  database := FleetDatabase.empty
  accepted := []

/-- `application_outbox.record_publication`; a refusal changes nothing. -/
def FleetDatabase.recordPublication (database : FleetDatabase)
    (producer eventId : String) (was : OutboxState) (event : OutboxEvent)
    (confirmedAt : Option String) : FleetDatabase :=
  match outboxTransition was event,
      database.outbox.find? (producer, eventId) with
  | some became, some row =>
      if row.state = was ∧
          (became = .confirmed ↔ confirmedAt.isSome = true) then
        { database with
          outbox := database.outbox.amend (producer, eventId)
            (fun row => { row with state := became, confirmedAt })
            (fun _ => rfl) }
      else database
  | _, _ => database

/-- One action. -/
def FleetWorld.step (world : FleetWorld) : FleetAction → FleetWorld
  | .deliver context delivery stamps attempt =>
      let handled := handleCommand context delivery stamps world.database
      match attempt with
      | .crashesBeforeCommit => world
      | .crashesBeforeSettlement => { world with database := handled.1 }
      | .completes =>
          { database := handled.1
            accepted :=
              if handled.2 = .accepted then
                world.accepted ++ [(context, delivery)]
              else world.accepted }
  | .publication producer eventId was event confirmedAt =>
      { world with
        database :=
          world.database.recordPublication producer eventId was event
            confirmedAt }

/-! ## What an accepted command leaves behind -/

/-- A staged event is still in the outbox, published or not. -/
def FleetDatabase.Staged (database : FleetDatabase)
    (event : StagedApplicationEvent) : Prop :=
  ∃ row ∈ database.outbox.rows, row.event = event

/--
The completed receipt of a command with its recorded effect and its
acknowledged and final results.
-/
structure Processed (database : FleetDatabase)
    (identity : CommandReceiptIdentity) (context : CommandContext)
    (command : IncomingCommand) (stamps : Stamps)
    (outcome : CommandEffectOutcome)
    (acknowledged final : StagedApplicationEvent) : Prop where
  sameCommand : command.commandId = identity.commandId
  receipt :
    ⟨identity,
      some
        ⟨final.payload, (context.effect identity.droneId command).appliedSequence,
          stamps.processedAt⟩⟩ ∈ database.receipts.rows
  selected :
    storeOutcome (context.effect identity.droneId command).event = some outcome
  effect :
    ({ identity
       outcome
       effectPayload :=
         (context.effect identity.droneId command).effectPayload
       appliedSequence :=
         (context.effect identity.droneId command).appliedSequence
       appliedAt := stamps.processedAt } : DurableCommandEffect) ∈
      database.effects.rows
  acknowledgedReport :
    stagedReport context identity command .acknowledge stamps.acknowledged =
      .ok acknowledged
  acknowledgedStaged : database.Staged acknowledged
  finalReport :
    stagedReport context identity command
        (context.effect identity.droneId command).event stamps.final =
      .ok final
  finalStaged : database.Staged final

/-- Some processing of the command is durable. -/
def FleetDatabase.Completed (database : FleetDatabase)
    (identity : CommandReceiptIdentity) : Prop :=
  ∃ context command stamps outcome acknowledged final,
    Processed database identity context command stamps outcome acknowledged
      final

/-- Every receipt is the receipt of a durable processing. -/
def FleetDatabase.Sound (database : FleetDatabase) : Prop :=
  ∀ row ∈ database.receipts.rows, database.Completed row.identity

theorem Extends.staged {before after : FleetDatabase}
    (extension : Extends before after) {event : StagedApplicationEvent}
    (staged : before.Staged event) : after.Staged event := by
  rcases staged with ⟨row, member, rfl⟩
  exact extension.outbox row member

theorem Processed.mono {before after : FleetDatabase}
    (extension : Extends before after) {identity : CommandReceiptIdentity}
    {context : CommandContext} {command : IncomingCommand} {stamps : Stamps}
    {outcome : CommandEffectOutcome}
    {acknowledged final : StagedApplicationEvent}
    (processed :
      Processed before identity context command stamps outcome acknowledged
        final) :
    Processed after identity context command stamps outcome acknowledged
      final where
  sameCommand := processed.sameCommand
  receipt := extension.receipts _ processed.receipt (by simp)
  selected := processed.selected
  effect := extension.effects _ processed.effect
  acknowledgedReport := processed.acknowledgedReport
  acknowledgedStaged := extension.staged processed.acknowledgedStaged
  finalReport := processed.finalReport
  finalStaged := extension.staged processed.finalStaged

theorem FleetDatabase.Completed.mono {before after : FleetDatabase}
    (extension : Extends before after) {identity : CommandReceiptIdentity}
    (completed : before.Completed identity) : after.Completed identity := by
  rcases completed with
    ⟨context, command, stamps, outcome, acknowledged, final, processed⟩
  exact
    ⟨context, command, stamps, outcome, acknowledged, final,
      processed.mono extension⟩

/-! ## One transaction -/

theorem stageAll_ok {identity : DroneStreamIdentity}
    {events : List StagedApplicationEvent} {before after : FleetDatabase}
    {value : Unit}
    (staged : exec (stageAll identity events) before = (.ok value, after)) :
    after.receipts = before.receipts ∧ after.effects = before.effects ∧
      (∀ row ∈ before.outbox.rows, row ∈ after.outbox.rows) ∧
      ∀ event ∈ events, after.Staged event := by
  induction events generalizing before with
  | nil =>
      simp only [stageAll, exec_pure, Prod.mk.injEq] at staged
      rcases staged with ⟨_, rfl⟩
      exact ⟨rfl, rfl, fun _ member => member, by simp⟩
  | cons event rest inductionHypothesis =>
      simp only [stageAll, exec_bind_eq_ok] at staged
      rcases staged with ⟨_, middle, first, others⟩
      rcases stageCritical_ok first with ⟨receipts, effects, inserted⟩
      rcases inductionHypothesis others with
        ⟨laterReceipts, laterEffects, kept, later⟩
      have rows := Table.insert?_rows inserted
      refine ⟨laterReceipts.trans receipts, laterEffects.trans effects, ?_, ?_⟩
      · intro row member
        apply kept
        rw [rows]
        exact List.mem_append_left _ member
      · intro held member
        rcases List.mem_cons.1 member with rfl | other
        · refine ⟨⟨held, .staged, none⟩, kept _ ?_, rfl⟩
          rw [rows]
          exact List.mem_append_right _ (List.mem_singleton.2 rfl)
        · exact later held other

/-- The completed row replaces the unfinished claim, and nothing else. -/
theorem completeReceipt_rows {identity : CommandReceiptIdentity}
    {completion : ReceiptCompletion} {before after : FleetDatabase}
    {value : Unit}
    (completed :
      exec (completeReceipt identity completion) before =
        (.ok value, after)) (row : ReceiptRow) :
    row ∈ after.receipts.rows ↔
      row = ⟨identity, some completion⟩ ∨
        row ∈ before.receipts.rows ∧ row.key ≠ identity.key := by
  rcases completeReceipt_ok completed with ⟨unfinished, rfl⟩
  refine
    (Table.mem_amend before.receipts identity.key
      (fun held => { held with completion := some completion })
      (fun _ => rfl)).trans ?_
  simp only [unfinished, Option.some.injEq, exists_eq_left']

/-- A completed outcome extends the rows and holds everything it names. -/
theorem persistOutcome_ok {identity : DroneStreamIdentity}
    {effect : DurableCommandEffect}
    {publications : List StagedApplicationEvent} {result : Bytes}
    {before after : FleetDatabase} {value : Unit}
    (persisted :
      exec (persistOutcome identity effect publications result) before =
        (.ok value, after)) :
    Extends before after ∧ effect ∈ after.effects.rows ∧
      (∀ event ∈ publications, after.Staged event) ∧
      ∀ row, row ∈ after.receipts.rows ↔
        row = ⟨effect.identity,
            some ⟨result, effect.appliedSequence, effect.appliedAt⟩⟩ ∨
          row ∈ before.receipts.rows ∧ row.key ≠ effect.identity.key := by
  simp only [persistOutcome, exec_bind_eq_ok, exec_require_eq_ok] at persisted
  rcases persisted with
    ⟨_, _, ⟨_, rfl⟩, _, first, recorded, _, second, staged, completed⟩
  rcases recordEffect_ok recorded with ⟨effects, inserted, rfl⟩
  rcases stageAll_ok staged with ⟨sameReceipts, sameEffects, kept, held⟩
  have receiptRows := completeReceipt_rows completed
  rcases completeReceipt_ok completed with ⟨unfinished, same⟩
  have afterEffects : after.effects = second.effects := by rw [same]
  have afterOutbox : after.outbox = second.outbox := by rw [same]
  simp only at sameReceipts sameEffects kept
  simp only [sameReceipts] at unfinished receiptRows
  have effectRows := Table.insert?_rows inserted
  rw [← sameEffects, ← afterEffects] at effectRows
  refine ⟨⟨?_, ?_, ?_⟩, ?_, ?_, receiptRows⟩
  · intro row member complete
    refine (receiptRows row).2 (.inr ⟨member, ?_⟩)
    intro sameKey
    have same : row = ⟨effect.identity, none⟩ :=
      Table.eq_of_key member (Table.find?_mem unfinished) sameKey
    rw [same] at complete
    exact complete rfl
  · intro other member
    rw [effectRows]
    exact List.mem_append_left _ member
  · intro row member
    rw [afterOutbox]
    exact ⟨row, kept row member, rfl⟩
  · rw [effectRows]
    exact List.mem_append_right _ (List.mem_singleton.2 rfl)
  · intro event member
    rw [FleetDatabase.Staged, afterOutbox]
    exact held event member

/-- A receipt that is claimed is open in the working copy. -/
theorem claimedReceipt_extends {identity : CommandReceiptIdentity}
    {before : FleetDatabase} {receipts : Table ReceiptRow.key}
    (inserted : before.receipts.insert? ⟨identity, none⟩ = some receipts) :
    Extends before { before with receipts } where
  receipts := by
    intro row member _
    rw [Table.insert?_rows inserted]
    exact List.mem_append_left _ member
  effects := fun _ member => member
  outbox := fun row member => ⟨row, member, rfl⟩

/-- A new command that returns is completed, and only its receipt is new. -/
theorem applyNew_ok {context : CommandContext}
    {identity : CommandReceiptIdentity} {command : IncomingCommand}
    {stamps : Stamps} {before after : FleetDatabase} {result : Bytes}
    (names : command.commandId = identity.commandId)
    (applied :
      exec (applyNew context identity command stamps) before =
        (.ok result, after)) :
    Extends before after ∧ after.Completed identity ∧
      ∀ row ∈ after.receipts.rows,
        row.identity = identity ∨
          row ∈ before.receipts.rows ∧ row.key ≠ identity.key := by
  simp only [applyNew, exec_bind_eq_ok, exec_demand_eq_ok, exec_lift_eq_ok,
    exec_rethrow_eq_ok, exec_pure, Prod.mk.injEq] at applied
  rcases applied with
    ⟨outcome, _, ⟨selected, rfl⟩, acknowledged, _, ⟨first, rfl⟩, final, _,
      ⟨second, rfl⟩, _, _, persisted, _, rfl⟩
  rcases persistOutcome_ok persisted with
    ⟨extension, effect, staged, receiptRows⟩
  refine ⟨extension, ?_, ?_⟩
  · exact
      ⟨context, command, stamps, outcome, acknowledged, final,
        { sameCommand := names
          receipt := (receiptRows _).2 (.inl rfl)
          selected
          effect
          acknowledgedReport := first
          acknowledgedStaged := staged _ (by simp)
          finalReport := second
          finalStaged := staged _ (by simp) }⟩
  · intro row member
    rcases (receiptRows row).1 member with rfl | other
    · exact .inl rfl
    · exact .inr other

/-- A transaction that returns has completed the receipt of its command. -/
theorem insideTransaction_ok {context : CommandContext}
    {identity : CommandReceiptIdentity} {command : IncomingCommand}
    {stamps : Stamps} {before after : FleetDatabase}
    {outcome : CommandProcessingOutcome} (sound : before.Sound)
    (names : command.commandId = identity.commandId)
    (returned :
      exec (insideTransaction context identity command stamps) before =
        (.ok outcome, after)) :
    Extends before after ∧ after.Sound ∧ after.Completed identity := by
  simp only [insideTransaction, exec_bind_eq_ok] at returned
  rcases returned with ⟨decision, middle, claimed, rest⟩
  rcases claimReceipt_ok claimed with
    ⟨rfl, receipts, inserted, rfl⟩ |
      ⟨row, completion, rfl, rfl, found, rfl, _⟩
  · simp only [exec_bind_eq_ok, exec_require_eq_ok, exec_pure,
      Prod.mk.injEq] at rest
    rcases rest with
      ⟨_, admitted, admission, _, _, ⟨_, rfl⟩, result, _, applied, _, rfl⟩
    have same := (admitSequence_ok admission).1
    rcases applyNew_ok names applied with ⟨extension, completed, fresh⟩
    have whole :=
      ((claimedReceipt_extends inserted).trans same.extends).trans extension
    refine ⟨whole, ?_, completed⟩
    intro row member
    rcases fresh row member with own | ⟨kept, other⟩
    · rw [own]
      exact completed
    · rw [same.receipts, Table.insert?_rows inserted] at kept
      rcases List.mem_append.1 kept with old | new
      · exact (sound row old).mono whole
      · rw [List.mem_singleton.1 new] at other
        exact absurd rfl other
  · simp only [exec_pure, Prod.mk.injEq] at rest
    rcases rest with ⟨_, rfl⟩
    exact
      ⟨Extends.refl _, sound, sound row (Table.find?_mem found)⟩

/-! ## Where a command is superseded -/

/-- Every failure but `_SupersededCommandError`. -/
def FleetFailure.Other (failure : FleetFailure) : Prop :=
  failure ≠ .superseded

theorem registerStream_raises (identity : DroneStreamIdentity) :
    RaisesOnly FleetFailure.Other (registerStream identity) := by
  refine .bind .read fun database => ?_
  split
  · exact .write _
  · exact .pure _

theorem lockedHighWater_raises (identity : DroneStreamIdentity) :
    RaisesOnly FleetFailure.Other (lockedHighWater identity) := by
  refine .bind (registerStream_raises identity) fun _ => ?_
  refine .bind .read fun _ => ?_
  refine .bind (.demand (by simp [FleetFailure.Other])) fun _ => ?_
  refine .bind (.require (by simp [FleetFailure.Other])) fun _ => ?_
  exact .pure _

theorem admitSequence_raises (identity : DroneStreamIdentity)
    (sequence : Nat) :
    RaisesOnly FleetFailure.Other (admitSequence identity sequence) := by
  refine .bind (.require (by simp [FleetFailure.Other])) fun _ => ?_
  refine .bind (lockedHighWater_raises identity) fun _ => ?_
  dsimp only
  split
  · refine .bind .read fun _ => ?_
    refine .bind (.write _) fun _ => ?_
    exact .pure _
  · exact .pure _

theorem claimReceipt_raises (identity : CommandReceiptIdentity) :
    RaisesOnly FleetFailure.Other (claimReceipt identity) := by
  refine .bind .read fun _ => ?_
  split
  · refine .bind (.write _) fun _ => ?_
    exact .pure _
  · refine .bind (.demand (by simp [FleetFailure.Other])) fun _ => ?_
    refine .bind (.require (by simp [FleetFailure.Other])) fun _ => ?_
    refine .bind (.require (by simp [FleetFailure.Other])) fun _ => ?_
    refine .bind (.demand (by simp [FleetFailure.Other])) fun _ => ?_
    exact .pure _

theorem completeReceipt_raises (identity : CommandReceiptIdentity)
    (completion : ReceiptCompletion) :
    RaisesOnly FleetFailure.Other (completeReceipt identity completion) := by
  refine .bind .read fun _ => ?_
  refine .bind (.demand (by simp [FleetFailure.Other])) fun _ => ?_
  refine .bind (.require (by simp [FleetFailure.Other])) fun _ => ?_
  exact .write _

theorem recordEffect_raises (effect : DurableCommandEffect) :
    RaisesOnly FleetFailure.Other (recordEffect effect) := by
  refine .bind (.require (by simp [FleetFailure.Other])) fun _ => ?_
  refine .bind .read fun _ => ?_
  refine .bind (.demand (by simp [FleetFailure.Other])) fun _ => ?_
  exact .write _

theorem stageCritical_raises (identity : DroneStreamIdentity)
    (event : StagedApplicationEvent) :
    RaisesOnly FleetFailure.Other (stageCritical identity event) := by
  refine .bind (.require (by simp [FleetFailure.Other])) fun _ => ?_
  refine .bind (.require (by simp [FleetFailure.Other])) fun _ => ?_
  refine .bind (.require (by simp [FleetFailure.Other])) fun _ => ?_
  refine .bind (lockedHighWater_raises identity) fun _ => ?_
  refine .bind .read fun _ => ?_
  refine .bind (.require (by simp [FleetFailure.Other])) fun _ => ?_
  refine .bind (.require (by simp [FleetFailure.Other])) fun _ => ?_
  refine .bind (.demand (by simp [FleetFailure.Other])) fun _ => ?_
  exact .write _

theorem stageAll_raises (identity : DroneStreamIdentity)
    (events : List StagedApplicationEvent) :
    RaisesOnly FleetFailure.Other (stageAll identity events) := by
  induction events with
  | nil => exact .pure _
  | cons event rest inductionHypothesis =>
      exact .bind (stageCritical_raises identity event)
        fun _ => inductionHypothesis

theorem persistOutcome_raises (identity : DroneStreamIdentity)
    (effect : DurableCommandEffect)
    (publications : List StagedApplicationEvent) (result : Bytes) :
    RaisesOnly FleetFailure.Other
      (persistOutcome identity effect publications result) := by
  refine .bind (.require (by simp [FleetFailure.Other])) fun _ => ?_
  refine .bind (recordEffect_raises effect) fun _ => ?_
  refine .bind (stageAll_raises identity publications) fun _ => ?_
  exact completeReceipt_raises _ _

/-- A report that cannot be built is no superseded command. -/
theorem stagedReport_error {context : CommandContext}
    {identity : CommandReceiptIdentity} {command : IncomingCommand}
    {event : CommandEvent} {stamp : ResultStamp} {failure : FleetFailure}
    (refused :
      stagedReport context identity command event stamp = .error failure) :
    failure.Other := by
  simp only [stagedReport, resultBytes, resultRecord, stagedResult,
    bind_eq_error, present_eq_error, recast_eq_error, pure, Except.pure,
    reduceCtorEq, and_false, exists_false, or_false] at refused
  rintro rfl
  simp at refused

theorem applyNew_raises (context : CommandContext)
    (identity : CommandReceiptIdentity) (command : IncomingCommand)
    (stamps : Stamps) :
    RaisesOnly FleetFailure.Other
      (applyNew context identity command stamps) := by
  refine .bind (.demand (by simp [FleetFailure.Other])) fun _ => ?_
  refine .bind (.lift fun _ refused => stagedReport_error refused)
    fun _ => ?_
  refine .bind (.lift fun _ refused => stagedReport_error refused)
    fun _ => ?_
  refine .bind (.rethrow (persistOutcome_raises _ _ _ _) ?_) fun _ => ?_
  · intro failure other
    unfold renameCapacity
    split
    · simp [FleetFailure.Other]
    · simp [FleetFailure.Other]
    · exact other
  · exact .pure _

/--
A superseded command has no receipt and does not advance the mark of its
drone.
-/
theorem insideTransaction_superseded {context : CommandContext}
    {identity : CommandReceiptIdentity} {command : IncomingCommand}
    {stamps : Stamps} {before after : FleetDatabase}
    (raised :
      exec (insideTransaction context identity command stamps) before =
        (.error .superseded, after)) :
    before.receipts.find? identity.key = none ∧
      (receive (before.highWater identity.droneId) command.sequence).1 ≠
        .advances := by
  simp only [insideTransaction, exec_bind_eq_error] at raised
  rcases raised with early | ⟨decision, middle, claimed, rest⟩
  · exact absurd rfl (claimReceipt_raises identity _ _ _ early)
  · rcases claimReceipt_ok claimed with
      ⟨rfl, receipts, inserted, rfl⟩ | ⟨_, _, rfl, _, _, _, _⟩
    · have absent := (Table.insert?_eq_some.1 inserted).1
      simp only [exec_bind_eq_error, exec_require_eq_error,
        exec_require_eq_ok] at rest
      rcases rest with
        early | ⟨verdict, _, admitted, ⟨refused, _, _⟩ |
          ⟨_, _, _, applying | ⟨_, _, _, done⟩⟩⟩
      · exact absurd rfl (admitSequence_raises _ _ _ _ _ early)
      · rw [(admitSequence_ok admitted).2] at refused
        exact ⟨absent, refused⟩
      · exact absurd rfl (applyNew_raises _ _ _ _ _ _ _ applying)
      · simp at done
    · simp at rest

/-! ## One delivery -/

@[simp]
theorem FleetWorld.step_crashed (world : FleetWorld)
    (context : CommandContext) (delivery : CommandDelivery)
    (stamps : Stamps) :
    world.step (.deliver context delivery stamps .crashesBeforeCommit) =
      world :=
  rfl

@[simp]
theorem FleetWorld.step_publication_accepted (world : FleetWorld)
    (producer eventId : String) (was : OutboxState) (event : OutboxEvent)
    (confirmedAt : Option String) :
    (world.step
        (.publication producer eventId was event confirmedAt)).accepted =
      world.accepted :=
  rfl

@[simp]
theorem FleetWorld.step_completed (world : FleetWorld)
    (context : CommandContext) (delivery : CommandDelivery)
    (stamps : Stamps) :
    (world.step (.deliver context delivery stamps .completes)).database =
      (handleCommand context delivery stamps world.database).1 :=
  rfl

theorem FleetWorld.step_accepted {world : FleetWorld}
    {context : CommandContext} {delivery : CommandDelivery} {stamps : Stamps}
    (settled :
      (handleCommand context delivery stamps world.database).2 =
        .accepted) :
    (context, delivery) ∈
      (world.step (.deliver context delivery stamps .completes)).accepted := by
  simp [FleetWorld.step, settled]

theorem handleCommand_applied {context : CommandContext}
    {delivery : CommandDelivery} {stamps : Stamps}
    {before after : FleetDatabase} {droneId : String}
    {command : IncomingCommand} {identity : CommandReceiptIdentity}
    {outcome : CommandProcessingOutcome}
    (accepted : intake context delivery = .ok (droneId, command))
    (recognized :
      receiptIdentity context delivery droneId command = identity)
    (returned :
      exec (insideTransaction context identity command stamps) before =
        (.ok outcome, after)) :
    handleCommand context delivery stamps before = (after, .accepted) := by
  unfold handleCommand
  rw [accepted]
  dsimp only
  rw [recognized, exec_atomically_eq_ok.2 returned]

theorem handleCommand_superseded {context : CommandContext}
    {delivery : CommandDelivery} {stamps : Stamps}
    {before after : FleetDatabase} {droneId : String}
    {command : IncomingCommand} {identity : CommandReceiptIdentity}
    (accepted : intake context delivery = .ok (droneId, command))
    (recognized :
      receiptIdentity context delivery droneId command = identity)
    (raised :
      exec (insideTransaction context identity command stamps) before =
        (.error .superseded, after)) :
    handleCommand context delivery stamps before = (before, .accepted) := by
  unfold handleCommand
  rw [accepted]
  dsimp only
  rw [recognized, exec_atomically_eq_error.2 ⟨⟨_, raised⟩, rfl⟩]

/-- What one delivery does to sound rows, and what its acceptance means. -/
theorem handleCommand_spec (context : CommandContext)
    (delivery : CommandDelivery) (stamps : Stamps) {before : FleetDatabase}
    (sound : before.Sound) :
    Extends before (handleCommand context delivery stamps before).1 ∧
      (handleCommand context delivery stamps before).1.Sound ∧
      ((handleCommand context delivery stamps before).2 = .accepted →
        ∃ droneId command,
          intake context delivery = .ok (droneId, command) ∧
            ((handleCommand context delivery stamps before).1.Completed
                (receiptIdentity context delivery droneId command) ∨
              before.receipts.find? (droneId, command.commandId) = none ∧
                (receive (before.highWater droneId)
                  command.sequence).1 ≠ .advances)) := by
  have unchanged := Extends.refl before
  unfold handleCommand
  split
  · exact ⟨unchanged, sound, by simp⟩
  · rename_i droneId command accepted
    dsimp only
    split
    · rename_i outcome after returned
      rw [exec_atomically_eq_ok] at returned
      rcases insideTransaction_ok sound rfl returned with
        ⟨extension, stillSound, completed⟩
      exact ⟨extension, stillSound,
        fun _ => ⟨droneId, command, accepted, .inl completed⟩⟩
    · rename_i after raised
      rw [atomically_rolls_back raised]
      rcases atomically_raises raised with ⟨_, superseded⟩
      exact ⟨unchanged, sound,
        fun _ => ⟨droneId, command, accepted,
          .inr (insideTransaction_superseded superseded)⟩⟩
    · rename_i after raised
      rw [atomically_rolls_back raised]
      exact ⟨unchanged, sound, by simp⟩
    · rename_i after _ _ raised
      rw [atomically_rolls_back raised]
      exact ⟨unchanged, sound, by simp⟩

/-! ## Whole runs -/

/-- A publication outcome keeps every row but its own state. -/
theorem recordPublication_extends (database : FleetDatabase)
    (producer eventId : String) (was : OutboxState) (event : OutboxEvent)
    (confirmedAt : Option String) :
    Extends database
        (database.recordPublication producer eventId was event
          confirmedAt) ∧
      (database.recordPublication producer eventId was event
          confirmedAt).receipts = database.receipts := by
  unfold FleetDatabase.recordPublication
  split
  · rename_i became row _ _
    split
    · refine ⟨⟨fun _ member _ => member, fun _ member => member, ?_⟩, rfl⟩
      intro held member
      refine ⟨_, List.mem_map_of_mem member, ?_⟩
      split <;> rfl
    · exact ⟨Extends.refl database, rfl⟩
  · exact ⟨Extends.refl database, rfl⟩

/-- Receipts are sound and every accepted delivery has its own. -/
structure FleetWorld.Lossless (world : FleetWorld) : Prop where
  sound : world.database.Sound
  kept :
    ∀ settled ∈ world.accepted,
      ∃ droneId command,
        intake settled.1 settled.2 = .ok (droneId, command) ∧
          world.database.Completed
            (receiptIdentity settled.1 settled.2 droneId command)

/--
A delivery that is handled to its end advances the mark of its drone, unless
its command already has a receipt.
-/
def FleetWorld.Advances (world : FleetWorld) : FleetAction → Prop
  | .deliver context delivery _ .completes =>
      ∀ droneId command,
        intake context delivery = .ok (droneId, command) →
          world.database.receipts.find? (droneId, command.commandId) =
              none →
            (receive (world.database.highWater droneId)
              command.sequence).1 = .advances
  | _ => True

theorem FleetWorld.Lossless.mono {world : FleetWorld}
    {database : FleetDatabase} (lossless : world.Lossless)
    (extension : Extends world.database database) (sound : database.Sound) :
    FleetWorld.Lossless ⟨database, world.accepted⟩ where
  sound := sound
  kept := by
    intro settled member
    rcases lossless.kept settled member with
      ⟨droneId, command, accepted, completed⟩
    exact ⟨droneId, command, accepted, completed.mono extension⟩

theorem FleetWorld.step_lossless (world : FleetWorld) (action : FleetAction)
    (advances : world.Advances action) (lossless : world.Lossless) :
    (world.step action).Lossless := by
  cases action with
  | deliver context delivery stamps attempt =>
      rcases handleCommand_spec context delivery stamps lossless.sound with
        ⟨extension, sound, settled⟩
      cases attempt with
      | crashesBeforeCommit => exact lossless
      | crashesBeforeSettlement => exact lossless.mono extension sound
      | completes =>
          have before := lossless.mono extension sound
          refine ⟨sound, ?_⟩
          intro entry member
          simp only [FleetWorld.step] at member ⊢
          split at member
          · rename_i accepted
            rcases List.mem_append.1 member with earlier | new
            · exact before.kept entry earlier
            · rw [List.mem_singleton.1 new]
              rcases settled accepted with
                ⟨droneId, command, intaken, completed | ⟨absent, behind⟩⟩
              · exact ⟨droneId, command, intaken, completed⟩
              · exact absurd (advances droneId command intaken absent) behind
          · exact before.kept entry member
  | publication producer eventId was event confirmedAt =>
      rcases recordPublication_extends world.database producer eventId was
        event confirmedAt with ⟨extension, sameReceipts⟩
      refine lossless.mono extension ?_
      intro row member
      rw [sameReceipts] at member
      exact (lossless.sound row member).mono extension

theorem FleetWorld.initial_lossless : FleetWorld.initial.Lossless where
  sound := by
    intro row member
    cases member
  kept := by
    intro settled member
    cases member

/--
In a run whose deliveries advance the mark of their drone or meet their own
receipt, every delivery that is settled as accepted has a completed receipt,
its effect and both its results.
-/
theorem acceptedCommands_completed (actions : List FleetAction)
    (advances :
      Along FleetWorld.step FleetWorld.Advances FleetWorld.initial actions)
    (settled : CommandContext × CommandDelivery)
    (accepted :
      settled ∈ (run FleetWorld.step FleetWorld.initial actions).accepted) :
    ∃ droneId command,
      intake settled.1 settled.2 = .ok (droneId, command) ∧
        (run FleetWorld.step FleetWorld.initial actions).database.Completed
          (receiptIdentity settled.1 settled.2 droneId command) :=
  (run_keeps FleetWorld.step_lossless advances
    FleetWorld.initial_lossless).kept settled accepted

/-! ## A command that is dropped -/

/-- An assignment of the sector by one epoch of the command gateway. -/
def sampleAssignment (epoch commandId sequence : String) : Envelope where
  id := "event-" ++ commandId
  source := "urn:aerial-rescue:command-gateway:" ++ epoch
  type := "aerial-rescue.v1.drone.command.assign-sector"
  subject := "mission-1"
  time := "2026-01-01T00:00:10.000Z"
  dataschema := schemaBase ++ "drone-command-assign-sector" ++ ".schema.json"
  sequence := sequence
  correlationId := "correlation-1"
  traceparent := "00-0123456789abcdef0123456789abcdef-0123456789abcdef-01"
  data :=
    [ ("missionId", .text "mission-1"),
      ("droneId", .text "drone-1"),
      ("commandId", .text commandId),
      ("sectorId", .text "sector-1") ]
  causationId := none
  tracestate := none

/-- The first epoch's command, at sequence two. -/
def sampleFirst : Envelope :=
  sampleAssignment "epoch-1" "command-1" "000000000000002"

/-- The first command of the next epoch. -/
def sampleSecond : Envelope :=
  sampleAssignment "epoch-2" "command-20" "000000000000000"

/-- One report of the sample drone on the first command. -/
def sampleReport (eventId outcome sequence : String) : Envelope where
  id := eventId
  source := "urn:aerial-rescue:drone:drone-1"
  type := "aerial-rescue.v1.drone.command-result"
  subject := "mission-1"
  time := "2026-01-01T00:00:20.000Z"
  dataschema := schemaBase ++ "drone-command-result" ++ ".schema.json"
  sequence := sequence
  correlationId := "correlation-1"
  traceparent := "00-0123456789abcdef0123456789abcdef-0123456789abcdef-01"
  data :=
    [ ("missionId", .text "mission-1"),
      ("droneId", .text "drone-1"),
      ("commandId", .text "command-1"),
      ("outcome", .text outcome) ]
  causationId := some "event-command-1"
  tracestate := none

/-- `json.loads` on the texts of the sample, which differ in length. -/
def sampleLoads (text : Bytes) : Except LoadsFailure Value :=
  match text.length with
  | 580 => .ok (.object (envelopeDocument sampleFirst))
  | 582 => .ok (.object (envelopeDocument sampleSecond))
  | 584 =>
      .ok (.object (envelopeDocument
        (sampleReport "result-1" "acknowledged" "000000000000000")))
  | 581 =>
      .ok (.object (envelopeDocument
        (sampleReport "result-2" "succeeded" "000000000000001")))
  | _ => .error .malformed

/-- SHA-256 on the two commands. -/
def sampleCommandSha256 (text : Bytes) : String :=
  match text.length with
  | 580 =>
      "53f2939ab154181107c0f6408b7ffd81a6e6fd679358a704fd089b6bddd6fc56"
  | _ =>
      "8f2ccdeb5ebc7fc80d50bb51844785621b9b23bf760645a69a88a7a64caf8f5a"

/-- The fleet of the sample. -/
def sampleContext : CommandContext where
  host := ⟨sampleLoads, id, sampleCommandSha256⟩
  missionId := "mission-1"
  roster := ["drone-1"]
  budget := ⟨3, by decide⟩
  effect := effectFor ["sector-1"]

/-- A command on the command topic of the drone. -/
def sampleDelivery (envelope : Envelope) : CommandDelivery where
  topic := "aerial-rescue/v1/mission-1/drone/drone-1/command/assign-sector"
  payload := bytesOf (.object (envelopeDocument envelope))

/-- The stamps of the two reports. -/
def sampleStamps : Stamps where
  acknowledged :=
    ⟨"result-1", "2026-01-01T00:00:20.000Z", 0,
      "00-0123456789abcdef0123456789abcdef-0123456789abcdef-01"⟩
  final :=
    ⟨"result-2", "2026-01-01T00:00:20.000Z", 1,
      "00-0123456789abcdef0123456789abcdef-0123456789abcdef-01"⟩
  processedAt := "2026-01-01T00:00:20.000Z"

/-- One command is handled to its end. -/
def sampleDeliver (envelope : Envelope) : FleetAction :=
  .deliver sampleContext (sampleDelivery envelope) sampleStamps .completes

/-- The first epoch's command is handled, then the next epoch's. -/
def droppedRun : List FleetAction :=
  [sampleDeliver sampleFirst, sampleDeliver sampleSecond]

/-- An attempt that crashes, the redelivery, and one confirmed report. -/
def keptRun : List FleetAction :=
  [ .deliver sampleContext (sampleDelivery sampleFirst) sampleStamps
      .crashesBeforeCommit,
    sampleDeliver sampleFirst,
    .publication "urn:aerial-rescue:drone:drone-1" "result-1" .staged
      .confirm (some "2026-01-01T00:00:21.000Z") ]

/-- The acknowledgement of the first command. -/
def sampleAcknowledged : Envelope :=
  sampleReport "result-1" "acknowledged" "000000000000000"

/-- The final report on the first command. -/
def sampleFinal : Envelope :=
  sampleReport "result-2" "succeeded" "000000000000001"

/-- An envelope of the sample that follows the rules, by its length. -/
def SampleForm (envelope : Envelope) (length : Nat) : Prop :=
  envelope.Follows ∧
    (plainBytes (.object (envelopeDocument envelope))).map List.length =
      some length

theorem sampleForms :
    SampleForm sampleFirst 580 ∧ SampleForm sampleSecond 582 ∧
      SampleForm sampleAcknowledged 584 ∧ SampleForm sampleFinal 581 := by
  unfold SampleForm
  decide +kernel

/-- A well-formed envelope of the sample is read back from its bytes. -/
theorem sampleDecodes {envelope : Envelope} {length : Nat}
    (form : SampleForm envelope length) (nonempty : length ≠ 0)
    (loads :
      ∀ text : Bytes, text.length = length →
        sampleLoads text = .ok (.object (envelopeDocument envelope))) :
    envelope.WellFormed sampleContext.host ∧
      decodeEnvelope sampleContext.host (sampleDelivery envelope).payload =
        .ok envelope := by
  have size := view_bytesOf form.2
  refine decodeEnvelope_bytesOf rfl (loads _ size) ?_ form.1
  intro empty
  rw [empty] at size
  exact nonempty size.symm

theorem sampleFirst_decodes :
    decodeEnvelope sampleContext.host (sampleDelivery sampleFirst).payload =
      .ok sampleFirst := by
  refine (sampleDecodes sampleForms.1 (by decide) fun text size => ?_).2
  unfold sampleLoads
  rw [size]
  rfl

theorem sampleSecond_decodes :
    decodeEnvelope sampleContext.host (sampleDelivery sampleSecond).payload =
      .ok sampleSecond := by
  refine (sampleDecodes sampleForms.2.1 (by decide) fun text size => ?_).2
  unfold sampleLoads
  rw [size]
  rfl

/-- The first command as the intake reads it. -/
def sampleCommand : IncomingCommand where
  commandId := "command-1"
  action := .assignSector "sector-1"
  eventId := "event-command-1"
  correlationId := "correlation-1"
  sequence := 2

/-- The next epoch's command as the intake reads it. -/
def sampleNextCommand : IncomingCommand where
  commandId := "command-20"
  action := .assignSector "sector-1"
  eventId := "event-command-20"
  correlationId := "correlation-1"
  sequence := 0

theorem sampleIntakes :
    intake sampleContext (sampleDelivery sampleFirst) =
        .ok ("drone-1", sampleCommand) ∧
      intake sampleContext (sampleDelivery sampleSecond) =
        .ok ("drone-1", sampleNextCommand) := by
  simp only [intake, accept, sampleFirst_decodes, sampleSecond_decodes]
  decide +kernel

/-- The row of one report of the sample. -/
def sampleStaged (envelope : Envelope) : StagedApplicationEvent where
  producer := envelope.source
  eventId := envelope.id
  family := "drone-command-result"
  topic := "aerial-rescue/v1/mission-1/drone/drone-1/command-result/command-1"
  headers := utf8 ['{', '}']
  payload :=
    (plainBytes (.object (envelopeDocument envelope))).getD []
  traceparent := envelope.traceparent
  tracestate := envelope.tracestate
  correlationId := envelope.correlationId
  causationId := envelope.causationId
  stagedAt := envelope.time

/-- One report of the sample is staged as its row. -/
theorem sampleReport_staged {identity : CommandReceiptIdentity}
    {event : CommandEvent} {state : CommandState} {stamp : ResultStamp}
    {envelope : Envelope} {length : Nat}
    (selected : reportedState event sampleContext.budget = some state)
    (record :
      envelope.WellFormed sampleContext.host →
        resultRecord sampleContext.host identity.missionId identity.droneId
            sampleCommand state stamp =
          .ok ((sampleStaged envelope).topic, envelopeDocument envelope))
    (reporter : eventSource identity.droneId = envelope.source)
    (form : SampleForm envelope length) (nonempty : length ≠ 0)
    (loads :
      ∀ text : Bytes, text.length = length →
        sampleLoads text = .ok (.object (envelopeDocument envelope))) :
    stagedReport sampleContext identity sampleCommand event stamp =
      .ok (sampleStaged envelope) := by
  rcases sampleDecodes form nonempty loads with ⟨formed, decodes⟩
  rcases Option.map_eq_some_iff.1 form.2 with ⟨bytes, plain, size⟩
  have whole := bytesOf_of_plain plain
  have encodes :
      canonicalBytes sampleContext.host (.object (envelopeDocument envelope)) =
        .ok bytes := by
    rw [← whole]
    refine canonicalBytes_bytesOf rfl ?_
    rw [whole]
    rintro rfl
    exact nonempty size.symm
  simp only [sampleDelivery, whole] at decodes
  simp only [stagedReport, resultBytes, stagedResult, bind_eq_ok,
    present_eq_ok, recast_eq_ok, pure_eq_ok]
  refine ⟨(_, bytes),
    ⟨state, selected, _, record formed, bytes, encodes, rfl⟩, envelope,
    decodes, ?_⟩
  rw [sampleStaged, plain, reporter]
  rfl

/-- What the sample commands are recognized by. -/
def sampleIdentity : CommandReceiptIdentity where
  droneId := "drone-1"
  commandId := "command-1"
  missionId := "mission-1"
  commandDigest :=
    "53f2939ab154181107c0f6408b7ffd81a6e6fd679358a704fd089b6bddd6fc56"

theorem sampleReports_staged :
    stagedReport sampleContext sampleIdentity sampleCommand .acknowledge
          sampleStamps.acknowledged =
        .ok (sampleStaged sampleAcknowledged) ∧
      stagedReport sampleContext sampleIdentity sampleCommand .succeed
          sampleStamps.final =
        .ok (sampleStaged sampleFinal) := by
  have selected :
      reportedState .acknowledge sampleContext.budget = some .acknowledged ∧
        reportedState .succeed sampleContext.budget = some .succeeded := by
    decide
  have reported :
      resultWord .acknowledged = some "acknowledged" ∧
        resultWord .succeeded = some "succeeded" :=
    ⟨rfl, rfl⟩
  constructor
  · refine sampleReport_staged selected.1 (fun formed => ?_) (by decide)
      sampleForms.2.2.1 (by decide) (fun text size => ?_)
    · exact resultRecord_of reported.1 (by decide +kernel) (by decide) rfl
        formed (by decide +kernel) (by decide +kernel)
    · unfold sampleLoads
      rw [size]
      rfl
  · refine sampleReport_staged selected.2 (fun formed => ?_) (by decide)
      sampleForms.2.2.2 (by decide) (fun text size => ?_)
    · exact resultRecord_of reported.2 (by decide +kernel) (by decide) rfl
        formed (by decide +kernel) (by decide +kernel)
    · unfold sampleLoads
      rw [size]
      rfl

/-- What the next epoch's command is recognized by. -/
def sampleNextIdentity : CommandReceiptIdentity where
  droneId := "drone-1"
  commandId := "command-20"
  missionId := "mission-1"
  commandDigest :=
    "8f2ccdeb5ebc7fc80d50bb51844785621b9b23bf760645a69a88a7a64caf8f5a"

theorem sampleFirst_identity :
    receiptIdentity sampleContext (sampleDelivery sampleFirst) "drone-1"
        sampleCommand =
      sampleIdentity := by
  have size := view_bytesOf sampleForms.1.2
  have digest :
      sampleContext.host.sha256 (sampleDelivery sampleFirst).payload =
        sampleIdentity.commandDigest := by
    simp only [sampleContext, sampleCommandSha256, sampleDelivery, size,
      sampleIdentity]
  simp only [receiptIdentity, digest]
  rfl

theorem sampleSecond_identity :
    receiptIdentity sampleContext (sampleDelivery sampleSecond) "drone-1"
        sampleNextCommand =
      sampleNextIdentity := by
  have size := view_bytesOf sampleForms.2.1.2
  have digest :
      sampleContext.host.sha256 (sampleDelivery sampleSecond).payload =
        sampleNextIdentity.commandDigest := by
    simp only [sampleContext, sampleCommandSha256, sampleDelivery, size,
      sampleNextIdentity]
  simp only [receiptIdentity, digest]
  rfl

theorem sampleDeliver_step (world : FleetWorld) (envelope : Envelope) :
    (world.step (sampleDeliver envelope)).database =
      (handleCommand sampleContext (sampleDelivery envelope) sampleStamps
        world.database).1 :=
  FleetWorld.step_completed _ _ _ _

theorem sampleDeliver_accepted {world : FleetWorld} {envelope : Envelope}
    (settled :
      (handleCommand sampleContext (sampleDelivery envelope) sampleStamps
        world.database).2 = .accepted) :
    (sampleContext, sampleDelivery envelope) ∈
      (world.step (sampleDeliver envelope)).accepted :=
  FleetWorld.step_accepted settled

/-- A pair with a known first component. -/
theorem Prod.eq_of_fst {α β : Type} {pair : α × β} {first : α}
    (same : pair.1 = first) : pair = (first, pair.2) := by
  rw [← same, Prod.mk.eta]

/-- The first command is applied, and the next one is behind its mark. -/
theorem sampleTransactions :
    ∃ outcome database behind,
      exec (insideTransaction sampleContext sampleIdentity sampleCommand
          sampleStamps) FleetDatabase.empty =
        (.ok outcome, database) ∧
      database.receipts.rows.map (fun row => row.identity.commandId) =
        ["command-1"] ∧
      exec (insideTransaction sampleContext sampleNextIdentity
          sampleNextCommand sampleStamps) database =
        (.error .superseded, behind) := by
  have effect : (sampleContext.effect sampleIdentity.droneId
      sampleCommand).event = .succeed := by
    decide
  have facts :
      let first := exec (insideTransaction sampleContext sampleIdentity
        sampleCommand sampleStamps) FleetDatabase.empty
      first.1.isOk = true ∧
        first.2.receipts.rows.map (fun row => row.identity.commandId) =
          ["command-1"] ∧
        (exec (insideTransaction sampleContext sampleNextIdentity
          sampleNextCommand sampleStamps) first.2).1 =
          .error .superseded := by
    simp only [insideTransaction, applyNew, effect, sampleReports_staged.1,
      sampleReports_staged.2]
    decide +kernel
  rcases facts with ⟨applied, receipts, superseded⟩
  rcases isOk_eq_true.1 applied with ⟨outcome, returned⟩
  exact ⟨outcome, _, _, Prod.eq_of_fst returned, receipts,
    Prod.eq_of_fst superseded⟩

/-- Both commands are settled as accepted, and one has a receipt. -/
theorem sampleCommands_handled :
    ∃ database : FleetDatabase,
      handleCommand sampleContext (sampleDelivery sampleFirst) sampleStamps
          FleetWorld.initial.database =
        (database, .accepted) ∧
      handleCommand sampleContext (sampleDelivery sampleSecond) sampleStamps
          database =
        (database, .accepted) ∧
      database.receipts.rows.map (fun row => row.identity.commandId) =
        ["command-1"] := by
  rcases sampleTransactions with
    ⟨_, database, _, applied, receipts, superseded⟩
  exact ⟨database,
    handleCommand_applied sampleIntakes.1 sampleFirst_identity applied,
    handleCommand_superseded sampleIntakes.2 sampleSecond_identity
      superseded, receipts⟩

/-- The next epoch's command is accepted and has no receipt. -/
theorem nextEpochCommand_dropped :
    (sampleContext, sampleDelivery sampleSecond) ∈
        (run FleetWorld.step FleetWorld.initial droppedRun).accepted ∧
      ¬∃ droneId command,
        intake sampleContext (sampleDelivery sampleSecond) =
            .ok (droneId, command) ∧
          (run FleetWorld.step FleetWorld.initial
            droppedRun).database.Completed
              (receiptIdentity sampleContext (sampleDelivery sampleSecond)
                droneId command) := by
  rcases sampleCommands_handled with ⟨database, first, second, receipts⟩
  have applied :
      (FleetWorld.initial.step (sampleDeliver sampleFirst)).database =
        database := by
    rw [sampleDeliver_step, first]
  rw [droppedRun, run_cons, run_cons, run_nil]
  constructor
  · apply sampleDeliver_accepted
    rw [applied, second]
  · rintro ⟨droneId, command, found, _, _, _, _, _, _, processed⟩
    rw [sampleIntakes.2] at found
    cases found
    have held := List.mem_map_of_mem
      (f := fun row : ReceiptRow => row.identity.commandId) processed.receipt
    rw [sampleDeliver_step, applied, second, receipts,
      sampleSecond_identity] at held
    simp [sampleNextIdentity] at held

/-- The redelivered command has its receipt and both its results. -/
theorem acceptedCommands_completed_sample :
    ∃ droneId command,
      intake sampleContext (sampleDelivery sampleFirst) =
          .ok (droneId, command) ∧
        (run FleetWorld.step FleetWorld.initial keptRun).database.Completed
          (receiptIdentity sampleContext (sampleDelivery sampleFirst)
            droneId command) := by
  rcases sampleCommands_handled with ⟨database, first, _, _⟩
  refine acceptedCommands_completed keptRun ⟨trivial, ?_, trivial, trivial⟩
    (sampleContext, sampleDelivery sampleFirst) ?_
  · intro droneId command _ _
    rfl
  · rw [keptRun, run_cons, run_cons, run_cons, run_nil,
      FleetWorld.step_crashed, FleetWorld.step_publication_accepted]
    apply sampleDeliver_accepted
    rw [first]

end AerialRescue.Fleet
