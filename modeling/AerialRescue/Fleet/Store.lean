import AerialRescue.Contracts.Rpc
import AerialRescue.Store.Schema
import Mathlib.Algebra.Group.Nat.Defs

/-!
# The fleet's durable rows

What the simulated drones keep: one row a drone with the high-water mark of
its command stream, one receipt and one effect a command, and the critical
outbox.  A command's effect, its publications and its completed receipt are
written in one transaction; the same transaction moves the high-water mark.

The high-water mark belongs to the drone.  A command's sequence belongs to the
producer that minted it, and the row does not know which producer that was.
-/

namespace AerialRescue.Fleet

open AerialRescue.Contracts
open AerialRescue.Contracts.Canonical
open AerialRescue.Contracts.Envelopes
open AerialRescue.Contracts.Rpc
open AerialRescue.Domain.Commands
open AerialRescue.Lib
open AerialRescue.Lib.Transaction
open AerialRescue.Store

/-! ## Rows -/

/-- One drone with its producer and the high-water mark of its commands. -/
structure DroneStream where
  droneId : String
  producer : String
  highWater : Option Nat
deriving DecidableEq

/-- A command identifier bound to the exact bytes of the command. -/
structure CommandReceiptIdentity where
  droneId : String
  commandId : String
  missionId : String
  commandDigest : String
deriving DecidableEq

/-- The primary key of receipts and effects. -/
def CommandReceiptIdentity.key (identity : CommandReceiptIdentity) :
    String × String :=
  (identity.droneId, identity.commandId)

theorem CommandReceiptIdentity.eq_of_key
    {left right : CommandReceiptIdentity} (sameKey : left.key = right.key)
    (sameMission : left.missionId = right.missionId)
    (sameDigest : left.commandDigest = right.commandDigest) :
    left = right := by
  rcases left with ⟨droneId, commandId, missionId, commandDigest⟩
  simp only [key, Prod.mk.injEq] at sameKey
  rcases sameKey with ⟨rfl, rfl⟩
  simp only at sameMission sameDigest
  rw [sameMission, sameDigest]

/-- What completed a receipt. -/
structure ReceiptCompletion where
  result : Bytes
  appliedSequence : Nat
  processedAt : String
deriving DecidableEq

/-- A claimed command with its completion. -/
structure ReceiptRow where
  identity : CommandReceiptIdentity
  completion : Option ReceiptCompletion
deriving DecidableEq

def ReceiptRow.key (row : ReceiptRow) : String × String :=
  row.identity.key

/-- The two outcomes a simulated effect may record. -/
inductive CommandEffectOutcome where
  | succeeded
  | failed
deriving DecidableEq

/-- One append-only simulated effect. -/
structure DurableCommandEffect where
  identity : CommandReceiptIdentity
  outcome : CommandEffectOutcome
  effectPayload : Bytes
  appliedSequence : Nat
  appliedAt : String
deriving DecidableEq

def DurableCommandEffect.key (effect : DurableCommandEffect) :
    String × String :=
  effect.identity.key

/-- The fleet's tables. -/
structure FleetDatabase where
  streams : Table DroneStream.droneId
  receipts : Table ReceiptRow.key
  effects : Table DurableCommandEffect.key
  outbox : Table ApplicationOutboxRow.key

def FleetDatabase.empty : FleetDatabase where
  streams := Table.empty
  receipts := Table.empty
  effects := Table.empty
  outbox := Table.empty

/-! ## Refusals -/

/-- Why durable simulated-drone processing cannot proceed. -/
inductive FleetStoreRefusal where
  | invalidSequence
  | identityConflict
  | streamChanged
  | noncriticalFamily
  | recordCapacity
  | byteCapacity
  | eventConflict
  | invalidEffect
  | effectConflict
  | resultBinding
deriving DecidableEq

/-- Why a receipt cannot be claimed or completed. -/
inductive ReceiptRefusal where
  | claimVanished
  | identityConflict
  | digestConflict
  | incomplete
  | notClaimed
deriving DecidableEq

/-- Why a command cannot complete its durable processing. -/
inductive ProcessingRefusal where
  | invalidCommand
  | unknownDrone
  | invalidEffect
  | criticalOutboxCapacity
  | duplicateResult
deriving DecidableEq

/-- What escapes the processing of one command. -/
inductive FleetFailure where
  | store (refusal : FleetStoreRefusal)
  | receipt (refusal : ReceiptRefusal)
  | processing (refusal : ProcessingRefusal)
  /-- `_SupersededCommandError` -/
  | superseded
  /-- A result that cannot be built or read back. -/
  | result
deriving DecidableEq

/-- A step of a fleet transaction. -/
abbrev FleetTx := Tx FleetDatabase FleetFailure

/-! ## Streams -/

/-- A drone with the producer whose capacity it owns. -/
structure DroneStreamIdentity where
  droneId : String
  producer : String
deriving DecidableEq

/-- Largest representable producer sequence. -/
def maximumProducerSequence : Nat := 10 ^ 15 - 1

/-- `register_stream_statement`: on conflict the row stays as it is. -/
def registerStream (identity : DroneStreamIdentity) : FleetTx Unit := do
  let database ← read
  match database.streams.insert? ⟨identity.droneId, identity.producer, none⟩
    with
  | some streams => write { database with streams }
  | none => pure ()

/-- `_locked_high_water` -/
def lockedHighWater (identity : DroneStreamIdentity) :
    FleetTx (Option Nat) := do
  registerStream identity
  let database ← read
  let row ← demand (database.streams.find? identity.droneId)
    (.store .identityConflict)
  require
    (row.producer = identity.producer ∧
      ∀ mark ∈ row.highWater, mark ≤ maximumProducerSequence)
    (.store .identityConflict)
  pure row.highWater

/-- The mark a drone's next command is judged against. -/
def FleetDatabase.highWater (database : FleetDatabase) (droneId : String) :
    Option Nat :=
  (database.streams.find? droneId).bind DroneStream.highWater

/-- `admit_sequence`: one high-water mark a drone. -/
def admitSequence (identity : DroneStreamIdentity) (sequence : Nat) :
    FleetTx SequenceVerdict := do
  require (sequence ≤ maximumProducerSequence) (.store .invalidSequence)
  let previous ← lockedHighWater identity
  let verdict := (receive previous sequence).1
  if verdict = .advances then do
    let database ← read
    write
      { database with
        streams := database.streams.amend identity.droneId
          (fun row => { row with highWater := some sequence })
          (fun _ => rfl) }
    pure verdict
  else
    pure verdict

/-! ## Receipts -/

/-- Whether a transaction owns new work or met an exact prior result. -/
inductive ReceiptDecision where
  | claimed
  | duplicate (completion : ReceiptCompletion)
deriving DecidableEq

/-- `receipts.claim` -/
def claimReceipt (identity : CommandReceiptIdentity) :
    FleetTx ReceiptDecision := do
  let database ← read
  match database.receipts.insert? ⟨identity, none⟩ with
  | some receipts =>
      write { database with receipts }
      pure .claimed
  | none =>
      let row ← demand (database.receipts.find? identity.key)
        (.receipt .claimVanished)
      require (row.identity.missionId = identity.missionId)
        (.receipt .identityConflict)
      require (row.identity.commandDigest = identity.commandDigest)
        (.receipt .digestConflict)
      let completion ← demand row.completion (.receipt .incomplete)
      pure (.duplicate completion)

/-- `receipts.complete`: a compare-and-set on an unfinished claim. -/
def completeReceipt (identity : CommandReceiptIdentity)
    (completion : ReceiptCompletion) : FleetTx Unit := do
  let database ← read
  let row ← demand (database.receipts.find? identity.key)
    (.receipt .notClaimed)
  require (row.identity = identity ∧ row.completion = none)
    (.receipt .notClaimed)
  write
    { database with
      receipts := database.receipts.amend identity.key
        (fun row => { row with completion := some completion })
        (fun _ => rfl) }

/-! ## Effects and the critical outbox -/

/-- `record_effect` -/
def recordEffect (effect : DurableCommandEffect) : FleetTx Unit := do
  require
    (effect.effectPayload ≠ [] ∧
      isDigest effect.identity.commandDigest = true ∧
      isInstant effect.appliedAt = true)
    (.store .invalidEffect)
  let database ← read
  let effects ← demand (database.effects.insert? effect)
    (.store .effectConflict)
  write { database with effects }

/-- Largest number of unconfirmed critical rows of one drone. -/
def criticalOutboxMaxRecords : Nat := 500

/-- Largest total of unconfirmed critical octets of one drone. -/
def criticalOutboxMaxBytes : Nat := 2 * 1024 * 1024

/-- `_CRITICAL_FAMILIES` -/
def criticalFamilies : List String :=
  ["drone-event", "drone-command-result", "sector-event"]

/-- `critical_size` -/
def criticalSize (event : StagedApplicationEvent) : Nat :=
  (utf8 event.topic.toList).length + event.headers.length +
    event.payload.length

/-- The unconfirmed rows of one producer. -/
def FleetDatabase.unconfirmed (database : FleetDatabase)
    (producer : String) : List ApplicationOutboxRow :=
  database.outbox.rows.filter fun row =>
    row.event.producer = producer ∧ row.state ≠ .confirmed

/-- `stage_critical` -/
def stageCritical (identity : DroneStreamIdentity)
    (event : StagedApplicationEvent) : FleetTx Unit := do
  require (event.family ∈ criticalFamilies) (.store .noncriticalFamily)
  require (event.producer = identity.producer) (.store .identityConflict)
  require (criticalSize event ≤ criticalOutboxMaxBytes)
    (.store .byteCapacity)
  let _ ← lockedHighWater identity
  let database ← read
  let held := database.unconfirmed identity.producer
  require (held.length < criticalOutboxMaxRecords) (.store .recordCapacity)
  require
    (held.foldl (fun total row => total + criticalSize row.event) 0 +
        criticalSize event ≤
      criticalOutboxMaxBytes)
    (.store .byteCapacity)
  let outbox ← demand (database.outbox.insert? ⟨event, .staged, none⟩)
    (.store .eventConflict)
  write { database with outbox }

/-- The publications of one outcome, in order. -/
def stageAll (identity : DroneStreamIdentity) :
    List StagedApplicationEvent → FleetTx Unit
  | [] => pure ()
  | event :: rest => do
      stageCritical identity event
      stageAll identity rest

/-- `persist_outcome`: effect, publications and completed receipt. -/
def persistOutcome (identity : DroneStreamIdentity)
    (effect : DurableCommandEffect)
    (publications : List StagedApplicationEvent) (result : Bytes) :
    FleetTx Unit := do
  require
    (effect.identity.droneId = identity.droneId ∧
      publications.getLast?.map StagedApplicationEvent.payload =
        some result)
    (.store .resultBinding)
  recordEffect effect
  stageAll identity publications
  completeReceipt effect.identity
    ⟨result, effect.appliedSequence, effect.appliedAt⟩

/-! ## What the statements keep -/

/--
Completed receipts, effects and staged events outlive every later statement.
-/
structure Extends (before after : FleetDatabase) : Prop where
  receipts :
    ∀ row ∈ before.receipts.rows, row.completion ≠ none →
      row ∈ after.receipts.rows
  effects : ∀ effect ∈ before.effects.rows, effect ∈ after.effects.rows
  outbox :
    ∀ row ∈ before.outbox.rows,
      ∃ held ∈ after.outbox.rows, held.event = row.event

theorem Extends.refl (database : FleetDatabase) :
    Extends database database where
  receipts := fun _ member _ => member
  effects := fun _ member => member
  outbox := fun row member => ⟨row, member, rfl⟩

theorem Extends.trans {first second third : FleetDatabase}
    (left : Extends first second) (right : Extends second third) :
    Extends first third where
  receipts := by
    intro row member completed
    exact right.receipts row (left.receipts row member completed) completed
  effects := by
    intro effect member
    exact right.effects effect (left.effects effect member)
  outbox := by
    intro row member
    rcases left.outbox row member with ⟨middle, kept, same⟩
    rcases right.outbox middle kept with ⟨last, found, again⟩
    exact ⟨last, found, again.trans same⟩

/-- A change of the streams alone. -/
structure SameRecords (before after : FleetDatabase) : Prop where
  receipts : after.receipts = before.receipts
  effects : after.effects = before.effects
  outbox : after.outbox = before.outbox

theorem SameRecords.refl (database : FleetDatabase) :
    SameRecords database database :=
  ⟨rfl, rfl, rfl⟩

theorem SameRecords.extends {before after : FleetDatabase}
    (same : SameRecords before after) : Extends before after where
  receipts := by
    intro row member _
    rw [same.receipts]
    exact member
  effects := by
    intro effect member
    rw [same.effects]
    exact member
  outbox := by
    intro row member
    rw [same.outbox]
    exact ⟨row, member, rfl⟩

theorem registerStream_ok {identity : DroneStreamIdentity}
    {before after : FleetDatabase} {value : Unit}
    (registered :
      exec (registerStream identity) before = (.ok value, after)) :
    SameRecords before after ∧
      after.highWater identity.droneId =
        before.highWater identity.droneId := by
  simp only [registerStream, exec_bind_eq_ok, exec_read, Prod.mk.injEq,
    Except.ok.injEq] at registered
  rcases registered with ⟨_, _, ⟨rfl, rfl⟩, rest⟩
  split at rest
  · rename_i streams inserted
    simp only [exec_write, Prod.mk.injEq] at rest
    rcases rest with ⟨_, rfl⟩
    refine ⟨⟨rfl, rfl, rfl⟩, ?_⟩
    have absent := (Table.insert?_eq_some.1 inserted).1
    have held := Table.find?_insert?_self inserted
    simp only at absent held
    simp only [FleetDatabase.highWater, absent, held, Option.bind_some,
      Option.bind_none]
  · simp only [exec_pure, Prod.mk.injEq] at rest
    rcases rest with ⟨_, rfl⟩
    exact ⟨SameRecords.refl _, rfl⟩

theorem lockedHighWater_ok {identity : DroneStreamIdentity}
    {before after : FleetDatabase} {mark : Option Nat}
    (locked :
      exec (lockedHighWater identity) before = (.ok mark, after)) :
    SameRecords before after ∧
      mark = before.highWater identity.droneId := by
  simp only [lockedHighWater, exec_bind_eq_ok, exec_read, exec_demand_eq_ok,
    exec_require_eq_ok, exec_pure, Prod.mk.injEq, Except.ok.injEq] at locked
  rcases locked with
    ⟨_, middle, registered, _, _, ⟨rfl, rfl⟩, row, _, ⟨found, rfl⟩, _, _,
      ⟨_, rfl⟩, rfl, rfl⟩
  rcases registerStream_ok registered with ⟨same, kept⟩
  refine ⟨same, ?_⟩
  rw [← kept, FleetDatabase.highWater, found, Option.bind_some]

theorem admitSequence_ok {identity : DroneStreamIdentity} {sequence : Nat}
    {before after : FleetDatabase} {verdict : SequenceVerdict}
    (admitted :
      exec (admitSequence identity sequence) before = (.ok verdict, after)) :
    SameRecords before after ∧
      verdict =
        (receive (before.highWater identity.droneId) sequence).1 := by
  simp only [admitSequence, exec_bind_eq_ok, exec_require_eq_ok] at admitted
  rcases admitted with ⟨_, _, ⟨_, rfl⟩, mark, middle, locked, rest⟩
  rcases lockedHighWater_ok locked with ⟨same, rfl⟩
  simp only [exec_ite] at rest
  split at rest
  · simp only [exec_bind_eq_ok, exec_read, exec_write, exec_pure,
      Prod.mk.injEq, Except.ok.injEq] at rest
    rcases rest with ⟨_, _, ⟨rfl, rfl⟩, _, _, ⟨_, rfl⟩, rfl, rfl⟩
    exact ⟨⟨same.receipts, same.effects, same.outbox⟩, rfl⟩
  · simp only [exec_pure, Prod.mk.injEq, Except.ok.injEq] at rest
    rcases rest with ⟨rfl, rfl⟩
    exact ⟨same, rfl⟩

theorem claimReceipt_ok {identity : CommandReceiptIdentity}
    {before after : FleetDatabase} {decision : ReceiptDecision}
    (claimed :
      exec (claimReceipt identity) before = (.ok decision, after)) :
    (decision = .claimed ∧
      ∃ receipts,
        before.receipts.insert? ⟨identity, none⟩ = some receipts ∧
          after = { before with receipts }) ∨
    ∃ row completion,
      decision = .duplicate completion ∧ after = before ∧
        before.receipts.find? identity.key = some row ∧
        row.identity = identity ∧ row.completion = some completion := by
  simp only [claimReceipt, exec_bind_eq_ok, exec_read, Prod.mk.injEq,
    Except.ok.injEq] at claimed
  rcases claimed with ⟨_, _, ⟨rfl, rfl⟩, rest⟩
  split at rest
  · rename_i receipts inserted
    simp only [exec_bind_eq_ok, exec_write, exec_pure, Prod.mk.injEq,
      Except.ok.injEq] at rest
    rcases rest with ⟨_, _, ⟨_, rfl⟩, rfl, rfl⟩
    exact .inl ⟨rfl, receipts, inserted, rfl⟩
  · simp only [exec_bind_eq_ok, exec_demand_eq_ok, exec_require_eq_ok,
      exec_pure, Prod.mk.injEq, Except.ok.injEq] at rest
    rcases rest with
      ⟨row, _, ⟨found, rfl⟩, _, _, ⟨mission, rfl⟩, _, _, ⟨digest, rfl⟩,
        completion, _, ⟨completed, rfl⟩, rfl, rfl⟩
    have sameKey : row.key = identity.key := Table.find?_key found
    exact .inr
      ⟨row, completion, rfl, rfl, found,
        CommandReceiptIdentity.eq_of_key sameKey mission digest, completed⟩

theorem recordEffect_ok {effect : DurableCommandEffect}
    {before after : FleetDatabase} {value : Unit}
    (recorded :
      exec (recordEffect effect) before = (.ok value, after)) :
    ∃ effects,
      before.effects.insert? effect = some effects ∧
        after = { before with effects } := by
  simp only [recordEffect, exec_bind_eq_ok, exec_require_eq_ok, exec_read,
    exec_demand_eq_ok, exec_write, Prod.mk.injEq,
    Except.ok.injEq] at recorded
  rcases recorded with
    ⟨_, _, ⟨_, rfl⟩, _, _, ⟨rfl, rfl⟩, effects, _, ⟨inserted, rfl⟩, _, rfl⟩
  exact ⟨effects, inserted, rfl⟩

/-- A staged row, and nothing else that the statements keep. -/
theorem stageCritical_ok {identity : DroneStreamIdentity}
    {event : StagedApplicationEvent} {before after : FleetDatabase}
    {value : Unit}
    (staged :
      exec (stageCritical identity event) before = (.ok value, after)) :
    after.receipts = before.receipts ∧ after.effects = before.effects ∧
      before.outbox.insert? ⟨event, .staged, none⟩ = some after.outbox := by
  simp only [stageCritical, exec_bind_eq_ok, exec_require_eq_ok, exec_read,
    exec_demand_eq_ok, exec_write, Prod.mk.injEq,
    Except.ok.injEq] at staged
  rcases staged with
    ⟨_, _, ⟨_, rfl⟩, _, _, ⟨_, rfl⟩, _, _, ⟨_, rfl⟩, _, middle, locked, _, _,
      ⟨rfl, rfl⟩, _, _, ⟨_, rfl⟩, _, _, ⟨_, rfl⟩, outbox, _,
      ⟨inserted, rfl⟩, _, rfl⟩
  have same := (lockedHighWater_ok locked).1
  rw [same.outbox] at inserted
  exact ⟨same.receipts, same.effects, inserted⟩

theorem completeReceipt_ok {identity : CommandReceiptIdentity}
    {completion : ReceiptCompletion} {before after : FleetDatabase}
    {value : Unit}
    (completed :
      exec (completeReceipt identity completion) before =
        (.ok value, after)) :
    before.receipts.find? identity.key = some ⟨identity, none⟩ ∧
      after =
        { before with
          receipts := before.receipts.amend identity.key
            (fun row => { row with completion := some completion })
            (fun _ => rfl) } := by
  simp only [completeReceipt, exec_bind_eq_ok, exec_read, exec_demand_eq_ok,
    exec_require_eq_ok, exec_write, Prod.mk.injEq,
    Except.ok.injEq] at completed
  rcases completed with
    ⟨_, _, ⟨rfl, rfl⟩, row, _, ⟨found, rfl⟩, _, _, ⟨unfinished, rfl⟩, _, rfl⟩
  rcases row with ⟨held, outcome⟩
  rcases unfinished with ⟨rfl, rfl⟩
  exact ⟨found, rfl⟩

end AerialRescue.Fleet
