import AerialRescue.Store.Schema

/-!
# Inbox and idempotency claims

The two repositories that make a delivery take effect once: the broker inbox,
whose row is claimed at the start of a transaction and completed at its end,
and the idempotency claim, whose recorded result answers every later repeat of
one command.
-/

namespace AerialRescue.Store

open AerialRescue.Contracts
open AerialRescue.Domain.Commands
open AerialRescue.Lib
open AerialRescue.Lib.Transaction

/-! ## The broker inbox -/

/-- Whether a transaction owns new work or met an exact prior result. -/
inductive InboxDecision where
  | claimed
  | duplicate
deriving DecidableEq

/-- The claim decision and the prior result of a duplicate. -/
structure InboxOutcome where
  decision : InboxDecision
  result : Option Bytes
deriving DecidableEq

/-- The width of the inbox's source column. -/
def sourceLength : Nat := 256

/-- `_duplicate`: a conflicting row as an exact completed duplicate. -/
def inboxDuplicate (identity : InboxIdentity) (row : InboxRow) :
    StoreTx InboxOutcome :=
  if row.identity.canonicalDigest ≠ identity.canonicalDigest then
    raise (.inbox .digestConflict)
  else
    match row.completion with
    | none => raise (.inbox .incomplete)
    | some (result, _) => pure ⟨.duplicate, some result⟩

/-- `inbox.claim` -/
def claimInbox (identity : InboxIdentity) : StoreTx InboxOutcome := do
  require (identity.source.length ≤ sourceLength) .data
  let database ← read
  match database.inbox.insert? ⟨identity, none⟩ with
  | some inbox =>
      write { database with inbox }
      pure ⟨.claimed, none⟩
  | none =>
      let row ← demand (database.inbox.find? identity.key)
        (.inbox .claimVanished)
      inboxDuplicate identity row

/-- `inbox.complete`: a compare-and-set on this transaction's own claim. -/
def completeInbox (identity : InboxIdentity) (result : Bytes)
    (processedAt : String) : StoreTx Unit := do
  let database ← read
  match database.inbox.find? identity.key with
  | some row =>
      require
        (row.identity.canonicalDigest = identity.canonicalDigest ∧
          row.completion = none)
        (.inbox .notClaimed)
      write
        { database with
          inbox := database.inbox.amend identity.key
            (fun row => { row with completion := some (result, processedAt) })
            (fun _ => rfl) }
  | none => raise (.inbox .notClaimed)

/-- A claim that returns took a free key or met an exact completed row. -/
theorem claimInbox_ok {identity : InboxIdentity} {before after : Database}
    {outcome : InboxOutcome}
    (claimed : exec (claimInbox identity) before = (.ok outcome, after)) :
    (outcome = ⟨.claimed, none⟩ ∧
      ∃ inbox,
        before.inbox.insert? ⟨identity, none⟩ = some inbox ∧
          after = { before with inbox }) ∨
    ∃ row result processedAt,
      outcome = ⟨.duplicate, some result⟩ ∧ after = before ∧
        before.inbox.find? identity.key = some row ∧
        row.identity.canonicalDigest = identity.canonicalDigest ∧
        row.completion = some (result, processedAt) := by
  simp only [claimInbox, exec_bind_eq_ok, exec_require_eq_ok, exec_read,
    Prod.mk.injEq, Except.ok.injEq] at claimed
  rcases claimed with ⟨_, _, ⟨_, rfl⟩, database, _, ⟨rfl, rfl⟩, rest⟩
  split at rest
  · rename_i inbox inserted
    simp only [exec_bind_eq_ok, exec_write, exec_pure, Prod.mk.injEq,
      Except.ok.injEq] at rest
    rcases rest with ⟨_, _, ⟨_, rfl⟩, rfl, rfl⟩
    exact Or.inl ⟨rfl, inbox, inserted, rfl⟩
  · simp only [exec_bind_eq_ok, exec_demand_eq_ok] at rest
    rcases rest with ⟨row, _, ⟨found, rfl⟩, settled⟩
    unfold inboxDuplicate at settled
    split at settled
    · simp at settled
    · rename_i sameDigest
      cases complete : row.completion with
      | none => simp [complete] at settled
      | some completion =>
          rcases completion with ⟨result, processedAt⟩
          simp only [complete, exec_pure, Prod.mk.injEq,
            Except.ok.injEq] at settled
          rcases settled with ⟨rfl, rfl⟩
          exact Or.inr ⟨row, result, processedAt, rfl, rfl, found,
            not_not.1 sameDigest, complete⟩

/-- A completion that returns changed its own claimed row and nothing else. -/
theorem completeInbox_ok {identity : InboxIdentity} {result : Bytes}
    {processedAt : String} {before after : Database} {value : Unit}
    (completed :
      exec (completeInbox identity result processedAt) before =
        (.ok value, after)) :
    ∃ row,
      before.inbox.find? identity.key = some row ∧
        row.identity.canonicalDigest = identity.canonicalDigest ∧
        row.completion = none ∧
        after =
          { before with
            inbox := before.inbox.amend identity.key
              (fun row =>
                { row with completion := some (result, processedAt) })
              (fun _ => rfl) } := by
  simp only [completeInbox, exec_bind_eq_ok, exec_read, Prod.mk.injEq,
    Except.ok.injEq] at completed
  rcases completed with ⟨database, _, ⟨rfl, rfl⟩, rest⟩
  split at rest
  · rename_i row found
    simp only [exec_bind_eq_ok, exec_require_eq_ok, exec_write,
      Prod.mk.injEq] at rest
    rcases rest with ⟨_, _, ⟨⟨digest, open_⟩, rfl⟩, _, rfl⟩
    exact ⟨row, found, digest, open_, rfl⟩
  · simp at rest

/-- A claim and its completion append one row to the inbox. -/
theorem completeInbox_grown {identity : InboxIdentity} {result : Bytes}
    {processedAt : String} {start before after : Database} {value : Unit}
    {inbox : Table InboxRow.key}
    (inserted : start.inbox.insert? ⟨identity, none⟩ = some inbox)
    (kept : before.inbox = inbox)
    (completed :
      exec (completeInbox identity result processedAt) before =
        (.ok value, after)) :
    start.inbox.rows <+: after.inbox.rows := by
  rcases completeInbox_ok completed with ⟨_, _, _, _, rfl⟩
  have rows := Table.amend_insert?_rows start.inbox
    (fun row => { row with completion := some (result, processedAt) })
    (fun _ => rfl) inserted
  refine ⟨_, rows.symm.trans ?_⟩
  simp only [kept]
  rfl

/-- A claim of a free key within the column width is taken. -/
theorem claimInbox_fresh {identity : InboxIdentity} {before : Database}
    {inbox : Table InboxRow.key}
    (narrow : identity.source.length ≤ sourceLength)
    (inserted : before.inbox.insert? ⟨identity, none⟩ = some inbox) :
    exec (claimInbox identity) before =
      (.ok ⟨.claimed, none⟩, { before with inbox }) := by
  unfold claimInbox
  rw [exec_bind_of_ok (exec_require_of narrow _ _),
    exec_bind_of_ok (exec_read _)]
  simp only [inserted]
  rw [exec_bind_of_ok (exec_write _ _), exec_pure]

/-- A claim of an exactly completed key returns its result. -/
theorem claimInbox_repeated {identity : InboxIdentity} {before : Database}
    {row : InboxRow} {result : Bytes} {processedAt : String}
    (narrow : identity.source.length ≤ sourceLength)
    (found : before.inbox.find? identity.key = some row)
    (exact : row.identity.canonicalDigest = identity.canonicalDigest)
    (completed : row.completion = some (result, processedAt)) :
    exec (claimInbox identity) before =
      (.ok ⟨.duplicate, some result⟩, before) := by
  have taken : before.inbox.insert? ⟨identity, none⟩ = none :=
    Table.insert?_eq_none.2 ⟨row, found⟩
  unfold claimInbox
  rw [exec_bind_of_ok (exec_require_of narrow _ _),
    exec_bind_of_ok (exec_read _)]
  simp only [taken]
  rw [exec_bind_of_ok (exec_demand_eq_ok.2 ⟨found, rfl⟩)]
  simp [inboxDuplicate, exact, completed]

/-- A claim that returns is within the column width. -/
theorem claimInbox_narrow {identity : InboxIdentity}
    {before after : Database} {outcome : InboxOutcome}
    (claimed : exec (claimInbox identity) before = (.ok outcome, after)) :
    identity.source.length ≤ sourceLength := by
  simp only [claimInbox, exec_bind_eq_ok, exec_require_eq_ok] at claimed
  rcases claimed with ⟨_, _, ⟨narrow, _⟩, _⟩
  exact narrow

/-- A transaction completes the row that it claimed. -/
theorem completeInbox_claimed {identity : InboxIdentity} {result : Bytes}
    {processedAt : String} {before : Database}
    (found : before.inbox.find? identity.key = some ⟨identity, none⟩) :
    Succeeds (completeInbox identity result processedAt) before := by
  simp only [completeInbox, succeeds_bind, exec_read, Prod.mk.injEq,
    Except.ok.injEq]
  refine ⟨before, before, ⟨rfl, rfl⟩, ?_⟩
  simp only [found, succeeds_bind]
  exact ⟨(), before, exec_require_of ⟨rfl, rfl⟩ _ _, (), _, rfl⟩

/-! ## Idempotency claims -/

/-- What the caller does next, and the prior result when there is one. -/
structure ClaimOutcome where
  decision : IdempotencyDecision
  result : Option Bytes
deriving DecidableEq

/-- `_repeat`: what the holder of the key means for this caller. -/
def repeatedClaim (request : StoredClaim) (row : ClaimRow) :
    StoreTx ClaimOutcome := do
  require (row.claim.kind = request.kind) (.claim .kindMismatch)
  require (row.claim.bodyDigest = request.bodyDigest) (.claim .bodyMismatch)
  let decision := idempotencyDecision row.claim.kind true
  if decision = .deny then
    pure ⟨decision, none⟩
  else
    let result ← demand row.result (.claim .resultNotRecorded)
    pure ⟨decision, some result⟩

/-- `idempotency.claim` -/
def claimIdempotency (request : StoredClaim) : StoreTx ClaimOutcome := do
  let database ← read
  match database.claims.insert? ⟨request, none⟩ with
  | some claims =>
      write { database with claims }
      pure ⟨idempotencyDecision request.kind false, none⟩
  | none =>
      let row ← demand (database.claims.find? request.idempotencyKey)
        (.claim .claimVanished)
      repeatedClaim request row

/-- `idempotency.record_result`: a result is stored once. -/
def recordResult (key : String) (result : Bytes) : StoreTx Unit := do
  let database ← read
  match database.claims.find? key with
  | some row =>
      require (row.result = none) (.claim .resultAlreadyRecorded)
      write
        { database with
          claims := database.claims.amend key
            (fun row => { row with result := some result })
            (fun _ => rfl) }
  | none => raise (.claim .resultAlreadyRecorded)

/-- A claim that returns took a free key or repeats the one that holds it. -/
theorem claimIdempotency_ok {request : StoredClaim}
    {before after : Database} {outcome : ClaimOutcome}
    (claimed : exec (claimIdempotency request) before = (.ok outcome, after)) :
    (outcome = ⟨.execute, none⟩ ∧
      ∃ claims,
        before.claims.insert? ⟨request, none⟩ = some claims ∧
          after = { before with claims }) ∨
    (after = before ∧
      ∃ row,
        before.claims.find? request.idempotencyKey = some row ∧
          row.claim.kind = request.kind ∧
          row.claim.bodyDigest = request.bodyDigest ∧
          ((request.kind = .approvalConsumption ∧
              outcome = ⟨.deny, none⟩) ∨
            ∃ result,
              row.result = some result ∧
                outcome = ⟨.returnPriorResult, some result⟩)) := by
  simp only [claimIdempotency, exec_bind_eq_ok, exec_read, Prod.mk.injEq,
    Except.ok.injEq] at claimed
  rcases claimed with ⟨database, _, ⟨rfl, rfl⟩, rest⟩
  split at rest
  · rename_i claims inserted
    simp only [exec_bind_eq_ok, exec_write, exec_pure, Prod.mk.injEq,
      Except.ok.injEq] at rest
    rcases rest with ⟨_, _, ⟨_, rfl⟩, rfl, rfl⟩
    exact Or.inl ⟨rfl, claims, inserted, rfl⟩
  · simp only [exec_bind_eq_ok, exec_demand_eq_ok, repeatedClaim,
      exec_require_eq_ok, exec_ite] at rest
    rcases rest with
      ⟨row, _, ⟨found, rfl⟩, _, _, ⟨kind, rfl⟩, _, _, ⟨body, rfl⟩, settled⟩
    refine Or.inr ?_
    split at settled
    · rename_i denied
      simp only [exec_pure, Prod.mk.injEq, Except.ok.injEq] at settled
      rcases settled with ⟨rfl, rfl⟩
      refine ⟨rfl, row, found, kind, body, Or.inl ⟨?_, by rw [denied]⟩⟩
      rw [← kind]
      revert denied
      cases row.claim.kind <;> simp [idempotencyDecision]
    · rename_i admitted
      simp only [exec_bind_eq_ok, exec_demand_eq_ok, exec_pure,
        Prod.mk.injEq, Except.ok.injEq] at settled
      rcases settled with ⟨result, _, ⟨recorded, rfl⟩, rfl, rfl⟩
      refine ⟨rfl, row, found, kind, body, Or.inr ⟨result, recorded, ?_⟩⟩
      revert admitted
      cases row.claim.kind <;> simp [idempotencyDecision]

/-- A recorded result fills its own claim and nothing else. -/
theorem recordResult_ok {key : String} {result : Bytes}
    {before after : Database} {value : Unit}
    (recorded :
      exec (recordResult key result) before = (.ok value, after)) :
    ∃ row,
      before.claims.find? key = some row ∧ row.result = none ∧
        after =
          { before with
            claims := before.claims.amend key
              (fun row => { row with result := some result })
              (fun _ => rfl) } := by
  simp only [recordResult, exec_bind_eq_ok, exec_read, Prod.mk.injEq,
    Except.ok.injEq] at recorded
  rcases recorded with ⟨database, _, ⟨rfl, rfl⟩, rest⟩
  split at rest
  · rename_i row found
    simp only [exec_bind_eq_ok, exec_require_eq_ok, exec_write,
      Prod.mk.injEq] at rest
    rcases rest with ⟨_, _, ⟨unrecorded, rfl⟩, _, rfl⟩
    exact ⟨row, found, unrecorded, rfl⟩
  · simp at rest

/-- A claim of a free key is executed. -/
theorem claimIdempotency_fresh {request : StoredClaim} {before : Database}
    {claims : Table ClaimRow.key}
    (inserted : before.claims.insert? ⟨request, none⟩ = some claims) :
    exec (claimIdempotency request) before =
      (.ok ⟨.execute, none⟩, { before with claims }) := by
  unfold claimIdempotency
  rw [exec_bind_of_ok (exec_read _)]
  simp only [inserted]
  rw [exec_bind_of_ok (exec_write _ _), exec_pure]
  rfl

/-- A repeated command with a result returns it. -/
theorem claimIdempotency_repeated {request : StoredClaim}
    {before : Database} {row : ClaimRow} {result : Bytes}
    (found : before.claims.find? request.idempotencyKey = some row)
    (kind : row.claim.kind = request.kind)
    (command : request.kind = .command)
    (body : row.claim.bodyDigest = request.bodyDigest)
    (recorded : row.result = some result) :
    exec (claimIdempotency request) before =
      (.ok ⟨.returnPriorResult, some result⟩, before) := by
  have taken : before.claims.insert? ⟨request, none⟩ = none :=
    Table.insert?_eq_none.2 ⟨row, found⟩
  unfold claimIdempotency
  rw [exec_bind_of_ok (exec_read _)]
  simp only [taken]
  rw [exec_bind_of_ok (exec_demand_eq_ok.2 ⟨found, rfl⟩)]
  unfold repeatedClaim
  rw [exec_bind_of_ok (exec_require_of kind _ _),
    exec_bind_of_ok (exec_require_of body _ _)]
  simp only [kind, command, idempotencyDecision, Bool.not_true,
    Bool.false_eq_true, if_false, reduceCtorEq, recorded]
  rw [exec_bind_of_ok (exec_demand_eq_ok.2 ⟨rfl, rfl⟩), exec_pure]

/-- A transaction records the result of the key that it claimed. -/
theorem recordResult_claimed {claim : StoredClaim} {result : Bytes}
    {before : Database}
    (found :
      before.claims.find? claim.idempotencyKey = some ⟨claim, none⟩) :
    Succeeds (recordResult claim.idempotencyKey result) before := by
  simp only [recordResult, succeeds_bind, exec_read, Prod.mk.injEq,
    Except.ok.injEq]
  refine ⟨before, before, ⟨rfl, rfl⟩, ?_⟩
  simp only [found, succeeds_bind]
  exact ⟨(), before, exec_require_of rfl _ _, (), _, rfl⟩

end AerialRescue.Store
