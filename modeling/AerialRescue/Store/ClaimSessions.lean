import AerialRescue.Fleet.Store
import AerialRescue.Lib.Sessions
import AerialRescue.Store.Claims

/-!
# Claims under concurrent deliveries

The broker inbox, the idempotency claims and the command receipts are claimed
by an insert that a taken key turns into a read, and completed by an update
that a completed row refuses.  Deliveries claim, complete, commit and roll back
in any order; each statement addresses one row, so the three tables are a
locked store whose cells are rows.
-/

namespace AerialRescue.Store

open AerialRescue.Contracts
open AerialRescue.Domain.Commands
open AerialRescue.Fleet
open AerialRescue.Lib
open AerialRescue.Lib.Guard
open AerialRescue.Lib.Sessions
open AerialRescue.Lib.Transaction

/-! ## Statements on one row -/

/-- A statement on a row that may be absent: its answer and what it writes. -/
abbrev OnRow (ε β ρ : Type) :=
  Option ρ → Except ε β × Option ρ

section OnRow

variable {ε β ρ : Type}

/-- An insert of a fresh row, or what the row that is there means. -/
def takeRow (fresh : ρ) (taken : β) (repeated : ρ → Except ε β) :
    OnRow ε β ρ
  | none => (.ok taken, some fresh)
  | some row => (repeated row, none)

/-- An update of the row, if it is there and meets the condition. -/
def fillRow (refusal : ε) (admits : ρ → Prop) [DecidablePred admits]
    (filled : ρ → ρ) : OnRow ε Unit ρ
  | none => (.error refusal, none)
  | some row =>
      if admits row then (.ok (), some (filled row)) else (.error refusal, none)

end OnRow

/-- `_duplicate` of the inbox -/
def repeatedInbox (identity : InboxIdentity) (row : InboxRow) :
    Except StoreFailure InboxOutcome := do
  ensure (row.identity.canonicalDigest = identity.canonicalDigest)
    (.inbox .digestConflict)
  let completion ← present row.completion (.inbox .incomplete)
  pure ⟨.duplicate, some completion.1⟩

/-- `inbox.claim` on the row of its identity -/
def claimInboxRow (identity : InboxIdentity) :
    OnRow StoreFailure InboxOutcome InboxRow :=
  if identity.source.length ≤ sourceLength then
    takeRow ⟨identity, none⟩ ⟨.claimed, none⟩ (repeatedInbox identity)
  else fun _ => (.error .data, none)

/-- `inbox.complete` on the row of its identity -/
def completeInboxRow (identity : InboxIdentity) (result : Bytes)
    (processedAt : String) : OnRow StoreFailure Unit InboxRow :=
  fillRow (.inbox .notClaimed)
    (fun row =>
      row.identity.canonicalDigest = identity.canonicalDigest ∧
        row.completion = none)
    fun row => { row with completion := some (result, processedAt) }

/-- `_repeat` of the idempotency claims -/
def repeatedIdempotency (request : StoredClaim) (row : ClaimRow) :
    Except StoreFailure ClaimOutcome := do
  ensure (row.claim.kind = request.kind) (.claim .kindMismatch)
  ensure (row.claim.bodyDigest = request.bodyDigest) (.claim .bodyMismatch)
  if idempotencyDecision row.claim.kind true = .deny then
    pure ⟨.deny, none⟩
  else do
    let result ← present row.result (.claim .resultNotRecorded)
    pure ⟨idempotencyDecision row.claim.kind true, some result⟩

/-- `idempotency.claim` on the row of its key -/
def claimIdempotencyRow (request : StoredClaim) :
    OnRow StoreFailure ClaimOutcome ClaimRow :=
  takeRow ⟨request, none⟩ ⟨idempotencyDecision request.kind false, none⟩
    (repeatedIdempotency request)

/-- `idempotency.record_result` on the row of its key -/
def recordResultRow (result : Bytes) : OnRow StoreFailure Unit ClaimRow :=
  fillRow (.claim .resultAlreadyRecorded) (fun row => row.result = none)
    fun row => { row with result := some result }

/-- `_duplicate` of the receipts -/
def repeatedReceipt (identity : CommandReceiptIdentity) (row : ReceiptRow) :
    Except FleetFailure ReceiptDecision := do
  ensure (row.identity.missionId = identity.missionId)
    (.receipt .identityConflict)
  ensure (row.identity.commandDigest = identity.commandDigest)
    (.receipt .digestConflict)
  let completion ← present row.completion (.receipt .incomplete)
  pure (.duplicate completion)

/-- `receipts.claim` on the row of its identity -/
def claimReceiptRow (identity : CommandReceiptIdentity) :
    OnRow FleetFailure ReceiptDecision ReceiptRow :=
  takeRow ⟨identity, none⟩ .claimed (repeatedReceipt identity)

/-- `receipts.complete` on the row of its identity -/
def completeReceiptRow (identity : CommandReceiptIdentity)
    (completion : ReceiptCompletion) : OnRow FleetFailure Unit ReceiptRow :=
  fillRow (.receipt .notClaimed)
    (fun row => row.identity = identity ∧ row.completion = none)
    fun row => { row with completion := some completion }

/-! ## The transactions do what their statements do on their rows -/

/-- A table after a statement on the row of one key. -/
def RowWritten {ρ κ : Type} {key : ρ → κ} [DecidableEq κ]
    (before : Table key) (wanted : κ) (written : Option ρ)
    (after : Table key) : Prop :=
  ∀ other,
    after.find? other =
      if other = wanted then written.or (before.find? wanted)
      else before.find? other

section RowWritten

variable {ρ κ : Type} {key : ρ → κ} [DecidableEq κ] {before after : Table key}
  {wanted : κ}

theorem rowWritten_none : RowWritten before wanted none before := by
  intro other
  split
  · rename_i same
    rw [same, Option.none_or]
  · rfl

theorem rowWritten_insert {row : ρ}
    (inserted : before.insert? row = some after) :
    RowWritten before (key row) (some row) after := by
  intro other
  rw [Table.find?_insert? inserted]
  by_cases same : key row = other
  · rw [if_pos same, if_pos same.symm, Option.some_or]
  · rw [if_neg same, if_neg (Ne.symm same)]

theorem rowWritten_amend {row : ρ}
    (found : before.find? wanted = some row) (change : ρ → ρ)
    (keeps : ∀ row, key (change row) = key row) :
    RowWritten before wanted (some (change row))
      (before.amend wanted change keeps) := by
  intro other
  rw [Table.find?_amend]
  by_cases same : other = wanted
  · rw [if_pos same, if_pos same, same, found, Option.some_or]
    rfl
  · rw [if_neg same, if_neg same]

end RowWritten

theorem claimInbox_row (identity : InboxIdentity) (before : Database) :
    (exec (claimInbox identity) before).1 =
        (claimInboxRow identity (before.inbox.find? identity.key)).1 ∧
      RowWritten before.inbox identity.key
        (claimInboxRow identity (before.inbox.find? identity.key)).2
        (exec (claimInbox identity) before).2.inbox := by
  unfold claimInbox claimInboxRow
  by_cases narrow : identity.source.length ≤ sourceLength
  · rw [if_pos narrow, exec_bind_of_ok (exec_require_of narrow _ _),
      exec_bind_of_ok (exec_read _)]
    cases inserted : before.inbox.insert? ⟨identity, none⟩ with
    | some inbox =>
        have free : before.inbox.find? identity.key = none :=
          (Table.insert?_eq_some.1 inserted).1
        simp only [free, takeRow]
        rw [exec_bind_of_ok (exec_write _ _), exec_pure]
        exact ⟨rfl, rowWritten_insert inserted⟩
    | none =>
        rcases Table.insert?_eq_none.1 inserted with ⟨row, found⟩
        have held : before.inbox.find? identity.key = some row := found
        simp only [held, takeRow]
        rw [exec_bind_of_ok (exec_demand_eq_ok.2 ⟨rfl, rfl⟩)]
        unfold inboxDuplicate repeatedInbox
        by_cases digest :
            row.identity.canonicalDigest = identity.canonicalDigest
        · rw [if_neg (not_not.2 digest), ensure_of digest]
          cases row.completion with
          | none => exact ⟨rfl, rowWritten_none⟩
          | some completion => exact ⟨rfl, rowWritten_none⟩
        · rw [if_pos digest, ensure_eq_error.2 ⟨digest, rfl⟩]
          exact ⟨rfl, rowWritten_none⟩
  · have wide : exec (require (identity.source.length ≤ sourceLength)
        StoreFailure.data) before = (.error .data, before) := by
      rw [exec_require_eq_error]
      exact ⟨narrow, rfl, rfl⟩
    rw [if_neg narrow, exec_bind_of_error wide]
    exact ⟨rfl, rowWritten_none⟩

theorem completeInbox_row (identity : InboxIdentity) (result : Bytes)
    (processedAt : String) (before : Database) :
    (exec (completeInbox identity result processedAt) before).1 =
        (completeInboxRow identity result processedAt
          (before.inbox.find? identity.key)).1 ∧
      RowWritten before.inbox identity.key
        (completeInboxRow identity result processedAt
          (before.inbox.find? identity.key)).2
        (exec (completeInbox identity result processedAt)
          before).2.inbox := by
  unfold completeInbox completeInboxRow
  rw [exec_bind_of_ok (exec_read _)]
  cases found : before.inbox.find? identity.key with
  | none =>
      simp only [fillRow, exec_raise]
      exact ⟨trivial, rowWritten_none⟩
  | some row =>
      simp only [fillRow]
      split
      · rename_i open_
        rw [exec_bind_of_ok (exec_require_of open_ _ _), exec_write]
        exact ⟨rfl, rowWritten_amend found
          (fun row => { row with completion := some (result, processedAt) })
          fun _ => rfl⟩
      · rename_i closed
        rw [exec_bind_of_error
          ((exec_require_eq_error _).2 ⟨closed, rfl, rfl⟩)]
        exact ⟨rfl, rowWritten_none⟩

theorem claimIdempotency_row (request : StoredClaim) (before : Database) :
    (exec (claimIdempotency request) before).1 =
        (claimIdempotencyRow request
          (before.claims.find? request.idempotencyKey)).1 ∧
      RowWritten before.claims request.idempotencyKey
        (claimIdempotencyRow request
          (before.claims.find? request.idempotencyKey)).2
        (exec (claimIdempotency request) before).2.claims := by
  unfold claimIdempotency claimIdempotencyRow
  rw [exec_bind_of_ok (exec_read _)]
  cases inserted : before.claims.insert? ⟨request, none⟩ with
  | some claims =>
      have free : before.claims.find? request.idempotencyKey = none :=
        (Table.insert?_eq_some.1 inserted).1
      simp only [free, takeRow]
      rw [exec_bind_of_ok (exec_write _ _), exec_pure]
      exact ⟨rfl, rowWritten_insert inserted⟩
  | none =>
      rcases Table.insert?_eq_none.1 inserted with ⟨row, found⟩
      have held : before.claims.find? request.idempotencyKey = some row :=
        found
      simp only [held, takeRow]
      rw [exec_bind_of_ok (exec_demand_eq_ok.2 ⟨rfl, rfl⟩)]
      unfold repeatedClaim repeatedIdempotency
      by_cases kind : row.claim.kind = request.kind
      · rw [ensure_of kind, exec_bind_of_ok (exec_require_of kind _ _)]
        by_cases body : row.claim.bodyDigest = request.bodyDigest
        · rw [ensure_of body, exec_bind_of_ok (exec_require_of body _ _)]
          by_cases denied :
              idempotencyDecision row.claim.kind true = .deny
          · simp only [denied, if_true]
            exact ⟨rfl, rowWritten_none⟩
          · simp only [denied, if_false]
            cases row.result with
            | none => exact ⟨rfl, rowWritten_none⟩
            | some result => exact ⟨rfl, rowWritten_none⟩
        · rw [ensure_eq_error.2 ⟨body, rfl⟩, exec_bind_of_error
            ((exec_require_eq_error _).2 ⟨body, rfl, rfl⟩)]
          exact ⟨rfl, rowWritten_none⟩
      · rw [ensure_eq_error.2 ⟨kind, rfl⟩, exec_bind_of_error
          ((exec_require_eq_error _).2 ⟨kind, rfl, rfl⟩)]
        exact ⟨rfl, rowWritten_none⟩

theorem recordResult_row (key : String) (result : Bytes)
    (before : Database) :
    (exec (recordResult key result) before).1 =
        (recordResultRow result (before.claims.find? key)).1 ∧
      RowWritten before.claims key
        (recordResultRow result (before.claims.find? key)).2
        (exec (recordResult key result) before).2.claims := by
  unfold recordResult recordResultRow
  rw [exec_bind_of_ok (exec_read _)]
  cases found : before.claims.find? key with
  | none =>
      simp only [fillRow, exec_raise]
      exact ⟨trivial, rowWritten_none⟩
  | some row =>
      simp only [fillRow]
      split
      · rename_i open_
        rw [exec_bind_of_ok (exec_require_of open_ _ _), exec_write]
        exact ⟨rfl, rowWritten_amend found
          (fun row => { row with result := some result }) fun _ => rfl⟩
      · rename_i closed
        rw [exec_bind_of_error
          ((exec_require_eq_error _).2 ⟨closed, rfl, rfl⟩)]
        exact ⟨rfl, rowWritten_none⟩

theorem claimReceipt_row (identity : CommandReceiptIdentity)
    (before : FleetDatabase) :
    (exec (claimReceipt identity) before).1 =
        (claimReceiptRow identity (before.receipts.find? identity.key)).1 ∧
      RowWritten before.receipts identity.key
        (claimReceiptRow identity (before.receipts.find? identity.key)).2
        (exec (claimReceipt identity) before).2.receipts := by
  unfold claimReceipt claimReceiptRow
  rw [exec_bind_of_ok (exec_read _)]
  cases inserted : before.receipts.insert? ⟨identity, none⟩ with
  | some receipts =>
      have free : before.receipts.find? identity.key = none :=
        (Table.insert?_eq_some.1 inserted).1
      simp only [free, takeRow]
      rw [exec_bind_of_ok (exec_write _ _), exec_pure]
      exact ⟨rfl, rowWritten_insert inserted⟩
  | none =>
      rcases Table.insert?_eq_none.1 inserted with ⟨row, found⟩
      have held : before.receipts.find? identity.key = some row := found
      simp only [held, takeRow]
      rw [exec_bind_of_ok (exec_demand_eq_ok.2 ⟨rfl, rfl⟩)]
      unfold repeatedReceipt
      by_cases mission : row.identity.missionId = identity.missionId
      · rw [ensure_of mission,
          exec_bind_of_ok (exec_require_of mission _ _)]
        by_cases digest :
            row.identity.commandDigest = identity.commandDigest
        · rw [ensure_of digest,
            exec_bind_of_ok (exec_require_of digest _ _)]
          cases row.completion with
          | none => exact ⟨rfl, rowWritten_none⟩
          | some completion => exact ⟨rfl, rowWritten_none⟩
        · rw [ensure_eq_error.2 ⟨digest, rfl⟩, exec_bind_of_error
            ((exec_require_eq_error _).2 ⟨digest, rfl, rfl⟩)]
          exact ⟨rfl, rowWritten_none⟩
      · rw [ensure_eq_error.2 ⟨mission, rfl⟩, exec_bind_of_error
          ((exec_require_eq_error _).2 ⟨mission, rfl, rfl⟩)]
        exact ⟨rfl, rowWritten_none⟩

theorem completeReceipt_row (identity : CommandReceiptIdentity)
    (completion : ReceiptCompletion) (before : FleetDatabase) :
    (exec (completeReceipt identity completion) before).1 =
        (completeReceiptRow identity completion
          (before.receipts.find? identity.key)).1 ∧
      RowWritten before.receipts identity.key
        (completeReceiptRow identity completion
          (before.receipts.find? identity.key)).2
        (exec (completeReceipt identity completion) before).2.receipts := by
  unfold completeReceipt completeReceiptRow
  rw [exec_bind_of_ok (exec_read _)]
  cases found : before.receipts.find? identity.key with
  | none =>
      rw [exec_bind_of_error (exec_demand_eq_error.2 ⟨rfl, rfl, rfl⟩)]
      exact ⟨rfl, rowWritten_none⟩
  | some row =>
      rw [exec_bind_of_ok (exec_demand_eq_ok.2 ⟨rfl, rfl⟩)]
      simp only [fillRow]
      split
      · rename_i open_
        rw [exec_bind_of_ok (exec_require_of open_ _ _), exec_write]
        exact ⟨rfl, rowWritten_amend found
          (fun row => { row with completion := some completion })
          fun _ => rfl⟩
      · rename_i closed
        rw [exec_bind_of_error
          ((exec_require_eq_error _).2 ⟨closed, rfl, rfl⟩)]
        exact ⟨rfl, rowWritten_none⟩

/-! ## Deliveries -/

/-- The row of one table that a statement addresses. -/
inductive ClaimKey where
  | inbox (key : String × String × String)
  | idempotency (key : String)
  | receipt (key : String × String)
deriving DecidableEq

/-- The rows of the three tables under one key; each table has its own. -/
structure ClaimCell where
  inbox : Option InboxRow
  idempotency : Option ClaimRow
  receipt : Option ReceiptRow

/-- No table has a row. -/
def ClaimCell.empty : ClaimCell where
  inbox := none
  idempotency := none
  receipt := none

/-- What a delivery presents to claim an identity. -/
inductive ClaimRequest where
  | inbox (identity : InboxIdentity)
  | idempotency (request : StoredClaim)
  | receipt (identity : CommandReceiptIdentity)

namespace ClaimRequest

/-- The row that the request claims. -/
def key : ClaimRequest → ClaimKey
  | .inbox identity => .inbox identity.key
  | .idempotency request => .idempotency request.idempotencyKey
  | .receipt identity => .receipt identity.key

/-- The digest that the request presents. -/
def digest : ClaimRequest → String
  | .inbox identity => identity.canonicalDigest
  | .idempotency request => request.bodyDigest
  | .receipt identity => identity.commandDigest

/-- A repeat of the request is denied instead of answered. -/
def consumesApproval : ClaimRequest → Bool
  | .idempotency request => request.kind = .approvalConsumption
  | _ => false

end ClaimRequest

/-- A statement of a delivery. -/
inductive ClaimStatement where
  | claim (request : ClaimRequest)
  | completeInbox (identity : InboxIdentity) (result : Bytes)
      (processedAt : String)
  | recordResult (key : String) (result : Bytes)
  | completeReceipt (identity : CommandReceiptIdentity)
      (completion : ReceiptCompletion)

/-- What a statement returns or raises. -/
inductive ClaimAnswer where
  | inbox (answer : Except StoreFailure InboxOutcome)
  | idempotency (answer : Except StoreFailure ClaimOutcome)
  | receipt (answer : Except FleetFailure ReceiptDecision)
  | stored (answer : Except StoreFailure Unit)
  | fleet (answer : Except FleetFailure Unit)

namespace ClaimAnswer

/-- The delivery owns new work. -/
def first : ClaimAnswer → Bool
  | .inbox (.ok ⟨.claimed, _⟩) => true
  | .idempotency (.ok ⟨.execute, _⟩) => true
  | .receipt (.ok .claimed) => true
  | _ => false

/-- The prior result that a repeat is answered with. -/
def prior? : ClaimAnswer → Option Bytes
  | .inbox (.ok ⟨.duplicate, result⟩) => result
  | .idempotency (.ok ⟨.returnPriorResult, result⟩) => result
  | .receipt (.ok (.duplicate completion)) => some completion.result
  | _ => none

/-- The repeat is denied without a result. -/
def denied : ClaimAnswer → Bool
  | .idempotency (.ok ⟨.deny, none⟩) => true
  | _ => false

/-- The statement raised. -/
def raised : ClaimAnswer → Bool
  | .inbox (.error _) | .idempotency (.error _) | .receipt (.error _)
  | .stored (.error _) | .fleet (.error _) => true
  | _ => false

end ClaimAnswer

/-- The answer of a claim on the rows of its key. -/
def ClaimRequest.answer (cell : ClaimCell) : ClaimRequest → ClaimAnswer
  | .inbox identity => .inbox (claimInboxRow identity cell.inbox).1
  | .idempotency request =>
      .idempotency (claimIdempotencyRow request cell.idempotency).1
  | .receipt identity => .receipt (claimReceiptRow identity cell.receipt).1

/-- What a claim writes on the rows of its key. -/
def ClaimRequest.writes (cell : ClaimCell) : ClaimRequest → Option ClaimCell
  | .inbox identity =>
      (claimInboxRow identity cell.inbox).2.map fun row =>
        { cell with inbox := some row }
  | .idempotency request =>
      (claimIdempotencyRow request cell.idempotency).2.map fun row =>
        { cell with idempotency := some row }
  | .receipt identity =>
      (claimReceiptRow identity cell.receipt).2.map fun row =>
        { cell with receipt := some row }

/-- The statements of deliveries, each on the row of its key. -/
def claimStatements :
    Statements ClaimKey ClaimCell ClaimStatement ClaimAnswer where
  key
    | .claim request => request.key
    | .completeInbox identity _ _ => .inbox identity.key
    | .recordResult key _ => .idempotency key
    | .completeReceipt identity _ => .receipt identity.key
  answer
    | .claim request, cell => request.answer cell
    | .completeInbox identity result processedAt, cell =>
        .stored (completeInboxRow identity result processedAt cell.inbox).1
    | .recordResult _ result, cell =>
        .stored (recordResultRow result cell.idempotency).1
    | .completeReceipt identity completion, cell =>
        .fleet (completeReceiptRow identity completion cell.receipt).1
  writes
    | .claim request, cell => request.writes cell
    | .completeInbox identity result processedAt, cell =>
        (completeInboxRow identity result processedAt cell.inbox).2.map
          fun row => { cell with inbox := some row }
    | .recordResult _ result, cell =>
        (recordResultRow result cell.idempotency).2.map fun row =>
          { cell with idempotency := some row }
    | .completeReceipt identity completion, cell =>
        (completeReceiptRow identity completion cell.receipt).2.map
          fun row => { cell with receipt := some row }

/-- The three tables under concurrent deliveries. -/
abbrev ClaimEngine (σ : Type) :=
  Engine σ ClaimKey ClaimCell ClaimStatement ClaimAnswer

/-- No table has a row and no delivery is open. -/
def ClaimEngine.start (σ : Type) : ClaimEngine σ :=
  Engine.start fun _ => .empty

namespace ClaimCell

/-- The digest of the row of a key, once it is claimed. -/
def digest? (cell : ClaimCell) : ClaimKey → Option String
  | .inbox _ => cell.inbox.map fun row => row.identity.canonicalDigest
  | .idempotency _ => cell.idempotency.map fun row => row.claim.bodyDigest
  | .receipt _ => cell.receipt.map fun row => row.identity.commandDigest

/-- The recorded result of the row of a key, once it is completed. -/
def result? (cell : ClaimCell) : ClaimKey → Option Bytes
  | .inbox _ =>
      cell.inbox.bind fun row => row.completion.map Prod.fst
  | .idempotency _ => cell.idempotency.bind ClaimRow.result
  | .receipt _ =>
      cell.receipt.bind fun row =>
        row.completion.map ReceiptCompletion.result

end ClaimCell

/-- The row of the request's key holds what a repeat must agree with. -/
def ClaimRequest.Repeats (cell : ClaimCell) : ClaimRequest → Prop
  | .inbox identity =>
      ∃ row ∈ cell.inbox,
        row.identity.canonicalDigest = identity.canonicalDigest
  | .idempotency request =>
      ∃ row ∈ cell.idempotency,
        row.claim.kind = request.kind ∧
          row.claim.bodyDigest = request.bodyDigest
  | .receipt identity =>
      ∃ row ∈ cell.receipt,
        row.identity.missionId = identity.missionId ∧
          row.identity.commandDigest = identity.commandDigest

/-! ## What a statement can do to a row -/

/-- A row is left, claimed from nothing, or completed once. -/
def RowStep {ρ γ χ : Type} (claim : ρ → γ) (completion : ρ → Option χ)
    (before after : Option ρ) : Prop :=
  after = before ∨
    (before = none ∧ ∃ row, after = some row ∧ completion row = none) ∨
    ∃ row filled,
      before = some row ∧ after = some filled ∧ completion row = none ∧
        claim filled = claim row

/-- A row that is still there, with its claim and any completion it had. -/
def Continues {ρ γ χ : Type} (claim : ρ → γ) (completion : ρ → Option χ)
    (row : ρ) (after : Option ρ) : Prop :=
  ∃ held ∈ after,
    claim held = claim row ∧ (completion row ≠ none → held = row)

section RowStep

variable {ρ γ χ : Type} {claim : ρ → γ} {completion : ρ → Option χ}

theorem RowStep.continues {row : ρ} {before after : Option ρ}
    (step : RowStep claim completion before after)
    (continues : Continues claim completion row before) :
    Continues claim completion row after := by
  rcases continues with ⟨held, found, same, kept⟩
  rcases step with rfl | ⟨absent, _⟩ | ⟨current, filled, was, now, open_, claimed⟩
  · exact ⟨held, found, same, kept⟩
  · rw [absent] at found
    cases found
  · rw [was] at found
    cases found
    refine ⟨filled, now, claimed.trans same, ?_⟩
    intro completed
    rw [kept completed] at open_
    exact absurd open_ completed

theorem rowStep_take {ε β : Type} {fresh : ρ} {taken : β}
    {repeated : ρ → Except ε β} (unfinished : completion fresh = none)
    {before : Option ρ} {row : ρ}
    (written : (takeRow fresh taken repeated before).2 = some row) :
    RowStep claim completion before (some row) := by
  cases before with
  | none =>
      cases written
      exact .inr (.inl ⟨rfl, fresh, rfl, unfinished⟩)
  | some held => cases written

theorem rowStep_fill {ε : Type} {refusal : ε} {admits : ρ → Prop}
    [DecidablePred admits] {filled : ρ → ρ} {before : Option ρ} {row : ρ}
    (written : (fillRow refusal admits filled before).2 = some row)
    (open_ : ∀ row, admits row → completion row = none)
    (same : ∀ row, claim (filled row) = claim row) :
    RowStep claim completion before (some row) := by
  cases before with
  | none => cases written
  | some held =>
      simp only [fillRow] at written
      split at written
      · rename_i admitted
        cases written
        exact .inr (.inr
          ⟨held, filled held, rfl, rfl, open_ held admitted, same held⟩)
      · cases written

end RowStep

/-- What one statement can do to the rows of its key. -/
structure CellStep (before after : ClaimCell) : Prop where
  inbox :
    RowStep InboxRow.identity InboxRow.completion before.inbox after.inbox
  idempotency :
    RowStep ClaimRow.claim ClaimRow.result before.idempotency
      after.idempotency
  receipt :
    RowStep ReceiptRow.identity ReceiptRow.completion before.receipt
      after.receipt

theorem claimInboxRow_step {identity : InboxIdentity}
    {before : Option InboxRow} {row : InboxRow}
    (written : (claimInboxRow identity before).2 = some row) :
    RowStep InboxRow.identity InboxRow.completion before (some row) := by
  unfold claimInboxRow at written
  split at written
  · exact rowStep_take rfl written
  · cases written

/-- Every statement leaves, claims or completes rows. -/
theorem cellStep_of_writes {statement : ClaimStatement}
    {before after : ClaimCell}
    (written : claimStatements.writes statement before = some after) :
    CellStep before after := by
  cases statement with
  | claim request =>
      cases request with
      | inbox identity =>
          rcases Option.map_eq_some_iff.1 written with ⟨row, claimed, rfl⟩
          exact ⟨claimInboxRow_step claimed, .inl rfl, .inl rfl⟩
      | idempotency request =>
          rcases Option.map_eq_some_iff.1 written with ⟨row, claimed, rfl⟩
          exact ⟨.inl rfl, rowStep_take rfl claimed, .inl rfl⟩
      | receipt identity =>
          rcases Option.map_eq_some_iff.1 written with ⟨row, claimed, rfl⟩
          exact ⟨.inl rfl, .inl rfl, rowStep_take rfl claimed⟩
  | completeInbox identity result processedAt =>
      rcases Option.map_eq_some_iff.1 written with ⟨row, completed, rfl⟩
      exact ⟨rowStep_fill completed (fun _ admitted => admitted.2)
        fun _ => rfl, .inl rfl, .inl rfl⟩
  | recordResult key result =>
      rcases Option.map_eq_some_iff.1 written with ⟨row, completed, rfl⟩
      exact ⟨.inl rfl, rowStep_fill completed (fun _ admitted => admitted)
        fun _ => rfl, .inl rfl⟩
  | completeReceipt identity completion =>
      rcases Option.map_eq_some_iff.1 written with ⟨row, completed, rfl⟩
      exact ⟨.inl rfl, .inl rfl, rowStep_fill completed
        (fun _ admitted => admitted.2) fun _ => rfl⟩

theorem keeps_inbox (key : ClaimKey) (row : InboxRow) :
    Keeps claimStatements key fun cell =>
      Continues InboxRow.identity InboxRow.completion row cell.inbox :=
  fun _ _ _ _ held written => (cellStep_of_writes written).inbox.continues held

theorem keeps_idempotency (key : ClaimKey) (row : ClaimRow) :
    Keeps claimStatements key fun cell =>
      Continues ClaimRow.claim ClaimRow.result row cell.idempotency :=
  fun _ _ _ _ held written =>
    (cellStep_of_writes written).idempotency.continues held

theorem keeps_receipt (key : ClaimKey) (row : ReceiptRow) :
    Keeps claimStatements key fun cell =>
      Continues ReceiptRow.identity ReceiptRow.completion row cell.receipt :=
  fun _ _ _ _ held written =>
    (cellStep_of_writes written).receipt.continues held

theorem Continues.refl {ρ γ χ : Type} {claim : ρ → γ}
    {completion : ρ → Option χ} {row : ρ} {rows : Option ρ}
    (found : rows = some row) : Continues claim completion row rows :=
  ⟨row, found, rfl, fun _ => rfl⟩

/-- The rows of an inbox key have that key and fit their column. -/
def InboxOwned (key : String × String × String) (cell : ClaimCell) : Prop :=
  ∀ row ∈ cell.inbox,
    row.identity.key = key ∧ row.identity.source.length ≤ sourceLength

theorem keeps_inboxOwned (key : String × String × String) :
    Keeps claimStatements (.inbox key) (InboxOwned key) := by
  intro statement value next cell owned written
  cases statement with
  | claim request =>
      cases request with
      | inbox identity =>
          rcases Option.map_eq_some_iff.1 written with ⟨row, claimed, rfl⟩
          unfold claimInboxRow at claimed
          split at claimed
          · rename_i narrow
            cases held : value.inbox with
            | some current =>
                rw [held] at claimed
                cases claimed
            | none =>
                rw [held] at claimed
                cases claimed
                intro row member
                cases member
                exact ⟨ClaimKey.inbox.inj cell, narrow⟩
          · cases claimed
      | idempotency request => cases cell
      | receipt identity => cases cell
  | completeInbox identity result processedAt =>
      rcases Option.map_eq_some_iff.1 written with ⟨row, completed, rfl⟩
      cases held : value.inbox with
      | none =>
          rw [completeInboxRow, held] at completed
          cases completed
      | some current =>
          rw [completeInboxRow, held] at completed
          simp only [fillRow] at completed
          split at completed
          · cases completed
            intro row member
            cases member
            exact owned current held
          · cases completed
  | recordResult other result => cases cell
  | completeReceipt identity completion => cases cell

/-! ## One first claim for each identity -/

theorem first_of_claimInboxRow {identity : InboxIdentity}
    {before : Option InboxRow}
    (first :
      (ClaimAnswer.inbox (claimInboxRow identity before).1).first = true) :
    before = none := by
  unfold claimInboxRow at first
  split at first
  · cases before with
    | none => rfl
    | some row =>
        simp only [takeRow, repeatedInbox] at first
        by_cases digest :
            row.identity.canonicalDigest = identity.canonicalDigest
        · rw [ensure_of digest] at first
          cases completion : row.completion <;> rw [completion] at first <;>
            cases first
        · rw [ensure_eq_error.2 ⟨digest, rfl⟩] at first
          cases first
  · cases first

theorem first_of_claimIdempotencyRow {request : StoredClaim}
    {before : Option ClaimRow}
    (first :
      (ClaimAnswer.idempotency
        (claimIdempotencyRow request before).1).first = true) :
    before = none := by
  cases before with
  | none => rfl
  | some row =>
      simp only [claimIdempotencyRow, takeRow, repeatedIdempotency] at first
      by_cases kind : row.claim.kind = request.kind
      · by_cases body : row.claim.bodyDigest = request.bodyDigest
        · rw [ensure_of kind, ensure_of body] at first
          cases held : row.claim.kind <;> cases result : row.result <;>
            rw [held, result] at first <;> cases first
        · rw [ensure_of kind, ensure_eq_error.2 ⟨body, rfl⟩] at first
          cases first
      · rw [ensure_eq_error.2 ⟨kind, rfl⟩] at first
        cases first

theorem first_of_claimReceiptRow {identity : CommandReceiptIdentity}
    {before : Option ReceiptRow}
    (first :
      (ClaimAnswer.receipt (claimReceiptRow identity before).1).first =
        true) :
    before = none := by
  cases before with
  | none => rfl
  | some row =>
      simp only [claimReceiptRow, takeRow, repeatedReceipt] at first
      by_cases mission : row.identity.missionId = identity.missionId
      · by_cases digest :
            row.identity.commandDigest = identity.commandDigest
        · rw [ensure_of mission, ensure_of digest] at first
          cases completion : row.completion <;> rw [completion] at first <;>
            cases first
        · rw [ensure_of mission, ensure_eq_error.2 ⟨digest, rfl⟩] at first
          cases first
      · rw [ensure_eq_error.2 ⟨mission, rfl⟩] at first
        cases first

/-- Only a claim of a row that is not there is a first claim. -/
theorem digest?_of_first {statement : ClaimStatement} {cell : ClaimCell}
    (first : (claimStatements.answer statement cell).first = true) :
    cell.digest? (claimStatements.key statement) = none := by
  cases statement with
  | claim request =>
      cases request with
      | inbox identity =>
          exact congrArg (Option.map _) (first_of_claimInboxRow first)
      | idempotency request =>
          exact congrArg (Option.map _) (first_of_claimIdempotencyRow first)
      | receipt identity =>
          exact congrArg (Option.map _) (first_of_claimReceiptRow first)
  | completeInbox identity result processedAt =>
      simp only [claimStatements] at first
      cases answer :
          (completeInboxRow identity result processedAt cell.inbox).1 <;>
        rw [answer] at first <;> cases first
  | recordResult key result =>
      simp only [claimStatements] at first
      cases answer : (recordResultRow result cell.idempotency).1 <;>
        rw [answer] at first <;> cases first
  | completeReceipt identity completion =>
      simp only [claimStatements] at first
      cases answer : (completeReceiptRow identity completion cell.receipt).1 <;>
        rw [answer] at first <;> cases first

/-- A statement that writes leaves a row under its key. -/
theorem digest?_of_writes {statement : ClaimStatement}
    {before after : ClaimCell}
    (written : claimStatements.writes statement before = some after) :
    (after.digest? (claimStatements.key statement)).isSome := by
  cases statement with
  | claim request =>
      cases request with
      | inbox identity =>
          rcases Option.map_eq_some_iff.1 written with ⟨row, _, rfl⟩
          rfl
      | idempotency request =>
          rcases Option.map_eq_some_iff.1 written with ⟨row, _, rfl⟩
          rfl
      | receipt identity =>
          rcases Option.map_eq_some_iff.1 written with ⟨row, _, rfl⟩
          rfl
  | completeInbox identity result processedAt =>
      rcases Option.map_eq_some_iff.1 written with ⟨row, _, rfl⟩
      rfl
  | recordResult key result =>
      rcases Option.map_eq_some_iff.1 written with ⟨row, _, rfl⟩
      rfl
  | completeReceipt identity completion =>
      rcases Option.map_eq_some_iff.1 written with ⟨row, _, rfl⟩
      rfl

/-- Of the writes of one row at most one is a first claim. -/
theorem replays_first {key : ClaimKey} {before after : ClaimCell}
    {entries : List (ClaimStatement × ClaimAnswer)}
    (addressed : ∀ entry ∈ entries, claimStatements.key entry.1 = key)
    (replays : Replays claimStatements before entries after) :
    entries.countP (fun entry => entry.2.first) ≤
      if (before.digest? key).isSome then 0 else 1 := by
  induction entries generalizing before with
  | nil => exact Nat.zero_le _
  | cons entry rest inductionHypothesis =>
      rcases entry with ⟨statement, answer⟩
      rcases replays with ⟨next, written, rfl, later⟩
      have cell : claimStatements.key statement = key :=
        addressed _ List.mem_cons_self
      have present := digest?_of_writes written
      rw [cell] at present
      have none := inductionHypothesis
        (fun other member => addressed other (List.mem_cons_of_mem _ member))
        later
      rw [if_pos present] at none
      rw [List.countP_cons]
      by_cases first : (claimStatements.answer statement before).first = true
      · have absent := digest?_of_first first
        rw [cell] at absent
        rw [if_pos first, absent]
        simpa using none
      · rw [if_neg first]
        exact (Nat.le_of_eq (Nat.add_zero _)).trans
          (none.trans (Nat.zero_le _))

/-! ## Later deliveries -/

/--
What a claim is answered that meets a row: never new work, a refusal unless it
repeats the row, and otherwise the recorded result, or a denial when the claim
consumes an approval.
-/
structure LaterAnswer (cell : ClaimCell) (request : ClaimRequest)
    (answer : ClaimAnswer) : Prop where
  notFirst : answer.first = false
  foreign : ¬request.Repeats cell → answer.raised = true
  denied : request.Repeats cell → request.consumesApproval = true →
    answer.denied = true
  unfinished : request.Repeats cell → request.consumesApproval = false →
    cell.result? request.key = none → answer.raised = true
  recorded : request.Repeats cell → request.consumesApproval = false →
    ∀ result, cell.result? request.key = some result →
      answer.prior? = some result

/-- A claim that does not repeat the row is refused. -/
theorem laterAnswer_refused {cell : ClaimCell} {request : ClaimRequest}
    {answer : ClaimAnswer} (other : ¬request.Repeats cell)
    (notFirst : answer.first = false) (raised : answer.raised = true) :
    LaterAnswer cell request answer where
  notFirst := notFirst
  foreign := fun _ => raised
  denied := fun repeats => absurd repeats other
  unfinished := fun repeats => absurd repeats other
  recorded := fun repeats => absurd repeats other

/-- A claim that repeats the row is answered by what the row has recorded. -/
theorem laterAnswer_repeated {cell : ClaimCell} {request : ClaimRequest}
    {answer : ClaimAnswer} (repeats : request.Repeats cell)
    (answered : request.consumesApproval = false)
    (notFirst : answer.first = false)
    (unfinished : cell.result? request.key = none → answer.raised = true)
    (recorded : ∀ result, cell.result? request.key = some result →
      answer.prior? = some result) :
    LaterAnswer cell request answer where
  notFirst := notFirst
  foreign := fun other => absurd repeats other
  denied := fun _ consumes => by
    rw [answered] at consumes
    cases consumes
  unfinished := fun _ _ => unfinished
  recorded := fun _ _ => recorded

theorem laterAnswer_inbox {cell : ClaimCell} {identity : InboxIdentity}
    {row : InboxRow} (found : cell.inbox = some row)
    (narrow : identity.source.length ≤ sourceLength) :
    LaterAnswer cell (.inbox identity)
      (ClaimRequest.answer cell (.inbox identity)) := by
  have answers :
      ClaimRequest.answer cell (.inbox identity) =
        .inbox (repeatedInbox identity row) := by
    simp [ClaimRequest.answer, claimInboxRow, narrow, takeRow, found]
  have repeats : ClaimRequest.Repeats cell (.inbox identity) ↔
      row.identity.canonicalDigest = identity.canonicalDigest := by
    simp [ClaimRequest.Repeats, found]
  have result : cell.result? (ClaimRequest.inbox identity).key =
      row.completion.map Prod.fst := by
    simp [ClaimCell.result?, ClaimRequest.key, found]
  rw [answers, repeatedInbox]
  by_cases digest : row.identity.canonicalDigest = identity.canonicalDigest
  · rw [ensure_of digest]
    apply laterAnswer_repeated (repeats.2 digest) rfl
    · cases row.completion <;> rfl
    · rw [result]
      cases row.completion with
      | none => exact fun _ => rfl
      | some completion => exact fun none => by cases none
    · rw [result]
      cases row.completion with
      | none => exact fun _ none => by cases none
      | some completion => exact fun _ same => same
  · rw [ensure_eq_error.2 ⟨digest, rfl⟩]
    exact laterAnswer_refused (mt repeats.1 digest) rfl rfl

theorem laterAnswer_receipt {cell : ClaimCell}
    {identity : CommandReceiptIdentity} {row : ReceiptRow}
    (found : cell.receipt = some row) :
    LaterAnswer cell (.receipt identity)
      (ClaimRequest.answer cell (.receipt identity)) := by
  have answers :
      ClaimRequest.answer cell (.receipt identity) =
        .receipt (repeatedReceipt identity row) := by
    simp [ClaimRequest.answer, claimReceiptRow, takeRow, found]
  have repeats : ClaimRequest.Repeats cell (.receipt identity) ↔
      row.identity.missionId = identity.missionId ∧
        row.identity.commandDigest = identity.commandDigest := by
    simp [ClaimRequest.Repeats, found]
  have result : cell.result? (ClaimRequest.receipt identity).key =
      row.completion.map ReceiptCompletion.result := by
    simp [ClaimCell.result?, ClaimRequest.key, found]
  rw [answers, repeatedReceipt]
  by_cases mission : row.identity.missionId = identity.missionId
  · by_cases digest : row.identity.commandDigest = identity.commandDigest
    · rw [ensure_of mission, ensure_of digest]
      apply laterAnswer_repeated (repeats.2 ⟨mission, digest⟩) rfl
      · cases row.completion <;> rfl
      · rw [result]
        cases row.completion with
        | none => exact fun _ => rfl
        | some completion => exact fun none => by cases none
      · rw [result]
        cases row.completion with
        | none => exact fun _ none => by cases none
        | some completion => exact fun _ same => same
    · rw [ensure_of mission, ensure_eq_error.2 ⟨digest, rfl⟩]
      exact laterAnswer_refused
        (fun held => digest (repeats.1 held).2) rfl rfl
  · rw [ensure_eq_error.2 ⟨mission, rfl⟩]
    exact laterAnswer_refused (fun held => mission (repeats.1 held).1) rfl rfl

theorem laterAnswer_idempotency {cell : ClaimCell} {request : StoredClaim}
    {row : ClaimRow} (found : cell.idempotency = some row) :
    LaterAnswer cell (.idempotency request)
      (ClaimRequest.answer cell (.idempotency request)) := by
  have answers :
      ClaimRequest.answer cell (.idempotency request) =
        .idempotency (repeatedIdempotency request row) := by
    simp [ClaimRequest.answer, claimIdempotencyRow, takeRow, found]
  have repeats : ClaimRequest.Repeats cell (.idempotency request) ↔
      row.claim.kind = request.kind ∧
        row.claim.bodyDigest = request.bodyDigest := by
    simp [ClaimRequest.Repeats, found]
  have result : cell.result? (ClaimRequest.idempotency request).key =
      row.result := by
    simp [ClaimCell.result?, ClaimRequest.key, found]
  rw [answers, repeatedIdempotency]
  by_cases kind : row.claim.kind = request.kind
  · by_cases body : row.claim.bodyDigest = request.bodyDigest
    · rw [ensure_of kind, ensure_of body, kind]
      by_cases consumes : request.kind = .approvalConsumption
      · have other : (ClaimRequest.idempotency request).consumesApproval =
            true := by
          simp [ClaimRequest.consumesApproval, consumes]
        rw [consumes]
        exact
          { notFirst := rfl
            foreign := fun foreign =>
              absurd (repeats.2 ⟨kind, body⟩) foreign
            denied := fun _ _ => rfl
            unfinished := fun _ answered => by
              rw [other] at answered
              cases answered
            recorded := fun _ answered => by
              rw [other] at answered
              cases answered }
      · have prior : idempotencyDecision request.kind true =
            .returnPriorResult := by
          simp [idempotencyDecision, consumes]
        rw [prior]
        apply laterAnswer_repeated (repeats.2 ⟨kind, body⟩)
        · simp [ClaimRequest.consumesApproval, consumes]
        · cases row.result <;> rfl
        · rw [result]
          cases row.result with
          | none => exact fun _ => rfl
          | some value => exact fun none => by cases none
        · rw [result]
          cases row.result with
          | none => exact fun _ none => by cases none
          | some value => exact fun _ same => same
    · rw [ensure_of kind, ensure_eq_error.2 ⟨body, rfl⟩]
      exact laterAnswer_refused (fun held => body (repeats.1 held).2) rfl rfl
  · rw [ensure_eq_error.2 ⟨kind, rfl⟩]
    exact laterAnswer_refused (fun held => kind (repeats.1 held).1) rfl rfl

/-- A cell that still holds the row of the key, as far as it was written. -/
structure ClaimCell.Kept (before after : ClaimCell) (key : ClaimKey) :
    Prop where
  digest : ∀ digest, before.digest? key = some digest →
    after.digest? key = some digest
  result : ∀ result, before.result? key = some result →
    after.result? key = some result
  repeats : ∀ request : ClaimRequest, request.key = key →
    (before.digest? key).isSome →
      (request.Repeats after ↔ request.Repeats before)

section Kept

variable {before after : ClaimCell}

theorem kept_inbox {row : InboxRow} {key : String × String × String}
    (found : before.inbox = some row)
    (continues :
      Continues InboxRow.identity InboxRow.completion row after.inbox) :
    before.Kept after (.inbox key) := by
  rcases continues with ⟨held, visible, same, kept⟩
  have visible : after.inbox = some held := visible
  refine ⟨?_, ?_, ?_⟩
  · intro digest
    simp [ClaimCell.digest?, found, visible, same]
  · intro result recorded
    have completed : row.completion ≠ none := by
      rintro open_
      simp [ClaimCell.result?, found, open_] at recorded
    rw [kept completed, ← found] at visible
    simpa [ClaimCell.result?, visible] using recorded
  · intro request cell _
    cases request with
    | inbox identity => simp [ClaimRequest.Repeats, found, visible, same]
    | idempotency request => cases cell
    | receipt identity => cases cell

theorem kept_idempotency {row : ClaimRow} {key : String}
    (found : before.idempotency = some row)
    (continues :
      Continues ClaimRow.claim ClaimRow.result row after.idempotency) :
    before.Kept after (.idempotency key) := by
  rcases continues with ⟨held, visible, same, kept⟩
  have visible : after.idempotency = some held := visible
  refine ⟨?_, ?_, ?_⟩
  · intro digest
    simp [ClaimCell.digest?, found, visible, same]
  · intro result recorded
    have completed : row.result ≠ none := by
      rintro open_
      simp [ClaimCell.result?, found, open_] at recorded
    rw [kept completed, ← found] at visible
    simpa [ClaimCell.result?, visible] using recorded
  · intro request cell _
    cases request with
    | inbox identity => cases cell
    | idempotency request =>
        simp [ClaimRequest.Repeats, found, visible, same]
    | receipt identity => cases cell

theorem kept_receipt {row : ReceiptRow} {key : String × String}
    (found : before.receipt = some row)
    (continues :
      Continues ReceiptRow.identity ReceiptRow.completion row
        after.receipt) :
    before.Kept after (.receipt key) := by
  rcases continues with ⟨held, visible, same, kept⟩
  have visible : after.receipt = some held := visible
  refine ⟨?_, ?_, ?_⟩
  · intro digest
    simp [ClaimCell.digest?, found, visible, same]
  · intro result recorded
    have completed : row.completion ≠ none := by
      rintro open_
      simp [ClaimCell.result?, found, open_] at recorded
    rw [kept completed, ← found] at visible
    simpa [ClaimCell.result?, visible] using recorded
  · intro request cell _
    cases request with
    | inbox identity => cases cell
    | idempotency request => cases cell
    | receipt identity => simp [ClaimRequest.Repeats, found, visible, same]

end Kept

section Runs

variable {σ : Type} [DecidableEq σ] {engine : ClaimEngine σ}

theorem serialClaims
    (steps : Steps claimStatements (ClaimEngine.start σ) engine) :
    Serial claimStatements (fun _ => ClaimCell.empty) engine :=
  (serial_start _).steps steps

/-- What carries a cell's invariant from the committed cell carries rows. -/
theorem kept_of_carried {key : ClaimKey} {before after : ClaimCell}
    (carried : ∀ invariant : ClaimCell → Prop,
      Keeps claimStatements key invariant → invariant before →
        invariant after)
    (claimed : (before.digest? key).isSome) : before.Kept after key := by
  cases key with
  | inbox inner =>
      cases found : before.inbox with
      | none => simp [ClaimCell.digest?, found] at claimed
      | some row =>
          exact kept_inbox found
            (carried _ (keeps_inbox _ row) (.refl found))
  | idempotency inner =>
      cases found : before.idempotency with
      | none => simp [ClaimCell.digest?, found] at claimed
      | some row =>
          exact kept_idempotency found
            (carried _ (keeps_idempotency _ row) (.refl found))
  | receipt inner =>
      cases found : before.receipt with
      | none => simp [ClaimCell.digest?, found] at claimed
      | some row =>
          exact kept_receipt found
            (carried _ (keeps_receipt _ row) (.refl found))

/-- What a session sees of a claimed row is that row, or its completion. -/
theorem kept_view
    (steps : Steps claimStatements (ClaimEngine.start σ) engine)
    {key : ClaimKey} (session : σ)
    (claimed : ((engine.committed key).digest? key).isSome) :
    (engine.committed key).Kept (engine.view session key) key :=
  kept_of_carried
    (fun _ keeps held => (serialClaims steps).view keeps held session) claimed

/-- A claimed row is still there, with its result, in every later engine. -/
theorem kept_later {later : ClaimEngine σ}
    (steps : Steps claimStatements (ClaimEngine.start σ) engine)
    (onward : Steps claimStatements engine later) {key : ClaimKey}
    (claimed : ((engine.committed key).digest? key).isSome) :
    (engine.committed key).Kept (later.committed key) key :=
  kept_of_carried
    (fun _ keeps held => (serialClaims steps).stays keeps held onward) claimed

theorem laterAnswer_of_digest
    (steps : Steps claimStatements (ClaimEngine.start σ) engine)
    (session : σ) {request : ClaimRequest}
    (claimed :
      ((engine.view session request.key).digest? request.key).isSome) :
    LaterAnswer (engine.view session request.key) request
      (request.answer (engine.view session request.key)) := by
  cases request with
  | inbox identity =>
      have owned : InboxOwned identity.key
          (engine.view session (.inbox identity.key)) := by
        have serial := serialClaims steps
        have keeps := keeps_inboxOwned identity.key
        refine serial.view keeps (serial.committed keeps ?_) session
        intro row member
        cases member
      change ((engine.view session (.inbox identity.key)).digest?
        (.inbox identity.key)).isSome at claimed
      cases found : (engine.view session (.inbox identity.key)).inbox with
      | none => simp [ClaimCell.digest?, found] at claimed
      | some row =>
          rcases owned row found with ⟨same, narrow⟩
          have source : row.identity.source = identity.source :=
            congrArg (fun key => key.2.1) same
          rw [source] at narrow
          exact laterAnswer_inbox found narrow
  | idempotency request =>
      change ((engine.view session (.idempotency
        request.idempotencyKey)).digest?
          (.idempotency request.idempotencyKey)).isSome at claimed
      cases found :
          (engine.view session
            (.idempotency request.idempotencyKey)).idempotency with
      | none => simp [ClaimCell.digest?, found] at claimed
      | some row => exact laterAnswer_idempotency found
  | receipt identity =>
      change ((engine.view session (.receipt identity.key)).digest?
        (.receipt identity.key)).isSome at claimed
      cases found : (engine.view session (.receipt identity.key)).receipt with
      | none => simp [ClaimCell.digest?, found] at claimed
      | some row => exact laterAnswer_receipt found

end Runs

theorem claimed_of_result {cell : ClaimCell} {key : ClaimKey}
    {result : Bytes} (recorded : cell.result? key = some result) :
    (cell.digest? key).isSome := by
  cases key with
  | inbox inner =>
      rcases Option.bind_eq_some_iff.1 recorded with ⟨row, found, _⟩
      simp [ClaimCell.digest?, found]
  | idempotency inner =>
      rcases Option.bind_eq_some_iff.1 recorded with ⟨row, found, _⟩
      simp [ClaimCell.digest?, found]
  | receipt inner =>
      rcases Option.bind_eq_some_iff.1 recorded with ⟨row, found, _⟩
      simp [ClaimCell.digest?, found]

theorem digest_of_repeats {cell : ClaimCell} {request : ClaimRequest}
    (repeats : request.Repeats cell) :
    cell.digest? request.key = some request.digest := by
  cases request with
  | inbox identity =>
      rcases repeats with ⟨row, found, digest⟩
      have found : cell.inbox = some row := found
      simp [ClaimCell.digest?, ClaimRequest.key, ClaimRequest.digest, found,
        digest]
  | idempotency request =>
      rcases repeats with ⟨row, found, _, digest⟩
      have found : cell.idempotency = some row := found
      simp [ClaimCell.digest?, ClaimRequest.key, ClaimRequest.digest, found,
        digest]
  | receipt identity =>
      rcases repeats with ⟨row, found, _, digest⟩
      have found : cell.receipt = some row := found
      simp [ClaimCell.digest?, ClaimRequest.key, ClaimRequest.digest, found,
        digest]

/-- One consumption of an approval, claimed by one delivery. -/
def consumption : StoredClaim where
  idempotencyKey := "approval-1"
  kind := .approvalConsumption
  bodyDigest := "digest-1"
  missionId := "mission-1"
  claimedAt := "2026-01-01T00:00:00.000Z"

/-- The cell of the consumption after its claim. -/
def consumptionClaimed : ClaimCell :=
  { ClaimCell.empty with idempotency := some ⟨consumption, none⟩ }

/-- The cell of the consumption after its result is recorded. -/
def consumptionRecorded : ClaimCell :=
  { ClaimCell.empty with idempotency := some ⟨consumption, some []⟩ }

/-- The engine in which the consumption is claimed, recorded and committed. -/
def consumedEngine : ClaimEngine Nat :=
  (((ClaimEngine.start Nat).wrote claimStatements 0
      (.claim (.idempotency consumption)) consumptionClaimed).wrote
    claimStatements 0 (.recordResult "approval-1" [])
      consumptionRecorded).commit 0

theorem consumedEngine_steps :
    Steps claimStatements (ClaimEngine.start Nat) consumedEngine := by
  have free : (ClaimEngine.start Nat).Free 0 (.idempotency "approval-1") :=
    fun _ _ => rfl
  have first := (Steps.refl (ClaimEngine.start Nat)).tail
    (@Step.write _ _ _ _ _ _ _ claimStatements _ 0
      (.claim (.idempotency consumption)) consumptionClaimed free rfl)
  have seen :
      ((ClaimEngine.start Nat).wrote claimStatements 0
        (.claim (.idempotency consumption)) consumptionClaimed).view 0
          (.idempotency "approval-1") = consumptionClaimed :=
    Engine.wrote_view_same
  have second := first.tail
    (@Step.write _ _ _ _ _ _ _ claimStatements _ 0
      (.recordResult "approval-1" []) consumptionRecorded
      (fun other different => by
        rw [Engine.wrote_held_other different]
        rfl)
      (by
        change claimStatements.writes (.recordResult "approval-1" [])
          (((ClaimEngine.start Nat).wrote claimStatements 0
            (.claim (.idempotency consumption)) consumptionClaimed).view 0
              (.idempotency "approval-1")) = _
        rw [seen]
        rfl))
  exact second.tail Step.commit

theorem consumedEngine_view :
    consumedEngine.view 0 (.idempotency "approval-1") =
        consumptionRecorded ∧
      consumedEngine.committed (.idempotency "approval-1") =
        consumptionRecorded := by
  have committed :
      consumedEngine.committed (.idempotency "approval-1") =
        consumptionRecorded :=
    @Engine.wrote_view_same _ _ _ _ _ _ _ claimStatements
      ((ClaimEngine.start Nat).wrote claimStatements 0
        (.claim (.idempotency consumption)) consumptionClaimed)
      0 (.recordResult "approval-1" []) consumptionRecorded
  refine ⟨?_, committed⟩
  rw [Engine.view_unheld, committed]
  simp [consumedEngine, Engine.commit]

/-- A repeated consumption is denied and observes no recorded result. -/
theorem repeatedConsumption_denied :
    ¬∀ engine : ClaimEngine Nat,
      Steps claimStatements (ClaimEngine.start Nat) engine →
        ∀ (session : Nat) (request : ClaimRequest) (result : Bytes),
          (engine.committed request.key).digest? request.key =
              some request.digest →
            (engine.committed request.key).result? request.key =
                some result →
              (request.answer
                (engine.view session request.key)).prior? =
                some result := by
  intro always
  have answered := always consumedEngine consumedEngine_steps 0
    (.idempotency consumption) []
  change (consumedEngine.committed (.idempotency "approval-1")).digest? _ =
      _ →
    (consumedEngine.committed (.idempotency "approval-1")).result? _ = _ →
      (ClaimRequest.answer
        (consumedEngine.view 0 (.idempotency "approval-1")) _).prior? =
        _ at answered
  rw [consumedEngine_view.1, consumedEngine_view.2] at answered
  have missing := answered rfl rfl
  cases missing

/--
In every interleaving of deliveries that claim, complete, commit and roll
back: at most one committed delivery of an identity was the first claim; a
recorded result never changes; and a claim that meets a committed row is never
new work, is refused when it presents another digest, or another kind or
mission where the table compares it, and otherwise observes exactly the
recorded result, or a denial when it consumes an approval, or a refusal while
no result is recorded.
-/
theorem claims_oneEffect (σ : Type) [DecidableEq σ] :
    (∀ engine : ClaimEngine σ,
      Steps claimStatements (ClaimEngine.start σ) engine →
        ∀ key,
          (entriesAt claimStatements key engine.history).countP
            (fun entry => entry.2.first) ≤ 1) ∧
    (∀ engine later : ClaimEngine σ,
      Steps claimStatements (ClaimEngine.start σ) engine →
        Steps claimStatements engine later →
          ∀ key result,
            (engine.committed key).result? key = some result →
              (later.committed key).result? key = some result) ∧
    ∀ engine : ClaimEngine σ,
      Steps claimStatements (ClaimEngine.start σ) engine →
        ∀ (session : σ) (request : ClaimRequest) (digest : String),
          (engine.committed request.key).digest? request.key =
              some digest →
            ∀ answer,
              answer = request.answer (engine.view session request.key) →
                answer.first = false ∧
                (request.digest ≠ digest → answer.raised = true) ∧
                (¬request.Repeats (engine.committed request.key) →
                  answer.raised = true) ∧
                (request.Repeats (engine.committed request.key) →
                  request.consumesApproval = true →
                    answer.denied = true) ∧
                (request.Repeats (engine.committed request.key) →
                  request.consumesApproval = false →
                    ((engine.view session request.key).result? request.key =
                        none → answer.raised = true) ∧
                      ∀ result,
                        (engine.committed request.key).result? request.key =
                            some result →
                          answer.prior? = some result) := by
  refine ⟨?_, ?_, ?_⟩
  · intro engine steps key
    have past := (serialClaims steps).past key
    have counted :=
      replays_first (fun entry member => (mem_entriesAt.1 member).2) past
    exact counted.trans (by cases key <;> exact Nat.le_refl 1)
  · intro engine later steps onward key result recorded
    exact (kept_later steps onward (claimed_of_result recorded)).result
      result recorded
  · rintro engine steps session request digest claimed answer rfl
    have isSome : ((engine.committed request.key).digest?
        request.key).isSome := by
      rw [claimed]
      rfl
    have kept := kept_view steps session isSome
    have repeats := kept.repeats request rfl isSome
    have later := @laterAnswer_of_digest σ _ engine steps session request
      (by rw [kept.digest digest claimed]; rfl)
    refine ⟨later.notFirst, ?_, ?_, ?_, ?_⟩
    · intro different
      refine later.foreign fun held => different ?_
      have same := digest_of_repeats held
      rw [kept.digest digest claimed] at same
      exact (Option.some.inj same).symm
    · exact fun other => later.foreign (mt repeats.1 other)
    · exact fun held => later.denied (repeats.2 held)
    · intro held answered
      refine ⟨later.unfinished (repeats.2 held) answered, ?_⟩
      intro result recorded
      exact later.recorded (repeats.2 held) answered result
        (kept.result result recorded)

end AerialRescue.Store
