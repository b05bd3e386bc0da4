import AerialRescue.Store.Schema

/-!
# Proposal, evidence and approval authority

The reads of the immutable authority rows, the approval row that a transaction
locks, and the two guarded writes: an approved row becomes executed, and an
unbound decision is bound to one gateway epoch.  The row lock of the source
serialises the transactions on one approval; here every transaction is one step
on the database.
-/

namespace AerialRescue.Store

open AerialRescue.Contracts
open AerialRescue.Domain.Approvals
open AerialRescue.Lib
open AerialRescue.Lib.Transaction

/-! ## Reads -/

/-- `proposals.load` -/
def loadProposal (proposalId : String) : StoreTx StoredProposal := do
  let database ← read
  demand (database.proposals.find? proposalId) .proposalNotFound

/-- The branch that `_decision` requires of an evidence row. -/
def StoredEvidenceDecision.branchComplete
    (row : StoredEvidenceDecision) : Bool :=
  row.scoreVersion.isSome && row.score.isSome && row.band.isSome &&
    row.contributors.isSome

/-- `evidence.load_decision` -/
def loadDecision (decisionId : String) : StoreTx StoredEvidenceDecision := do
  let database ← read
  let row ← demand (database.decisions.find? decisionId)
    (.evidence .notFound)
  require (row.outcome = .contributing ↔ row.branchComplete = true)
    (.evidence .unreadableRow)
  pure row

/-- `approvals.load_for_update`, keyed on the proposal alone. -/
def loadForUpdate (proposalId : String) : StoreTx StoredApproval := do
  let database ← read
  demand (database.approvals.find? proposalId) (.approval .notFound)

/-- The binding with a proposal identity. -/
def Database.bindingFor? (database : Database) (proposalId : String) :
    Option StoredApprovalBinding :=
  database.bindings.rows.find? fun row => decide (row.proposalId = proposalId)

/-- `_stored`: an authority epoch is never the empty text. -/
def readableBinding (row : StoredApprovalBinding) :
    StoreTx StoredApprovalBinding := do
  require (row.authority.all fun authority => authority.runtimeEpoch ≠ "")
    (.binding .unreadableRow)
  pure row

/-- `approval_bindings.load_by_proposal` -/
def loadBindingByProposal (proposalId : String) :
    StoreTx StoredApprovalBinding := do
  let database ← read
  let row ← demand (database.bindingFor? proposalId) (.binding .notFound)
  readableBinding row

/-- `approval_bindings.load_by_approval` -/
def loadBindingByApproval (approvalId : String) :
    StoreTx StoredApprovalBinding := do
  let database ← read
  let row ← demand (database.bindings.find? approvalId) (.binding .notFound)
  readableBinding row

/-- Approval state paired with its immutable operator binding. -/
structure StoredAuthorizationApproval where
  approval : StoredApproval
  binding : StoredApprovalBinding
deriving DecidableEq

/-- `CommandAuthorizationTransaction.load_approval` -/
def loadApproval (proposalId : String) :
    StoreTx StoredAuthorizationApproval := do
  let approval ← loadForUpdate proposalId
  let binding ← loadBindingByProposal proposalId
  pure ⟨approval, binding⟩

/-- `ApprovalIngressTransaction.load_binding` -/
def loadBinding (approvalId : String) :
    StoreTx StoredAuthorizationApproval := do
  let binding ← loadBindingByApproval approvalId
  let approval ← loadForUpdate binding.proposalId
  pure ⟨approval, binding⟩

theorem loadProposal_ok {proposalId : String} {before after : Database}
    {row : StoredProposal} :
    exec (loadProposal proposalId) before = (.ok row, after) ↔
      before.proposals.find? proposalId = some row ∧ after = before := by
  simp only [loadProposal, exec_bind_eq_ok, exec_read, exec_demand_eq_ok,
    Prod.mk.injEq, Except.ok.injEq]
  constructor
  · rintro ⟨_, _, ⟨rfl, rfl⟩, found, rfl⟩
    exact ⟨found, rfl⟩
  · rintro ⟨found, rfl⟩
    exact ⟨_, _, ⟨rfl, rfl⟩, found, rfl⟩

theorem loadDecision_ok {decisionId : String} {before after : Database}
    {row : StoredEvidenceDecision} :
    exec (loadDecision decisionId) before = (.ok row, after) ↔
      before.decisions.find? decisionId = some row ∧
        (row.outcome = .contributing ↔ row.branchComplete = true) ∧
        after = before := by
  simp only [loadDecision, exec_bind_eq_ok, exec_read, exec_demand_eq_ok,
    exec_require_eq_ok, exec_pure, Prod.mk.injEq, Except.ok.injEq]
  constructor
  · rintro ⟨_, _, ⟨rfl, rfl⟩, _, _, ⟨found, rfl⟩, _, _, ⟨branch, rfl⟩, rfl,
      rfl⟩
    exact ⟨found, branch, rfl⟩
  · rintro ⟨found, branch, rfl⟩
    exact ⟨_, _, ⟨rfl, rfl⟩, _, _, ⟨found, rfl⟩, (), _, ⟨branch, rfl⟩, rfl,
      rfl⟩

theorem loadApproval_ok {proposalId : String} {before after : Database}
    {authority : StoredAuthorizationApproval} :
    exec (loadApproval proposalId) before = (.ok authority, after) ↔
      before.approvals.find? proposalId = some authority.approval ∧
        before.bindingFor? proposalId = some authority.binding ∧
        (authority.binding.authority.all
          fun held => decide (held.runtimeEpoch ≠ "")) = true ∧
        after = before := by
  rcases authority with ⟨approval, binding⟩
  simp only [loadApproval, loadForUpdate, loadBindingByProposal,
    readableBinding, exec_bind_eq_ok, exec_read, exec_demand_eq_ok,
    exec_require_eq_ok, exec_pure, Prod.mk.injEq, Except.ok.injEq,
    StoredAuthorizationApproval.mk.injEq]
  constructor
  · rintro ⟨_, _, ⟨_, _, ⟨rfl, rfl⟩, found, rfl⟩, _, _,
      ⟨_, _, ⟨rfl, rfl⟩, _, _, ⟨bound, rfl⟩, _, _, ⟨readable, rfl⟩, rfl,
        rfl⟩, ⟨rfl, rfl⟩, rfl⟩
    exact ⟨found, bound, readable, rfl⟩
  · rintro ⟨found, bound, readable, rfl⟩
    exact ⟨_, _, ⟨_, _, ⟨rfl, rfl⟩, found, rfl⟩, _, _,
      ⟨_, _, ⟨rfl, rfl⟩, _, _, ⟨bound, rfl⟩, (), _, ⟨readable, rfl⟩, rfl,
        rfl⟩, ⟨rfl, rfl⟩, rfl⟩

theorem bindingFor?_mem {database : Database} {proposalId : String}
    {row : StoredApprovalBinding}
    (found : database.bindingFor? proposalId = some row) :
    row ∈ database.bindings.rows ∧ row.proposalId = proposalId := by
  constructor
  · exact List.mem_of_find?_eq_some found
  · simpa using List.find?_some found

theorem loadBinding_ok {approvalId : String} {before after : Database}
    {authority : StoredAuthorizationApproval} :
    exec (loadBinding approvalId) before = (.ok authority, after) ↔
      before.bindings.find? approvalId = some authority.binding ∧
        (authority.binding.authority.all
          fun held => decide (held.runtimeEpoch ≠ "")) = true ∧
        before.approvals.find? authority.binding.proposalId =
          some authority.approval ∧
        after = before := by
  rcases authority with ⟨approval, binding⟩
  simp only [loadBinding, loadForUpdate, loadBindingByApproval,
    readableBinding, exec_bind_eq_ok, exec_read, exec_demand_eq_ok,
    exec_require_eq_ok, exec_pure, Prod.mk.injEq, Except.ok.injEq,
    StoredAuthorizationApproval.mk.injEq]
  constructor
  · rintro ⟨_, _, ⟨_, _, ⟨rfl, rfl⟩, _, _, ⟨bound, rfl⟩, _, _,
      ⟨readable, rfl⟩, rfl, rfl⟩, _, _, ⟨_, _, ⟨rfl, rfl⟩, found, rfl⟩,
      ⟨rfl, rfl⟩, rfl⟩
    exact ⟨bound, readable, found, rfl⟩
  · rintro ⟨bound, readable, found, rfl⟩
    exact ⟨_, _, ⟨_, _, ⟨rfl, rfl⟩, _, _, ⟨bound, rfl⟩, (), _,
      ⟨readable, rfl⟩, rfl, rfl⟩, _, _, ⟨_, _, ⟨rfl, rfl⟩, found, rfl⟩,
      ⟨rfl, rfl⟩, rfl⟩

/-! ## Guarded writes -/

/-- Mark one approval row executed. -/
def executeApproval (database : Database) (proposalId : String) : Database :=
  { database with
    approvals := database.approvals.amend proposalId
      (fun row => { row with state := .executed })
      (fun _ => rfl) }

/-- Executing an approval leaves the row of every other proposal. -/
theorem executeApproval_find? (database : Database)
    (proposalId other : String) :
    (executeApproval database proposalId).approvals.find? other =
      if other = proposalId then
        (database.approvals.find? other).map
          fun row => { row with state := .executed }
      else database.approvals.find? other := by
  simp only [executeApproval]
  exact Table.find?_amend _ _ _ _ other

/-- `approvals.persist_consumed`: only a row that is still approved. -/
def persistConsumed (consumed : StoredApproval) : StoreTx Unit := do
  require (consumed.state = .executed) (.approval .notExecuted)
  let database ← read
  match database.approvals.find? consumed.proposalId with
  | some row =>
      require (row.state = .approved) (.approval .notConsumable)
      write (executeApproval database consumed.proposalId)
  | none => raise (.approval .notConsumable)

theorem persistConsumed_ok {consumed : StoredApproval}
    {before after : Database} {value : Unit} :
    exec (persistConsumed consumed) before = (.ok value, after) ↔
      consumed.state = .executed ∧
        after = executeApproval before consumed.proposalId ∧
        ∃ row,
          before.approvals.find? consumed.proposalId = some row ∧
            row.state = .approved := by
  simp only [persistConsumed, exec_bind_eq_ok, exec_require_eq_ok, exec_read,
    Prod.mk.injEq, Except.ok.injEq]
  constructor
  · rintro ⟨_, _, ⟨executed, rfl⟩, _, _, ⟨rfl, rfl⟩, rest⟩
    split at rest
    · rename_i row found
      simp only [exec_bind_eq_ok, exec_require_eq_ok, exec_write,
        Prod.mk.injEq] at rest
      rcases rest with ⟨_, _, ⟨approved, rfl⟩, _, rfl⟩
      exact ⟨executed, rfl, row, found, approved⟩
    · simp at rest
  · rintro ⟨executed, rfl, row, found, approved⟩
    refine ⟨(), _, ⟨executed, rfl⟩, _, _, ⟨rfl, rfl⟩, ?_⟩
    simp [found, exec_bind_eq_ok, approved]

/-- Whether a gateway bound authority, reused its epoch, or met an old one. -/
inductive ApprovalAuthorityDecision where
  | bound
  | duplicate
  | epochConflict
deriving DecidableEq

/-- A binding without the authority that a gateway adds to it. -/
def unbound (row : StoredApprovalBinding) : StoredApprovalBinding :=
  { row with authority := none }

/-- `approval_bindings.bind_authority` -/
def bindAuthority (approvalId : String)
    (authority : StoredApprovalAuthority) :
    StoreTx ApprovalAuthorityDecision := do
  require (authority.runtimeEpoch ≠ "") (.binding .invalidAuthority)
  let database ← read
  let row ← demand (database.bindings.find? approvalId) (.binding .notFound)
  match row.authority with
  | none =>
      write
        { database with
          bindings := database.bindings.amend approvalId
            (fun row => { row with authority := some authority })
            (fun _ => rfl) }
      pure .bound
  | some held =>
      let _ ← readableBinding row
      if held.runtimeEpoch = authority.runtimeEpoch then pure .duplicate
      else pure .epochConflict

/-- Binding authority changes authorities of bindings and nothing else. -/
theorem bindAuthority_ok {approvalId : String}
    {authority : StoredApprovalAuthority} {before after : Database}
    {decision : ApprovalAuthorityDecision}
    (bound :
      exec (bindAuthority approvalId authority) before =
        (.ok decision, after)) :
    after = { before with bindings := after.bindings } ∧
      after.bindings.rows.map unbound =
        before.bindings.rows.map unbound := by
  simp only [bindAuthority, exec_bind_eq_ok, exec_require_eq_ok, exec_read,
    exec_demand_eq_ok, Prod.mk.injEq, Except.ok.injEq] at bound
  rcases bound with
    ⟨_, _, ⟨_, rfl⟩, _, _, ⟨rfl, rfl⟩, row, _, ⟨_, rfl⟩, rest⟩
  split at rest
  · simp only [exec_bind_eq_ok, exec_write, exec_pure, Prod.mk.injEq,
      Except.ok.injEq] at rest
    rcases rest with ⟨_, _, ⟨_, rfl⟩, _, rfl⟩
    refine ⟨rfl, ?_⟩
    simp only
    exact Table.amend_map _ _ _ _ fun _ => rfl
  · simp only [readableBinding, exec_bind_eq_ok, exec_require_eq_ok,
      exec_pure, exec_ite, Prod.mk.injEq, Except.ok.injEq] at rest
    rcases rest with ⟨_, _, ⟨_, _, ⟨_, rfl⟩, _, rfl⟩, settled⟩
    split at settled <;>
      · simp only [Prod.mk.injEq] at settled
        rw [← settled.2]
        exact ⟨rfl, rfl⟩

/-- What binding an authority answers for the one that a row holds. -/
def authorityDecision (held : Option StoredApprovalAuthority)
    (authority : StoredApprovalAuthority) : ApprovalAuthorityDecision :=
  match held with
  | none => .bound
  | some bound =>
      if bound.runtimeEpoch = authority.runtimeEpoch then .duplicate
      else .epochConflict

/-- A readable row answers every attempt to bind a named epoch. -/
theorem bindAuthority_of {approvalId : String}
    {authority : StoredApprovalAuthority} {before : Database}
    {row : StoredApprovalBinding}
    (named : authority.runtimeEpoch ≠ "")
    (found : before.bindings.find? approvalId = some row)
    (readable :
      (row.authority.all
        fun held => decide (held.runtimeEpoch ≠ "")) = true) :
    ∃ after,
      exec (bindAuthority approvalId authority) before =
        (.ok (authorityDecision row.authority authority), after) := by
  unfold bindAuthority
  rw [exec_bind_of_ok (exec_require_of named _ _),
    exec_bind_of_ok (exec_read _),
    exec_bind_of_ok (exec_demand_eq_ok.2 ⟨found, rfl⟩)]
  cases held : row.authority with
  | none =>
      simp only [authorityDecision]
      rw [exec_bind_of_ok (exec_write _ _)]
      exact ⟨_, rfl⟩
  | some bound =>
      have stored : exec (readableBinding row) before = (.ok row, before) := by
        unfold readableBinding
        rw [exec_bind_of_ok (exec_require_of readable _ _), exec_pure]
      simp only [authorityDecision]
      rw [exec_bind_of_ok stored, exec_ite]
      split <;> exact ⟨before, rfl⟩

end AerialRescue.Store
