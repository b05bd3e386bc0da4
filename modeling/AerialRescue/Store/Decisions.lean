import AerialRescue.Store.Authority

/-!
# Recorded operator decisions

The dashboard writes an operator's decision and its immutable binding in one
transaction.  A decision is recorded unbound: only a gateway adds an authority.
-/

namespace AerialRescue.Store

open AerialRescue.Domain.Approvals
open AerialRescue.Lib
open AerialRescue.Lib.Guard

/-- Why a decision is not recorded, and its transaction rolled back. -/
inductive DecisionRefusal where
  | notADecision
  | proposalTaken
  | preboundAuthority
  | multipleRows
  | unreadableRow
  | identityConflict
deriving DecidableEq

/-- `approvals.record`, whose insert meets the primary key. -/
def recordApproval (approval : StoredApproval) (database : Database) :
    Except DecisionRefusal Database := do
  ensure (approval.state = .approved ∨ approval.state = .rejected)
    .notADecision
  let approvals ← present (database.approvals.insert? approval)
    .proposalTaken
  pure { database with approvals }

/-- `_same_decision`: everything but the authority. -/
def sameDecision (left right : StoredApprovalBinding) : Bool :=
  unbound left = unbound right

/-- `conflict_statement` -/
def conflictingBindings (database : Database)
    (binding : StoredApprovalBinding) : List StoredApprovalBinding :=
  database.bindings.rows.filter fun row =>
    row.approvalId = binding.approvalId ∨
      row.proposalId = binding.proposalId

/-- `approval_bindings.record` -/
def recordBinding (binding : StoredApprovalBinding) (database : Database) :
    Except DecisionRefusal Database := do
  ensure (binding.authority = none) .preboundAuthority
  match conflictingBindings database binding with
  | [] => do
      let bindings ← present (database.bindings.insert? binding)
        .identityConflict
      pure { database with bindings }
  | [row] => do
      ensure
        ((row.authority.all fun held => held.runtimeEpoch ≠ "") = true)
        .unreadableRow
      ensure (sameDecision row binding = true) .identityConflict
      pure database
  | _ => .error .multipleRows

/-- `record_decision`, which is all or nothing. -/
def recordDecision (approval : StoredApproval)
    (binding : StoredApprovalBinding) (database : Database) :
    Except DecisionRefusal Database := do
  let recorded ← recordApproval approval database
  recordBinding binding recorded

theorem recordApproval_ok {approval : StoredApproval}
    {before after : Database}
    (recorded : recordApproval approval before = .ok after) :
    after = { before with approvals := after.approvals } ∧
      before.approvals.rows <+: after.approvals.rows := by
  simp only [recordApproval, bind_eq_ok, ensure_eq_ok, exists_const,
    present_eq_ok, pure_eq_ok] at recorded
  rcases recorded with ⟨_, approvals, inserted, rfl⟩
  exact ⟨rfl, [approval], (Table.insert?_rows inserted).symm⟩

theorem recordBinding_ok {binding : StoredApprovalBinding}
    {before after : Database}
    (recorded : recordBinding binding before = .ok after) :
    after = { before with bindings := after.bindings } ∧
      before.bindings.rows <+: after.bindings.rows := by
  simp only [recordBinding, bind_eq_ok, ensure_eq_ok, exists_const]
    at recorded
  rcases recorded with ⟨_, recorded⟩
  split at recorded
  · simp only [bind_eq_ok, present_eq_ok, pure_eq_ok] at recorded
    rcases recorded with ⟨bindings, inserted, rfl⟩
    exact ⟨rfl, [binding], (Table.insert?_rows inserted).symm⟩
  · simp only [bind_eq_ok, ensure_eq_ok, exists_const, pure_eq_ok]
      at recorded
    rcases recorded with ⟨_, _, rfl⟩
    exact ⟨rfl, List.prefix_rfl⟩
  · cases recorded

/-- A recorded decision adds rows and changes none. -/
theorem recordDecision_ok {approval : StoredApproval}
    {binding : StoredApprovalBinding} {before after : Database}
    (recorded : recordDecision approval binding before = .ok after) :
    before.approvals.rows <+: after.approvals.rows ∧
      before.bindings.rows <+: after.bindings.rows := by
  simp only [recordDecision, bind_eq_ok] at recorded
  rcases recorded with ⟨middle, first, second⟩
  rcases recordApproval_ok first with ⟨firstFrame, approvals⟩
  rcases recordBinding_ok second with ⟨secondFrame, bindings⟩
  rw [firstFrame] at bindings
  rw [secondFrame]
  exact ⟨approvals, bindings⟩

end AerialRescue.Store
