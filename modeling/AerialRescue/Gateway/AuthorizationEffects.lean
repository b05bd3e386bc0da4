import AerialRescue.Gateway.Authorization

/-!
# What a committed authorization wrote

The inversion of `handle_operator_command` over the store-backed port.  A
committed call either met a completed delivery and wrote nothing, or completed
a fresh delivery with the result of an earlier command, or wrote the whole
effect set of one new decision.  The later results read this and never unfold
the handler again.
-/

namespace AerialRescue.Gateway

open AerialRescue.Contracts
open AerialRescue.Contracts.Canonical
open AerialRescue.Contracts.Envelopes
open AerialRescue.Domain.Approvals
open AerialRescue.Gateway.Ingress
open AerialRescue.Lib
open AerialRescue.Lib.Guard
open AerialRescue.Lib.Transaction
open AerialRescue.Store

variable {host : Host}

/-! ## Decisions -/

/--
What stands behind an authorized escalation: the rows that were read, their
decoded payloads and the approval that was consumed in memory.
-/
structure Escalation where
  stored : StoredProposal
  authority : StoredAuthorizationApproval
  bound : BoundApproval
  payload : Value.Members
  evidence : StoredEvidenceDecision
  evidencePayload : Value.Members
  consumed : Approval

/-- The candidate that an escalation consumes its approval for. -/
def Escalation.candidate (escalation : Escalation) : Proposal where
  missionId := escalation.stored.missionId
  proposalId := escalation.stored.proposalId
  parameters := escalation.payload

/-- Every check that an authorized escalation has passed. -/
structure Escalation.Checked (host : Host) (escalation : Escalation)
    (database : Database) (ingress : OperatorCommandIngress)
    (action : EscalateRescueAction) (now : AuthorizationClock) : Prop where
  proposal :
    database.proposals.find? action.proposalId = some escalation.stored
  approval :
    database.approvals.find? action.proposalId =
      some escalation.authority.approval
  binding :
    database.bindingFor? action.proposalId =
      some escalation.authority.binding
  mapped :
    mapAuthorizationApproval host escalation.authority =
      .ok escalation.bound
  decoded :
    canonicalObject host escalation.stored.payload =
      some escalation.payload
  consumes :
    consume host escalation.bound.approval escalation.candidate
      now.reading = .ok escalation.consumed
  epoch : escalation.bound.runtimeEpoch = some now.runtimeEpoch
  mission : ingress.payload.missionId.1 = escalation.stored.missionId
  proposalExact :
    proposalMatches host escalation.stored action escalation.payload =
      .ok true
  evidence :
    database.decisions.find? action.evidenceDecisionId =
      some escalation.evidence
  evidenceDecoded :
    canonicalObject host escalation.evidence.payload =
      some escalation.evidencePayload
  evidenceExact :
    decisionMatches host escalation.evidence action
      escalation.evidencePayload = .ok true
  bindingExact : approvalBindingRefusal escalation.bound action = none

/-- The decision of a checked escalation. -/
def Escalation.decision (escalation : Escalation) : Decision :=
  .authorized
    (some { escalation.bound with approval := escalation.consumed })

/-- A consumption that returns passed the epoch check and the domain. -/
theorem consumeBoundApproval_ok {bound consumed : BoundApproval}
    {stored : StoredProposal} {payload : Option Value.Members}
    {now : AuthorizationClock}
    (consumes :
      consumeBoundApproval host bound stored payload now =
        .ok (.ok consumed)) :
    bound.runtimeEpoch = some now.runtimeEpoch ∧
      ∃ approval,
        consumed = { bound with approval } ∧
          consume host bound.approval
            { missionId := stored.missionId
              proposalId := stored.proposalId
              parameters := payload.getD [] } now.reading =
            .ok approval := by
  unfold consumeBoundApproval at consumes
  simp only at consumes
  split at consumes
  · simp at consumes
  · rename_i current
    split at consumes
    · rename_i approval domain
      simp only [Except.ok.injEq] at consumes
      have approved := (consume_ok domain).1
      refine ⟨?_, approval, consumes.symm, domain⟩
      by_contra stale
      exact current ⟨approved, stale⟩
    · simp at consumes
    · simp at consumes

/-- Reading the evidence changes nothing and finds no refusal only on a match. -/
theorem evidenceRefusal_ok {action : EscalateRescueAction}
    {before after : Database} {reason : Option AuthorizationReason}
    (checked :
      exec (evidenceRefusal host (storeAuthorizationTransaction host) action)
        before = (.ok reason, after)) :
    after = before ∧
      (reason = none →
        ∃ evidence payload,
          before.decisions.find? action.evidenceDecisionId =
              some evidence ∧
            canonicalObject host evidence.payload = some payload ∧
            decisionMatches host evidence action payload = .ok true) := by
  simp only [evidenceRefusal, storeAuthorizationTransaction,
    exec_bind_eq_ok, exec_rethrow_eq_ok, loadDecision_ok] at checked
  rcases checked with ⟨evidence, _, ⟨found, _, rfl⟩, rest⟩
  split at rest
  · simp only [exec_pure, Prod.mk.injEq, Except.ok.injEq] at rest
    rcases rest with ⟨rfl, rfl⟩
    exact ⟨rfl, by simp⟩
  · rename_i payload decoded
    simp only [exec_bind_eq_ok, exec_lift_eq_ok, exec_pure, Prod.mk.injEq,
      Except.ok.injEq] at rest
    rcases rest with ⟨matched, _, ⟨compared, rfl⟩, rfl, rfl⟩
    refine ⟨rfl, ?_⟩
    intro none
    cases matched with
    | true => exact ⟨evidence, payload, found, decoded, compared⟩
    | false => simp at none

/-- The checks after consumption change nothing and authorize on a match. -/
theorem confirmEscalation_ok {ingress : OperatorCommandIngress}
    {action : EscalateRescueAction} {stored : StoredProposal}
    {payload : Option Value.Members} {bound consumed : BoundApproval}
    {before after : Database} {decision : Decision}
    (confirmed :
      exec (confirmEscalation host (storeAuthorizationTransaction host)
        ingress action stored payload bound consumed) before =
        (.ok decision, after)) :
    after = before ∧
      (decision.approval = none ∧ decision.isAuthorized = false ∨
        decision = .authorized (some consumed) ∧
          approvalBindingRefusal bound action = none ∧
          ∃ members evidence evidencePayload,
            payload = some members ∧
              ingress.payload.missionId.1 = stored.missionId ∧
              proposalMatches host stored action members = .ok true ∧
              before.decisions.find? action.evidenceDecisionId =
                some evidence ∧
              canonicalObject host evidence.payload =
                some evidencePayload ∧
              decisionMatches host evidence action evidencePayload =
                .ok true) := by
  simp only [confirmEscalation, exec_bind_eq_ok, exec_lift_eq_ok,
    exec_ite] at confirmed
  rcases confirmed with ⟨exact, _, ⟨matched, rfl⟩, rest⟩
  split at rest
  · simp only [exec_pure, Prod.mk.injEq, Except.ok.injEq] at rest
    rcases rest with ⟨rfl, rfl⟩
    exact ⟨rfl, Or.inl ⟨rfl, rfl⟩⟩
  · rename_i holds
    simp only [Bool.not_eq_false] at holds
    subst holds
    simp only [exec_bind_eq_ok] at rest
    rcases rest with ⟨reason, _, checked, settled⟩
    rcases evidenceRefusal_ok checked with ⟨rfl, supported⟩
    cases reason with
    | some reason =>
        simp only [exec_pure, Prod.mk.injEq, Except.ok.injEq] at settled
        rcases settled with ⟨rfl, rfl⟩
        exact ⟨rfl, Or.inl ⟨rfl, rfl⟩⟩
    | none =>
        rcases supported rfl with ⟨evidence, evidencePayload, found,
          decoded, compared⟩
        simp only at settled
        split at settled
        · simp only [exec_pure, Prod.mk.injEq, Except.ok.injEq] at settled
          rcases settled with ⟨rfl, rfl⟩
          exact ⟨rfl, Or.inl ⟨rfl, rfl⟩⟩
        · rename_i agreed
          simp only [exec_pure, Prod.mk.injEq, Except.ok.injEq] at settled
          rcases settled with ⟨rfl, rfl⟩
          cases payload with
          | none => simp at matched
          | some members =>
              simp only [both_eq_true, Except.ok.injEq,
                decide_eq_true_eq] at matched
              exact ⟨rfl, Or.inr ⟨rfl, agreed, members, evidence,
                evidencePayload, rfl, matched.1, matched.2, found, decoded,
                compared⟩⟩

/-- An escalation is decided without a write, and authorized when checked. -/
theorem authorizeEscalation_ok {ingress : OperatorCommandIngress}
    {action : EscalateRescueAction} {now : AuthorizationClock}
    {before after : Database} {decision : Decision}
    (decided :
      exec (authorizeEscalation host (storeAuthorizationTransaction host)
        ingress action now) before = (.ok decision, after)) :
    after = before ∧
      (decision.approval = none ∧ decision.isAuthorized = false ∨
        ∃ escalation : Escalation,
          decision = escalation.decision ∧
            escalation.Checked host before ingress action now) := by
  simp only [authorizeEscalation, storeAuthorizationTransaction,
    exec_bind_eq_ok, exec_rethrow_eq_ok, loadProposal_ok,
    loadApproval_ok, exec_lift_eq_ok] at decided
  rcases decided with ⟨stored, _, ⟨proposal, rfl⟩, bound, _,
    ⟨authority, _, ⟨approval, binding, _, rfl⟩, mapped, rfl⟩, outcome, _,
    ⟨consumes, rfl⟩, rest⟩
  cases outcome with
  | error reason =>
      simp only [exec_pure, Prod.mk.injEq, Except.ok.injEq] at rest
      rcases rest with ⟨rfl, rfl⟩
      exact ⟨rfl, Or.inl ⟨rfl, rfl⟩⟩
  | ok consumed =>
      rcases confirmEscalation_ok rest with ⟨rfl, settled⟩
      refine ⟨rfl, ?_⟩
      rcases settled with refused | ⟨rfl, agreed, members, evidence,
        evidencePayload, decoded, mission, exact, found, evidenceDecoded,
        compared⟩
      · exact Or.inl refused
      · rcases consumeBoundApproval_ok consumes with
          ⟨epoch, executed, rfl, domain⟩
        rw [decoded] at domain
        exact Or.inr
          ⟨⟨stored, authority, bound, members, evidence, evidencePayload,
              executed⟩,
            rfl, proposal, approval, binding, mapped, decoded, domain, epoch,
            mission, exact, found, evidenceDecoded, compared, agreed⟩

/-- What stands behind a decision on a new command. -/
inductive Decided (host : Host) (database : Database)
    (ingress : OperatorCommandIngress) (now : AuthorizationClock) :
    Decision → Prop where
  | refusal (reason : AuthorizationReason) :
      Decided host database ingress now (.refused reason)
  | assignment (action : AssignSectorAction)
      (asked : ingress.payload.action = .assignSector action) :
      Decided host database ingress now (.authorized none)
  | escalation (action : EscalateRescueAction)
      (asked : ingress.payload.action = .escalateRescue action)
      (escalation : Escalation)
      (checked : escalation.Checked host database ingress action now) :
      Decided host database ingress now escalation.decision

theorem decideCommand_ok {ingress : OperatorCommandIngress}
    {now : AuthorizationClock} {before after : Database}
    {decision : Decision}
    (decided :
      exec (decideCommand host (storeAuthorizationTransaction host) ingress
        now) before = (.ok decision, after)) :
    after = before ∧ Decided host before ingress now decision := by
  unfold decideCommand at decided
  split at decided
  · rename_i action asked
    simp only [exec_pure, Prod.mk.injEq, Except.ok.injEq] at decided
    rcases decided with ⟨rfl, rfl⟩
    exact ⟨rfl, .assignment action asked⟩
  · rename_i action asked
    rcases authorizeEscalation_ok decided with ⟨rfl, settled⟩
    refine ⟨rfl, ?_⟩
    rcases settled with ⟨_, unauthorized⟩ | ⟨escalation, rfl, checked⟩
    · cases decision with
      | authorized approval => simp [Decision.isAuthorized] at unauthorized
      | refused reason => exact .refusal reason
    · exact .escalation action asked escalation checked

/-! ## Writes -/

/-- The approvals after a decision has persisted what it consumed. -/
def approvalsAfter (before : Database) (decision : Decision) :
    Table StoredApproval.proposalId :=
  decision.approval.elim before.approvals fun bound =>
    (executeApproval before bound.durableApproval.proposalId).approvals

/-- The rows that a decision adds to the command outbox. -/
def stagedCommands (artifacts : AuthorizationArtifacts) :
    List CommandOutboxRow :=
  artifacts.command.elim [] fun staged => [⟨staged.1, .staged⟩]

/-- The rows that a decision adds to the progress table. -/
def startedProgress (artifacts : AuthorizationArtifacts)
    (occurredAt : String) : List StoredCommandProgress :=
  artifacts.command.elim [] fun staged =>
    [initialRow staged.2 occurredAt]

/-- A decision persists its approval on a row that is still approved. -/
theorem persistApproval_ok {decision : Decision}
    {before after : Database} {value : Unit}
    (persisted :
      exec (persistApproval (storeAuthorizationTransaction host) decision)
        before = (.ok value, after)) :
    after = { before with approvals := approvalsAfter before decision } ∧
      ∀ bound, decision.approval = some bound →
        ∃ row,
          before.approvals.find? bound.durableApproval.proposalId =
              some row ∧
            row.state = .approved := by
  unfold persistApproval at persisted
  cases held : decision.approval with
  | none =>
      simp only [held, exec_pure, Prod.mk.injEq] at persisted
      rcases persisted with ⟨_, rfl⟩
      exact ⟨by simp [approvalsAfter, held], by simp⟩
  | some bound =>
      simp only [held, storeAuthorizationTransaction, exec_bind_eq_ok,
        exec_lift_eq_ok, exec_rethrow_eq_ok, persistConsumed_ok]
        at persisted
      rcases persisted with ⟨stored, _, ⟨maps, rfl⟩, _, rfl, row, found,
        approved⟩
      rcases storedApproval_ok maps with ⟨rfl, _, _⟩
      refine ⟨by simp [approvalsAfter, held, executeApproval], ?_⟩
      rintro _ ⟨rfl⟩
      exact ⟨row, found, approved⟩

/-- Staging adds the command and its progress, or nothing. -/
theorem stageEffects_ok {artifacts : AuthorizationArtifacts}
    {occurredAt : String} {before after : Database} {value : Unit}
    (staged :
      exec (stageEffects (storeAuthorizationTransaction host) artifacts
        occurredAt) before = (.ok value, after)) :
    after =
        { before with
          commandOutbox := after.commandOutbox
          progress := after.progress } ∧
      after.commandOutbox.rows =
        before.commandOutbox.rows ++ stagedCommands artifacts ∧
      after.progress.rows =
        before.progress.rows ++ startedProgress artifacts occurredAt := by
  unfold stageEffects at staged
  cases held : artifacts.command with
  | none =>
      simp only [held, exec_pure, Prod.mk.injEq] at staged
      rcases staged with ⟨_, rfl⟩
      simp [stagedCommands, startedProgress, held]
  | some pair =>
      rcases pair with ⟨command, identity⟩
      simp only [held, storeAuthorizationTransaction, exec_bind_eq_ok,
        exec_rethrow_eq_ok, stageCommand_ok, initializeProgress_ok]
        at staged
      rcases staged with ⟨_, _, ⟨_, outbox, inserted, rfl⟩, progress,
        started, rfl⟩
      simp only [stagedCommands, startedProgress, held, Option.elim_some,
        true_and]
      exact ⟨Table.insert?_rows inserted, Table.insert?_rows started⟩

/--
The whole effect set of one new decision.  The first field is the frame: no
other table changes.
-/
structure Written (host : Host) (before after : Database)
    (ingress : OperatorCommandIngress) (identity : InboxIdentity)
    (stamp : AuthorizationStamp) (claim : StoredClaim)
    (decision : Decision) (artifacts : AuthorizationArtifacts) :
    Prop where
  frame :
    after =
      { before with
        approvals := after.approvals
        inbox := after.inbox
        claims := after.claims
        commandOutbox := after.commandOutbox
        applicationOutbox := after.applicationOutbox
        progress := after.progress
        audit := after.audit
        auditSequences := after.auditSequences }
  built :
    buildAuthorizationArtifacts host ingress stamp decision.isAuthorized
      (decision.approval.map BoundApproval.approvalId) decision.reason =
      .ok artifacts
  approvals : after.approvals = approvalsAfter before decision
  consumable :
    ∀ bound, decision.approval = some bound →
      ∃ row,
        before.approvals.find? bound.durableApproval.proposalId =
            some row ∧
          row.state = .approved
  inboxFree : before.inbox.find? identity.key = none
  inbox :
    after.inbox.rows =
      before.inbox.rows ++
        [⟨identity, some (artifacts.result, stamp.occurredAt)⟩]
  claimFree : before.claims.find? claim.idempotencyKey = none
  claims :
    after.claims.rows =
      before.claims.rows ++ [⟨claim, some artifacts.result⟩]
  audit :
    after.audit.rows =
      before.audit.rows ++
        [⟨artifacts.auditRecord,
          (issueOrdinal before.auditSequences
            artifacts.auditRecord.missionId).1⟩]
  auditSequences :
    after.auditSequences =
      (issueOrdinal before.auditSequences
        artifacts.auditRecord.missionId).2
  applicationOutbox :
    after.applicationOutbox.rows =
      before.applicationOutbox.rows ++
        [⟨artifacts.auditEvent, .staged, none⟩]
  commandOutbox :
    after.commandOutbox.rows =
      before.commandOutbox.rows ++ stagedCommands artifacts
  progress :
    after.progress.rows =
      before.progress.rows ++ startedProgress artifacts stamp.occurredAt

/-- A decision persisted after both claims wrote its whole effect set. -/
theorem persistDecision_ok {ingress : OperatorCommandIngress}
    {identity : InboxIdentity} {stamp : AuthorizationStamp}
    {claim : StoredClaim} {decision : Decision} {before after : Database}
    {inbox : Table InboxRow.key} {claims : Table ClaimRow.key}
    {result : AuthorizationResult}
    (inboxClaimed : before.inbox.insert? ⟨identity, none⟩ = some inbox)
    (commandClaimed : before.claims.insert? ⟨claim, none⟩ = some claims)
    (key : claim.idempotencyKey = ingress.payload.commandId)
    (persisted :
      exec (persistDecision host (storeAuthorizationTransaction host)
        ingress identity stamp decision) { before with inbox, claims } =
        (.ok result, after)) :
    ∃ artifacts,
      result = ⟨decision.outcome, artifacts.result, decision.reason⟩ ∧
        Written host before after ingress identity stamp claim decision
          artifacts := by
  simp only [persistDecision, exec_bind_eq_ok, exec_lift_eq_ok, exec_pure,
    Prod.mk.injEq, Except.ok.injEq] at persisted
  rcases persisted with ⟨artifacts, _, ⟨built, rfl⟩, _, consumed,
    approvalStep, _, audited, auditStep, _, published, applicationStep, _,
    staged, stagingStep, _, recorded, resultStep, _, completed,
    inboxStep, rfl, rfl⟩
  rcases persistApproval_ok approvalStep with ⟨rfl, consumable⟩
  simp only [storeAuthorizationTransaction, exec_bind_eq_ok,
    exec_rethrow_eq_ok, exec_pure, appendAudit_ok, Prod.mk.injEq]
    at auditStep
  rcases auditStep with ⟨ordinal, _, ⟨rfl, audit, appended, rfl⟩, _, rfl⟩
  simp only [storeAuthorizationTransaction, exec_rethrow_eq_ok,
    stageApplication_ok] at applicationStep
  rcases applicationStep with ⟨application, applied, rfl⟩
  rcases stageEffects_ok stagingStep with ⟨frame, outbox, progress⟩
  simp only [storeAuthorizationTransaction, exec_rethrow_eq_ok]
    at resultStep inboxStep
  rcases recordResult_ok resultStep with ⟨_, _, _, rfl⟩
  rcases completeInbox_ok inboxStep with ⟨_, _, _, _, rfl⟩
  rw [← key] at *
  refine ⟨artifacts, rfl, ?_⟩
  have claimsAfter : staged.claims = claims := by rw [frame]
  have inboxAfter : staged.inbox = inbox := by rw [frame]
  exact
    { frame := by rw [frame]
      built := built
      approvals := by rw [frame]; rfl
      consumable := consumable
      inboxFree := (Table.insert?_eq_some.1 inboxClaimed).1
      inbox := by
        simp only [inboxAfter]
        exact Table.amend_insert?_rows _ _ _ inboxClaimed
      claimFree := (Table.insert?_eq_some.1 commandClaimed).1
      claims := by
        simp only [claimsAfter]
        exact Table.amend_insert?_rows _ _ _ commandClaimed
      audit := by
        rw [frame]
        exact Table.insert?_rows appended
      auditSequences := by rw [frame]
      applicationOutbox := by
        rw [frame]
        exact Table.insert?_rows applied
      commandOutbox := outbox
      progress := progress }

/-! ## Committed calls -/

/-- The claims of a transaction leave the rows that a decision reads alone. -/
theorem Decided.of_claims {before : Database}
    {inbox : Table InboxRow.key} {claims : Table ClaimRow.key}
    {ingress : OperatorCommandIngress} {now : AuthorizationClock}
    {decision : Decision}
    (decided :
      Decided host { before with inbox, claims } ingress now decision) :
    Decided host before ingress now decision := by
  cases decided with
  | refusal reason => exact .refusal reason
  | assignment action asked => exact .assignment action asked
  | escalation action asked escalation checked =>
      exact .escalation action asked escalation
        ⟨checked.proposal, checked.approval, checked.binding,
          checked.mapped, checked.decoded, checked.consumes, checked.epoch,
          checked.mission, checked.proposalExact, checked.evidence,
          checked.evidenceDecoded, checked.evidenceExact,
          checked.bindingExact⟩

/-- What a committed authorization transaction did. -/
inductive Committed (host : Host) (before after : Database)
    (ingress : OperatorCommandIngress) (identity : InboxIdentity)
    (stamp : AuthorizationStamp) (now : AuthorizationClock) :
    AuthorizationResult → Prop where
  /-- The delivery had been completed before. -/
  | redelivery (row : InboxRow) (result : Bytes) (processedAt : String)
      (found : before.inbox.find? identity.key = some row)
      (exact : row.identity.canonicalDigest = identity.canonicalDigest)
      (completed : row.completion = some (result, processedAt))
      (unchanged : after = before) :
      Committed host before after ingress identity stamp now
        ⟨.duplicate, result, none⟩
  /-- A fresh delivery repeated a command that had a result. -/
  | prior (result : Bytes)
      (free : before.inbox.find? identity.key = none)
      (frame : after = { before with inbox := after.inbox })
      (inbox :
        after.inbox.rows =
          before.inbox.rows ++
            [⟨identity, some (result, stamp.occurredAt)⟩]) :
      Committed host before after ingress identity stamp now
        ⟨.duplicate, result, none⟩
  /-- A new command was decided. -/
  | decided (claim : StoredClaim) (decision : Decision)
      (artifacts : AuthorizationArtifacts)
      (claims : commandClaim host ingress stamp.occurredAt = .ok claim)
      (made : Decided host before ingress now decision)
      (written :
        Written host before after ingress identity stamp claim decision
          artifacts) :
      Committed host before after ingress identity stamp now
        ⟨decision.outcome, artifacts.result, decision.reason⟩

/-- A claim of a command is under the command's own identity. -/
theorem commandClaim_ok {ingress : OperatorCommandIngress}
    {occurredAt : String} {claim : StoredClaim}
    (claims : commandClaim host ingress occurredAt = .ok claim) :
    claim.idempotencyKey = ingress.payload.commandId ∧
      claim.kind = .command := by
  simp only [commandClaim, bind_eq_ok, recast_eq_ok, pure_eq_ok] at claims
  rcases claims with ⟨_, _, rfl⟩
  exact ⟨rfl, rfl⟩

theorem processClaimed_ok {ingress : OperatorCommandIngress}
    {identity : InboxIdentity} {stamp : AuthorizationStamp}
    {now : AuthorizationClock} {before after : Database}
    {inbox : Table InboxRow.key} {result : AuthorizationResult}
    (inboxClaimed : before.inbox.insert? ⟨identity, none⟩ = some inbox)
    (processed :
      exec (processClaimed host (storeAuthorizationTransaction host) ingress
        identity stamp now) { before with inbox } = (.ok result, after)) :
    Committed host before after ingress identity stamp now result := by
  simp only [processClaimed, exec_bind_eq_ok, exec_lift_eq_ok] at processed
  rcases processed with ⟨claim, _, ⟨claims, rfl⟩, outcome, _, claimed,
    rest⟩
  simp only [storeAuthorizationTransaction, exec_rethrow_eq_ok] at claimed
  rcases commandClaim_ok claims with ⟨key, kind⟩
  rcases claimIdempotency_ok claimed with
    ⟨rfl, table, inserted, rfl⟩ | ⟨rfl, row, _, _, _, denied | repeated⟩
  · simp only [exec_bind_eq_ok] at rest
    rcases rest with ⟨decision, _, decided, persisted⟩
    rcases decideCommand_ok decided with ⟨rfl, made⟩
    rcases persistDecision_ok inboxClaimed inserted key persisted with
      ⟨artifacts, rfl, written⟩
    exact .decided claim decision artifacts claims made.of_claims written
  · rw [kind] at denied
    simp at denied
  · rcases repeated with ⟨prior, _, rfl⟩
    simp only [exec_bind_eq_ok, exec_demand_eq_ok, exec_pure,
      storeAuthorizationTransaction, exec_rethrow_eq_ok, Prod.mk.injEq,
      Option.some.injEq, Except.ok.injEq] at rest
    rcases rest with ⟨_, _, ⟨rfl, rfl⟩, _, _, completed, rfl, rfl⟩
    rcases completeInbox_ok completed with ⟨_, _, _, _, rfl⟩
    refine .prior prior (Table.insert?_eq_some.1 inboxClaimed).1 rfl ?_
    simp only
    exact Table.amend_insert?_rows _ _ _ inboxClaimed

/-- A transaction that returns redelivered, repeated or decided. -/
theorem operatorCommandBody_ok {ingress : OperatorCommandIngress}
    {identity : InboxIdentity} {stamp : AuthorizationStamp}
    {now : AuthorizationClock} {before after : Database}
    {result : AuthorizationResult}
    (returned :
      exec (operatorCommandBody host (storeAuthorizationTransaction host)
        ingress identity stamp now) before = (.ok result, after)) :
    Committed host before after ingress identity stamp now result := by
  simp only [operatorCommandBody, exec_bind_eq_ok] at returned
  rcases returned with ⟨outcome, _, claimed, produced, _, settled, _, _,
    committed, rest⟩
  simp only [storeAuthorizationTransaction, exec_pure, Prod.mk.injEq,
    Except.ok.injEq] at committed rest
  rcases committed with ⟨_, rfl⟩
  rcases rest with ⟨rfl, rfl⟩
  simp only [storeAuthorizationTransaction, exec_rethrow_eq_ok] at claimed
  rcases claimInbox_ok claimed with
    ⟨rfl, inbox, inserted, rfl⟩ | ⟨row, prior, processedAt, rfl, rfl, found,
      exact, completed⟩
  · exact processClaimed_ok inserted settled
  · simp only [answerClaim, exec_bind_eq_ok, exec_demand_eq_ok, exec_pure,
      Prod.mk.injEq, Except.ok.injEq, Option.some.injEq] at settled
    rcases settled with ⟨_, _, ⟨rfl, rfl⟩, rfl, rfl⟩
    exact .redelivery row prior processedAt found exact completed rfl

/-- A handled operator command is one of the committed forms. -/
theorem handleOperatorCommand_database (observedAt : String)
    (settlement : SettlementPort) (delivery : GuaranteedDelivery)
    (stamp : AuthorizationStamp) (now : AuthorizationClock)
    (before : World) :
    SameButRefusals before.database
        (exec (handleOperatorCommand host
          (storeAuthorizationTransaction host) observedAt settlement
          delivery stamp now) before).2.database ∨
      ∃ ingress identity result,
        acceptIngress host delivery.payload delivery.topic =
            .ok (.operatorCommand ingress) ∧
          inboxIdentity host ingress.envelope ingress.payload.missionId =
            .ok identity ∧
          Committed host before.database
            (exec (handleOperatorCommand host
              (storeAuthorizationTransaction host) observedAt settlement
              delivery stamp now) before).2.database
            ingress identity stamp now result := by
  unfold handleOperatorCommand
  rcases handleDelivery_database host commandRefusalChannel
      (.authorization .ingressKind) operatorCommand?
      (fun payload => payload.missionId)
      (fun ingress identity =>
        operatorCommandBody host (storeAuthorizationTransaction host)
          ingress identity stamp now)
      observedAt settlement delivery before with
    same | ⟨accepted, ingress, identity, result, admitted, selected,
      identified, returned⟩
  · exact .inl same
  · cases accepted with
    | operatorCommand held =>
        cases selected
        exact .inr ⟨ingress, identity, result, admitted, identified,
          operatorCommandBody_ok returned⟩
    | _ => simp [operatorCommand?] at selected

end AerialRescue.Gateway
