import AerialRescue.Gateway.AuthorizationEffects

/-!
# When an authorization transaction returns

The rows and the pure checks on which a call of the authorization transaction
depends: the authority it reads, the decision that follows from it, and the
keys that have to be free for its effect set.  Together they are exactly the
condition under which the transaction returns.
-/

namespace AerialRescue.Gateway

open AerialRescue.Contracts
open AerialRescue.Contracts.Canonical
open AerialRescue.Domain.Approvals
open AerialRescue.Domain.Commands
open AerialRescue.Gateway.Ingress
open AerialRescue.Lib
open AerialRescue.Lib.Guard
open AerialRescue.Lib.Transaction
open AerialRescue.Store

variable {host : Host}

/-! ## The rows of a decision -/

/-- The authority rows of a proposal are there, readable and mapped. -/
structure AuthorityRead (host : Host) (database : Database)
    (proposalId : String) (stored : StoredProposal)
    (bound : BoundApproval) : Prop where
  proposal : database.proposals.find? proposalId = some stored
  approval :
    ∃ authority : StoredAuthorizationApproval,
      (database.approvals.find? proposalId = some authority.approval ∧
        database.bindingFor? proposalId = some authority.binding ∧
        (authority.binding.authority.all
          fun held => decide (held.runtimeEpoch ≠ "")) = true) ∧
      mapAuthorizationApproval host authority = .ok bound

/-- The comparison of an escalation with the proposal that it names. -/
def escalationExact (host : Host) (ingress : OperatorCommandIngress)
    (action : EscalateRescueAction) (stored : StoredProposal) :
    Except Failure Bool :=
  match canonicalObject host stored.payload with
  | some members =>
      both (.ok (decide (ingress.payload.missionId.1 = stored.missionId)))
        (proposalMatches host stored action members)
  | none => .ok false

theorem escalationExact_of {ingress : OperatorCommandIngress}
    {action : EscalateRescueAction} {stored : StoredProposal}
    {members : Value.Members}
    (decoded : canonicalObject host stored.payload = some members)
    (mission : ingress.payload.missionId.1 = stored.missionId)
    (matched : proposalMatches host stored action members = .ok true) :
    escalationExact host ingress action stored = .ok true := by
  simp only [escalationExact, decoded, mission, matched, decide_true, both]

/-- The evidence row of an escalation is there, and compares to a reason. -/
inductive EvidenceRead (host : Host) (database : Database)
    (action : EscalateRescueAction) : Option AuthorizationReason → Prop where
  | undecodable (evidence : StoredEvidenceDecision)
      (found :
        database.decisions.find? action.evidenceDecisionId = some evidence)
      (branch :
        evidence.outcome = .contributing ↔ evidence.branchComplete = true)
      (undecoded : canonicalObject host evidence.payload = none) :
      EvidenceRead host database action (some .evidenceDecisionMismatch)
  | compared (evidence : StoredEvidenceDecision) (payload : Value.Members)
      (matched : Bool)
      (found :
        database.decisions.find? action.evidenceDecisionId = some evidence)
      (branch :
        evidence.outcome = .contributing ↔ evidence.branchComplete = true)
      (decoded : canonicalObject host evidence.payload = some payload)
      (compares :
        decisionMatches host evidence action payload = .ok matched) :
      EvidenceRead host database action
        (if matched then none else some .evidenceDecisionMismatch)

/-- How the checks after a consumption end. -/
inductive Confirms (host : Host) (database : Database)
    (ingress : OperatorCommandIngress) (action : EscalateRescueAction)
    (stored : StoredProposal) (bound consumed : BoundApproval) :
    Decision → Prop where
  | inexact
      (differs : escalationExact host ingress action stored = .ok false) :
      Confirms host database ingress action stored bound consumed
        (.refused .proposalMismatch)
  | unsupported (reason : AuthorizationReason)
      (exact : escalationExact host ingress action stored = .ok true)
      (evidence : EvidenceRead host database action (some reason)) :
      Confirms host database ingress action stored bound consumed
        (.refused reason)
  | misbound (reason : AuthorizationReason)
      (exact : escalationExact host ingress action stored = .ok true)
      (evidence : EvidenceRead host database action none)
      (refuses : approvalBindingRefusal bound action = some reason) :
      Confirms host database ingress action stored bound consumed
        (.refused reason)
  | agreed
      (exact : escalationExact host ingress action stored = .ok true)
      (evidence : EvidenceRead host database action none)
      (agrees : approvalBindingRefusal bound action = none) :
      Confirms host database ingress action stored bound consumed
        (.authorized (some consumed))

/-- How the rows of the database decide a new command. -/
inductive Decides (host : Host) (database : Database)
    (ingress : OperatorCommandIngress) (now : AuthorizationClock) :
    Decision → Prop where
  | assignment (action : AssignSectorAction)
      (asked : ingress.payload.action = .assignSector action) :
      Decides host database ingress now (.authorized none)
  | unconsumed (action : EscalateRescueAction)
      (asked : ingress.payload.action = .escalateRescue action)
      (stored : StoredProposal) (bound : BoundApproval)
      (reason : AuthorizationReason)
      (authority :
        AuthorityRead host database action.proposalId stored bound)
      (refuses :
        consumeBoundApproval host bound stored
          (canonicalObject host stored.payload) now =
          .ok (.error reason)) :
      Decides host database ingress now (.refused reason)
  | consumed (action : EscalateRescueAction)
      (asked : ingress.payload.action = .escalateRescue action)
      (stored : StoredProposal) (bound after : BoundApproval)
      (authority :
        AuthorityRead host database action.proposalId stored bound)
      (consumes :
        consumeBoundApproval host bound stored
          (canonicalObject host stored.payload) now = .ok (.ok after))
      (decision : Decision)
      (confirms :
        Confirms host database ingress action stored bound after decision) :
      Decides host database ingress now decision

theorem evidenceRefusal_iff {action : EscalateRescueAction}
    {before after : Database} {reason : Option AuthorizationReason} :
    exec (evidenceRefusal host (storeAuthorizationTransaction host) action)
        before = (.ok reason, after) ↔
      after = before ∧ EvidenceRead host before action reason := by
  simp only [evidenceRefusal, storeAuthorizationTransaction,
    exec_bind_eq_ok, exec_rethrow_eq_ok, loadDecision_ok]
  constructor
  · rintro ⟨evidence, _, ⟨found, branch, rfl⟩, rest⟩
    split at rest
    · rename_i undecoded
      simp only [exec_pure, Prod.mk.injEq, Except.ok.injEq] at rest
      rcases rest with ⟨rfl, rfl⟩
      exact ⟨rfl, .undecodable evidence found branch undecoded⟩
    · rename_i payload decoded
      simp only [exec_bind_eq_ok, exec_lift_eq_ok, exec_pure,
        Prod.mk.injEq, Except.ok.injEq] at rest
      rcases rest with ⟨matched, _, ⟨compares, rfl⟩, rfl, rfl⟩
      exact ⟨rfl, .compared evidence payload matched found branch decoded
        compares⟩
  · rintro ⟨rfl, evidenceRead⟩
    cases evidenceRead with
    | undecodable evidence found branch undecoded =>
        refine ⟨evidence, after, ⟨found, branch, rfl⟩, ?_⟩
        simp [undecoded]
    | compared evidence payload matched found branch decoded compares =>
        refine ⟨evidence, after, ⟨found, branch, rfl⟩, ?_⟩
        simp only [decoded, compares]
        rw [exec_bind_of_ok (exec_lift_ok _ _ _), exec_pure]

theorem confirmEscalation_iff {ingress : OperatorCommandIngress}
    {action : EscalateRescueAction} {stored : StoredProposal}
    {bound consumed : BoundApproval} {before after : Database}
    {decision : Decision} :
    exec (confirmEscalation host (storeAuthorizationTransaction host)
        ingress action stored (canonicalObject host stored.payload) bound
        consumed) before = (.ok decision, after) ↔
      after = before ∧
        Confirms host before ingress action stored bound consumed
          decision := by
  simp only [confirmEscalation, exec_bind_eq_ok, exec_lift_eq_ok,
    exec_ite]
  constructor
  · rintro ⟨exact, _, ⟨compares, rfl⟩, rest⟩
    cases exact with
    | false =>
        simp only [if_true, exec_pure, Prod.mk.injEq,
          Except.ok.injEq] at rest
        rcases rest with ⟨rfl, rfl⟩
        exact ⟨rfl, .inexact compares⟩
    | true =>
        simp only [Bool.true_eq_false, if_false, exec_bind_eq_ok,
          evidenceRefusal_iff] at rest
        rcases rest with ⟨reason, _, ⟨rfl, evidence⟩, settled⟩
        cases reason with
        | some reason =>
            simp only [exec_pure, Prod.mk.injEq,
              Except.ok.injEq] at settled
            rcases settled with ⟨rfl, rfl⟩
            exact ⟨rfl, .unsupported reason compares evidence⟩
        | none =>
            simp only at settled
            split at settled <;> rename_i binding <;>
              simp only [exec_pure, Prod.mk.injEq,
                Except.ok.injEq] at settled <;>
              rcases settled with ⟨rfl, rfl⟩
            · exact ⟨rfl, .misbound _ compares evidence binding⟩
            · exact ⟨rfl, .agreed compares evidence binding⟩
  · rintro ⟨rfl, confirms⟩
    cases confirms with
    | inexact differs => exact ⟨false, after, ⟨differs, rfl⟩, by simp⟩
    | unsupported reason exact evidence =>
        refine ⟨true, after, ⟨exact, rfl⟩, ?_⟩
        rw [if_neg (by simp),
          exec_bind_of_ok (evidenceRefusal_iff.2 ⟨rfl, evidence⟩), exec_pure]
    | misbound reason exact evidence refuses =>
        refine ⟨true, after, ⟨exact, rfl⟩, ?_⟩
        rw [if_neg (by simp),
          exec_bind_of_ok (evidenceRefusal_iff.2 ⟨rfl, evidence⟩)]
        simp [refuses]
    | agreed exact evidence agrees =>
        refine ⟨true, after, ⟨exact, rfl⟩, ?_⟩
        rw [if_neg (by simp),
          exec_bind_of_ok (evidenceRefusal_iff.2 ⟨rfl, evidence⟩)]
        simp [agrees]

/-- A decision returns exactly as the rows decide, and writes nothing. -/
theorem decideCommand_iff {ingress : OperatorCommandIngress}
    {now : AuthorizationClock} {before after : Database}
    {decision : Decision} :
    exec (decideCommand host (storeAuthorizationTransaction host) ingress
        now) before = (.ok decision, after) ↔
      after = before ∧ Decides host before ingress now decision := by
  unfold decideCommand
  constructor
  · intro decided
    split at decided
    · rename_i action asked
      simp only [exec_pure, Prod.mk.injEq, Except.ok.injEq] at decided
      rcases decided with ⟨rfl, rfl⟩
      exact ⟨rfl, .assignment action asked⟩
    · rename_i action asked
      simp only [authorizeEscalation, storeAuthorizationTransaction,
        exec_bind_eq_ok, exec_rethrow_eq_ok, loadProposal_ok,
        loadApproval_ok, exec_lift_eq_ok] at decided
      rcases decided with ⟨stored, _, ⟨proposal, rfl⟩, bound, _,
        ⟨authority, _, ⟨approval, binding, readable, rfl⟩, mapped, rfl⟩,
        outcome, _, ⟨consumes, rfl⟩, rest⟩
      have authorityRead :
          AuthorityRead host _ action.proposalId stored bound :=
        ⟨proposal, authority, ⟨approval, binding, readable⟩, mapped⟩
      cases outcome with
      | error reason =>
          simp only [exec_pure, Prod.mk.injEq, Except.ok.injEq] at rest
          rcases rest with ⟨rfl, rfl⟩
          exact ⟨rfl, .unconsumed action asked stored bound reason
            authorityRead consumes⟩
      | ok consumed =>
          rcases confirmEscalation_iff.1 rest with ⟨rfl, confirms⟩
          exact ⟨rfl, .consumed action asked stored bound consumed
            authorityRead consumes decision confirms⟩
  · rintro ⟨rfl, decides⟩
    cases decides with
    | assignment action asked => simp [asked]
    | unconsumed action asked stored bound reason authorityRead refuses =>
        rcases authorityRead with ⟨proposal, authority,
          ⟨approval, binding, readable⟩, mapped⟩
        simp only [asked, authorizeEscalation,
          storeAuthorizationTransaction, exec_bind_eq_ok,
          exec_rethrow_eq_ok, loadProposal_ok, loadApproval_ok,
          exec_lift_eq_ok]
        exact ⟨stored, after, ⟨proposal, rfl⟩, bound, after,
          ⟨authority, after, ⟨approval, binding, readable, rfl⟩, mapped,
            rfl⟩, .error reason, after, ⟨refuses, rfl⟩, rfl⟩
    | consumed action asked stored bound consumed authorityRead consumes _
        confirms =>
        rcases authorityRead with ⟨proposal, authority,
          ⟨approval, binding, readable⟩, mapped⟩
        simp only [asked, authorizeEscalation,
          storeAuthorizationTransaction, exec_bind_eq_ok,
          exec_rethrow_eq_ok, loadProposal_ok, loadApproval_ok,
          exec_lift_eq_ok]
        exact ⟨stored, after, ⟨proposal, rfl⟩, bound, after,
          ⟨authority, after, ⟨approval, binding, readable, rfl⟩, mapped,
            rfl⟩, .ok consumed, after, ⟨consumes, rfl⟩,
          confirmEscalation_iff.2 ⟨rfl, confirms⟩⟩

/-! ## The effect set of a decision -/

/-- The approval of a decision maps back onto a row that is still approved. -/
def Consumable (database : Database) (decision : Decision) : Prop :=
  ∀ bound, decision.approval = some bound →
    ∃ stored row,
      storedApproval bound = .ok stored ∧
        database.approvals.find? bound.durableApproval.proposalId =
          some row ∧
        row.state = .approved

/-- What the effect set of a decision needs of the database and the stamp. -/
structure Persistable (host : Host) (database : Database)
    (ingress : OperatorCommandIngress) (stamp : AuthorizationStamp)
    (decision : Decision) : Prop where
  built :
    ∃ artifacts,
      buildAuthorizationArtifacts host ingress stamp decision.isAuthorized
        (decision.approval.map BoundApproval.approvalId) decision.reason =
        .ok artifacts
  consumable : Consumable database decision
  auditFree :
    database.audit.find?
      (ingress.payload.missionId.1,
        (issueOrdinal database.auditSequences
          ingress.payload.missionId).1) = none
  applicationFree :
    database.applicationOutbox.find? (producer, stamp.auditEventId) = none
  room :
    decision.isAuthorized = true →
      database.unconfirmedCommands < maximumUnconfirmedRecords ∧
        database.commandOutbox.find? ingress.payload.commandId.1 = none ∧
        database.progress.find? ingress.payload.commandId.1 = none

theorem persistApproval_iff {decision : Decision}
    {before after : Database} {value : Unit} :
    exec (persistApproval (storeAuthorizationTransaction host) decision)
        before = (.ok value, after) ↔
      Consumable before decision ∧
        after =
          { before with approvals := approvalsAfter before decision } := by
  constructor
  · intro persisted
    rcases persistApproval_ok persisted with ⟨frame, approved⟩
    refine ⟨?_, frame⟩
    intro bound held
    rcases approved bound held with ⟨row, found, state⟩
    simp only [persistApproval, held, storeAuthorizationTransaction,
      exec_bind_eq_ok, exec_lift_eq_ok] at persisted
    rcases persisted with ⟨stored, _, ⟨maps, _⟩, _⟩
    exact ⟨stored, row, maps, found, state⟩
  · rintro ⟨consumable, rfl⟩
    unfold persistApproval
    cases held : decision.approval with
    | none => simp [approvalsAfter, held]
    | some bound =>
        rcases consumable bound held with ⟨stored, row, maps, found, state⟩
        rcases storedApproval_ok maps with ⟨rfl, _, _⟩
        simp only [storeAuthorizationTransaction, exec_bind_eq_ok,
          exec_lift_eq_ok, exec_rethrow_eq_ok, persistConsumed_ok]
        exact ⟨_, before, ⟨maps, rfl⟩, rfl,
          by simp [approvalsAfter, held, executeApproval], row, found,
          state⟩

theorem stageEffects_iff {artifacts : AuthorizationArtifacts}
    {occurredAt : String} {before after : Database} {value : Unit} :
    exec (stageEffects (storeAuthorizationTransaction host) artifacts
        occurredAt) before = (.ok value, after) ↔
      (artifacts.command = none ∧ after = before) ∨
        ∃ command identity commandOutbox progress,
          artifacts.command = some (command, identity) ∧
            before.unconfirmedCommands < maximumUnconfirmedRecords ∧
            before.commandOutbox.insert? ⟨command, .staged⟩ =
              some commandOutbox ∧
            before.progress.insert? (initialRow identity occurredAt) =
              some progress ∧
            after = { before with commandOutbox, progress } := by
  unfold stageEffects
  cases held : artifacts.command with
  | none =>
      simp only [exec_pure, Prod.mk.injEq, true_and, reduceCtorEq,
        false_and, exists_false, or_false]
      exact eq_comm
  | some staged =>
      rcases staged with ⟨command, identity⟩
      simp only [storeAuthorizationTransaction, exec_bind_eq_ok,
        exec_rethrow_eq_ok, stageCommand_ok, initializeProgress_ok,
        reduceCtorEq, false_and, false_or]
      constructor
      · rintro ⟨_, _, ⟨room, outbox, inserted, rfl⟩, progress, started,
          rfl⟩
        exact ⟨command, identity, outbox, progress, rfl, room, inserted,
          started, rfl⟩
      · rintro ⟨_, _, outbox, progress, ⟨rfl⟩, room, inserted, started,
          rfl⟩
        exact ⟨(), _, ⟨room, outbox, inserted, rfl⟩, progress, started,
          rfl⟩

/-- The keys of the artifacts of a decision are those of its command. -/
theorem artifacts_keys {ingress : OperatorCommandIngress}
    {stamp : AuthorizationStamp} {authorized : Bool}
    {approvalId : Option String} {reason : Option AuthorizationReason}
    {artifacts : AuthorizationArtifacts}
    (built :
      buildAuthorizationArtifacts host ingress stamp authorized approvalId
        reason = .ok artifacts) :
    artifacts.auditRecord.missionId = ingress.payload.missionId ∧
      ApplicationOutboxRow.key ⟨artifacts.auditEvent, .staged, none⟩ =
        (producer, stamp.auditEventId) ∧
      (authorized = false → artifacts.command = none) ∧
      (authorized = true →
        ∃ command identity,
          artifacts.command = some (command, identity) ∧
            command.commandId = ingress.payload.commandId ∧
            identity.commandId = ingress.payload.commandId) := by
  rcases buildAuthorizationArtifacts_ok built with ⟨audit, _, effects⟩
  rcases auditEffects_ok audit with ⟨mission, produced, eventId⟩
  refine ⟨mission, by simp [ApplicationOutboxRow.key, produced, eventId],
    ?_, ?_⟩
  · rintro rfl
    simpa using effects
  · rintro rfl
    simp only [if_true] at effects
    rcases effects with ⟨⟨command, identity⟩, built, held⟩
    rcases commandEffects_ok built with ⟨_, _, _, commandId, rfl⟩
    exact ⟨command, _, held, commandId, rfl⟩

/-- An authorized decision stages where the bound and both keys allow. -/
theorem stageEffects_fits {artifacts : AuthorizationArtifacts}
    {occurredAt commandId : String} {database : Database}
    (allowed : Bool) (refused : allowed = false → artifacts.command = none)
    (authorized :
      allowed = true →
        (∃ command identity,
          artifacts.command = some (command, identity) ∧
            command.commandId = commandId ∧
            identity.commandId = commandId) ∧
          database.unconfirmedCommands < maximumUnconfirmedRecords ∧
          database.commandOutbox.find? commandId = none ∧
          database.progress.find? commandId = none) :
    ∃ commandOutbox progress,
      exec (stageEffects (storeAuthorizationTransaction host) artifacts
        occurredAt) database =
        (.ok (), { database with commandOutbox, progress }) := by
  simp only [stageEffects_iff]
  cases allowed with
  | false =>
      exact ⟨database.commandOutbox, database.progress,
        .inl ⟨refused rfl, rfl⟩⟩
  | true =>
      rcases authorized rfl with ⟨⟨command, identity, held, commandKey,
        progressKey⟩, space, commandFree, progressFree⟩
      rw [← commandKey] at commandFree
      rw [← progressKey] at progressFree
      obtain ⟨outbox, inserted⟩ :
          ∃ outbox,
            database.commandOutbox.insert? ⟨command, .staged⟩ =
              some outbox :=
        Table.exists_insert? commandFree
      obtain ⟨progress, started⟩ :
          ∃ progress,
            database.progress.insert? (initialRow identity occurredAt) =
              some progress :=
        Table.exists_insert? progressFree
      exact ⟨outbox, progress, .inr ⟨command, identity, outbox, progress,
        held, space, inserted, started, rfl⟩⟩

/-- A transaction that holds both claims records and completes. -/
theorem succeeds_closing {α : Type} {identity : InboxIdentity}
    {claim : StoredClaim} {result : Bytes} {processedAt : String}
    {answer : α} {database : Database}
    (inboxClaimed :
      database.inbox.find? identity.key = some ⟨identity, none⟩)
    (commandClaimed :
      database.claims.find? claim.idempotencyKey = some ⟨claim, none⟩) :
    Succeeds
      (do
        (storeAuthorizationTransaction host).recordResult
          claim.idempotencyKey result
        (storeAuthorizationTransaction host).complete identity result
          processedAt
        pure answer : Body α) database := by
  simp only [storeAuthorizationTransaction, succeeds_bind,
    exec_rethrow_eq_ok]
  rcases recordResult_claimed commandClaimed with ⟨_, middle, recorded⟩
  rcases recordResult_ok recorded with ⟨_, _, _, frame⟩
  have claimed :
      middle.inbox.find? identity.key = some ⟨identity, none⟩ := by
    rw [frame]
    exact inboxClaimed
  rcases completeInbox_claimed claimed with ⟨_, final, completed⟩
  exact ⟨_, middle, recorded, _, final, completed, succeeds_pure _ _⟩

/-- A persisted decision found its effect set to fit. -/
theorem persistable_of_succeeds {ingress : OperatorCommandIngress}
    {identity : InboxIdentity} {stamp : AuthorizationStamp}
    {decision : Decision} {database : Database}
    (succeeds :
      Succeeds (persistDecision host (storeAuthorizationTransaction host)
        ingress identity stamp decision) database) :
    Persistable host database ingress stamp decision := by
  simp only [persistDecision, succeeds_bind, exec_lift_eq_ok,
    persistApproval_iff] at succeeds
  rcases succeeds with ⟨artifacts, _, ⟨built, rfl⟩, _, _,
    ⟨consumable, rfl⟩, _, _, audited, _, _, staged, _, _, effects, _⟩
  rcases artifacts_keys built with ⟨mission, eventKey, _, authorized⟩
  simp only [storeAuthorizationTransaction, exec_bind_eq_ok,
    exec_rethrow_eq_ok, exec_pure, appendAudit_ok, Prod.mk.injEq]
    at audited
  rcases audited with ⟨_, _, ⟨rfl, audit, appended, rfl⟩, _, rfl⟩
  simp only [storeAuthorizationTransaction, exec_rethrow_eq_ok,
    stageApplication_ok] at staged
  rcases staged with ⟨application, applied, rfl⟩
  refine ⟨⟨artifacts, built⟩, consumable, ?_, ?_, ?_⟩
  · rw [← mission]
    exact (Table.insert?_eq_some.1 appended).1
  · rw [← eventKey]
    exact (Table.insert?_eq_some.1 applied).1
  · intro allowed
    rcases authorized allowed with ⟨command, progressIdentity, held,
      commandId, progressId⟩
    rcases stageEffects_iff.1 effects with
      ⟨none, _⟩ | ⟨_, _, _, _, same, room, inserted, started, _⟩
    · rw [held] at none
      cases none
    · rw [held] at same
      cases same
      refine ⟨room, ?_, ?_⟩
      · rw [← commandId]
        exact (Table.insert?_eq_some.1 inserted).1
      · rw [← progressId]
        exact (Table.insert?_eq_some.1 started).1

/-- A decision whose effect set fits is persisted under both claims. -/
theorem Persistable.succeeds {ingress : OperatorCommandIngress}
    {identity : InboxIdentity} {stamp : AuthorizationStamp}
    {claim : StoredClaim} {decision : Decision} {database : Database}
    (persistable : Persistable host database ingress stamp decision)
    (key : claim.idempotencyKey = ingress.payload.commandId)
    (inboxClaimed :
      database.inbox.find? identity.key = some ⟨identity, none⟩)
    (commandClaimed :
      database.claims.find? claim.idempotencyKey = some ⟨claim, none⟩) :
    Succeeds (persistDecision host (storeAuthorizationTransaction host)
      ingress identity stamp decision) database := by
  rcases persistable with ⟨⟨artifacts, built⟩, consumable, auditFree,
    applicationFree, room⟩
  rcases artifacts_keys built with ⟨mission, eventKey, refused, authorized⟩
  rw [← mission] at auditFree
  rw [← eventKey] at applicationFree
  obtain ⟨audit, appended⟩ :
      ∃ audit,
        database.audit.insert?
          ⟨artifacts.auditRecord,
            (issueOrdinal database.auditSequences
              artifacts.auditRecord.missionId).1⟩ = some audit :=
    Table.exists_insert? auditFree
  obtain ⟨application, applied⟩ :
      ∃ application,
        database.applicationOutbox.insert?
          ⟨artifacts.auditEvent, .staged, none⟩ = some application :=
    Table.exists_insert? applicationFree
  have approvalStep :
      exec (persistApproval (storeAuthorizationTransaction host) decision)
        database =
        (.ok (),
          { database with
            approvals := approvalsAfter database decision }) :=
    persistApproval_iff.2 ⟨consumable, rfl⟩
  have auditStep :
      exec ((storeAuthorizationTransaction host).appendAudit
        artifacts.auditRecord)
        { database with approvals := approvalsAfter database decision } =
        (.ok (),
          { database with
            approvals := approvalsAfter database decision
            audit
            auditSequences :=
              (issueOrdinal database.auditSequences
                artifacts.auditRecord.missionId).2 }) := by
    simp only [storeAuthorizationTransaction, exec_bind_eq_ok,
      exec_rethrow_eq_ok, exec_pure, appendAudit_ok, Prod.mk.injEq]
    exact ⟨_, _, ⟨rfl, audit, appended, rfl⟩, trivial, rfl⟩
  have applicationStep :
      exec ((storeAuthorizationTransaction host).stageApplication
        artifacts.auditEvent)
        { database with
          approvals := approvalsAfter database decision
          audit
          auditSequences :=
            (issueOrdinal database.auditSequences
              artifacts.auditRecord.missionId).2 } =
        (.ok (),
          { database with
            approvals := approvalsAfter database decision
            audit
            auditSequences :=
              (issueOrdinal database.auditSequences
                artifacts.auditRecord.missionId).2
            applicationOutbox := application }) := by
    simp only [storeAuthorizationTransaction, exec_rethrow_eq_ok,
      stageApplication_ok]
    exact ⟨application, applied, rfl⟩
  obtain ⟨outbox, progress, staged⟩ :
      ∃ commandOutbox progress,
        exec (stageEffects (storeAuthorizationTransaction host) artifacts
          stamp.occurredAt)
          { database with
            approvals := approvalsAfter database decision
            audit
            auditSequences :=
              (issueOrdinal database.auditSequences
                artifacts.auditRecord.missionId).2
            applicationOutbox := application } =
          (.ok (),
            { database with
              approvals := approvalsAfter database decision
              audit
              auditSequences :=
                (issueOrdinal database.auditSequences
                  artifacts.auditRecord.missionId).2
              applicationOutbox := application
              commandOutbox
              progress }) :=
    stageEffects_fits decision.isAuthorized refused
      fun allowed => ⟨authorized allowed, room allowed⟩
  unfold persistDecision
  rw [succeeds_bind_of_ok (exec_lift_eq_ok.2 ⟨built, rfl⟩),
    succeeds_bind_of_ok approvalStep, succeeds_bind_of_ok auditStep,
    succeeds_bind_of_ok applicationStep, succeeds_bind_of_ok staged, ← key]
  exact succeeds_closing inboxClaimed commandClaimed

/-! ## The condition of the whole transaction -/

/-- Two databases with the same rows of authority. -/
structure SameAuthority (left right : Database) : Prop where
  proposals : left.proposals = right.proposals
  approvals : left.approvals = right.approvals
  bindings : left.bindings = right.bindings
  decisions : left.decisions = right.decisions

theorem EvidenceRead.of_same {left right : Database}
    {action : EscalateRescueAction} {reason : Option AuthorizationReason}
    (same : SameAuthority left right)
    (evidenceRead : EvidenceRead host left action reason) :
    EvidenceRead host right action reason := by
  cases evidenceRead with
  | undecodable evidence found branch undecoded =>
      rw [same.decisions] at found
      exact .undecodable evidence found branch undecoded
  | compared evidence payload matched found branch decoded compares =>
      rw [same.decisions] at found
      exact .compared evidence payload matched found branch decoded compares

theorem AuthorityRead.of_same {left right : Database}
    {proposalId : String} {stored : StoredProposal} {bound : BoundApproval}
    (same : SameAuthority left right)
    (authorityRead : AuthorityRead host left proposalId stored bound) :
    AuthorityRead host right proposalId stored bound := by
  rcases authorityRead with ⟨proposal, approval⟩
  rw [same.proposals] at proposal
  simp only [Database.bindingFor?, same.approvals, same.bindings]
    at approval
  exact ⟨proposal, approval⟩

/-- A decision depends on the rows of authority only. -/
theorem Decides.of_same {left right : Database}
    {ingress : OperatorCommandIngress} {now : AuthorizationClock}
    {decision : Decision} (same : SameAuthority left right)
    (decides : Decides host left ingress now decision) :
    Decides host right ingress now decision := by
  cases decides with
  | assignment action asked => exact .assignment action asked
  | unconsumed action asked stored bound reason authority refuses =>
      exact .unconsumed action asked stored bound reason
        (authority.of_same same) refuses
  | consumed action asked stored bound after authority consumes _
      confirms =>
      refine .consumed action asked stored bound after
        (authority.of_same same) consumes decision ?_
      cases confirms with
      | inexact differs => exact .inexact differs
      | unsupported reason exact evidence =>
          exact .unsupported reason exact (evidence.of_same same)
      | misbound reason exact evidence refuses =>
          exact .misbound reason exact (evidence.of_same same) refuses
      | agreed exact evidence agrees =>
          exact .agreed exact (evidence.of_same same) agrees

/-- What an operator command needs of the database to be processed. -/
inductive CommandFits (host : Host) (database : Database)
    (ingress : OperatorCommandIngress) (identity : InboxIdentity)
    (stamp : AuthorizationStamp) (now : AuthorizationClock) : Prop where
  /-- The delivery was completed before, with the same bytes. -/
  | redelivered (row : InboxRow) (result : Bytes) (processedAt : String)
      (found : database.inbox.find? identity.key = some row)
      (exact : row.identity.canonicalDigest = identity.canonicalDigest)
      (completed : row.completion = some (result, processedAt))
  /-- The command was executed before, with the same body. -/
  | repeated (claim : StoredClaim) (row : ClaimRow) (result : Bytes)
      (free : database.inbox.find? identity.key = none)
      (claims : commandClaim host ingress stamp.occurredAt = .ok claim)
      (found :
        database.claims.find? ingress.payload.commandId.1 = some row)
      (kind : row.claim.kind = .command)
      (body : row.claim.bodyDigest = claim.bodyDigest)
      (recorded : row.result = some result)
  /-- The command is new, its rows decide it and its effects fit. -/
  | decided (claim : StoredClaim) (decision : Decision)
      (free : database.inbox.find? identity.key = none)
      (claims : commandClaim host ingress stamp.occurredAt = .ok claim)
      (unclaimed :
        database.claims.find? ingress.payload.commandId.1 = none)
      (decides : Decides host database ingress now decision)
      (persistable : Persistable host database ingress stamp decision)

/-- A transaction that returned had the rows that it needs. -/
theorem commandFits_of_succeeds {ingress : OperatorCommandIngress}
    {identity : InboxIdentity} {stamp : AuthorizationStamp}
    {now : AuthorizationClock} {database : Database}
    (succeeds :
      Succeeds (operatorCommandBody host
        (storeAuthorizationTransaction host) ingress identity stamp now)
        database) :
    identity.source.length ≤ sourceLength ∧
      CommandFits host database ingress identity stamp now := by
  simp only [operatorCommandBody, succeeds_bind] at succeeds
  rcases succeeds with ⟨outcome, _, claimed, result, final, settled, _⟩
  simp only [storeAuthorizationTransaction, exec_rethrow_eq_ok] at claimed
  refine ⟨claimInbox_narrow claimed, ?_⟩
  rcases claimInbox_ok claimed with
    ⟨rfl, inbox, inserted, rfl⟩ | ⟨row, prior, processedAt, rfl, rfl, found,
      exact, completed⟩
  · have free := (Table.insert?_eq_some.1 inserted).1
    simp only [answerClaim, processClaimed, exec_bind_eq_ok,
      exec_lift_eq_ok] at settled
    rcases settled with ⟨claim, _, ⟨claims, rfl⟩, outcome, _,
      commandClaimed, rest⟩
    rcases commandClaim_ok claims with ⟨key, kind⟩
    have commandStep := commandClaimed
    simp only [storeAuthorizationTransaction,
      exec_rethrow_eq_ok] at commandStep
    rcases claimIdempotency_ok commandStep with
      ⟨rfl, table, taken, rfl⟩ | ⟨rfl, row, found, sameKind, body,
        denied | ⟨prior, recorded, rfl⟩⟩
    · simp only [exec_bind_eq_ok, decideCommand_iff] at rest
      rcases rest with ⟨decision, _, ⟨rfl, decides⟩, persisted⟩
      have persistable := persistable_of_succeeds ⟨_, _, persisted⟩
      have unclaimed := (Table.insert?_eq_some.1 taken).1
      simp only [ClaimRow.key, key] at unclaimed
      have same :
          SameAuthority { database with inbox, claims := table } database :=
        ⟨rfl, rfl, rfl, rfl⟩
      exact .decided claim decision free claims unclaimed
        (decides.of_same same)
        ⟨persistable.built, persistable.consumable, persistable.auditFree,
          persistable.applicationFree, persistable.room⟩
    · rw [kind] at denied
      simp at denied
    · rw [key] at found
      rw [kind] at sameKind
      exact .repeated claim row prior free claims found sameKind body
        recorded
  · exact .redelivered row prior processedAt found exact completed

/-- The answer to a delivery is committed whenever it returns. -/
theorem succeeds_committing {α : Type} {body : Body α}
    {database : Database} (succeeds : Succeeds body database) :
    Succeeds
      (do
        let result ← body
        (storeAuthorizationTransaction host).commit
        pure result) database := by
  rcases succeeds with ⟨result, final, returned⟩
  rw [succeeds_bind_of_ok returned]
  exact ⟨result, final, rfl⟩

/-- A delivery whose key is free is claimed. -/
theorem claim_fresh {identity : InboxIdentity} {before : Database}
    (narrow : identity.source.length ≤ sourceLength)
    (free : before.inbox.find? identity.key = none) :
    ∃ inbox,
      before.inbox.insert? ⟨identity, none⟩ = some inbox ∧
        exec ((storeAuthorizationTransaction host).claim identity) before =
          (.ok ⟨.claimed, none⟩, { before with inbox }) := by
  obtain ⟨inbox, inserted⟩ :
      ∃ inbox, before.inbox.insert? ⟨identity, none⟩ = some inbox :=
    Table.exists_insert? free
  exact ⟨inbox, inserted,
    exec_rethrow_eq_ok.2 (claimInbox_fresh narrow inserted)⟩

/-- A claimed delivery of an executed command repeats its result. -/
theorem succeeds_processClaimed_repeated {ingress : OperatorCommandIngress}
    {identity : InboxIdentity} {stamp : AuthorizationStamp}
    {now : AuthorizationClock} {claim : StoredClaim} {row : ClaimRow}
    {result : Bytes} {database : Database}
    (inboxClaimed :
      database.inbox.find? identity.key = some ⟨identity, none⟩)
    (claims : commandClaim host ingress stamp.occurredAt = .ok claim)
    (found : database.claims.find? ingress.payload.commandId.1 = some row)
    (kind : row.claim.kind = .command)
    (body : row.claim.bodyDigest = claim.bodyDigest)
    (recorded : row.result = some result) :
    Succeeds (processClaimed host (storeAuthorizationTransaction host)
      ingress identity stamp now) database := by
  rcases commandClaim_ok claims with ⟨key, command⟩
  rw [← key] at found
  rw [← command] at kind
  have claimStep :
      exec ((storeAuthorizationTransaction host).claimCommand claim)
        database = (.ok ⟨.returnPriorResult, some result⟩, database) :=
    exec_rethrow_eq_ok.2
      (claimIdempotency_repeated found kind command body recorded)
  unfold processClaimed
  rw [succeeds_bind_of_ok (exec_lift_eq_ok.2 ⟨claims, rfl⟩),
    succeeds_bind_of_ok claimStep]
  simp only
  rw [succeeds_bind_of_ok (exec_demand_eq_ok.2 ⟨rfl, rfl⟩)]
  simp only [storeAuthorizationTransaction, succeeds_bind,
    exec_rethrow_eq_ok]
  have completes :
      Succeeds (completeInbox identity result stamp.occurredAt) database :=
    completeInbox_claimed inboxClaimed
  rcases completes with ⟨_, final, completed⟩
  exact ⟨_, final, completed, succeeds_pure _ _⟩

/-- A new command that its rows decide writes the effects of the decision. -/
theorem operatorCommandBody_decided {ingress : OperatorCommandIngress}
    {identity : InboxIdentity} {stamp : AuthorizationStamp}
    {now : AuthorizationClock} {claim : StoredClaim} {decision : Decision}
    {before : Database}
    (narrow : identity.source.length ≤ sourceLength)
    (free : before.inbox.find? identity.key = none)
    (claims : commandClaim host ingress stamp.occurredAt = .ok claim)
    (unclaimed : before.claims.find? ingress.payload.commandId.1 = none)
    (decides : Decides host before ingress now decision)
    (persistable : Persistable host before ingress stamp decision) :
    ∃ artifacts after,
      exec (operatorCommandBody host (storeAuthorizationTransaction host)
        ingress identity stamp now) before =
        (.ok ⟨decision.outcome, artifacts.result, decision.reason⟩,
          after) ∧
        Written host before after ingress identity stamp claim decision
          artifacts := by
  rcases commandClaim_ok claims with ⟨key, _⟩
  rw [← key] at unclaimed
  rcases claim_fresh narrow free with ⟨inbox, inserted, claimStep⟩
  obtain ⟨table, taken⟩ :
      ∃ table, before.claims.insert? ⟨claim, none⟩ = some table :=
    Table.exists_insert? unclaimed
  have commandStep :
      exec ((storeAuthorizationTransaction host).claimCommand claim)
        { before with inbox } =
        (.ok ⟨.execute, none⟩, { before with inbox, claims := table }) :=
    exec_rethrow_eq_ok.2 (claimIdempotency_fresh taken)
  have same :
      SameAuthority before { before with inbox, claims := table } :=
    ⟨rfl, rfl, rfl, rfl⟩
  have fits :
      Persistable host { before with inbox, claims := table } ingress
        stamp decision :=
    ⟨persistable.built, persistable.consumable, persistable.auditFree,
      persistable.applicationFree, persistable.room⟩
  rcases fits.succeeds key (Table.find?_insert?_self inserted)
      (Table.find?_insert?_self taken) with ⟨result, after, persisted⟩
  rcases persistDecision_ok inserted taken key persisted with
    ⟨artifacts, rfl, written⟩
  refine ⟨artifacts, after, ?_, written⟩
  have processed :
      exec (processClaimed host (storeAuthorizationTransaction host) ingress
        identity stamp now) { before with inbox } =
        (.ok ⟨decision.outcome, artifacts.result, decision.reason⟩,
          after) := by
    unfold processClaimed
    rw [exec_bind_of_ok (exec_lift_eq_ok.2 ⟨claims, rfl⟩),
      exec_bind_of_ok commandStep]
    simp only
    rw [exec_bind_of_ok
      (decideCommand_iff.2 ⟨rfl, decides.of_same same⟩)]
    exact persisted
  unfold operatorCommandBody
  rw [exec_bind_of_ok claimStep]
  simp only [answerClaim]
  rw [exec_bind_of_ok processed]
  rfl

/-- A transaction that has the rows it needs returns. -/
theorem CommandFits.succeeds {ingress : OperatorCommandIngress}
    {identity : InboxIdentity} {stamp : AuthorizationStamp}
    {now : AuthorizationClock} {database : Database}
    (narrow : identity.source.length ≤ sourceLength)
    (fits : CommandFits host database ingress identity stamp now) :
    Succeeds (operatorCommandBody host (storeAuthorizationTransaction host)
      ingress identity stamp now) database := by
  cases fits with
  | redelivered row result processedAt found exact completed =>
      have claimStep :
          exec ((storeAuthorizationTransaction host).claim identity)
            database = (.ok ⟨.duplicate, some result⟩, database) :=
        exec_rethrow_eq_ok.2
          (claimInbox_repeated narrow found exact completed)
      unfold operatorCommandBody
      rw [succeeds_bind_of_ok claimStep]
      exact succeeds_committing ⟨_, database, rfl⟩
  | repeated claim row result free claims found kind body recorded =>
      rcases claim_fresh narrow free with ⟨inbox, inserted, claimStep⟩
      have repeats :
          Succeeds (processClaimed host
            (storeAuthorizationTransaction host) ingress identity stamp now)
            { database with inbox } :=
        succeeds_processClaimed_repeated
          (Table.find?_insert?_self inserted) claims found kind body
          recorded
      unfold operatorCommandBody
      rw [succeeds_bind_of_ok claimStep]
      exact succeeds_committing repeats
  | decided claim decision free claims unclaimed decides persistable =>
      rcases operatorCommandBody_decided narrow free claims unclaimed
        decides persistable with ⟨_, after, returned, _⟩
      exact ⟨_, after, returned⟩

end AerialRescue.Gateway
