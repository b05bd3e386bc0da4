import AerialRescue.Gateway.Ingress
import AerialRescue.Store.Audit
import AerialRescue.Store.Authority
import AerialRescue.Store.Claims
import AerialRescue.Store.Outbox

/-!
# Command-gateway ports

The world of one guaranteed delivery is the durable database and a journal of
the effects outside it: a commit, an acceptance, a rejection.  The handlers are
written against two ports, as in the source: the operations of the
authorization transaction, and the settlement of the message.  A handler's
transaction is one step on the database that commits all of its writes or none.
-/

namespace AerialRescue.Gateway

open AerialRescue.Contracts
open AerialRescue.Contracts.Canonical
open AerialRescue.Contracts.Digest
open AerialRescue.Contracts.Envelopes
open AerialRescue.Contracts.Instant
open AerialRescue.Contracts.Topics
open AerialRescue.Domain.Approvals
open AerialRescue.Gateway.Ingress
open AerialRescue.Lib.Guard
open AerialRescue.Lib.Transaction
open AerialRescue.Store

/-! ## Exceptions -/

/-- `AuthorizationRefusal` -/
inductive AuthorizationRefusal where
  | ingressKind
  | duplicateResult
  | idempotencyResult
deriving DecidableEq

/-- `ApprovalIngressRefusal` and `ProgressionRefusal` -/
inductive HandlerRefusal where
  | ingressKind
  | duplicateResult
deriving DecidableEq

/-- `ArtifactRefusal` -/
inductive ArtifactRefusal where
  | sequence
  | refusalReason
  | approvalIdentity
deriving DecidableEq

/-- `StoreAdapterRefusal` -/
inductive StoreAdapterRefusal where
  | action
  | expiry
  | identity
  | decision
  | confirmation
deriving DecidableEq

/-- `PublicationRefusal` and `ApplicationPublicationRefusal` -/
inductive PublicationRefusal where
  | binding
  | headers
  | state
  | confirmation
  | brokerOutcome
deriving DecidableEq

/-- Every exception that a gateway handler can end with. -/
inductive Failure where
  | ingress (refusal : IngressRefusal)
  | authorization (refusal : AuthorizationRefusal)
  | approvalIngress (refusal : HandlerRefusal)
  | progression (refusal : HandlerRefusal)
  | artifact (refusal : ArtifactRefusal)
  | adapter (refusal : StoreAdapterRefusal)
  | publication (refusal : PublicationRefusal)
  | store (failure : StoreFailure)
  | envelope (failure : EnvelopeFailure)
  | canonicalization (refusal : Refusal)
  | digest (failure : DigestFailure)
  /-- The `TypeError` of comparing a digest that is not ASCII. -/
  | comparison
  /-- A plain `ValueError`. -/
  | value
  /-- The `OverflowError` of a date outside the calendar. -/
  | overflow
  /-- The process stopped, or the broker refused the settlement. -/
  | interrupted
deriving DecidableEq

/-! ## Deliveries and clocks -/

/-- One guaranteed message. -/
structure GuaranteedDelivery where
  topic : String
  payload : Bytes
deriving DecidableEq

/-- The two approval clocks and the process epoch. -/
structure AuthorizationClock where
  reading : ClockReading
  runtimeEpoch : String
deriving DecidableEq

/-- Every output identity minted outside broker input. -/
structure AuthorizationStamp where
  producerId : String
  commandEventId : String
  auditRecordId : String
  auditEventId : String
  occurredAt : String
  commandSequence : Int
  auditSequence : Int
  traceparent : String
  tracestate : Option String
deriving DecidableEq

/-! ## The world of a delivery -/

/-- An effect of a handler outside its transaction. -/
inductive Effect where
  | committed
  | accepted (eventId : String)
  | rejected
deriving DecidableEq

/-- The durable database and the journal of the other effects. -/
structure World where
  database : Database
  journal : List Effect

/-- A handler step. -/
abbrev Handler (α : Type) := Tx World Failure α

/-- A step of a handler's transaction. -/
abbrev Body (α : Type) := Tx Database Failure α

/-- `session.transaction`: commit the body's writes, or restore the store. -/
def transaction {α : Type} (body : Body α) : Handler α :=
  fun world =>
    match exec (atomically body) world.database with
    | (.ok value, database) =>
        (.ok value,
          { database, journal := world.journal ++ [.committed] })
    | (.error failure, database) => (.error failure, { world with database })

/-- A transaction that returns committed exactly its body's writes. -/
theorem transaction_ok {α : Type} {body : Body α} {before after : World}
    {value : α} :
    exec (transaction body) before = (.ok value, after) ↔
      exec body before.database = (.ok value, after.database) ∧
        after.journal = before.journal ++ [.committed] := by
  rcases after with ⟨database, journal⟩
  have unfolded :
      exec (transaction body) before =
        match exec (atomically body) before.database with
        | (.ok value, database) =>
            (.ok value,
              { database, journal := before.journal ++ [.committed] })
        | (.error failure, database) =>
            (.error failure, { before with database }) := rfl
  rw [unfolded, ← exec_atomically_eq_ok]
  rcases exec (atomically body) before.database with ⟨result, final⟩
  cases result with
  | ok found =>
      simp only [Prod.mk.injEq, Except.ok.injEq, World.mk.injEq]
      constructor
      · rintro ⟨rfl, rfl, rfl⟩
        exact ⟨⟨rfl, rfl⟩, rfl⟩
      · rintro ⟨⟨rfl, rfl⟩, rfl⟩
        exact ⟨rfl, rfl, rfl⟩
  | error failure => simp

/-- A transaction that raises leaves the world as it found it. -/
theorem transaction_error {α : Type} {body : Body α} {before after : World}
    {failure : Failure}
    (raised : exec (transaction body) before = (.error failure, after)) :
    after = before ∧
      ∃ final, exec body before.database = (.error failure, final) := by
  have unfolded :
      exec (transaction body) before =
        match exec (atomically body) before.database with
        | (.ok value, database) =>
            (.ok value,
              { database, journal := before.journal ++ [.committed] })
        | (.error failure, database) =>
            (.error failure, { before with database }) := rfl
  rw [unfolded] at raised
  rcases outcome : exec (atomically body) before.database with ⟨result, final⟩
  rw [outcome] at raised
  cases result with
  | ok value => simp at raised
  | error found =>
      simp only [Prod.mk.injEq, Except.error.injEq] at raised
      rcases raised with ⟨rfl, rfl⟩
      refine ⟨by rw [atomically_rolls_back outcome], ?_⟩
      rcases inner : exec body before.database with ⟨value, middle⟩
      simp only [exec, atomically, ExceptT.run] at outcome inner
      rw [inner] at outcome
      cases value with
      | ok _ => simp at outcome
      | error _ =>
          simp only [Prod.mk.injEq, Except.error.injEq] at outcome
          exact ⟨middle, by rw [outcome.1]⟩

/-! ## Settlement and refusal -/

/-- The settlement capability a handler receives, which no table belongs to. -/
structure SettlementPort where
  accept : String → Handler Unit
  reject : Handler Unit
  acceptKeeps : ∀ eventId world,
    (exec (accept eventId) world).2.database = world.database
  rejectKeeps : ∀ world, (exec reject world).2.database = world.database

/-- Append one effect to the journal. -/
def record (effect : Effect) : Handler Unit :=
  fun world => (.ok (), { world with journal := world.journal ++ [effect] })

@[simp]
theorem exec_record (effect : Effect) (world : World) :
    exec (record effect) world =
      (.ok (), { world with journal := world.journal ++ [effect] }) :=
  rfl

/-- A healthy settlement, bound to one message. -/
def boundSettlement : SettlementPort where
  accept eventId := record (.accepted eventId)
  reject := record .rejected
  acceptKeeps _ _ := rfl
  rejectKeeps _ := rfl

/-- A settlement whose process stops, or whose broker refuses. -/
def interruptedSettlement : SettlementPort where
  accept _ := raise .interrupted
  reject := raise .interrupted
  acceptKeeps _ _ := rfl
  rejectKeeps _ := rfl

/-- The consumer name of every gateway row. -/
def consumer : String := "command-gateway"

/-- `refusal.candidate`: safe context and the digest of the exact bytes. -/
def candidate (host : Host) (delivery : GuaranteedDelivery)
    (channel refusalCode : String) : BrokerRefusalCandidate where
  consumer := consumer
  source :=
    match decodeEnvelope host delivery.payload with
    | .ok envelope => some envelope.source
    | .error _ => none
  family :=
    match parseTopic delivery.topic with
    | .ok topic => some (literalSuffix topic.family)
    | .error _ => none
  channel := channel
  refusalCode := refusalCode
  rawDigest := host.sha256 delivery.payload

/-- `reject_after_refusal`: commit the evidence, then reject the message. -/
def rejectAfterRefusal (host : Host) (observedAt : String)
    (delivery : GuaranteedDelivery) (channel refusalCode : String)
    (settlement : SettlementPort) : Handler Unit := do
  transaction (rethrow Failure.store
    (recordRefusal
      ((candidate host delivery channel refusalCode).fact observedAt)))
  settlement.reject

/-- Two databases that differ in the refusal ledger at most. -/
def SameButRefusals (before after : Database) : Prop :=
  after = { before with refusals := after.refusals }

theorem SameButRefusals.refl (database : Database) :
    SameButRefusals database database :=
  rfl

/-- Whatever a transaction ends with, the world is the old or the committed. -/
theorem transaction_cases {α : Type} (body : Body α) (before : World) :
    (∃ value database,
      exec body before.database = (.ok value, database) ∧
        exec (transaction body) before =
          (.ok value,
            { database, journal := before.journal ++ [.committed] })) ∨
      ¬Succeeds body before.database ∧
        ∃ failure,
          exec (transaction body) before = (.error failure, before) := by
  rcases outcome : exec (transaction body) before with ⟨result, after⟩
  cases result with
  | ok value =>
      rcases transaction_ok.1 outcome with ⟨returned, journal⟩
      exact .inl ⟨value, after.database, returned, by rw [← journal]⟩
  | error failure =>
      rcases transaction_error outcome with ⟨rfl, final, raised⟩
      refine .inr ⟨?_, failure, rfl⟩
      rintro ⟨value, database, returned⟩
      rw [raised] at returned
      simp at returned

/-- Refusing a message touches the refusal ledger only. -/
theorem rejectAfterRefusal_database (host : Host) (observedAt : String)
    (delivery : GuaranteedDelivery) (channel refusalCode : String)
    (settlement : SettlementPort) (before : World) :
    SameButRefusals before.database
      (exec (rejectAfterRefusal host observedAt delivery channel refusalCode
        settlement) before).2.database := by
  unfold rejectAfterRefusal
  rcases transaction_cases (rethrow Failure.store (recordRefusal
      ((candidate host delivery channel refusalCode).fact observedAt)))
      before with
    ⟨value, database, recorded, returned⟩ | ⟨_, failure, raised⟩
  · rw [exec_bind_of_ok returned, settlement.rejectKeeps]
    simp only [exec_rethrow_eq_ok] at recorded
    rcases recordRefusal_ok recorded with same | ⟨refusals, _, same⟩
    · rw [same]
      exact SameButRefusals.refl _
    · rw [same]
      rfl
  · rw [exec_bind_of_error raised]
    exact SameButRefusals.refl _

/-! ## Guaranteed handlers -/

/-- The code of a message whose family a handler does not own. -/
def unexpectedFamily : String := "unexpected-family"

/-- `_identity` of the gateway's three ingress families. -/
def inboxIdentity (host : Host) (envelope : Envelope) (missionId : String) :
    Except Failure InboxIdentity := do
  let bytes ← recast Failure.canonicalization
    (canonicalBytes host (.object (envelopeDocument envelope)))
  pure
    { consumer
      source := envelope.source
      eventId := envelope.id
      missionId
      canonicalDigest := host.sha256 bytes }

/-- Refuse a message and raise why. -/
def refuse {α : Type} (host : Host) (observedAt : String)
    (delivery : GuaranteedDelivery) (channel refusalCode : String)
    (settlement : SettlementPort) (failure : Failure) : Handler α := do
  rejectAfterRefusal host observedAt delivery channel refusalCode settlement
  raise failure

/-- Run a transaction under the inbox identity, then accept the message. -/
def process {α : Type} (host : Host) (envelope : Envelope)
    (missionId : String) (body : InboxIdentity → Body α)
    (settlement : SettlementPort) : Handler α := do
  let identity ← lift id (inboxIdentity host envelope missionId)
  let result ← transaction (body identity)
  settlement.accept envelope.id
  pure result

/--
The shape of the three guaranteed handlers: validate the delivery, refuse it on
the handler's channel, or run the handler's transaction on it and accept it
after the commit.
-/
def handleDelivery {payload α : Type} (host : Host) (channel : String)
    (kind : Failure) (select : AcceptedIngress → Option (Accepted payload))
    (missionId : payload → String)
    (body : Accepted payload → InboxIdentity → Body α)
    (observedAt : String) (settlement : SettlementPort)
    (delivery : GuaranteedDelivery) : Handler α :=
  match acceptIngress host delivery.payload delivery.topic with
  | .error refusal =>
      refuse host observedAt delivery channel refusal.code settlement
        (.ingress refusal)
  | .ok accepted =>
      match select accepted with
      | none =>
          refuse host observedAt delivery channel unexpectedFamily settlement
            kind
      | some ingress =>
          process host ingress.envelope (missionId ingress.payload)
            (body ingress) settlement

/-- A refused message touches the refusal ledger only. -/
theorem refuse_database {α : Type} (host : Host) (observedAt : String)
    (delivery : GuaranteedDelivery) (channel refusalCode : String)
    (settlement : SettlementPort) (failure : Failure) (before : World) :
    SameButRefusals before.database
      (exec (refuse host observedAt delivery channel refusalCode settlement
        failure : Handler α) before).2.database := by
  have refused := rejectAfterRefusal_database host observedAt delivery
    channel refusalCode settlement before
  unfold refuse
  rcases outcome : exec (rejectAfterRefusal host observedAt delivery channel
      refusalCode settlement) before with ⟨result, after⟩
  rw [outcome] at refused
  cases result with
  | ok value =>
      rw [exec_bind_of_ok outcome]
      exact refused
  | error raised =>
      rw [exec_bind_of_error outcome]
      exact refused

/-- Returning a value after a step leaves the step's database. -/
theorem exec_bind_database {α β : Type} {body : Handler α} {value : β}
    {before : World} {database : Database}
    (keeps : (exec body before).2.database = database) :
    (exec (do let _ ← body; pure value : Handler β) before).2.database =
      database := by
  rw [exec_bind]
  rcases outcome : exec body before with ⟨result, after⟩
  rw [outcome] at keeps
  cases result <;> exact keeps

/--
Whatever a processed delivery ends with, the database is the old one or the
one that its transaction committed.
-/
theorem process_database {α : Type} (host : Host) (envelope : Envelope)
    (missionId : String) (body : InboxIdentity → Body α)
    (settlement : SettlementPort) (before : World) :
    (exec (process host envelope missionId body settlement)
        before).2.database = before.database ∨
      ∃ identity result,
        inboxIdentity host envelope missionId = .ok identity ∧
          exec (body identity) before.database =
            (.ok result,
              (exec (process host envelope missionId body settlement)
                before).2.database) := by
  unfold process
  cases inboxIdentity host envelope missionId with
  | error failure =>
      rw [exec_bind_of_error (exec_lift_error _ _ _)]
      exact .inl rfl
  | ok identity =>
      rw [exec_bind_of_ok (exec_lift_ok _ _ _)]
      rcases transaction_cases (body identity) before with
        ⟨result, database, returned, committed⟩ | ⟨_, failure, raised⟩
      · refine .inr ⟨identity, result, rfl, ?_⟩
        rw [exec_bind_of_ok committed, exec_bind_database]
        · exact returned
        · exact settlement.acceptKeeps _ _
      · rw [exec_bind_of_error raised]
        exact .inl rfl

/-- A transaction that returns is committed, whatever the settlement does. -/
theorem process_committed {α : Type} {host : Host} {envelope : Envelope}
    {missionId : String} {body : InboxIdentity → Body α}
    {identity : InboxIdentity} {result : α} {before : World}
    {database : Database} (settlement : SettlementPort)
    (identified : inboxIdentity host envelope missionId = .ok identity)
    (returned :
      exec (body identity) before.database = (.ok result, database)) :
    exec (process host envelope missionId body settlement) before =
      exec
        (do
          settlement.accept envelope.id
          pure result)
        ⟨database, before.journal ++ [.committed]⟩ := by
  have committed :
      exec (transaction (body identity)) before =
        (.ok result, ⟨database, before.journal ++ [.committed]⟩) :=
    transaction_ok.2 ⟨returned, rfl⟩
  unfold process
  rw [identified, exec_bind_of_ok (exec_lift_ok _ _ _),
    exec_bind_of_ok committed]

/-- A processed delivery that returns has the result of its transaction. -/
theorem process_returned {α : Type} {host : Host} {envelope : Envelope}
    {missionId : String} {body : InboxIdentity → Body α}
    {identity : InboxIdentity} {settlement : SettlementPort} {result : α}
    {before after : World}
    (identified : inboxIdentity host envelope missionId = .ok identity)
    (returned :
      exec (process host envelope missionId body settlement) before =
        (.ok result, after)) :
    exec (body identity) before.database = (.ok result, after.database) := by
  simp only [process, exec_bind_eq_ok, exec_lift_eq_ok, identified,
    Except.ok.injEq, exec_pure, Prod.mk.injEq] at returned
  rcases returned with ⟨_, _, ⟨rfl, rfl⟩, _, committed, transacted, _, _,
    accepted, rfl, rfl⟩
  have kept := settlement.acceptKeeps envelope.id committed
  rw [accepted] at kept
  rw [kept]
  exact (transaction_ok.1 transacted).1

section Delivery

variable {payload α : Type} (host : Host) (channel : String)
  (kind : Failure) (select : AcceptedIngress → Option (Accepted payload))
  (missionId : payload → String)
  (body : Accepted payload → InboxIdentity → Body α)
  (observedAt : String) (settlement : SettlementPort)
  (delivery : GuaranteedDelivery)

theorem handleDelivery_of_error {refusal : IngressRefusal}
    (refused :
      acceptIngress host delivery.payload delivery.topic =
        .error refusal) :
    handleDelivery host channel kind select missionId body observedAt
        settlement delivery =
      refuse host observedAt delivery channel refusal.code settlement
        (.ingress refusal) := by
  rw [handleDelivery, refused]

theorem handleDelivery_of_none {accepted : AcceptedIngress}
    (admitted :
      acceptIngress host delivery.payload delivery.topic = .ok accepted)
    (other : select accepted = none) :
    handleDelivery host channel kind select missionId body observedAt
        settlement delivery =
      refuse host observedAt delivery channel unexpectedFamily settlement
        kind := by
  simp only [handleDelivery, admitted, other]

theorem handleDelivery_of_some {accepted : AcceptedIngress}
    {ingress : Accepted payload}
    (admitted :
      acceptIngress host delivery.payload delivery.topic = .ok accepted)
    (selected : select accepted = some ingress) :
    handleDelivery host channel kind select missionId body observedAt
        settlement delivery =
      process host ingress.envelope (missionId ingress.payload)
        (body ingress) settlement := by
  simp only [handleDelivery, admitted, selected]

/--
Whatever a handler ends with, the database is the old one up to the refusal
ledger, or the one that its transaction committed.
-/
theorem handleDelivery_database (before : World) :
    SameButRefusals before.database
        (exec (handleDelivery host channel kind select missionId body
          observedAt settlement delivery) before).2.database ∨
      ∃ accepted ingress identity result,
        acceptIngress host delivery.payload delivery.topic = .ok accepted ∧
          select accepted = some ingress ∧
          inboxIdentity host ingress.envelope (missionId ingress.payload) =
            .ok identity ∧
          exec (body ingress identity) before.database =
            (.ok result,
              (exec (handleDelivery host channel kind select missionId body
                observedAt settlement delivery) before).2.database) := by
  cases admitted : acceptIngress host delivery.payload delivery.topic with
  | error refusal =>
      rw [handleDelivery_of_error _ _ _ _ _ _ _ _ _ admitted]
      exact .inl (refuse_database host observedAt delivery _ _ settlement _
        before)
  | ok accepted =>
      cases selected : select accepted with
      | none =>
          rw [handleDelivery_of_none _ _ _ _ _ _ _ _ _ admitted selected]
          exact .inl (refuse_database host observedAt delivery _ _
            settlement _ before)
      | some ingress =>
          rw [handleDelivery_of_some _ _ _ _ _ _ _ _ _ admitted selected]
          rcases process_database host ingress.envelope
              (missionId ingress.payload) (body ingress) settlement
              before with
            same | ⟨identity, result, identified, returned⟩
          · rw [same]
            exact .inl (SameButRefusals.refl _)
          · exact .inr ⟨accepted, ingress, identity, result, rfl, selected,
              identified, returned⟩

end Delivery

/-! ## The authorization transaction -/

/-- The complete binding held under the approval row lock. -/
structure BoundApproval where
  approvalId : String
  approval : Approval
  durableApproval : StoredApproval
  evidenceDecisionId : String
  evidenceDecisionDigest : String
  evidenceDecisionVersion : Int
  action : ApprovalAction
  runtimeEpoch : Option String

/-- `AuthorizationTransaction`: the effects of one authorization. -/
structure AuthorizationTransaction where
  claim : InboxIdentity → Body InboxOutcome
  claimCommand : StoredClaim → Body ClaimOutcome
  loadProposal : String → Body StoredProposal
  loadDecision : String → Body StoredEvidenceDecision
  loadApproval : String → Body BoundApproval
  persistConsumed : BoundApproval → Body Unit
  appendAudit : AuditRecord → Body Unit
  stageApplication : StagedApplicationEvent → Body Unit
  stageCommand : StagedCommand → Body Unit
  initializeProgress : CommandIdentity → String → Body Unit
  recordResult : String → Bytes → Body Unit
  complete : InboxIdentity → Bytes → String → Body Unit
  commit : Body Unit

end AerialRescue.Gateway
