import AerialRescue.Gateway.EscalationSoundness
import AerialRescue.Gateway.Service
import AerialRescue.Lib.Run

/-!
# Atomicity of operator-command handling

A call of `handle_operator_command` ends in one of three ways: a step up to the
commit raises and no table of the authorization has changed, or the transaction
commits and the message is accepted, or it commits and the acceptance raises.
What a committed delivery wrote to the inbox stays there over every later run,
so that its exact redelivery answers from storage and writes nothing.
-/

namespace AerialRescue.Gateway

open AerialRescue.Contracts
open AerialRescue.Contracts.Canonical
open AerialRescue.Contracts.Envelopes
open AerialRescue.Domain.Approvals
open AerialRescue.Gateway.Ingress
open AerialRescue.Lib
open AerialRescue.Lib.Run
open AerialRescue.Lib.Transaction
open AerialRescue.Store

/-! ## How a call ends -/

/-- A settlement whose two operations settle the message, or raise. -/
def settlementWith (acceptance rejection : Option Failure) :
    SettlementPort where
  accept eventId := acceptance.elim (record (.accepted eventId)) raise
  reject := rejection.elim (record .rejected) raise
  acceptKeeps _ _ := by cases acceptance <;> rfl
  rejectKeeps _ := by cases rejection <;> rfl

section Call

variable (host : Host) (port : AuthorizationTransaction)
  (delivery : GuaranteedDelivery) (stamp : AuthorizationStamp)
  (now : AuthorizationClock)

/-- The transaction of a delivery returns a result and leaves a database. -/
def Commits (before : Database) (result : AuthorizationResult)
    (after : Database) : Prop :=
  ∃ ingress identity,
    acceptIngress host delivery.payload delivery.topic =
        .ok (.operatorCommand ingress) ∧
      inboxIdentity host ingress.envelope ingress.payload.missionId =
        .ok identity ∧
      exec (operatorCommandBody host port ingress identity stamp now)
        before = (.ok result, after)

/-- How a call of the handler ends, whatever its ports do. -/
inductive Ends (acceptance : Option Failure) (before : World) :
    Except Failure AuthorizationResult × World → Prop where
  /-- A step up to the commit raised. -/
  | raised (failure : Failure) (after : World) (suffix : List Effect)
      (uncommitted :
        ∀ result database,
          ¬Commits host port delivery stamp now before.database result
            database)
      (same : SameButRefusals before.database after.database)
      (journal : after.journal = before.journal ++ suffix)
      (unaccepted : ∀ eventId, .accepted eventId ∉ suffix) :
      Ends acceptance before (.error failure, after)
  /-- The transaction committed, and then the message was accepted. -/
  | accepted (result : AuthorizationResult) (database : Database)
      (eventId : String)
      (commits :
        Commits host port delivery stamp now before.database result
          database)
      (settled : acceptance = none) :
      Ends acceptance before
        (.ok result,
          ⟨database, before.journal ++ [.committed, .accepted eventId]⟩)
  /-- The transaction committed, and then the acceptance raised. -/
  | interrupted (failure : Failure) (result : AuthorizationResult)
      (database : Database)
      (commits :
        Commits host port delivery stamp now before.database result
          database)
      (unsettled : acceptance = some failure) :
      Ends acceptance before
        (.error failure, ⟨database, before.journal ++ [.committed]⟩)

end Call

variable {host : Host} {port : AuthorizationTransaction}
  {delivery : GuaranteedDelivery} {stamp : AuthorizationStamp}
  {now : AuthorizationClock}

/-- A refused message raises without an acceptance. -/
theorem refuse_raises {α : Type} (host : Host) (observedAt : String)
    (delivery : GuaranteedDelivery) (channel code : String)
    (acceptance rejection : Option Failure) (failure : Failure)
    (before : World) :
    ∃ raised suffix,
      (exec (refuse host observedAt delivery channel code
          (settlementWith acceptance rejection) failure : Handler α)
          before).1 = .error raised ∧
        (exec (refuse host observedAt delivery channel code
          (settlementWith acceptance rejection) failure : Handler α)
          before).2.journal = before.journal ++ suffix ∧
        ∀ eventId, .accepted eventId ∉ suffix := by
  simp only [refuse, rejectAfterRefusal, bind_assoc]
  rcases transaction_cases (rethrow Failure.store (recordRefusal
      ((candidate host delivery channel code).fact observedAt))) before with
    ⟨value, database, _, committed⟩ | ⟨_, raised, failed⟩
  · rw [exec_bind_of_ok committed]
    cases rejection with
    | none =>
        refine ⟨failure, [.committed, .rejected], rfl, ?_, by simp⟩
        simp [settlementWith, exec_bind]
    | some reason =>
        exact ⟨reason, [.committed], rfl, rfl, by simp⟩
  · rw [exec_bind_of_error failed]
    exact ⟨raised, [], rfl, by simp, by simp⟩

/-- A refused delivery ends before any commit of the authorization. -/
theorem ends_refuse {observedAt channel code : String}
    {acceptance rejection : Option Failure} {failure : Failure}
    {before : World}
    (uncommitted :
      ∀ result database,
        ¬Commits host port delivery stamp now before.database result
          database) :
    Ends host port delivery stamp now acceptance before
      (exec (refuse host observedAt delivery channel code
        (settlementWith acceptance rejection) failure) before) := by
  have same := refuse_database (α := AuthorizationResult) host observedAt
    delivery channel code (settlementWith acceptance rejection) failure
    before
  rcases refuse_raises (α := AuthorizationResult) host observedAt delivery
      channel code acceptance rejection failure before with
    ⟨raised, suffix, result, journal, unaccepted⟩
  rcases outcome : exec (refuse host observedAt delivery channel code
      (settlementWith acceptance rejection) failure) before with
    ⟨found, after⟩
  rw [outcome] at same result journal
  simp only at result journal
  rw [result]
  exact .raised raised after suffix uncommitted same journal unaccepted

/-- A call that raised before its commit changed and accepted nothing. -/
theorem ends_unchanged {acceptance : Option Failure} {before : World}
    {failure : Failure}
    (uncommitted :
      ∀ result database,
        ¬Commits host port delivery stamp now before.database result
          database) :
    Ends host port delivery stamp now acceptance before
      (.error failure, before) :=
  .raised failure before [] uncommitted (SameButRefusals.refl _)
    (by simp) (by simp)

/-- An accepted command ends by its transaction and then its settlement. -/
theorem ends_process {ingress : OperatorCommandIngress}
    {acceptance rejection : Option Failure} {before : World}
    (admitted :
      acceptIngress host delivery.payload delivery.topic =
        .ok (.operatorCommand ingress)) :
    Ends host port delivery stamp now acceptance before
      (exec (process host ingress.envelope ingress.payload.missionId
        (fun identity =>
          operatorCommandBody host port ingress identity stamp now)
        (settlementWith acceptance rejection)) before) := by
  have commits_of :
      ∀ result database,
        Commits host port delivery stamp now before.database result
            database →
          ∃ identity,
            inboxIdentity host ingress.envelope ingress.payload.missionId =
                .ok identity ∧
              exec (operatorCommandBody host port ingress identity stamp
                now) before.database = (.ok result, database) := by
    rintro result database ⟨found, identity, accepted, identified,
      returned⟩
    rw [admitted] at accepted
    cases accepted
    exact ⟨identity, identified, returned⟩
  cases identified : inboxIdentity host ingress.envelope
      ingress.payload.missionId with
  | error failure =>
      rw [process, identified, exec_bind_of_error (exec_lift_error _ _ _)]
      refine ends_unchanged ?_
      intro result database commits
      rcases commits_of result database commits with ⟨identity, found, _⟩
      rw [identified] at found
      cases found
  | ok identity =>
      rcases transaction_cases
          (operatorCommandBody host port ingress identity stamp now)
          before with
        ⟨result, database, returned, _⟩ | ⟨failed, failure, raised⟩
      · rw [process_committed _ identified returned]
        have commits :
            Commits host port delivery stamp now before.database result
              database :=
          ⟨ingress, identity, admitted, identified, returned⟩
        cases acceptance with
        | none =>
            have journal :
                before.journal ++
                    [.committed, .accepted ingress.envelope.id] =
                  before.journal ++ [.committed] ++
                    [.accepted ingress.envelope.id] := by
              simp
            have ended := Ends.accepted result database
              ingress.envelope.id commits rfl
            rw [journal] at ended
            exact ended
        | some failure =>
            exact .interrupted failure result database commits rfl
      · rw [process, identified, exec_bind_of_ok (exec_lift_ok _ _ _),
          exec_bind_of_error raised]
        refine ends_unchanged ?_
        intro result database commits
        rcases commits_of result database commits with
          ⟨other, found, returned⟩
        rw [identified] at found
        cases found
        exact failed ⟨result, database, returned⟩

/-- Every call of the handler ends in one of the three ways. -/
theorem handleOperatorCommand_ends (observedAt : String)
    (acceptance rejection : Option Failure) (before : World) :
    Ends host port delivery stamp now acceptance before
      (exec (handleOperatorCommand host port observedAt
        (settlementWith acceptance rejection) delivery stamp now)
        before) := by
  unfold handleOperatorCommand
  cases admitted : acceptIngress host delivery.payload delivery.topic with
  | error refusal =>
      rw [handleDelivery_of_error _ _ _ _ _ _ _ _ _ admitted]
      refine ends_refuse ?_
      rintro result database ⟨ingress, _, accepted, _⟩
      rw [admitted] at accepted
      cases accepted
  | ok accepted =>
      cases selected : operatorCommand? accepted with
      | none =>
          rw [handleDelivery_of_none _ _ _ _ _ _ _ _ _ admitted selected]
          refine ends_refuse ?_
          rintro result database ⟨ingress, _, found, _⟩
          rw [admitted] at found
          cases found
          simp [operatorCommand?] at selected
      | some ingress =>
          have command : accepted = .operatorCommand ingress := by
            cases accepted <;> simp_all [operatorCommand?]
          rw [command] at admitted
          rw [handleDelivery_of_some _ _ _ _ _ _ _ _ _ admitted rfl]
          exact ends_process admitted

/-! ## Redelivery -/

theorem grown_of_same {before after : Database}
    (same : after.inbox = before.inbox) :
    before.inbox.rows <+: after.inbox.rows :=
  same ▸ List.prefix_rfl

/-- No step changes a row of the inbox. -/
theorem inbox_grown {before after : Database}
    (effect : StepEffect host before after) :
    before.inbox.rows <+: after.inbox.rows := by
  cases effect with
  | refusal same => exact grown_of_same (by rw [same])
  | command _ _ _ _ committed =>
      cases committed with
      | redelivery _ _ _ _ _ _ unchanged =>
          exact grown_of_same (by rw [unchanged])
      | prior _ _ _ inbox => exact ⟨_, inbox.symm⟩
      | decided _ _ _ _ _ written => exact ⟨_, written.inbox.symm⟩
  | approval bound => exact bound.inbox
  | result moved => exact moved.inbox
  | publication published => exact grown_of_same (by rw [published.frame])

theorem run_inbox_grown (host : Host) (start : World) (steps : List GatewayStep) :
    start.database.inbox.rows <+:
      (run (gatewayStep host) start steps).database.inbox.rows := by
  induction steps generalizing start with
  | nil => exact List.prefix_rfl
  | cons step rest inductionHypothesis =>
      exact (inbox_grown (gatewayStep_effect start step)).trans
        (inductionHypothesis (gatewayStep host start step))

/-- A committed delivery leaves its result in the inbox. -/
theorem committed_inbox {ingress : OperatorCommandIngress}
    {identity : InboxIdentity} {before after : Database}
    {result : AuthorizationResult}
    (committed :
      Committed host before after ingress identity stamp now result) :
    ∃ row processedAt,
      after.inbox.find? identity.key = some row ∧
        row.identity.canonicalDigest = identity.canonicalDigest ∧
        row.completion = some (result.result, processedAt) := by
  cases committed with
  | redelivery row _ processedAt found exact completed unchanged =>
      rw [unchanged]
      exact ⟨row, processedAt, found, exact, completed⟩
  | prior result free frame inbox =>
      refine ⟨⟨identity, some (result, stamp.occurredAt)⟩,
        stamp.occurredAt, Table.find?_eq_some.2 ⟨?_, rfl⟩, rfl, rfl⟩
      simp [inbox]
  | decided claim decision artifacts claims made written =>
      refine ⟨⟨identity, some (artifacts.result, stamp.occurredAt)⟩,
        stamp.occurredAt, Table.find?_eq_some.2 ⟨?_, rfl⟩, rfl, rfl⟩
      simp [written.inbox]

/-- A refused command leaves every approval as it was. -/
theorem committed_refused {ingress : OperatorCommandIngress}
    {identity : InboxIdentity} {before after : Database}
    {result : AuthorizationResult}
    (committed :
      Committed host before after ingress identity stamp now result)
    (refused : result.outcome = .refused) :
    after.approvals = before.approvals := by
  cases committed with
  | redelivery => simp at refused
  | prior => simp at refused
  | decided claim decision artifacts claims made written =>
      rw [written.approvals]
      cases decision with
      | authorized approval => simp [Decision.outcome] at refused
      | refused reason => rfl

/-- A delivery whose row is complete is answered from storage. -/
theorem operatorCommandBody_redelivered {ingress : OperatorCommandIngress}
    {identity : InboxIdentity} {database : Database} {row : InboxRow}
    {result : Bytes} {processedAt : String}
    (narrow : identity.source.length ≤ sourceLength)
    (found : database.inbox.find? identity.key = some row)
    (exact : row.identity.canonicalDigest = identity.canonicalDigest)
    (completed : row.completion = some (result, processedAt)) :
    exec (operatorCommandBody host (storeAuthorizationTransaction host)
      ingress identity stamp now) database =
      (.ok ⟨.duplicate, result, none⟩, database) := by
  have claimed :
      exec ((storeAuthorizationTransaction host).claim identity) database =
        (.ok ⟨.duplicate, some result⟩, database) :=
    exec_rethrow_eq_ok.2
      (claimInbox_repeated narrow found exact completed)
  unfold operatorCommandBody
  rw [exec_bind_of_ok claimed]
  rfl

/-- After any run, the exact redelivery of a committed delivery repeats it. -/
theorem redelivery_repeats {before after : Database}
    {result : AuthorizationResult}
    (commits :
      Commits host (storeAuthorizationTransaction host) delivery stamp now
        before result after)
    (journal : List Effect) (steps : List GatewayStep) (observedAt : String)
    (laterStamp : AuthorizationStamp) (laterNow : AuthorizationClock) :
    ∃ eventId,
      exec (handleOperatorCommand host (storeAuthorizationTransaction host)
          observedAt boundSettlement delivery laterStamp laterNow)
          (run (gatewayStep host) ⟨after, journal⟩ steps) =
        (.ok ⟨.duplicate, result.result, none⟩,
          ⟨(run (gatewayStep host) ⟨after, journal⟩ steps).database,
            (run (gatewayStep host) ⟨after, journal⟩ steps).journal ++
              [.committed, .accepted eventId]⟩) := by
  rcases commits with ⟨ingress, identity, admitted, identified, returned⟩
  have narrow := (commandFits_of_succeeds ⟨result, after, returned⟩).1
  rcases committed_inbox (operatorCommandBody_ok returned) with
    ⟨row, processedAt, found, exact, completed⟩
  have held := Table.find?_of_grown
    (run_inbox_grown host ⟨after, journal⟩ steps) found
  refine ⟨ingress.envelope.id, ?_⟩
  unfold handleOperatorCommand
  rw [handleDelivery_of_some _ _ _ _ _ _ _ _ _ admitted rfl,
    process_committed _ identified
      (operatorCommandBody_redelivered narrow held exact completed),
    boundSettlement, exec_bind_of_ok (exec_record _ _), exec_pure,
    List.append_assoc]
  rfl

/--
Every call of the handler raises before its commit and leaves every table of
the authorization, or commits and then accepts the message, or commits and
raises at the acceptance.  A committed refusal leaves every approval, and after
any later run the exact redelivery of a committed delivery returns the same
bytes as a duplicate and changes no table.
-/
theorem handleOperatorCommand_atomic (host : Host) (observedAt : String)
    (delivery : GuaranteedDelivery) (stamp : AuthorizationStamp)
    (now : AuthorizationClock) (before : World) :
    (∀ port acceptance rejection,
      Ends host port delivery stamp now acceptance before
        (exec (handleOperatorCommand host port observedAt
          (settlementWith acceptance rejection) delivery stamp now)
          before)) ∧
      ∀ result after,
        Commits host (storeAuthorizationTransaction host) delivery stamp
            now before.database result after →
          (result.outcome = .refused →
            after.approvals = before.database.approvals) ∧
            ∀ journal steps laterObservedAt laterStamp laterNow,
              ∃ eventId,
                exec (handleOperatorCommand host
                    (storeAuthorizationTransaction host) laterObservedAt
                    boundSettlement delivery laterStamp laterNow)
                    (run (gatewayStep host) ⟨after, journal⟩ steps) =
                  (.ok ⟨.duplicate, result.result, none⟩,
                    ⟨(run (gatewayStep host) ⟨after, journal⟩
                        steps).database,
                      (run (gatewayStep host) ⟨after, journal⟩
                        steps).journal ++
                        [.committed, .accepted eventId]⟩) := by
  refine ⟨fun port acceptance rejection =>
    handleOperatorCommand_ends observedAt acceptance rejection before, ?_⟩
  intro result after commits
  refine ⟨?_, redelivery_repeats commits⟩
  rcases commits with ⟨_, _, _, _, returned⟩
  exact committed_refused (operatorCommandBody_ok returned)

/-! ## The sample delivery -/

/-- The sample delivery commits. -/
theorem sampleDelivery_commits :
    ∃ result after,
      Commits sampleHost (storeAuthorizationTransaction sampleHost)
        sampleDelivery sampleStamp sampleClock sampleDatabase result
        after := by
  rcases sampleCommits with ⟨_, artifacts, after, returned, _⟩
  exact ⟨_, after, sampleIngress, sampleIdentity, sampleAccepted,
    sampleIdentified, returned⟩

/-- The sample delivery, delivered twice, is answered twice and applied once. -/
theorem handleOperatorCommand_atomic_sample :
    ∃ result after eventId,
      Commits sampleHost (storeAuthorizationTransaction sampleHost)
          sampleDelivery sampleStamp sampleClock sampleDatabase result
          after ∧
        exec (handleOperatorCommand sampleHost
            (storeAuthorizationTransaction sampleHost)
            "2026-01-01T00:00:20.000Z" boundSettlement sampleDelivery
            sampleStamp sampleClock) ⟨after, [.committed]⟩ =
          (.ok ⟨.duplicate, result.result, none⟩,
            ⟨after, [.committed, .committed, .accepted eventId]⟩) := by
  rcases sampleDelivery_commits with ⟨result, after, commits⟩
  rcases (handleOperatorCommand_atomic sampleHost
      "2026-01-01T00:00:10.000Z" sampleDelivery sampleStamp sampleClock
      ⟨sampleDatabase, []⟩).2 result after commits with ⟨_, repeats⟩
  rcases repeats [.committed] [] "2026-01-01T00:00:20.000Z" sampleStamp
      sampleClock with ⟨eventId, repeated⟩
  exact ⟨result, after, eventId, commits, repeated⟩

/--
When the acceptance of the sample delivery raises after the commit, the call
raises and the inbox is not the one before the call.
-/
theorem interruptedAcceptance_committed :
    (exec (handleOperatorCommand sampleHost
        (storeAuthorizationTransaction sampleHost)
        "2026-01-01T00:00:10.000Z" interruptedSettlement sampleDelivery
        sampleStamp sampleClock) ⟨sampleDatabase, []⟩).1 =
        .error .interrupted ∧
      (exec (handleOperatorCommand sampleHost
        (storeAuthorizationTransaction sampleHost)
        "2026-01-01T00:00:10.000Z" interruptedSettlement sampleDelivery
        sampleStamp sampleClock) ⟨sampleDatabase, []⟩).2.database.inbox ≠
        sampleDatabase.inbox := by
  rcases sampleHandled "2026-01-01T00:00:10.000Z" interruptedSettlement with
    ⟨_, artifacts, after, handled, _, written⟩
  rw [handled]
  refine ⟨rfl, ?_⟩
  rw [exec_bind_database (interruptedSettlement.acceptKeeps _ _)]
  intro same
  have rows := written.inbox
  rw [same] at rows
  simp at rows

end AerialRescue.Gateway
