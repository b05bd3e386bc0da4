import AerialRescue.Gateway.Service

/-!
# When a guaranteed delivery is settled

`dispatch_guaranteed` answers four kinds of exceptions.  This module says
exactly when a call of it returns and settles its message once, over a healthy
store and broker: which rows have to be there, which have to be free, and which
pure checks of the handlers must not raise.
-/

namespace AerialRescue.Gateway

open AerialRescue.Contracts
open AerialRescue.Contracts.Canonical
open AerialRescue.Contracts.Topics
open AerialRescue.Domain.Approvals
open AerialRescue.Domain.Commands
open AerialRescue.Gateway.Ingress
open AerialRescue.Lib
open AerialRescue.Lib.Guard
open AerialRescue.Lib.Transaction
open AerialRescue.Store

/-! ## Settlement -/

/-- Whether an effect settles the message. -/
def Effect.settles : Effect → Bool
  | .accepted _ | .rejected => true
  | .committed => false

/-- A call returned, and settled its message exactly once. -/
def SettledOnce {α : Type} (before : World)
    (call : Except Failure α × World) : Prop :=
  ∃ value after suffix,
    call = (.ok value, after) ∧
      after.journal = before.journal ++ suffix ∧
      suffix.countP Effect.settles = 1

/-- The refusal ledger takes a fact: it is new, or the same as before. -/
def RefusalFits (database : Database) (fact : StoredBrokerRefusal) : Prop :=
  (fact.source.all fun source => source.length ≤ refusalSourceLength) = true ∧
    ∀ held,
      database.refusals.find? fact.key = some held →
        held.context = fact.context

/-- The ledger takes the refusal of a delivery on a channel. -/
def Refusable (host : Host) (database : Database) (observedAt : String)
    (delivery : GuaranteedDelivery) (channel code : String) : Prop :=
  RefusalFits database ((candidate host delivery channel code).fact observedAt)

theorem succeeds_recordRefusal {database : Database}
    {fact : StoredBrokerRefusal} :
    Succeeds (recordRefusal fact) database ↔ RefusalFits database fact := by
  simp only [recordRefusal, succeeds_bind, exec_require_eq_ok, exec_read,
    Prod.mk.injEq, Except.ok.injEq, RefusalFits]
  constructor
  · rintro ⟨_, _, ⟨narrow, rfl⟩, _, _, ⟨rfl, rfl⟩, rest⟩
    refine ⟨narrow, ?_⟩
    intro held found
    split at rest
    · rename_i inserted
      rw [(Table.insert?_eq_some.1 inserted).1] at found
      cases found
    · simp only [succeeds_bind, exec_demand_eq_ok] at rest
      rcases rest with ⟨stored, _, ⟨same, rfl⟩, _, _, returned⟩
      rw [exec_require_eq_ok] at returned
      rw [same] at found
      cases found
      exact returned.1
  · rintro ⟨narrow, same⟩
    refine ⟨(), _, ⟨narrow, rfl⟩, _, _, ⟨rfl, rfl⟩, ?_⟩
    split
    · exact ⟨(), _, rfl⟩
    · rename_i taken
      rcases Table.insert?_eq_none.1 taken with ⟨held, found⟩
      rw [succeeds_bind]
      refine ⟨held, _, exec_demand_eq_ok.2 ⟨found, rfl⟩, (), database, ?_⟩
      exact (exec_require_eq_ok _).2 ⟨same held found, rfl⟩

/-! ## Calls of a handler -/

/-- A handler's call as `dispatch_guaranteed` makes it. -/
def answered {α : Type} (handler : Handler α) :
    Handler GuaranteedDispatchOutcome :=
  recover (do let _ ← handler; pure .committed)
    (fun failure =>
      if isAnswered failure then some (pure .refused) else none)

theorem countP_settling {settling : Effect}
    (settles : settling.settles = true) :
    [.committed, settling].countP Effect.settles = 1 := by
  cases settling with
  | committed => cases settles
  | accepted _ => rfl
  | rejected => rfl

/-- A call that returns with one settlement is settled once. -/
theorem settledOnce_of_ok {α : Type} {handler : Handler α}
    {before : World} {value : α} {database : Database} {settling : Effect}
    (settles : settling.settles = true)
    (returned :
      exec handler before =
        (.ok value, ⟨database, before.journal ++ [.committed, settling]⟩)) :
    SettledOnce before (exec (answered handler) before) := by
  unfold answered
  rw [exec_recover, exec_bind_of_ok returned]
  exact ⟨_, _, [.committed, settling], rfl, rfl,
    countP_settling settles⟩

/-- A call that raises an answered exception after one settlement, too. -/
theorem settledOnce_of_answered {α : Type} {handler : Handler α}
    {before : World} {failure : Failure} {database : Database}
    {settling : Effect} (settles : settling.settles = true)
    (known : isAnswered failure = true)
    (raised :
      exec handler before =
        (.error failure,
          ⟨database, before.journal ++ [.committed, settling]⟩)) :
    SettledOnce before (exec (answered handler) before) := by
  unfold answered
  rw [exec_recover, exec_bind_of_error raised]
  simp only [known, if_true]
  exact ⟨_, _, [.committed, settling], rfl, rfl,
    countP_settling settles⟩

/-- A call that raises and leaves the world alone is not settled. -/
theorem not_settledOnce_of_error {α : Type} {handler : Handler α}
    {before : World} {failure : Failure}
    (raised : exec handler before = (.error failure, before)) :
    ¬SettledOnce before (exec (answered handler) before) := by
  unfold answered
  rw [exec_recover, exec_bind_of_error raised]
  rintro ⟨value, after, suffix, returned, journal, once⟩
  have same : after = before := by
    simp only at returned
    split at returned
    · rename_i answer known
      split at known
      · cases known
        simp only [exec_pure, Prod.mk.injEq] at returned
        exact returned.2.symm
      · cases known
    · simp at returned
  rw [same] at journal
  have none : suffix = [] := by simpa using journal
  simp [none] at once

section Delivery

variable {payload α : Type} (host : Host) (channel : String)
  (kind : Failure) (select : AcceptedIngress → Option (Accepted payload))
  (missionId : payload → String)
  (body : Accepted payload → InboxIdentity → Body α)

/--
What a delivery needs of the database to be settled: its refusal fits the
ledger, or its identity encodes and its transaction has the rows it needs.
-/
def DeliveryFits (fits : Accepted payload → InboxIdentity → Prop)
    (database : Database) (observedAt : String)
    (delivery : GuaranteedDelivery) : Prop :=
  match acceptIngress host delivery.payload delivery.topic with
  | .error refusal =>
      Refusable host database observedAt delivery channel refusal.code
  | .ok accepted =>
      match select accepted with
      | none =>
          Refusable host database observedAt delivery channel
            unexpectedFamily
      | some ingress =>
          ∃ identity,
            inboxIdentity host ingress.envelope
                (missionId ingress.payload) = .ok identity ∧
              fits ingress identity

/-- What a delivery of the awaited kind needs. -/
theorem deliveryFits_of_some {observedAt : String}
    {delivery : GuaranteedDelivery} {database : Database}
    {fits : Accepted payload → InboxIdentity → Prop}
    {accepted : AcceptedIngress} {ingress : Accepted payload}
    (admitted :
      acceptIngress host delivery.payload delivery.topic = .ok accepted)
    (selected : select accepted = some ingress)
    (needed :
      DeliveryFits host channel select missionId fits database observedAt
        delivery) :
    ∃ identity,
      inboxIdentity host ingress.envelope (missionId ingress.payload) =
          .ok identity ∧
        fits ingress identity := by
  unfold DeliveryFits at needed
  rw [admitted] at needed
  dsimp only at needed
  rw [selected] at needed
  exact needed

/-- A refusal is settled exactly when the ledger takes it. -/
theorem settledOnce_refuse {observedAt code : String}
    {delivery : GuaranteedDelivery} {failure : Failure} {before : World}
    (known : isAnswered failure = true) :
    SettledOnce before
        (exec (answered (refuse host observedAt delivery channel code
          boundSettlement failure : Handler α)) before) ↔
      Refusable host before.database observedAt delivery channel code := by
  unfold Refusable
  rw [← succeeds_recordRefusal]
  rcases transaction_cases (rethrow Failure.store (recordRefusal
      ((candidate host delivery channel code).fact observedAt))) before with
    ⟨value, database, recorded, committed⟩ | ⟨unrecorded, raisedFailure, raised⟩
  · have returned :
        exec (refuse host observedAt delivery channel code boundSettlement
          failure : Handler α) before =
          (.error failure,
            ⟨database, before.journal ++ [.committed, .rejected]⟩) := by
      simp only [refuse, rejectAfterRefusal, bind_assoc]
      rw [exec_bind_of_ok committed]
      simp [exec_bind, boundSettlement]
    simp only [exec_rethrow_eq_ok] at recorded
    exact ⟨fun _ => ⟨value, database, recorded⟩,
      fun _ => settledOnce_of_answered rfl known returned⟩
  · have escaped :
        exec (refuse host observedAt delivery channel code boundSettlement
          failure : Handler α) before = (.error raisedFailure, before) := by
      simp only [refuse, rejectAfterRefusal, bind_assoc]
      rw [exec_bind_of_error raised]
    constructor
    · intro settled
      exact absurd settled (not_settledOnce_of_error escaped)
    · intro recorded
      exact absurd (succeeds_rethrow.2 recorded) unrecorded

/-- A processed delivery is settled exactly when its transaction returns. -/
theorem settledOnce_process {envelope : Envelopes.Envelope}
    {mission : String} {inner : InboxIdentity → Body α} {before : World} :
    SettledOnce before
        (exec (answered (process host envelope mission inner
          boundSettlement)) before) ↔
      ∃ identity,
        inboxIdentity host envelope mission = .ok identity ∧
          Succeeds (inner identity) before.database := by
  cases identified : inboxIdentity host envelope mission with
  | error failure =>
      have escaped :
          exec (process host envelope mission inner boundSettlement)
            before = (.error failure, before) := by
        rw [process, identified, exec_bind_of_error (exec_lift_error _ _ _)]
        rfl
      simp [not_settledOnce_of_error escaped]
  | ok identity =>
      simp only [Except.ok.injEq, exists_eq_left']
      rcases transaction_cases (inner identity) before with
        ⟨value, database, returned, committed⟩ | ⟨failed, failure, raised⟩
      · have settled :
            exec (process host envelope mission inner boundSettlement)
              before =
              (.ok value,
                ⟨database, before.journal ++
                  [.committed, .accepted envelope.id]⟩) := by
          rw [process, identified, exec_bind_of_ok (exec_lift_ok _ _ _),
            exec_bind_of_ok committed, boundSettlement,
            exec_bind_of_ok (exec_record _ _), exec_pure,
            List.append_assoc]
          rfl
        exact ⟨fun _ => ⟨value, database, returned⟩,
          fun _ => settledOnce_of_ok rfl settled⟩
      · have escaped :
            exec (process host envelope mission inner boundSettlement)
              before = (.error failure, before) := by
          rw [process, identified, exec_bind_of_ok (exec_lift_ok _ _ _),
            exec_bind_of_error raised]
        simp [not_settledOnce_of_error escaped, failed]

/-- A delivery is settled once exactly when it fits. -/
theorem settledOnce_handleDelivery {observedAt : String}
    {delivery : GuaranteedDelivery} {before : World}
    {fits : Accepted payload → InboxIdentity → Prop}
    (known : isAnswered kind = true)
    (exact :
      ∀ ingress identity,
        Succeeds (body ingress identity) before.database ↔
          fits ingress identity) :
    SettledOnce before
        (exec (answered (handleDelivery host channel kind select missionId
          body observedAt boundSettlement delivery)) before) ↔
      DeliveryFits host channel select missionId fits before.database
        observedAt delivery := by
  unfold DeliveryFits
  cases admitted : acceptIngress host delivery.payload delivery.topic with
  | error refusal =>
      rw [handleDelivery_of_error _ _ _ _ _ _ _ _ _ admitted]
      exact settledOnce_refuse host channel rfl
  | ok accepted =>
      cases selected : select accepted with
      | none =>
          rw [handleDelivery_of_none _ _ _ _ _ _ _ _ _ admitted selected]
          simp only [selected]
          exact settledOnce_refuse host channel known
      | some ingress =>
          rw [handleDelivery_of_some _ _ _ _ _ _ _ _ _ admitted selected]
          simp only [selected, settledOnce_process, exact]

end Delivery

end AerialRescue.Gateway
