import AerialRescue.Gateway.Settlement
import AerialRescue.Lib.Run

/-!
# Refused deliveries and the refusal ledger

A delivery that a handler refuses is rejected after its evidence is committed.
The ledger keeps one fact for each consumer, channel and digest of the bytes,
the first one, and takes a repeat only in the context of that fact: the same
source, family and refusal code.  This module follows any sequence of refused
deliveries on one channel.
-/

namespace AerialRescue.Gateway

open AerialRescue.Contracts
open AerialRescue.Contracts.Canonical
open AerialRescue.Lib
open AerialRescue.Lib.Run
open AerialRescue.Lib.Transaction
open AerialRescue.Store

/-! ## One refused delivery -/

/-- A delivery that is refused with a code at an instant. -/
structure RefusedDelivery where
  delivery : GuaranteedDelivery
  refusalCode : String
  observedAt : String

namespace RefusedDelivery

/-- The fact that the ledger is asked to record. -/
def fact (host : Host) (channel : String) (refused : RefusedDelivery) :
    StoredBrokerRefusal :=
  (candidate host refused.delivery channel refused.refusalCode).fact
    refused.observedAt

/-- The call of `reject_after_refusal` on a message of a healthy broker. -/
def rejected (host : Host) (channel : String) (refused : RefusedDelivery) :
    Handler Unit :=
  rejectAfterRefusal host refused.observedAt refused.delivery channel
    refused.refusalCode boundSettlement

end RefusedDelivery

/-- The source of a fact fits its column. -/
def Narrow (fact : StoredBrokerRefusal) : Prop :=
  (fact.source.all fun source => source.length ≤ refusalSourceLength) = true

instance (fact : StoredBrokerRefusal) : Decidable (Narrow fact) :=
  inferInstanceAs (Decidable (_ = true))

/-- The world after one refused delivery, whether its call raises or not. -/
def rejectStep (host : Host) (channel : String) (world : World)
    (refused : RefusedDelivery) : World :=
  (exec (refused.rejected host channel) world).2

/-- What the ledger holds under a key after the facts were offered to it. -/
def firstFact (ledger : Table StoredBrokerRefusal.key)
    (facts : List StoredBrokerRefusal) (key : String × String × String) :
    Option StoredBrokerRefusal :=
  (ledger.find? key).or
    (facts.find? fun fact => decide (Narrow fact ∧ fact.key = key))

/-- The ledger records a new fact, or takes a repeat as it is. -/
theorem recordRefusal_of_fits {fact : StoredBrokerRefusal}
    {database : Database} (fits : RefusalFits database fact) :
    ∃ after,
      exec (recordRefusal fact) database = (.ok (), after) ∧
        ∀ key,
          after.refusals.find? key =
            (database.refusals.find? key).or
              (if fact.key = key then some fact else none) := by
  have narrow := fits.1
  unfold recordRefusal
  rw [exec_bind_of_ok (exec_require_of narrow _ _),
    exec_bind_of_ok (exec_read _)]
  cases inserted : database.refusals.insert? fact with
  | some refusals =>
      refine ⟨{ database with refusals }, exec_write _ _, ?_⟩
      intro key
      simp only [Table.find?_insert? inserted]
      by_cases same : fact.key = key
      · have free := (Table.insert?_eq_some.1 inserted).1
        rw [same] at free
        simp [same, free]
      · simp [same]
  | none =>
      rcases Table.insert?_eq_none.1 inserted with ⟨held, found⟩
      refine ⟨database, ?_, ?_⟩
      · simp only
        rw [exec_bind_of_ok (exec_demand_eq_ok.2 ⟨found, rfl⟩)]
        exact exec_require_of (fits.2 held found) _ _
      · intro key
        by_cases same : fact.key = key
        · subst same
          rw [found, Option.some_or]
        · rw [if_neg same, Option.or_none]

/-- A fact that the ledger takes is committed and its message rejected. -/
theorem rejected_of_fits {host : Host} {channel : String}
    {refused : RefusedDelivery} {world : World}
    (fits : RefusalFits world.database (refused.fact host channel)) :
    ∃ after,
      exec (refused.rejected host channel) world =
          (.ok (), ⟨after, world.journal ++ [.committed, .rejected]⟩) ∧
        ∀ key,
          after.refusals.find? key =
            (world.database.refusals.find? key).or
              (if (refused.fact host channel).key = key then
                some (refused.fact host channel)
              else none) := by
  rcases recordRefusal_of_fits fits with ⟨after, recorded, ledger⟩
  have committed :
      exec (transaction (rethrow Failure.store
          (recordRefusal (refused.fact host channel)))) world =
        (.ok (), ⟨after, world.journal ++ [.committed]⟩) :=
    transaction_ok.2 ⟨exec_rethrow_eq_ok.2 recorded, rfl⟩
  refine ⟨after, ?_, ledger⟩
  unfold RefusedDelivery.fact at committed
  unfold RefusedDelivery.rejected rejectAfterRefusal
  rw [exec_bind_of_ok committed]
  simp [boundSettlement]

/-- A fact that the ledger does not take leaves its message unsettled. -/
theorem rejected_of_unfit {host : Host} {channel : String}
    {refused : RefusedDelivery} {world : World}
    (unfit : ¬RefusalFits world.database (refused.fact host channel)) :
    ∃ failure,
      exec (refused.rejected host channel) world = (.error failure, world) := by
  rcases transaction_cases (rethrow Failure.store (recordRefusal
      (refused.fact host channel))) world with
    ⟨value, database, recorded, _⟩ | ⟨_, failure, raised⟩
  · refine absurd (succeeds_recordRefusal.1 ⟨value, database, ?_⟩) unfit
    exact exec_rethrow_eq_ok.1 recorded
  · refine ⟨failure, ?_⟩
    unfold RefusedDelivery.rejected rejectAfterRefusal
    exact exec_bind_of_error raised

/-! ## A sequence of refused deliveries -/

section Sequence

variable {host : Host} {channel : String}

/-- The ledger after one delivery holds what it held, or its fact. -/
theorem rejectStep_ledger (world : World) (refused : RefusedDelivery)
    (key : String × String × String) :
    (rejectStep host channel world refused).database.refusals.find? key =
      firstFact world.database.refusals [refused.fact host channel] key := by
  by_cases fits : RefusalFits world.database (refused.fact host channel)
  · rcases rejected_of_fits fits with ⟨after, returned, ledger⟩
    have narrow : Narrow (refused.fact host channel) := fits.1
    rw [rejectStep, returned, firstFact, ledger]
    by_cases same : (refused.fact host channel).key = key <;>
      simp [same, narrow]
  · rcases rejected_of_unfit fits with ⟨failure, raised⟩
    rw [rejectStep, raised, firstFact]
    by_cases same : (refused.fact host channel).key = key
    · by_cases narrow : Narrow (refused.fact host channel)
      · cases found : world.database.refusals.find? key with
        | some held => simp
        | none =>
            refine absurd ⟨narrow, ?_⟩ fits
            intro held other
            rw [same, found] at other
            cases other
      · simp [narrow]
    · simp [same]

/-- The ledger after a sequence holds the first fact of each key. -/
theorem run_ledger (world : World) (deliveries : List RefusedDelivery)
    (key : String × String × String) :
    (run (rejectStep host channel) world
        deliveries).database.refusals.find? key =
      firstFact world.database.refusals
        (deliveries.map (RefusedDelivery.fact host channel)) key := by
  induction deliveries generalizing world with
  | nil => simp [firstFact]
  | cons refused rest inductionHypothesis =>
      rw [run_cons, inductionHypothesis]
      unfold firstFact
      rw [rejectStep_ledger, firstFact, Option.or_assoc, List.map_cons,
        List.find?_cons]
      by_cases taken :
          Narrow (refused.fact host channel) ∧
            (refused.fact host channel).key = key <;>
        simp [taken]

/-- The first fact of a key is also the first one of a longer sequence. -/
theorem firstFact_append {ledger : Table StoredBrokerRefusal.key}
    {earlier later : List StoredBrokerRefusal}
    {key : String × String × String} {held : StoredBrokerRefusal}
    (found : firstFact ledger earlier key = some held) :
    firstFact ledger (earlier ++ later) key = some held := by
  unfold firstFact at found ⊢
  rw [List.find?_append, ← Option.or_assoc, found, Option.some_or]

/-- A narrow fact that no earlier one precedes is the first of its key. -/
theorem firstFact_here {ledger : Table StoredBrokerRefusal.key}
    {earlier later : List StoredBrokerRefusal} {fact : StoredBrokerRefusal}
    (narrow : Narrow fact) (free : firstFact ledger earlier fact.key = none) :
    firstFact ledger (earlier ++ fact :: later) fact.key = some fact := by
  unfold firstFact at free ⊢
  rw [List.find?_append, ← Option.or_assoc, free, Option.none_or,
    List.find?_cons_of_pos (by simp [narrow])]

theorem context_of_firstFact {ledger : Table StoredBrokerRefusal.key}
    {earlier later : List StoredBrokerRefusal}
    {fact held : StoredBrokerRefusal} (narrow : Narrow fact)
    (first : firstFact ledger (earlier ++ fact :: later) fact.key = some held) :
    (∀ recorded, firstFact ledger earlier fact.key = some recorded →
        recorded.context = fact.context) ↔
      held.context = fact.context := by
  cases found : firstFact ledger earlier fact.key with
  | none =>
      rw [firstFact_here narrow found] at first
      cases first
      simp
  | some recorded =>
      rw [firstFact_append found] at first
      cases first
      simp

/--
Any sequence of refused deliveries on one channel leaves exactly one fact for
each identity, the first; a delivery is rejected after its fact is committed
exactly when that fact has its source, family and refusal code, and is left
unsettled, with nothing changed, when the fact has another context.
-/
theorem refusals_settled (host : Host) (channel : String) (start : World)
    (deliveries : List RefusedDelivery) :
    (∀ key,
      (run (rejectStep host channel) start
          deliveries).database.refusals.find? key =
        firstFact start.database.refusals
          (deliveries.map (RefusedDelivery.fact host channel)) key) ∧
    (∀ refused ∈ deliveries, Narrow (refused.fact host channel) →
      ((run (rejectStep host channel) start
          deliveries).database.refusals.rows.map
        StoredBrokerRefusal.key).count
          (refused.fact host channel).key = 1) ∧
    ∀ earlier refused later, deliveries = earlier ++ refused :: later →
      Narrow (refused.fact host channel) →
        ∀ held,
          firstFact start.database.refusals
              (deliveries.map (RefusedDelivery.fact host channel))
              (refused.fact host channel).key = some held →
            (held.context = (refused.fact host channel).context →
              ∃ after,
                exec (refused.rejected host channel)
                    (run (rejectStep host channel) start earlier) =
                  (.ok (), ⟨after,
                    (run (rejectStep host channel) start
                      earlier).journal ++ [.committed, .rejected]⟩)) ∧
            (held.context ≠ (refused.fact host channel).context →
              ∃ failure,
                exec (refused.rejected host channel)
                    (run (rejectStep host channel) start earlier) =
                  (.error failure,
                    run (rejectStep host channel) start earlier)) := by
  refine ⟨run_ledger start deliveries, ?_, ?_⟩
  · intro refused member narrow
    rcases List.append_of_mem member with ⟨earlier, later, rfl⟩
    have found : ∃ held,
        firstFact start.database.refusals
          ((earlier ++ refused :: later).map
            (RefusedDelivery.fact host channel))
          (refused.fact host channel).key = some held := by
      rw [List.map_append, List.map_cons]
      cases before : firstFact start.database.refusals
          (earlier.map (RefusedDelivery.fact host channel))
          (refused.fact host channel).key with
      | none => exact ⟨_, firstFact_here narrow before⟩
      | some held => exact ⟨_, firstFact_append before⟩
    rcases found with ⟨held, first⟩
    rw [← run_ledger] at first
    have recorded := List.mem_map_of_mem (f := StoredBrokerRefusal.key)
      (Table.find?_mem first)
    rw [Table.find?_key first] at recorded
    exact List.count_eq_one_of_mem
      (run (rejectStep host channel) start
        (earlier ++ refused :: later)).database.refusals.distinct recorded
  · rintro earlier refused later rfl narrow held first
    rw [List.map_append, List.map_cons] at first
    have fits :
        RefusalFits
            (run (rejectStep host channel) start earlier).database
            (refused.fact host channel) ↔
          held.context = (refused.fact host channel).context := by
      rw [← context_of_firstFact narrow first]
      simp only [RefusalFits, run_ledger]
      exact and_iff_right narrow
    constructor
    · intro same
      rcases rejected_of_fits (fits.2 same) with ⟨after, returned, _⟩
      exact ⟨after, returned⟩
    · exact fun other => rejected_of_unfit (mt fits.1 other)

/-- One body that is refused for two reasons. -/
def refusedFor (refusalCode : String) : RefusedDelivery where
  delivery := ⟨"", []⟩
  refusalCode := refusalCode
  observedAt := "2026-01-01T00:00:00.000Z"

/-- The second reason for refusing one body leaves its message unsettled. -/
theorem otherReason_unsettled :
    ¬∀ (host : Host) (channel : String) (start : World)
      (first second : RefusedDelivery),
      (exec (second.rejected host channel)
        (rejectStep host channel start first)).1 = .ok () := by
  intro always
  have settled := always plainHost "operator.command" ⟨Database.empty, []⟩
    (refusedFor "topic") (refusedFor "payload")
  have unfit :
      ¬RefusalFits
        (rejectStep plainHost "operator.command" ⟨Database.empty, []⟩
          (refusedFor "topic")).database
        ((refusedFor "payload").fact plainHost "operator.command") := by
    rintro ⟨_, same⟩
    have other := same
      ((refusedFor "topic").fact plainHost "operator.command") (by
        rw [rejectStep_ledger]
        rfl)
    have codes : "topic" = "payload" :=
      congrArg (fun context => context.2.2) other
    exact absurd codes (by decide)
  rcases rejected_of_unfit unfit with ⟨failure, raised⟩
  rw [raised] at settled
  cases settled

end Sequence

end AerialRescue.Gateway
