import AerialRescue.Store.Schema

/-!
# The audit timeline and the refusal ledger

An append takes the next ordinal of its mission from the counter row and
inserts the record there.  The refusal ledger keeps one bounded fact for each
body refused on a channel; a redelivery with the same context reuses it.
-/

namespace AerialRescue.Store

open AerialRescue.Contracts
open AerialRescue.Lib
open AerialRescue.Lib.Transaction

/-! ## The audit timeline -/

/-- The counter upsert: the first ordinal is one. -/
def issueOrdinal (sequences : Table AuditSequence.missionId)
    (missionId : String) : Nat × Table AuditSequence.missionId :=
  match sequences.insert? ⟨missionId, 1⟩ with
  | some next => (1, next)
  | none =>
      let issued :=
        (sequences.find? missionId).elim 1 fun row => row.nextOrdinal + 1
      (issued,
        sequences.amend missionId
          (fun row => { row with nextOrdinal := row.nextOrdinal + 1 })
          (fun _ => rfl))

/-- `audit.append` -/
def appendAudit (record : AuditRecord) : StoreTx Nat := do
  let database ← read
  let (ordinal, auditSequences) :=
    issueOrdinal database.auditSequences record.missionId
  let audit ← demand (database.audit.insert? ⟨record, ordinal⟩) .integrity
  write { database with audit, auditSequences }
  pure ordinal

theorem appendAudit_ok {record : AuditRecord} {before after : Database}
    {ordinal : Nat} :
    exec (appendAudit record) before = (.ok ordinal, after) ↔
      ordinal =
          (issueOrdinal before.auditSequences record.missionId).1 ∧
        ∃ audit,
          before.audit.insert? ⟨record, ordinal⟩ = some audit ∧
            after =
              { before with
                audit
                auditSequences :=
                  (issueOrdinal before.auditSequences
                    record.missionId).2 } := by
  simp only [appendAudit, exec_bind_eq_ok, exec_read, exec_demand_eq_ok,
    exec_write, exec_pure, Prod.mk.injEq, Except.ok.injEq]
  constructor
  · rintro ⟨_, _, ⟨rfl, rfl⟩, table, _, ⟨inserted, rfl⟩, _, _, ⟨_, rfl⟩,
      rfl, rfl⟩
    exact ⟨rfl, table, inserted, rfl⟩
  · rintro ⟨rfl, table, inserted, rfl⟩
    exact ⟨_, _, ⟨rfl, rfl⟩, table, _, ⟨inserted, rfl⟩, (), _, ⟨trivial, rfl⟩,
      rfl, rfl⟩

/-! ## The refusal ledger -/

/-- Refusal context without the observation instant. -/
structure BrokerRefusalCandidate where
  consumer : String
  source : Option String
  family : Option String
  channel : String
  refusalCode : String
  rawDigest : String
deriving DecidableEq

/-- The stored fact of a candidate observed at an instant. -/
def BrokerRefusalCandidate.fact (candidate : BrokerRefusalCandidate)
    (observedAt : String) : StoredBrokerRefusal where
  consumer := candidate.consumer
  source := candidate.source
  family := candidate.family
  channel := candidate.channel
  refusalCode := candidate.refusalCode
  rawDigest := candidate.rawDigest
  observedAt := observedAt

/-- `_immutable_context` -/
def StoredBrokerRefusal.context (fact : StoredBrokerRefusal) :
    Option String × Option String × String :=
  (fact.source, fact.family, fact.refusalCode)

/-- The width of the ledger's source column. -/
def refusalSourceLength : Nat := 256

/-- `broker_refusals.record` -/
def recordRefusal (fact : StoredBrokerRefusal) : StoreTx Unit := do
  require (fact.source.all fun source => source.length ≤ refusalSourceLength)
    .data
  let database ← read
  match database.refusals.insert? fact with
  | some refusals => write { database with refusals }
  | none =>
      let stored ← demand (database.refusals.find? fact.key)
        (.brokerRefusal .identityVanished)
      require (stored.context = fact.context)
        (.brokerRefusal .identityConflict)

/-- Recording a refusal changes the refusal ledger only. -/
theorem recordRefusal_ok {fact : StoredBrokerRefusal}
    {before after : Database} {value : Unit}
    (recorded : exec (recordRefusal fact) before = (.ok value, after)) :
    after = before ∨
      ∃ refusals,
        before.refusals.insert? fact = some refusals ∧
          after = { before with refusals } := by
  simp only [recordRefusal, exec_bind_eq_ok, exec_require_eq_ok, exec_read,
    Prod.mk.injEq, Except.ok.injEq] at recorded
  rcases recorded with ⟨_, _, ⟨_, rfl⟩, _, _, ⟨rfl, rfl⟩, rest⟩
  split at rest
  · rename_i refusals inserted
    simp only [exec_write, Prod.mk.injEq] at rest
    exact Or.inr ⟨refusals, inserted, rest.2.symm⟩
  · simp only [exec_bind_eq_ok, exec_demand_eq_ok, exec_require_eq_ok]
      at rest
    rcases rest with ⟨_, _, ⟨_, rfl⟩, _, rfl⟩
    exact Or.inl rfl

end AerialRescue.Store
