import AerialRescue.Store.Audit
import AerialRescue.Store.Claims
import Mathlib.Data.List.Sort

/-!
# Recorder provenance and ordered reads

The repositories that the recorder writes beside the audit timeline: immutable
source events, the lifecycle of a mission, and the link from an audit ordinal
to the broker event it recorded.  One high-water mark for each producer judges
the sequence of a new event.  The dashboard reads the audit rows that have a
link, in the order of their ordinals.
-/

namespace AerialRescue.Store

open AerialRescue.Contracts
open AerialRescue.Domain.Commands
open AerialRescue.Domain.Mission
open AerialRescue.Lib
open AerialRescue.Lib.Transaction

/-! ## Source events -/

/-- `source_events.record` -/
def recordSourceEvent (event : StoredSourceEvent) : StoreTx Unit := do
  let database ← read
  match database.sourceEvents.insert? event with
  | some sourceEvents => write { database with sourceEvents }
  | none =>
      let stored ← demand (database.sourceEvents.find? event.key)
        (.sourceEvent .identityVanished)
      require (stored = event) (.sourceEvent .identityConflict)

/-- A stored source event changes its own table only. -/
theorem recordSourceEvent_ok {event : StoredSourceEvent}
    {before after : Database} {value : Unit}
    (recorded :
      exec (recordSourceEvent event) before = (.ok value, after)) :
    after = { before with sourceEvents := after.sourceEvents } := by
  simp only [recordSourceEvent, exec_bind_eq_ok, exec_read, Prod.mk.injEq,
    Except.ok.injEq] at recorded
  rcases recorded with ⟨_, _, ⟨rfl, rfl⟩, rest⟩
  split at rest
  · simp only [exec_write, Prod.mk.injEq] at rest
    rw [← rest.2]
  · simp only [exec_bind_eq_ok, exec_demand_eq_ok, exec_require_eq_ok]
      at rest
    rcases rest with ⟨_, _, ⟨_, rfl⟩, _, rfl⟩
    rfl

/-- What a source event needs to be stored: a free identity or itself. -/
theorem succeeds_recordSourceEvent {event : StoredSourceEvent}
    {database : Database} :
    Succeeds (recordSourceEvent event) database ↔
      ∀ stored,
        database.sourceEvents.find? event.key = some stored →
          stored = event := by
  simp only [recordSourceEvent, succeeds_bind, exec_read, Prod.mk.injEq,
    Except.ok.injEq]
  constructor
  · rintro ⟨_, _, ⟨rfl, rfl⟩, rest⟩ stored found
    split at rest
    · rename_i inserted
      rw [(Table.insert?_eq_some.1 inserted).1] at found
      cases found
    · simp only [succeeds_bind, exec_demand_eq_ok] at rest
      rcases rest with ⟨held, _, ⟨same, rfl⟩, _, _, returned⟩
      rw [exec_require_eq_ok] at returned
      rw [same] at found
      cases found
      exact returned.1
  · intro same
    refine ⟨_, _, ⟨rfl, rfl⟩, ?_⟩
    split
    · exact ⟨(), _, rfl⟩
    · rename_i taken
      rcases Table.insert?_eq_none.1 taken with ⟨held, found⟩
      rw [succeeds_bind]
      refine ⟨held, _, exec_demand_eq_ok.2 ⟨found, rfl⟩, (), database, ?_⟩
      exact (exec_require_eq_ok _).2 ⟨same held found, rfl⟩

/-! ## Missions -/

/-- The lifecycle states that the mission table admits. -/
def isStoredLifecycle : MissionState → Bool
  | .planned | .searching | .exhausted | .aborted => true
  | .escalated | .completed => false

/-- `mission_lifecycle_for_update` -/
def missionLifecycle (missionId : String) : StoreTx MissionState := do
  let database ← read
  let mission ← demand (database.missions.find? missionId)
    (.dashboardRun .unknownMission)
  pure mission.lifecycle

/-- Move one mission row. -/
def moveMission (database : Database) (missionId : String)
    (target : MissionState) : Database :=
  { database with
    missions := database.missions.amend missionId
      (fun mission => { mission with lifecycle := target })
      (fun _ => rfl) }

/-- A move leaves the other missions alone. -/
theorem moveMission_find?_of_ne {database : Database}
    {missionId other : String} {target : MissionState}
    (different : other ≠ missionId) :
    (moveMission database missionId target).missions.find? other =
      database.missions.find? other :=
  Table.find?_amend_of_ne database.missions missionId
    (fun mission => { mission with lifecycle := target }) (fun _ => rfl)
    different

/-- `transition_mission` -/
def transitionMission (missionId : String)
    (expected target : MissionState) : StoreTx Unit := do
  require (isStoredLifecycle target = true) .integrity
  let database ← read
  match database.missions.find? missionId with
  | some mission =>
      require (mission.lifecycle = expected) (.dashboardRun .missionMoved)
      write (moveMission database missionId target)
  | none => raise (.dashboardRun .missionMoved)

theorem transitionMission_ok {missionId : String}
    {expected target : MissionState} {before after : Database}
    {value : Unit}
    (moved :
      exec (transitionMission missionId expected target) before =
        (.ok value, after)) :
    after = moveMission before missionId target := by
  simp only [transitionMission, exec_bind_eq_ok, exec_require_eq_ok,
    exec_read, Prod.mk.injEq, Except.ok.injEq] at moved
  rcases moved with ⟨_, _, ⟨_, rfl⟩, _, _, ⟨rfl, rfl⟩, rest⟩
  split at rest
  · simp only [exec_bind_eq_ok, exec_require_eq_ok, exec_write,
      Prod.mk.injEq] at rest
    rcases rest with ⟨_, _, ⟨_, rfl⟩, _, rfl⟩
    rfl
  · simp at rest

/-! ## Broker provenance -/

/-- The width of the source column of the broker tables. -/
def brokerSourceLength : Nat := 128

/-- `ensure_source_statement` -/
def ensureSource (sources : Table BrokerSource.source) (source : String) :
    Table BrokerSource.source :=
  (sources.insert? ⟨source, none⟩).getD sources

/-- The high-water mark of a producer. -/
def Database.highWater (database : Database) (source : String) :
    Option Nat :=
  (database.brokerSources.find? source).bind BrokerSource.highWater

/-- The other constraints of the broker-event table on one new row. -/
def LinkedBrokerEvent.Admissible (row : LinkedBrokerEvent)
    (database : Database) : Prop :=
  (∀ held ∈ database.brokerEvents.rows,
    (held.event.source, held.event.sourceSequence) ≠
        (row.event.source, row.event.sourceSequence) ∧
      (held.auditMissionId, held.auditOrdinal) ≠
        (row.auditMissionId, row.auditOrdinal)) ∧
    (database.audit.find? (row.auditMissionId, row.auditOrdinal)).isSome =
      true

instance (row : LinkedBrokerEvent) (database : Database) :
    Decidable (row.Admissible database) :=
  @instDecidableAnd _ _ (List.decidableBAll _ database.brokerEvents.rows)
    inferInstance

/-- Advance a producer to a sequence and link its event to an ordinal. -/
def advanceAndLink (database : Database) (row : LinkedBrokerEvent) :
    Option Database := do
  let brokerEvents ← database.brokerEvents.insert? row
  if row.Admissible database then
    some
      { database with
        brokerSources :=
          (ensureSource database.brokerSources row.event.source).amend
            row.event.source
            (fun held =>
              { held with highWater := some row.event.sourceSequence })
            (fun _ => rfl)
        brokerEvents }
  else
    none

/-- `link_broker_event` -/
def linkBrokerEvent (event : BrokerEvent) (missionId : String)
    (ordinal : Nat) : StoreTx Unit := do
  require (event.source.length ≤ brokerSourceLength) .data
  let database ← read
  match database.brokerEvents.find? (event.source, event.eventId) with
  | some known =>
      require (known.event.payloadDigest = event.payloadDigest)
        (.dashboardEvent .divergentDuplicate)
      write
        { database with
          brokerSources :=
            ensureSource database.brokerSources event.source }
  | none =>
      match
          (receive (database.highWater event.source)
            event.sourceSequence).1 with
      | .duplicate => raise (.dashboardEvent .sequenceReused)
      | .stale => raise (.dashboardEvent .staleSequence)
      | .advances =>
          let linked ← demand
            (advanceAndLink database ⟨event, missionId, ordinal⟩) .integrity
          write linked

end AerialRescue.Store
