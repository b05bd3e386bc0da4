import AerialRescue.Store.Recording
import Mathlib.Data.Fintype.Defs

/-!
# Linked audit rows

What the dashboard and the exporter read of a mission's timeline: the audit
rows that a broker event links, in the order of their ordinals.  An audit row
without a link is in no page and in no watermark.
-/

namespace AerialRescue.Store

open AerialRescue.Contracts
open AerialRescue.Lib

/-- One row of a page: its ordinal, its kind and its exact payload. -/
structure StoredDashboardEvent where
  auditOrdinal : Nat
  kind : String
  payload : Bytes
deriving DecidableEq

/-- Whether a broker event links an audit row. -/
def Database.linked (database : Database) (row : StoredAuditRecord) : Bool :=
  database.brokerEvents.rows.any fun event =>
    decide ((event.auditMissionId, event.auditOrdinal) = row.key)

/-- The linked rows of a mission, as the shared join selects them. -/
def Database.linkedRows (database : Database) (missionId : String) :
    List StoredAuditRecord :=
  database.audit.rows.filter fun row =>
    row.record.missionId = missionId ∧ database.linked row = true

/-- `recording_watermark`: the greatest linked ordinal, or zero. -/
def Database.watermark (database : Database) (missionId : String) : Nat :=
  (database.linkedRows missionId).foldl
    (fun greatest row => max greatest row.ordinal) 0

/-- `_stored_event` -/
def StoredAuditRecord.event (row : StoredAuditRecord) :
    StoredDashboardEvent where
  auditOrdinal := row.ordinal
  kind := row.record.kind
  payload := row.record.payload

/-- `read_event_page`; `read_suffix_page` has no upper bound. -/
def Database.eventPage (database : Database) (missionId : String)
    (afterOrdinal : Nat) (throughOrdinal : Option Nat) (limit : Nat) :
    List StoredDashboardEvent :=
  let selected := (database.linkedRows missionId).filter fun row =>
    afterOrdinal < row.ordinal ∧
      ∀ bound ∈ throughOrdinal, row.ordinal ≤ bound
  let ordered := selected.insertionSort fun left right =>
    left.ordinal ≤ right.ordinal
  (ordered.take limit).map StoredAuditRecord.event

theorem mem_linkedRows {database : Database} {missionId : String}
    {row : StoredAuditRecord} :
    row ∈ database.linkedRows missionId ↔
      row ∈ database.audit.rows ∧ row.record.missionId = missionId ∧
        ∃ event ∈ database.brokerEvents.rows,
          event.auditMissionId = missionId ∧
            event.auditOrdinal = row.ordinal := by
  simp only [Database.linkedRows, Database.linked, List.mem_filter,
    List.any_eq_true, decide_eq_true_eq, StoredAuditRecord.key,
    Prod.mk.injEq]
  constructor
  · rintro ⟨member, rfl, event, linked, mission, ordinal⟩
    exact ⟨member, rfl, event, linked, mission, ordinal⟩
  · rintro ⟨member, rfl, event, linked, mission, ordinal⟩
    exact ⟨member, rfl, event, linked, mission, ordinal⟩

/-- A fold of maxima dominates its start and every item. -/
theorem le_foldl_max {α : Type} (measure : α → Nat) (items : List α)
    (start : Nat) :
    start ≤ items.foldl (fun greatest item => max greatest (measure item))
        start ∧
      ∀ item ∈ items,
        measure item ≤
          items.foldl (fun greatest item => max greatest (measure item))
            start := by
  induction items generalizing start with
  | nil => simp
  | cons first rest inductionHypothesis =>
      rcases inductionHypothesis (max start (measure first)) with
        ⟨above, others⟩
      simp only [List.foldl_cons]
      refine ⟨le_trans (le_max_left _ _) above, ?_⟩
      intro item member
      rcases List.mem_cons.1 member with rfl | later
      · exact le_trans (le_max_right _ _) above
      · exact others item later

theorem ordinal_le_watermark {database : Database} {missionId : String}
    {row : StoredAuditRecord}
    (member : row ∈ database.linkedRows missionId) :
    row.ordinal ≤ database.watermark missionId :=
  (le_foldl_max StoredAuditRecord.ordinal _ 0).2 row member

/-- Every event of a page is a linked row of the mission. -/
theorem mem_eventPage {database : Database} {missionId : String}
    {afterOrdinal limit : Nat} {throughOrdinal : Option Nat}
    {event : StoredDashboardEvent}
    (member :
      event ∈ database.eventPage missionId afterOrdinal throughOrdinal
        limit) :
    ∃ row ∈ database.linkedRows missionId, event = row.event := by
  simp only [Database.eventPage, List.mem_map] at member
  rcases member with ⟨row, taken, rfl⟩
  have sorted := (List.mem_insertionSort _).1 (List.mem_of_mem_take taken)
  exact ⟨row, (List.mem_filter.1 sorted).1, rfl⟩

/-- A page with room is empty only when nothing lies in its range. -/
theorem eventPage_ne_nil {database : Database} {missionId : String}
    {row : StoredAuditRecord} {limit : Nat}
    (member : row ∈ database.linkedRows missionId) (positive : 0 < row.ordinal)
    (room : 0 < limit) :
    database.eventPage missionId 0 (some (database.watermark missionId))
        limit ≠ [] := by
  intro empty
  simp only [Database.eventPage, List.map_eq_nil_iff,
    List.take_eq_nil_iff] at empty
  rcases empty with none | nothing
  · omega
  · have selected :
        row ∈ (database.linkedRows missionId).filter fun held =>
          decide (0 < held.ordinal ∧
            ∀ bound ∈ some (database.watermark missionId),
              held.ordinal ≤ bound) := by
      rw [List.mem_filter]
      refine ⟨member, decide_eq_true ⟨positive, ?_⟩⟩
      rintro bound ⟨⟩
      exact ordinal_le_watermark member
    have sorted := (List.mem_insertionSort
      fun left right : StoredAuditRecord =>
        left.ordinal ≤ right.ordinal).2 selected
    rw [nothing] at sorted
    cases sorted

end AerialRescue.Store
