import AerialRescue.Store.Audit
import Mathlib.Data.List.Range
import Mathlib.Data.List.Sort

/-!
# Mission timelines

The audit rows of one mission and the pages that a reader takes of them after
an ordinal it has reached.  The ordinals of a mission are the numbers from one
to the last one issued, whatever other missions append, so a page after any
ordinal starts at the next one and has no gap.
-/

namespace AerialRescue.Store

open AerialRescue.Lib
open AerialRescue.Lib.Transaction

/-! ## Rows and pages -/

/-- The audit rows of one mission. -/
def Database.missionRows (database : Database) (missionId : String) :
    List StoredAuditRecord :=
  database.audit.rows.filter fun row => row.record.missionId = missionId

/-- The last ordinal issued for a mission. -/
def Database.issued (database : Database) (missionId : String) : Nat :=
  (database.auditSequences.find? missionId).elim 0 AuditSequence.nextOrdinal

/-- The rows of a mission after an ordinal, in order. -/
def Database.auditAfter (database : Database) (missionId : String)
    (afterOrdinal : Int) : List StoredAuditRecord :=
  let selected := (database.missionRows missionId).filter fun row =>
    afterOrdinal < row.ordinal
  selected.insertionSort fun left right => left.ordinal ≤ right.ordinal

/-- The rows of `ordered_after_statement`. -/
def Database.auditSuffix (database : Database) (missionId : String)
    (afterOrdinal : Int) (limit : Nat) : List StoredAuditRecord :=
  (database.auditAfter missionId afterOrdinal).take limit

/-- Every mission's ordinals are one to its last issued ordinal. -/
def Dense (database : Database) : Prop :=
  ∀ missionId,
    (database.missionRows missionId).map StoredAuditRecord.ordinal =
      List.range' 1 (database.issued missionId)

/-- Rows of one mission at the ordinals right after a given one. -/
def Follows (missionId : String) : Int → List StoredAuditRecord → Prop
  | _, [] => True
  | afterOrdinal, row :: rest =>
      row.record.missionId = missionId ∧
        (row.ordinal : Int) = afterOrdinal + 1 ∧
        Follows missionId row.ordinal rest

theorem mem_missionRows {database : Database} {missionId : String}
    {row : StoredAuditRecord} :
    row ∈ database.missionRows missionId ↔
      row ∈ database.audit.rows ∧ row.record.missionId = missionId := by
  simp [Database.missionRows]

theorem mem_auditAfter {database : Database} {missionId : String}
    {afterOrdinal : Int} {row : StoredAuditRecord} :
    row ∈ database.auditAfter missionId afterOrdinal ↔
      row ∈ database.missionRows missionId ∧ afterOrdinal < row.ordinal := by
  simp [Database.auditAfter, List.mem_insertionSort]

/-! ## Appending -/

theorem dense_empty : Dense Database.empty := by
  intro missionId
  rfl

/-- The counter upsert issues the number after the last one. -/
theorem issueOrdinal_next {database : Database} {missionId : String} :
    (issueOrdinal database.auditSequences missionId).1 =
      database.issued missionId + 1 := by
  unfold issueOrdinal Database.issued
  cases inserted : database.auditSequences.insert? ⟨missionId, 1⟩ with
  | some next =>
      have free := (Table.insert?_eq_some.1 inserted).1
      simp only at free
      simp [free]
  | none =>
      rcases Table.insert?_eq_none.1 inserted with ⟨held, found⟩
      simp only at found
      simp [found]

/-- The counter row of every other mission stays as it is. -/
theorem issueOrdinal_find? (sequences : Table AuditSequence.missionId)
    (missionId other : String) :
    ((issueOrdinal sequences missionId).2.find? other).map
        AuditSequence.nextOrdinal =
      if other = missionId then some (issueOrdinal sequences missionId).1
      else (sequences.find? other).map AuditSequence.nextOrdinal := by
  unfold issueOrdinal
  cases inserted : sequences.insert? ⟨missionId, 1⟩ with
  | some next =>
      simp only
      rw [Table.find?_insert? inserted]
      by_cases same : other = missionId
      · simp [same]
      · have distinct : missionId ≠ other := fun equal => same equal.symm
        simp [same, distinct]
  | none =>
      rcases Table.insert?_eq_none.1 inserted with ⟨held, found⟩
      simp only at found
      simp only
      rw [Table.find?_amend]
      by_cases same : other = missionId
      · simp [same, found]
      · simp [same]

/-- The counter of every other mission stays where it is. -/
theorem issueOrdinal_counter (sequences : Table AuditSequence.missionId)
    (missionId other : String) :
    ((issueOrdinal sequences missionId).2.find? other).elim 0
        AuditSequence.nextOrdinal =
      if other = missionId then (issueOrdinal sequences missionId).1
      else (sequences.find? other).elim 0 AuditSequence.nextOrdinal := by
  have counted : ∀ row : Option AuditSequence,
      row.elim 0 AuditSequence.nextOrdinal =
        (row.map AuditSequence.nextOrdinal).getD 0 := by
    intro row
    cases row <;> rfl
  rw [counted, counted, issueOrdinal_find?]
  by_cases same : other = missionId <;> simp [same]

/-- An append keeps every timeline dense. -/
theorem appendAudit_dense {record : AuditRecord} {before after : Database}
    {ordinal : Nat} (dense : Dense before)
    (appended :
      exec (appendAudit record) before = (.ok ordinal, after)) :
    Dense after := by
  rcases appendAudit_ok.1 appended with ⟨issued, audit, inserted, rfl⟩
  have next : ordinal = before.issued record.missionId + 1 :=
    issued.trans issueOrdinal_next
  have rows := Table.insert?_rows inserted
  intro missionId
  have counter :=
    issueOrdinal_counter before.auditSequences record.missionId missionId
  unfold Database.issued Database.missionRows
  simp only
  rw [counter, rows, List.filter_append, List.map_append]
  by_cases same : missionId = record.missionId
  · subst same
    have held := dense record.missionId
    unfold Database.missionRows at held
    rw [held, if_pos rfl, issueOrdinal_next, List.range'_1_concat]
    simp [next, Nat.add_comm]
  · have distinct : record.missionId ≠ missionId := fun equal =>
      same equal.symm
    have held := dense missionId
    unfold Database.missionRows Database.issued at held
    rw [held, if_neg same]
    simp [distinct]

/-! ## Reading on -/

/-- The numbers of an interval above a bound are an interval again. -/
theorem filter_range'_above (count reached : Nat) :
    (List.range' 1 count).filter (fun number => decide (reached < number)) =
      List.range' (reached + 1) (count - reached) := by
  by_cases within : reached ≤ count
  · have split : List.range' 1 count =
        List.range' 1 reached ++
          List.range' (reached + 1) (count - reached) := by
      have appended := @List.range'_append 1 reached
        (count - reached) 1
      rw [Nat.add_sub_cancel' within, Nat.one_mul, Nat.add_comm 1] at appended
      exact appended.symm
    rw [split, List.filter_append]
    have below :
        (List.range' 1 reached).filter
            (fun number => decide (reached < number)) = [] := by
      rw [List.filter_eq_nil_iff]
      intro number member
      rw [List.mem_range'_1] at member
      simp only [decide_eq_true_eq]
      omega
    have above :
        (List.range' (reached + 1) (count - reached)).filter
            (fun number => decide (reached < number)) =
          List.range' (reached + 1) (count - reached) := by
      rw [List.filter_eq_self]
      intro number member
      rw [List.mem_range'_1] at member
      simp only [decide_eq_true_eq]
      omega
    rw [below, above, List.nil_append]
  · have none : count - reached = 0 := by omega
    rw [none, List.range'_zero, List.filter_eq_nil_iff]
    intro number member
    rw [List.mem_range'_1] at member
    simp only [decide_eq_true_eq]
    omega

theorem follows_of_range' {missionId : String}
    {rows : List StoredAuditRecord} {reached count : Nat}
    (ordinals :
      rows.map StoredAuditRecord.ordinal = List.range' (reached + 1) count)
    (mission : ∀ row ∈ rows, row.record.missionId = missionId) :
    Follows missionId reached rows := by
  induction rows generalizing reached count with
  | nil => trivial
  | cons row rest inductionHypothesis =>
      cases count with
      | zero => cases ordinals
      | succ fewer =>
          rw [List.range'_succ, List.map_cons, List.cons.injEq] at ordinals
          rcases ordinals with ⟨here, later⟩
          refine ⟨mission row (List.mem_cons_self ..), ?_, ?_⟩
          · rw [here]
            rfl
          · rw [here]
            exact inductionHypothesis later fun other member =>
              mission other (List.mem_cons_of_mem _ member)

theorem Follows.take {missionId : String} {afterOrdinal : Int}
    {rows : List StoredAuditRecord}
    (follows : Follows missionId afterOrdinal rows)
    (limit : Nat) : Follows missionId afterOrdinal (rows.take limit) := by
  induction rows generalizing afterOrdinal limit with
  | nil => simpa using follows
  | cons row rest inductionHypothesis =>
      cases limit with
      | zero => trivial
      | succ fewer =>
          rcases follows with ⟨mission, next, later⟩
          exact ⟨mission, next, inductionHypothesis later fewer⟩

/-- A dense timeline is stored in the order of its ordinals. -/
theorem auditAfter_eq {database : Database} (dense : Dense database)
    (missionId : String) {afterOrdinal : Int} (reached : 0 ≤ afterOrdinal) :
    database.auditAfter missionId afterOrdinal =
        (database.missionRows missionId).filter
          (fun row => decide (afterOrdinal < row.ordinal)) ∧
      Follows missionId afterOrdinal
        (database.auditAfter missionId afterOrdinal) := by
  lift afterOrdinal to Nat using reached
  have selected :
      ((database.missionRows missionId).filter fun row =>
          decide ((afterOrdinal : Int) < row.ordinal)).map
            StoredAuditRecord.ordinal =
        List.range' (afterOrdinal + 1)
          (database.issued missionId - afterOrdinal) := by
    rw [← filter_range'_above, ← dense missionId, List.filter_map]
    congr 1
    apply List.filter_congr
    intro row _
    simp
  have ordered :
      ((database.missionRows missionId).filter fun row =>
          decide ((afterOrdinal : Int) < row.ordinal)).Pairwise
        fun left right => left.ordinal ≤ right.ordinal := by
    rw [← List.pairwise_map (f := StoredAuditRecord.ordinal), selected]
    exact (List.pairwise_lt_range' 1).imp fun below => below.le
  have stored := ordered.insertionSort_eq
  refine ⟨stored, ?_⟩
  rw [show database.auditAfter missionId afterOrdinal = _ from stored]
  apply follows_of_range' selected
  intro row member
  exact (mem_missionRows.1 (List.mem_of_mem_filter member)).2

/-- The page of a dense timeline after an ordinal has no gap. -/
theorem auditSuffix_follows {database : Database} (dense : Dense database)
    (missionId : String) {afterOrdinal : Int} (reached : 0 ≤ afterOrdinal)
    (limit : Nat) :
    Follows missionId afterOrdinal
      (database.auditSuffix missionId afterOrdinal limit) :=
  (auditAfter_eq dense missionId reached).2.take limit

/-- The ordinals of rows that follow lie above, one after another. -/
theorem Follows.mem {missionId : String} {afterOrdinal : Int}
    {rows : List StoredAuditRecord} {row : StoredAuditRecord}
    (follows : Follows missionId afterOrdinal rows) (member : row ∈ rows) :
    afterOrdinal < row.ordinal ∧
      (row.ordinal : Int) ≤ afterOrdinal + rows.length := by
  induction rows generalizing afterOrdinal with
  | nil => cases member
  | cons first rest inductionHypothesis =>
      rcases follows with ⟨_, next, later⟩
      rcases List.mem_cons.1 member with rfl | among
      · simp only [List.length_cons]
        omega
      · have bounds := inductionHypothesis later among
        simp only [List.length_cons]
        omega

theorem Follows.append {missionId : String} {afterOrdinal : Int}
    {first second : List StoredAuditRecord}
    (follows : Follows missionId afterOrdinal (first ++ second)) :
    Follows missionId afterOrdinal first ∧
      Follows missionId (afterOrdinal + first.length) second := by
  induction first generalizing afterOrdinal with
  | nil => simpa [Follows] using follows
  | cons row rest inductionHypothesis =>
      rcases follows with ⟨mission, next, later⟩
      rcases inductionHypothesis later with ⟨before, after⟩
      refine ⟨⟨mission, next, before⟩, ?_⟩
      rw [next] at after
      simpa [Int.add_comm, Int.add_left_comm, Int.add_assoc] using after

/-- Reading on after the first rows gives the rows behind them. -/
theorem auditAfter_append {database : Database} (dense : Dense database)
    {missionId : String} {afterOrdinal : Int} (reached : 0 ≤ afterOrdinal)
    {first second : List StoredAuditRecord}
    (split :
      database.auditAfter missionId afterOrdinal = first ++ second) :
    database.auditAfter missionId (afterOrdinal + first.length) = second := by
  rcases auditAfter_eq dense missionId reached with ⟨stored, follows⟩
  have later : 0 ≤ afterOrdinal + first.length := by omega
  rw [(auditAfter_eq dense missionId later).1]
  have twice :
      (database.missionRows missionId).filter
          (fun row => decide (afterOrdinal + first.length < row.ordinal)) =
        (first ++ second).filter
          (fun row => decide (afterOrdinal + first.length < row.ordinal)) := by
    rw [← split, stored, List.filter_filter]
    apply List.filter_congr
    intro row _
    rw [← Bool.decide_and, decide_eq_decide]
    omega
  rw [split] at follows
  rcases follows.append with ⟨before, after⟩
  rw [twice, List.filter_append]
  have below :
      first.filter
          (fun row =>
            decide (afterOrdinal + first.length < row.ordinal)) = [] := by
    rw [List.filter_eq_nil_iff]
    intro row member
    have bounds := before.mem member
    simp only [decide_eq_true_eq]
    omega
  have above :
      second.filter
          (fun row =>
            decide (afterOrdinal + first.length < row.ordinal)) = second := by
    rw [List.filter_eq_self]
    intro row member
    exact decide_eq_true (after.mem member).1
  rw [below, above, List.nil_append]

end AerialRescue.Store
