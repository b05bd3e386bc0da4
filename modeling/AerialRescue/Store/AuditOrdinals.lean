import AerialRescue.Lib.Sessions
import AerialRescue.Store.Timeline

/-!
# Audit ordinals under concurrent sessions

Sessions append to the timelines of any number of missions and commit or roll
back in any order.  The counter row of a mission stays locked from an append
to the end of its session, so the counter and the rows of a mission are one
cell of a locked store, and a page read is a statement that writes nothing.
-/

namespace AerialRescue.Store

open AerialRescue.Lib
open AerialRescue.Lib.Guard
open AerialRescue.Lib.Sessions
open AerialRescue.Lib.Transaction

/-! ## Reading pages -/

/-- Why an ordered audit read is refused. -/
inductive AuditRefusal where
  | invalidReadLimit
  | invalidAfterOrdinal
  | readLimitExceeded
  | unreadableRow
  | orderViolation
deriving DecidableEq

/-- `ordered_after_statement`, over the rows of one mission -/
def orderedAfter (rows : List StoredAuditRecord) (afterOrdinal : Int)
    (limit : Nat) : List StoredAuditRecord :=
  ((rows.filter fun row => afterOrdinal < row.ordinal).insertionSort
    fun left right => left.ordinal ≤ right.ordinal).take limit

/-- `_stored_record`; the columns have their migrated types. -/
def storedRecord (missionId : String) (row : StoredAuditRecord) :
    Except AuditRefusal StoredAuditRecord := do
  ensure (0 < row.ordinal ∧ row.record.missionId = missionId) .unreadableRow
  pure row

/-- `read_ordered_after`, over the rows of the mission -/
def readOrderedAfter (rows : List StoredAuditRecord) (missionId : String)
    (afterOrdinal limit : Int) :
    Except AuditRefusal (List StoredAuditRecord) := do
  ensure (0 ≤ afterOrdinal) .invalidAfterOrdinal
  ensure (0 < limit) .invalidReadLimit
  let selected := orderedAfter rows afterOrdinal limit.toNat
  ensure ((selected.length : Int) ≤ limit) .readLimitExceeded
  let records ← selected.mapM (storedRecord missionId)
  ensure (∀ first ∈ records.head?, afterOrdinal < first.ordinal)
    .orderViolation
  ensure (records.IsChain fun previous current =>
    previous.ordinal < current.ordinal) .orderViolation
  pure records

/-! ## The cell of a mission -/

/-- The counter row and the audit rows of one mission. -/
structure MissionAudit where
  counter : Option Nat
  rows : List StoredAuditRecord

/-- The cell of a mission that has no record yet. -/
def MissionAudit.empty : MissionAudit where
  counter := none
  rows := []

/-- What the counter upsert returns. -/
def MissionAudit.next (cell : MissionAudit) : Nat :=
  cell.counter.elim 1 (· + 1)

/-- The record inserted at the ordinal just issued, unless it is taken. -/
def MissionAudit.append (cell : MissionAudit) (record : AuditRecord) :
    Option MissionAudit :=
  if cell.next ∈ cell.rows.map StoredAuditRecord.ordinal then none
  else
    some
      { counter := some cell.next
        rows := cell.rows ++ [⟨record, cell.next⟩] }

/-- The cell of a mission in the database. -/
def Database.missionAudit (database : Database) (missionId : String) :
    MissionAudit where
  counter :=
    (database.auditSequences.find? missionId).map AuditSequence.nextOrdinal
  rows := database.missionRows missionId

/-- A statement on the timeline of a mission. -/
inductive AuditStatement where
  | append (record : AuditRecord)
  | readOrderedAfter (missionId : String) (afterOrdinal limit : Int)

/-- What a statement on a timeline returns or raises. -/
inductive AuditAnswer where
  | appended (ordinal : Nat)
  | integrity
  | page (answer : Except AuditRefusal (List StoredAuditRecord))

/-- The statements on timelines, each on the cell of its mission. -/
def auditStatements :
    Statements String MissionAudit AuditStatement AuditAnswer where
  key
    | .append record => record.missionId
    | .readOrderedAfter missionId _ _ => missionId
  answer
    | .append record, cell =>
        if (cell.append record).isSome then .appended cell.next
        else .integrity
    | .readOrderedAfter missionId afterOrdinal limit, cell =>
        .page (Store.readOrderedAfter cell.rows missionId afterOrdinal limit)
  writes
    | .append record, cell => cell.append record
    | .readOrderedAfter _ _ _, _ => none

/-- A store of timelines that sessions append to. -/
abbrev AuditEngine (σ : Type) :=
  Engine σ String MissionAudit AuditStatement AuditAnswer

/-- No mission has a record. -/
def AuditEngine.start (σ : Type) : AuditEngine σ :=
  Engine.start fun _ => .empty

/-! ## The cell is what the transaction changes -/

theorem appendAudit_next (database : Database) (missionId : String) :
    (issueOrdinal database.auditSequences missionId).1 =
      (database.missionAudit missionId).next := by
  rw [issueOrdinal_next]
  unfold Database.issued MissionAudit.next Database.missionAudit
  cases database.auditSequences.find? missionId <;> rfl

/-- `append` changes the cell of its mission as the cell's append does. -/
theorem appendAudit_cell {record : AuditRecord} {before after : Database}
    {ordinal : Nat}
    (appended : exec (appendAudit record) before = (.ok ordinal, after)) :
    ordinal = (before.missionAudit record.missionId).next ∧
      (before.missionAudit record.missionId).append record =
        some (after.missionAudit record.missionId) ∧
      ∀ other, other ≠ record.missionId →
        after.missionAudit other = before.missionAudit other := by
  rcases appendAudit_ok.1 appended with ⟨issued, audit, inserted, rfl⟩
  rw [appendAudit_next] at issued
  subst issued
  have rows := Table.insert?_rows inserted
  have free := (Table.insert?_eq_some.1 inserted).1
  have missionRows : ∀ missionId,
      (audit.rows.filter fun row =>
          decide (row.record.missionId = missionId)) =
        before.missionRows missionId ++
          if record.missionId = missionId then
            [⟨record, (before.missionAudit record.missionId).next⟩]
          else [] := by
    intro missionId
    rw [rows, List.filter_append]
    by_cases same : record.missionId = missionId <;>
      simp [Database.missionRows, same]
  have taken : (before.missionAudit record.missionId).next ∉
      (before.missionAudit record.missionId).rows.map
        StoredAuditRecord.ordinal := by
    intro repeated
    rcases List.mem_map.1 repeated with ⟨row, member, same⟩
    rcases mem_missionRows.1 member with ⟨inTable, mission⟩
    refine Table.find?_eq_none.1 free (List.mem_map.2 ⟨row, inTable, ?_⟩)
    rw [StoredAuditRecord.key, mission, same]
    rfl
  refine ⟨rfl, ?_, ?_⟩
  · rw [MissionAudit.append, if_neg taken, Option.some.injEq]
    unfold Database.missionAudit Database.missionRows
    simp only [issueOrdinal_find?, if_true, MissionAudit.mk.injEq]
    refine ⟨congrArg some (appendAudit_next _ _).symm, ?_⟩
    rw [missionRows, if_pos rfl]
    rfl
  · intro other different
    unfold Database.missionAudit Database.missionRows
    simp only [issueOrdinal_find?, if_neg different, MissionAudit.mk.injEq,
      true_and]
    rw [missionRows, if_neg (Ne.symm different), List.append_nil]
    rfl

/-! ## One cell in commit order -/

/-- The ordinals of the cell are one to its counter, in the order of rows. -/
structure MissionAudit.Dense (missionId : String) (cell : MissionAudit) :
    Prop where
  counted : cell.counter.elim 0 id = cell.rows.length
  ordinals :
    cell.rows.map StoredAuditRecord.ordinal =
      List.range' 1 cell.rows.length
  mission : ∀ row ∈ cell.rows, row.record.missionId = missionId

theorem MissionAudit.dense_empty (missionId : String) :
    MissionAudit.empty.Dense missionId where
  counted := rfl
  ordinals := rfl
  mission := by
    intro row member
    cases member

theorem MissionAudit.Dense.next {missionId : String} {cell : MissionAudit}
    (dense : cell.Dense missionId) : cell.next = cell.rows.length + 1 := by
  have counted := dense.counted
  unfold MissionAudit.next
  cases counter : cell.counter with
  | none =>
      rw [counter] at counted
      exact congrArg (· + 1) counted
  | some last =>
      rw [counter] at counted
      exact congrArg (· + 1) counted

theorem MissionAudit.append_eq_some {cell after : MissionAudit}
    {record : AuditRecord} (appended : cell.append record = some after) :
    after.counter = some cell.next ∧
      after.rows = cell.rows ++ [⟨record, cell.next⟩] := by
  unfold MissionAudit.append at appended
  split at appended
  · cases appended
  · cases appended
    exact ⟨rfl, rfl⟩

/-- An append keeps the cell dense. -/
theorem MissionAudit.Dense.append {missionId : String}
    {cell after : MissionAudit} {record : AuditRecord}
    (dense : cell.Dense missionId) (mission : record.missionId = missionId)
    (appended : cell.append record = some after) :
    after.Dense missionId := by
  rcases MissionAudit.append_eq_some appended with ⟨counter, rows⟩
  refine ⟨?_, ?_, ?_⟩
  · rw [counter, rows, dense.next, List.length_append]
    rfl
  · rw [rows, List.map_append, dense.ordinals, List.length_append,
      dense.next]
    simp only [List.map_cons, List.map_nil, List.length_singleton]
    rw [List.range'_1_concat, Nat.add_comm 1]
  · intro row member
    rw [rows] at member
    rcases List.mem_append.1 member with held | new
    · exact dense.mission row held
    · rw [List.mem_singleton.1 new]
      exact mission

/-- No insert at an issued ordinal is ever refused. -/
theorem MissionAudit.Dense.append_isSome {missionId : String}
    {cell : MissionAudit} (dense : cell.Dense missionId)
    (record : AuditRecord) : (cell.append record).isSome := by
  have free : cell.next ∉ cell.rows.map StoredAuditRecord.ordinal := by
    rw [dense.ordinals, dense.next, List.mem_range'_1]
    omega
  rw [MissionAudit.append, if_neg free]
  rfl

theorem keeps_dense (missionId : String) :
    Keeps auditStatements missionId (MissionAudit.Dense missionId) := by
  intro statement value next cell dense written
  cases statement with
  | append record => exact dense.append cell written
  | readOrderedAfter mission afterOrdinal limit => cases written

theorem keeps_earlierRows (missionId : String) (rows : List StoredAuditRecord) :
    Keeps auditStatements missionId fun cell => rows <+: cell.rows := by
  intro statement value next _ held written
  cases statement with
  | append record =>
      rw [(MissionAudit.append_eq_some written).2]
      exact held.trans (List.prefix_append _ _)
  | readOrderedAfter mission afterOrdinal limit => cases written

/-- The row that an entry of the history has put on its timeline. -/
def appendedRow : AuditStatement × AuditAnswer → Option StoredAuditRecord
  | (.append record, .appended ordinal) => some ⟨record, ordinal⟩
  | _ => none

/-- The rows of a cell are those of its writes, in their order. -/
theorem replays_rows {first last : MissionAudit}
    {entries : List (AuditStatement × AuditAnswer)}
    (replays : Replays auditStatements first entries last) :
    last.rows = first.rows ++ entries.filterMap appendedRow := by
  induction entries generalizing first with
  | nil =>
      cases replays
      exact (List.append_nil _).symm
  | cons entry rest inductionHypothesis =>
      rcases entry with ⟨statement, answer⟩
      rcases replays with ⟨next, written, answered, later⟩
      cases statement with
      | readOrderedAfter mission afterOrdinal limit => cases written
      | append record =>
          have accepted : first.append record = some next := written
          have answers : answer = .appended first.next := by
            rw [← answered]
            simp [auditStatements, accepted]
          rw [inductionHypothesis later,
            (MissionAudit.append_eq_some accepted).2, answers]
          simp [appendedRow]

section Runs

variable {σ : Type} [DecidableEq σ] {engine : AuditEngine σ}

theorem serial_of_steps
    (steps : Steps auditStatements (AuditEngine.start σ) engine) :
    Serial auditStatements (fun _ => MissionAudit.empty) engine :=
  (serial_start _).steps steps

theorem dense_of_steps
    (steps : Steps auditStatements (AuditEngine.start σ) engine)
    (missionId : String) :
    (engine.committed missionId).Dense missionId :=
  (serial_of_steps steps).committed (keeps_dense missionId)
    (MissionAudit.dense_empty missionId)

theorem committed_rows
    (steps : Steps auditStatements (AuditEngine.start σ) engine)
    (missionId : String) :
    (engine.committed missionId).rows =
      (entriesAt auditStatements missionId engine.history).filterMap
        appendedRow :=
  replays_rows ((serial_of_steps steps).past missionId)

end Runs

/-! ## Pages of a growing timeline -/

/-- The rows of a dense cell after the first ones. -/
theorem MissionAudit.Dense.filter {missionId : String} {cell : MissionAudit}
    (dense : cell.Dense missionId) {reached : Nat}
    (within : reached ≤ cell.rows.length) :
    (cell.rows.filter fun row => decide ((reached : Int) < row.ordinal)) =
      cell.rows.drop reached := by
  have ordinals := dense.ordinals
  have split : cell.rows =
      cell.rows.take reached ++ cell.rows.drop reached :=
    (List.take_append_drop reached cell.rows).symm
  have taken : (cell.rows.take reached).map StoredAuditRecord.ordinal =
      List.range' 1 reached := by
    rw [List.map_take, ordinals, List.take_range'_of_length_ge within]
  have dropped : (cell.rows.drop reached).map StoredAuditRecord.ordinal =
      List.range' (1 + reached) (cell.rows.length - reached) := by
    rw [List.map_drop, ordinals, List.drop_range', Nat.mul_one]
  have below : (cell.rows.take reached).filter
      (fun row => decide ((reached : Int) < row.ordinal)) = [] := by
    rw [List.filter_eq_nil_iff]
    intro row member
    have bound := List.mem_map_of_mem (f := StoredAuditRecord.ordinal) member
    rw [taken, List.mem_range'_1] at bound
    simp only [decide_eq_true_eq]
    omega
  have above : (cell.rows.drop reached).filter
      (fun row => decide ((reached : Int) < row.ordinal)) =
        cell.rows.drop reached := by
    rw [List.filter_eq_self]
    intro row member
    have bound := List.mem_map_of_mem (f := StoredAuditRecord.ordinal) member
    rw [dropped, List.mem_range'_1] at bound
    simp only [decide_eq_true_eq]
    omega
  calc (cell.rows.filter fun row => decide ((reached : Int) < row.ordinal))
      = (cell.rows.take reached ++ cell.rows.drop reached).filter
          (fun row => decide ((reached : Int) < row.ordinal)) := by
        rw [← split]
    _ = cell.rows.drop reached := by
        rw [List.filter_append, below, above, List.nil_append]

theorem MissionAudit.Dense.increasing {missionId : String}
    {cell : MissionAudit} (dense : cell.Dense missionId) :
    cell.rows.Pairwise fun left right => left.ordinal < right.ordinal := by
  rw [← List.pairwise_map (f := StoredAuditRecord.ordinal), dense.ordinals]
  exact List.pairwise_lt_range' 1

/-- A page after the rows already read is the next rows of the timeline. -/
theorem MissionAudit.Dense.page {missionId : String} {cell : MissionAudit}
    (dense : cell.Dense missionId) {reached : Nat}
    (within : reached ≤ cell.rows.length) {limit : Int}
    (positive : 0 < limit) :
    readOrderedAfter cell.rows missionId reached limit =
      .ok ((cell.rows.drop reached).take limit.toNat) := by
  have later := dense.increasing.sublist (List.drop_sublist reached _)
  have ordered :=
    (later.imp fun below => Nat.le_of_lt below).insertionSort_eq
  have selected : orderedAfter cell.rows reached limit.toNat =
      (cell.rows.drop reached).take limit.toNat := by
    unfold orderedAfter
    rw [dense.filter within]
    exact congrArg (List.take limit.toNat) ordered
  have taken := later.sublist (List.take_sublist limit.toNat _)
  have fromDrop : ∀ row ∈ (cell.rows.drop reached).take limit.toNat,
      row ∈ cell.rows ∧ (reached : Int) < row.ordinal := by
    intro row member
    have dropped := List.mem_of_mem_take member
    rw [← dense.filter within] at dropped
    simpa using List.mem_filter.1 dropped
  have read : ((cell.rows.drop reached).take limit.toNat).mapM
      (storedRecord missionId) =
        .ok ((cell.rows.drop reached).take limit.toNat) := by
    have each : ∀ row ∈ (cell.rows.drop reached).take limit.toNat,
        storedRecord missionId row = .ok (id row) := by
      intro row member
      rcases fromDrop row member with ⟨held, above⟩
      rw [storedRecord, ensure_of ⟨by omega, dense.mission row held⟩]
      rfl
    simpa using mapM_eq_ok_map each
  have short :
      (((cell.rows.drop reached).take limit.toNat).length : Int) ≤
        limit := by
    have most := List.length_take_le limit.toNat (cell.rows.drop reached)
    omega
  unfold readOrderedAfter
  simp only [bind_eq_ok, ensure_eq_ok, exists_const, pure_eq_ok, selected]
  refine ⟨Int.natCast_nonneg _, positive, short, _, read, ?_,
    taken.isChain, rfl⟩
  intro first head
  exact (fromDrop first (List.mem_of_mem_head? head)).2

/-- The cursor after a page: the last ordinal read, or where it was. -/
def cursorAfter (cursor : Int) (page : List StoredAuditRecord) : Int :=
  page.getLast?.elim cursor fun row => row.ordinal

/-- The first rows of a timeline have the first ordinals. -/
theorem MissionAudit.Dense.first_ordinals {missionId : String}
    {cell : MissionAudit} (dense : cell.Dense missionId)
    {rows : List StoredAuditRecord} (held : rows <+: cell.rows) :
    rows.map StoredAuditRecord.ordinal = List.range' 1 rows.length := by
  rw [List.prefix_iff_eq_take.1 held, List.map_take, dense.ordinals,
    List.take_range'_of_length_ge held.length_le,
    List.length_take_of_le held.length_le]

/-- The cursor after the first rows of a timeline counts them. -/
theorem MissionAudit.Dense.cursor {missionId : String} {cell : MissionAudit}
    (dense : cell.Dense missionId) {rows page : List StoredAuditRecord}
    (held : rows ++ page <+: cell.rows) :
    cursorAfter rows.length page = (rows ++ page).length := by
  cases last : page.getLast? with
  | none =>
      rw [List.getLast?_eq_none_iff.1 last]
      simp [cursorAfter]
  | some row =>
      have whole : (rows ++ page).getLast? = some row := by
        rw [List.getLast?_append, last]
        rfl
      have ordinals := dense.first_ordinals held
      have ordinal : row.ordinal = (rows ++ page).length := by
        have mapped := congrArg List.getLast? ordinals
        rw [List.getLast?_map, whole, List.getLast?_range'] at mapped
        split at mapped
        · cases mapped
        · simp only [Option.map_some, Option.some.injEq] at mapped
          omega
      rw [cursorAfter, last, ← ordinal]
      rfl

/--
A reader of one mission that starts at zero and takes page after page, each
after the last ordinal it has read, while sessions append.
-/
inductive Reading {σ : Type} [DecidableEq σ] (missionId : String) :
    AuditEngine σ → Int → List StoredAuditRecord → Prop
  | start {engine : AuditEngine σ}
      (steps : Steps auditStatements (AuditEngine.start σ) engine) :
      Reading missionId engine 0 []
  | wait {before after : AuditEngine σ} {cursor : Int}
      {rows : List StoredAuditRecord} :
      Reading missionId before cursor rows →
        Step auditStatements before after →
          Reading missionId after cursor rows
  | page {engine : AuditEngine σ} {cursor limit : Int}
      {rows page : List StoredAuditRecord} :
      Reading missionId engine cursor rows →
        readOrderedAfter (engine.committed missionId).rows missionId cursor
            limit = .ok page →
          Reading missionId engine (cursorAfter cursor page) (rows ++ page)

section Reading

variable {σ : Type} [DecidableEq σ] {missionId : String}
  {engine : AuditEngine σ} {cursor : Int} {rows : List StoredAuditRecord}

theorem Reading.steps (reading : Reading missionId engine cursor rows) :
    Steps auditStatements (AuditEngine.start σ) engine := by
  induction reading with
  | start steps => exact steps
  | wait _ step inductionHypothesis => exact inductionHypothesis.tail step
  | page _ _ inductionHypothesis => exact inductionHypothesis

theorem positive_of_read {limit : Int} {page : List StoredAuditRecord}
    (read : readOrderedAfter rows missionId cursor limit = .ok page) :
    0 < limit := by
  simp only [readOrderedAfter, bind_eq_ok, ensure_eq_ok,
    exists_const] at read
  exact read.2.1

/-- What has been read is the timeline up to the cursor. -/
theorem Reading.first (reading : Reading missionId engine cursor rows) :
    rows <+: (engine.committed missionId).rows ∧ cursor = rows.length := by
  induction reading with
  | start steps => exact ⟨by simp, rfl⟩
  | wait earlier step inductionHypothesis =>
      have serial := serial_of_steps earlier.steps
      exact ⟨serial.stays (keeps_earlierRows missionId _) inductionHypothesis.1
        ((Steps.refl _).tail step), inductionHypothesis.2⟩
  | @page engine cursor limit rows page earlier read inductionHypothesis =>
      rcases inductionHypothesis with ⟨held, rfl⟩
      have dense := dense_of_steps earlier.steps missionId
      have within := held.length_le
      rw [dense.page within (positive_of_read read)] at read
      cases read
      have longer : rows ++
          ((engine.committed missionId).rows.drop rows.length).take
            limit.toNat <+: (engine.committed missionId).rows := by
        rw [List.prefix_iff_eq_take.1 held, List.length_take_of_le within,
          ← List.take_add]
        exact List.take_prefix _ _
      exact ⟨longer, dense.cursor longer⟩

end Reading

/--
In every interleaving of sessions that append, commit and roll back, the
committed ordinals of each mission are one to their number, in the order of
the commits.  Pages read one after another from zero, while sessions go on,
are the first rows of the timeline, each once and in order, and the next page
is always the next rows.
-/
theorem auditOrdinals_gapFree (σ : Type) [DecidableEq σ] :
    (∀ engine : AuditEngine σ,
      Steps auditStatements (AuditEngine.start σ) engine →
        ∀ missionId,
          (engine.committed missionId).rows.map StoredAuditRecord.ordinal =
              List.range' 1 (engine.committed missionId).rows.length ∧
            (engine.committed missionId).rows =
              (entriesAt auditStatements missionId engine.history).filterMap
                appendedRow) ∧
    ∀ (engine : AuditEngine σ) (missionId : String) (cursor : Int)
      (rows : List StoredAuditRecord),
      Reading missionId engine cursor rows →
        rows <+: (engine.committed missionId).rows ∧
          cursor = rows.length ∧
          rows.map StoredAuditRecord.ordinal = List.range' 1 rows.length ∧
          ∀ limit : Int, 0 < limit →
            readOrderedAfter (engine.committed missionId).rows missionId
                cursor limit =
              .ok (((engine.committed missionId).rows.drop
                rows.length).take limit.toNat) := by
  constructor
  · intro engine steps missionId
    exact ⟨(dense_of_steps steps missionId).ordinals,
      committed_rows steps missionId⟩
  · intro engine missionId cursor rows reading
    rcases reading.first with ⟨held, rfl⟩
    have dense := dense_of_steps reading.steps missionId
    refine ⟨held, rfl, dense.first_ordinals held, ?_⟩
    intro limit positive
    exact dense.page held.length_le positive

end AerialRescue.Store
