import AerialRescue.Dashboard.ProjectionHub
import AerialRescue.Lib.Run
import AerialRescue.Store.Claims
import AerialRescue.Store.Timeline

/-!
# The data plane

Recovery of the broker path: it reads the audit rows after the hub's
checkpoint page by page, applies each row and records it in the inbox, and
drains the outbox.  A lock lets one recovery run at a time.  Replacing the run
of the hub and selecting a mission are not behind that lock, so either can
happen while a page is underway.

A recovery suspends at its read, at every inbox transaction and at its drain;
between two suspensions nothing else runs.
-/

namespace AerialRescue.Dashboard.DataPlane

open AerialRescue.Lib
open AerialRescue.Lib.Guard
open AerialRescue.Lib.Run
open AerialRescue.Lib.Transaction
open AerialRescue.Contracts
open AerialRescue.Contracts.Canonical
open AerialRescue.Contracts.Envelopes
open AerialRescue.Contracts.View
open AerialRescue.Dashboard.ProjectionHub
open AerialRescue.Store

/-! ## The inbox of a recovered row -/

/-- What can escape the data plane. -/
inductive PlaneFailure where
  | projection (raised : ProjectionRaised)
  | envelope (failure : EnvelopeFailure)
  | canonicalization (refusal : Refusal)
  | store (failure : StoreFailure)
  /-- `AuditError` with `INVALID_AFTER_ORDINAL` -/
  | afterOrdinal
  /-- `_AuditPendingError` -/
  | auditPending
deriving DecidableEq

/-- `CONSUMER` -/
def consumer : String := "dashboard-api"

/-- `_identity` -/
def identity (host : Host) (source eventId : String) (payload : Bytes) :
    Except PlaneFailure InboxIdentity := do
  let envelope ← recast PlaneFailure.envelope (decodeEnvelope host payload)
  pure
    { consumer
      source
      eventId
      missionId := envelope.subject
      canonicalDigest := host.sha256 payload }

/-- The result a recovered row leaves in the inbox. -/
def rowResult (host : Host) (row : StoredAuditRecord) :
    Except PlaneFailure Bytes :=
  recast PlaneFailure.canonicalization
    (canonicalBytes host (.object [("auditOrdinal", .int row.ordinal)]))

/-- The inbox transaction of a recovered row. -/
def completeRow (claim : InboxIdentity) (result : Bytes)
    (processedAt : String) : Tx Database PlaneFailure Unit := do
  let outcome ← rethrow PlaneFailure.store (claimInbox claim)
  match outcome.decision with
  | .claimed =>
      rethrow PlaneFailure.store (completeInbox claim result processedAt)
  | .duplicate => pure ()

/-- The inbox identity of an audit row. -/
def rowIdentity (host : Host) (row : StoredAuditRecord) :
    Except PlaneFailure InboxIdentity := do
  let envelope ← recast PlaneFailure.envelope
    (decodeEnvelope host row.record.payload)
  identity host envelope.source envelope.id row.record.payload

/-- `_record_audit_inbox` -/
def recordAuditInbox (host : Host) (row : StoredAuditRecord)
    (processedAt : String) : Tx Database PlaneFailure Unit := do
  let claim ← lift id (rowIdentity host row)
  let result ← lift id (rowResult host row)
  atomically (completeRow claim result processedAt)

/-! ## State -/

/-- Who is inside `recover`. -/
inductive Caller where
  /-- The serving task. -/
  | serving
  /-- A request or the start-up that activated a mission. -/
  | activation
deriving DecidableEq

/-- Where the one recovery is suspended. -/
inductive Recovery where
  | idle
  | reading (caller : Caller) (missionId : String) (afterOrdinal : Int)
  | page (caller : Caller) (missionId : String) (full : Bool)
      (rows : List StoredAuditRecord)
  | completing (caller : Caller) (missionId : String) (full : Bool)
      (row : StoredAuditRecord) (rows : List StoredAuditRecord)
  | draining (caller : Caller)

/-- One call of `apply_audit`, with the checkpoint it met. -/
structure Attempt where
  row : StoredAuditRecord
  checkpoint : ReducerCheckpoint
  answer : Except ProjectionRaised ApplyDecision

/-- The data plane, its hub and the database it reads. -/
structure Plane where
  database : Database
  checkpoint : ReducerCheckpoint
  selected : Option String
  recovery : Recovery
  servingEnded : Option PlaneFailure
  attempts : List Attempt

/-- What can happen between two suspensions. -/
inductive PlaneAction where
  /-- `recover` takes the lock. -/
  | recover (caller : Caller)
  /-- The recovery runs to its next suspension. -/
  | resume (processedAt : String)
  /-- `replace_run` with a prepared state. -/
  | replaceRun (prepared : DashboardReducedState)
  /-- `activate_mission` -/
  | activateMission (missionId : String)
  /-- A service commits an audit row. -/
  | append (record : AuditRecord)

/-- What the plane is composed with. -/
structure Settings where
  registry : Registry
  auditPageSize : Nat
  positive : 0 < auditPageSize

/-! ## Steps -/

/-- An exception leaves `recover`, releases the lock and reaches its caller. -/
def Plane.raise (plane : Plane) (caller : Caller) (failure : PlaneFailure) :
    Plane :=
  { plane with
    recovery := .idle
    servingEnded :=
      match caller with
      | .serving => some failure
      | .activation => plane.servingEnded }

/-- `recover`, up to its first suspension. -/
def Plane.recover (plane : Plane) (caller : Caller) : Plane :=
  match plane.selected with
  | none => { plane with recovery := .draining caller }
  | some missionId =>
      { plane with
        recovery :=
          .reading caller missionId
            plane.checkpoint.state.latestAuditOrdinal }

/-- The page read of `read_after`. -/
def Plane.read (settings : Settings) (plane : Plane) (caller : Caller)
    (missionId : String) (afterOrdinal : Int) : Plane :=
  if afterOrdinal < 0 then plane.raise caller .afterOrdinal
  else
    let rows := plane.database.auditSuffix missionId afterOrdinal
      settings.auditPageSize
    { plane with
      recovery :=
        .page caller missionId
          (decide (settings.auditPageSize ≤ rows.length)) rows }

/-- `apply_audit` of the next row of a page. -/
def Plane.apply (settings : Settings) (plane : Plane) (caller : Caller)
    (missionId : String) (full : Bool) (row : StoredAuditRecord)
    (rows : List StoredAuditRecord) : Plane :=
  let (answer, checkpoint) :=
    applyAudit settings.registry plane.checkpoint row
  let attempted : Plane :=
    { plane with
      checkpoint
      attempts := plane.attempts ++ [⟨row, plane.checkpoint, answer⟩] }
  match answer with
  | .error raised => attempted.raise caller (.projection raised)
  | .ok _ =>
      { attempted with
        recovery := .completing caller missionId full row rows }

/-- The inbox transaction of an applied row. -/
def Plane.complete (settings : Settings) (plane : Plane) (caller : Caller)
    (missionId : String) (full : Bool) (row : StoredAuditRecord)
    (rows : List StoredAuditRecord) (processedAt : String) : Plane :=
  match exec (recordAuditInbox settings.registry.host row processedAt)
      plane.database with
  | (.error failure, database) =>
      ({ plane with database } : Plane).raise caller failure
  | (.ok _, database) =>
      { plane with
        database
        recovery := .page caller missionId full rows }

/-- The recovery from one suspension to the next. -/
def Plane.resume (settings : Settings) (plane : Plane)
    (processedAt : String) : Plane :=
  match plane.recovery with
  | .idle => plane
  | .reading caller missionId afterOrdinal =>
      plane.read settings caller missionId afterOrdinal
  | .page caller missionId true [] =>
      { plane with
        recovery :=
          .reading caller missionId
            plane.checkpoint.state.latestAuditOrdinal }
  | .page caller _ false [] => { plane with recovery := .draining caller }
  | .page caller missionId full (row :: rows) =>
      plane.apply settings caller missionId full row rows
  | .completing caller missionId full row rows =>
      plane.complete settings caller missionId full row rows processedAt
  | .draining _ => { plane with recovery := .idle }

/-- One action. -/
def Plane.step (settings : Settings) (plane : Plane) : PlaneAction → Plane
  | .recover caller =>
      match plane.recovery with
      | .idle =>
          if caller = .serving ∧ plane.servingEnded ≠ none then plane
          else plane.recover caller
      | _ => plane
  | .resume processedAt => plane.resume settings processedAt
  | .replaceRun prepared =>
      match preparedCheckpoint settings.registry prepared with
      | some checkpoint => { plane with checkpoint }
      | none => plane
  | .activateMission missionId =>
      if missionId = "" then plane
      else { plane with selected := some missionId }
  | .append record =>
      match exec (appendAudit record) plane.database with
      | (.ok _, database) => { plane with database }
      | (.error _, _) => plane

/-- A process that has started, over a database. -/
def Plane.initial (database : Database) : Plane where
  database := database
  checkpoint := emptyCheckpoint
  selected := none
  recovery := .idle
  servingEnded := none
  attempts := []

/-! ## What recovery keeps -/

/-- The row belongs to the checkpoint's mission and is next or a duplicate. -/
structure Attempt.InOrder (attempt : Attempt) : Prop where
  mission :
    attempt.checkpoint.mission? = some attempt.row.record.missionId
  ordinal :
    (attempt.row.ordinal : Int) =
        attempt.checkpoint.state.latestAuditOrdinal + 1 ∨
      attempt.answer = .ok .duplicate
  content : FailsOnly ProjectionRaised.Content attempt.answer

/-- Every row was applied in order, and none of them ended the serving task. -/
structure Continuous (plane : Plane) : Prop where
  attempts : ∀ attempt ∈ plane.attempts, attempt.InOrder
  serving :
    ∀ raised,
      plane.servingEnded = some (.projection raised) → raised.Content

/-- The mission whose page is underway. -/
def Recovery.mission? : Recovery → Option String
  | .idle | .draining _ => none
  | .reading _ missionId _ => some missionId
  | .page _ missionId _ _ => some missionId
  | .completing _ missionId _ _ _ => some missionId

/--
A recovery begins with the hub's own mission, and no run is replaced while a
page is underway, unless by one of the same mission and ordinal.
-/
def Undisturbed (plane : Plane) : PlaneAction → Prop
  | .recover _ =>
      ∀ missionId ∈ plane.selected,
        plane.checkpoint.mission? = some missionId
  | .replaceRun prepared =>
      ∀ missionId ∈ plane.recovery.mission?,
        prepared.currentMission.map Mission.identifier = some missionId ∧
          prepared.latestAuditOrdinal =
            plane.checkpoint.state.latestAuditOrdinal
  | _ => True

instance (plane : Plane) :
    ∀ action, Decidable (Undisturbed plane action)
  | .recover _ =>
      inferInstanceAs (Decidable (∀ missionId ∈ plane.selected, _))
  | .replaceRun _ =>
      inferInstanceAs
        (Decidable (∀ missionId ∈ plane.recovery.mission?, _ ∧ _))
  | .resume _ => inferInstanceAs (Decidable True)
  | .activateMission _ => inferInstanceAs (Decidable True)
  | .append _ => inferInstanceAs (Decidable True)

/-- The rows underway follow the checkpoint in its mission. -/
def Underway (plane : Plane) : Prop :=
  match plane.recovery with
  | .idle => True
  | .draining _ => True
  | .reading _ missionId afterOrdinal =>
      plane.checkpoint.mission? = some missionId ∧
        afterOrdinal = plane.checkpoint.state.latestAuditOrdinal
  | .page _ missionId _ rows =>
      plane.checkpoint.mission? = some missionId ∧
        Follows missionId plane.checkpoint.state.latestAuditOrdinal rows
  | .completing _ missionId _ _ rows =>
      plane.checkpoint.mission? = some missionId ∧
        Follows missionId plane.checkpoint.state.latestAuditOrdinal rows

/-- The invariant of an undisturbed run. -/
structure Recovering (plane : Plane) : Prop where
  dense : Dense plane.database
  reached : 0 ≤ plane.checkpoint.state.latestAuditOrdinal
  underway : Underway plane
  continuous : Continuous plane

/-! ### The inbox transaction -/

/-- The inbox after a row: one completed row more, or the exact one held. -/
def InboxEntered (claim : InboxIdentity) (result : Bytes)
    (processedAt : String) (before after : Table InboxRow.key) : Prop :=
  after.rows = before.rows ++ [⟨claim, some (result, processedAt)⟩] ∨
    after = before ∧
      ∃ held,
        before.find? claim.key = some held ∧
          held.identity.canonicalDigest = claim.canonicalDigest

theorem completeRow_ok {claim : InboxIdentity} {result : Bytes}
    {processedAt : String} {before after : Database} {value : Unit}
    (completed :
      exec (completeRow claim result processedAt) before =
        (.ok value, after)) :
    claim.source.length ≤ sourceLength ∧
      after = { before with inbox := after.inbox } ∧
      InboxEntered claim result processedAt before.inbox after.inbox := by
  simp only [completeRow, exec_bind_eq_ok, exec_rethrow_eq_ok] at completed
  rcases completed with ⟨outcome, middle, claimed, rest⟩
  refine ⟨claimInbox_narrow claimed, ?_⟩
  rcases claimInbox_ok claimed with
    ⟨rfl, inbox, inserted, rfl⟩ | ⟨held, _, _, rfl, rfl, found, same, _⟩
  · simp only [exec_rethrow_eq_ok] at rest
    rcases completeInbox_ok rest with ⟨_, _, _, _, rfl⟩
    exact ⟨rfl, .inl (Table.amend_insert?_rows before.inbox
      (fun row => { row with completion := some (result, processedAt) })
      (fun _ => rfl) inserted)⟩
  · simp only [exec_pure, Prod.mk.injEq] at rest
    rcases rest with ⟨_, rfl⟩
    exact ⟨rfl, .inr ⟨rfl, held, found, same⟩⟩

theorem recordAuditInbox_frame (host : Host) (row : StoredAuditRecord)
    (processedAt : String) (before : Database) :
    (exec (recordAuditInbox host row processedAt) before).2 =
      { before with
        inbox :=
          (exec (recordAuditInbox host row processedAt) before).2.inbox } := by
  rcases ran : exec (recordAuditInbox host row processedAt) before with
    ⟨answer, after⟩
  simp only
  cases answer with
  | ok value =>
      simp only [recordAuditInbox, exec_bind_eq_ok, exec_lift_eq_ok,
        exec_atomically_eq_ok] at ran
      rcases ran with ⟨_, _, ⟨_, rfl⟩, _, _, ⟨_, rfl⟩, completed⟩
      exact (completeRow_ok completed).2.1
  | error failure =>
      have same : after = before := by
        simp only [recordAuditInbox, exec_bind_eq_error, exec_lift_eq_ok,
          exec_lift_eq_error] at ran
        rcases ran with ⟨_, _, _, rfl⟩ | ⟨_, _, ⟨_, rfl⟩, rest⟩
        · rfl
        rcases rest with ⟨_, _, _, rfl⟩ | ⟨_, _, ⟨_, rfl⟩, rest⟩
        · rfl
        exact atomically_rolls_back rest
      rw [same]

/-- A failure that the projection did not raise. -/
def PlaneFailure.Foreign : PlaneFailure → Prop
  | .projection _ => False
  | _ => True

theorem identity_foreign (host : Host) (source eventId : String)
    (payload : Bytes) :
    FailsOnly PlaneFailure.Foreign (identity host source eventId payload) :=
  .bind (.recast fun _ => trivial) fun _ => .ok _

theorem rowIdentity_foreign (host : Host) (row : StoredAuditRecord) :
    FailsOnly PlaneFailure.Foreign (rowIdentity host row) :=
  .bind (.recast fun _ => trivial) fun _ => identity_foreign _ _ _ _

/-- The inbox transaction raises no refusal of the projection. -/
theorem recordAuditInbox_foreign (host : Host) (row : StoredAuditRecord)
    (processedAt : String) :
    RaisesOnly PlaneFailure.Foreign
      (recordAuditInbox host row processedAt) := by
  have stored {α : Type} (body : StoreTx α) :
      RaisesOnly PlaneFailure.Foreign
        (rethrow PlaneFailure.store body) := by
    have any : RaisesOnly (fun _ => True) body := fun _ _ _ _ => trivial
    exact any.rethrow fun _ _ => trivial
  refine .bind (.lift (rowIdentity_foreign host row)) fun claim => ?_
  refine .bind (.lift (FailsOnly.recast fun _ => trivial)) fun result => ?_
  intro before failure after raised
  rcases atomically_raises raised with ⟨middle, inside⟩
  refine RaisesOnly.bind (stored (claimInbox claim)) (fun outcome => ?_)
    before failure middle inside
  cases outcome.decision with
  | claimed => exact stored (completeInbox claim result processedAt)
  | duplicate => exact .pure ()

/-! ### One step -/

theorem dense_congr {before after : Database} (dense : Dense before)
    (rows : after.audit = before.audit)
    (counters : after.auditSequences = before.auditSequences) :
    Dense after := by
  intro missionId
  have held := dense missionId
  unfold Database.missionRows Database.issued at held ⊢
  rw [rows, counters]
  exact held

/-- Suspending a recovery elsewhere needs only the rows underway there. -/
theorem Recovering.suspend {plane : Plane} (recovering : Recovering plane)
    {recovery : Recovery} (underway : Underway { plane with recovery }) :
    Recovering { plane with recovery } where
  dense := recovering.dense
  reached := recovering.reached
  underway := underway
  continuous := ⟨recovering.continuous.attempts, recovering.continuous.serving⟩

/-- A dense database in place of another keeps the invariant. -/
theorem Recovering.commit {plane : Plane} (recovering : Recovering plane)
    {database : Database} (dense : Dense database) :
    Recovering { plane with database } where
  dense := dense
  reached := recovering.reached
  underway := recovering.underway
  continuous := ⟨recovering.continuous.attempts, recovering.continuous.serving⟩

/-- An exception that is not about a row's place ends a recovery in order. -/
theorem Recovering.raise {plane : Plane} (recovering : Recovering plane)
    (caller : Caller) {failure : PlaneFailure}
    (content :
      ∀ raised, failure = .projection raised → raised.Content) :
    Recovering (plane.raise caller failure) where
  dense := recovering.dense
  reached := recovering.reached
  underway := trivial
  continuous :=
    { attempts := recovering.continuous.attempts
      serving := by
        intro raised ended
        cases caller with
        | serving => exact content raised (Option.some.inj ended)
        | activation => exact recovering.continuous.serving raised ended }

theorem Recovering.recover {plane : Plane} (recovering : Recovering plane)
    (caller : Caller)
    (own :
      ∀ missionId ∈ plane.selected,
        plane.checkpoint.mission? = some missionId) :
    Recovering (plane.recover caller) := by
  unfold Plane.recover
  split
  · exact recovering.suspend trivial
  · rename_i missionId chosen
    exact recovering.suspend ⟨own missionId chosen, rfl⟩

theorem Recovering.read {settings : Settings} {plane : Plane}
    (recovering : Recovering plane) {caller : Caller} {missionId : String}
    {afterOrdinal : Int}
    (suspended :
      plane.recovery = .reading caller missionId afterOrdinal) :
    Recovering (plane.read settings caller missionId afterOrdinal) := by
  have underway := recovering.underway
  simp only [Underway, suspended] at underway
  rcases underway with ⟨mission, rfl⟩
  unfold Plane.read
  split
  · apply recovering.raise
    intro raised impossible
    cases impossible
  · exact recovering.suspend
      ⟨mission,
        auditSuffix_follows recovering.dense missionId recovering.reached _⟩

/-- A row that follows the checkpoint is in its place. -/
theorem rowInPlace_of_follows {checkpoint : ReducerCheckpoint}
    {missionId : String} {row : StoredAuditRecord}
    {rows : List StoredAuditRecord}
    (mission : checkpoint.mission? = some missionId)
    (follows :
      Follows missionId checkpoint.state.latestAuditOrdinal
        (row :: rows)) :
    RowInPlace checkpoint row :=
  ⟨by rw [mission, follows.1], follows.2.1⟩

theorem Recovering.apply {settings : Settings} {plane : Plane}
    (recovering : Recovering plane) {caller : Caller} {missionId : String}
    {full : Bool} {row : StoredAuditRecord} {rows : List StoredAuditRecord}
    (suspended :
      plane.recovery = .page caller missionId full (row :: rows)) :
    Recovering (plane.apply settings caller missionId full row rows) := by
  have underway := recovering.underway
  simp only [Underway, suspended] at underway
  rcases underway with ⟨mission, follows⟩
  have place := rowInPlace_of_follows mission follows
  have applied :
      AppliedInPlace plane.checkpoint
        (applyAudit settings.registry plane.checkpoint row).2 row
        (applyAudit settings.registry plane.checkpoint row).1 :=
    applyAudit_inPlace place
  unfold Plane.apply
  rcases ran : applyAudit settings.registry plane.checkpoint row with
    ⟨answer, checkpoint⟩
  rw [ran] at applied
  have reached : 0 ≤ checkpoint.state.latestAuditOrdinal := by
    rcases applied.ordinal with ⟨same, _⟩ | ordinal
    · simp only at same
      rw [same]
      exact recovering.reached
    · simp only at ordinal
      rw [ordinal]
      exact Int.natCast_nonneg _
  have continuous :
      ∀ attempt ∈ plane.attempts ++ [⟨row, plane.checkpoint, answer⟩],
        attempt.InOrder := by
    intro attempt member
    rcases List.mem_append.1 member with earlier | last
    · exact recovering.continuous.attempts attempt earlier
    · cases List.mem_singleton.1 last
      exact ⟨place.mission, .inl place.next, applied.content⟩
  cases answer with
  | error raised =>
      simp only
      unfold Plane.raise
      refine ⟨recovering.dense, reached, trivial, continuous, ?_⟩
      intro found ended
      cases caller with
      | serving =>
          cases ended
          exact applied.content raised rfl
      | activation => exact recovering.continuous.serving found ended
  | ok decision =>
      have ordinal :
          checkpoint.state.latestAuditOrdinal = row.ordinal := by
        rcases applied.ordinal with ⟨_, refused⟩ | ordinal
        · exact absurd rfl (refused decision)
        · exact ordinal
      refine
        { dense := recovering.dense
          reached
          underway := ⟨applied.mission.trans mission, ?_⟩
          continuous := ⟨continuous, recovering.continuous.serving⟩ }
      rw [ordinal]
      exact follows.2.2

theorem Recovering.complete {settings : Settings} {plane : Plane}
    (recovering : Recovering plane) {caller : Caller} {missionId : String}
    {full : Bool} {row : StoredAuditRecord} {rows : List StoredAuditRecord}
    {processedAt : String}
    (suspended :
      plane.recovery = .completing caller missionId full row rows) :
    Recovering
      (plane.complete settings caller missionId full row rows
        processedAt) := by
  have underway := recovering.underway
  simp only [Underway, suspended] at underway
  have frame := recordAuditInbox_frame settings.registry.host row
    processedAt plane.database
  unfold Plane.complete
  rcases ran : exec (recordAuditInbox settings.registry.host row processedAt)
      plane.database with ⟨answer, database⟩
  rw [ran] at frame
  simp only at frame
  have dense : Dense database := by
    rw [frame]
    exact dense_congr recovering.dense rfl rfl
  have written := recovering.commit dense
  cases answer with
  | error failure =>
      apply written.raise
      rintro raised rfl
      exact (recordAuditInbox_foreign _ _ _ _ _ _ ran).elim
  | ok _ => exact written.suspend underway

theorem Recovering.resume {settings : Settings} {plane : Plane}
    (recovering : Recovering plane) (processedAt : String) :
    Recovering (plane.resume settings processedAt) := by
  have underway := recovering.underway
  unfold Plane.resume
  split
  · exact recovering
  · rename_i caller missionId afterOrdinal suspended
    exact recovering.read suspended
  · rename_i caller missionId suspended
    simp only [Underway, suspended] at underway
    exact recovering.suspend ⟨underway.1, rfl⟩
  · exact recovering.suspend trivial
  · rename_i caller missionId full row rows suspended
    exact recovering.apply suspended
  · rename_i caller missionId full row rows suspended
    exact recovering.complete suspended
  · exact recovering.suspend trivial

/-- A replacement that keeps the place of a page keeps the invariant. -/
theorem Recovering.replaceRun {settings : Settings} {plane : Plane}
    (recovering : Recovering plane) {prepared : DashboardReducedState}
    {checkpoint : ReducerCheckpoint}
    (seeded :
      preparedCheckpoint settings.registry prepared = some checkpoint)
    (undisturbed : Undisturbed plane (.replaceRun prepared)) :
    Recovering { plane with checkpoint } := by
  rcases preparedCheckpoint_eq_some seeded with ⟨rfl, start⟩
  refine
    { dense := recovering.dense
      reached := by simp [start]
      underway := ?_
      continuous := ⟨recovering.continuous.attempts,
        recovering.continuous.serving⟩ }
  have underway := recovering.underway
  unfold Undisturbed at undisturbed
  unfold Underway at underway ⊢
  simp only [ReducerCheckpoint.mission?]
  cases suspended : plane.recovery with
  | idle => trivial
  | draining caller => trivial
  | reading caller missionId afterOrdinal =>
      rw [suspended] at underway undisturbed
      rcases undisturbed missionId rfl with ⟨mission, ordinal⟩
      exact ⟨mission, underway.2.trans ordinal.symm⟩
  | page caller missionId full rows =>
      rw [suspended] at underway undisturbed
      rcases undisturbed missionId rfl with ⟨mission, ordinal⟩
      refine ⟨mission, ?_⟩
      rw [ordinal]
      exact underway.2
  | completing caller missionId full row rows =>
      rw [suspended] at underway undisturbed
      rcases undisturbed missionId rfl with ⟨mission, ordinal⟩
      refine ⟨mission, ?_⟩
      rw [ordinal]
      exact underway.2

/-- An undisturbed step keeps the invariant. -/
theorem step_recovering {settings : Settings} {plane : Plane}
    {action : PlaneAction} (undisturbed : Undisturbed plane action)
    (recovering : Recovering plane) :
    Recovering (plane.step settings action) := by
  cases action with
  | recover caller =>
      simp only [Plane.step]
      split
      · split
        · exact recovering
        · exact recovering.recover caller undisturbed
      · exact recovering
  | resume processedAt => exact recovering.resume processedAt
  | replaceRun prepared =>
      simp only [Plane.step]
      split
      · rename_i checkpoint seeded
        exact recovering.replaceRun seeded undisturbed
      · exact recovering
  | activateMission missionId =>
      simp only [Plane.step]
      split
      · exact recovering
      · exact
          ⟨recovering.dense, recovering.reached, recovering.underway,
            recovering.continuous.attempts, recovering.continuous.serving⟩
  | append record =>
      simp only [Plane.step]
      split
      · rename_i ordinal database appended
        exact recovering.commit
          (appendAudit_dense recovering.dense appended)
      · exact recovering

theorem initial_recovering {database : Database} (dense : Dense database) :
    Recovering (Plane.initial database) where
  dense := dense
  reached := le_refl 0
  underway := trivial
  continuous :=
    { attempts := by
        intro attempt member
        cases member
      serving := by
        intro raised ended
        cases ended }

/-! ## Every undisturbed run is continuous -/

/--
In every run whose recoveries begin with the hub's mission and whose pages no
replacement moves, each row passed to `apply_audit` is the next one of the
checkpoint's mission or an exact duplicate, and no refusal about a row's place
ends the serving task.
-/
theorem undisturbedRun_continuous (settings : Settings)
    {database : Database} (dense : Dense database)
    (actions : List PlaneAction)
    (undisturbed :
      Along (Plane.step settings) Undisturbed (Plane.initial database)
        actions) :
    Continuous
      (run (Plane.step settings) (Plane.initial database) actions) := by
  have kept :
      Recovering
        (run (Plane.step settings) (Plane.initial database) actions) :=
    run_keeps
      (fun plane action here recovering => step_recovering here recovering)
      undisturbed (initial_recovering dense)
  exact kept.continuous

/-! ### A replacement under a page -/

/-- The first lifecycle event of the sample mission. -/
def searchingEnvelope : Envelope where
  id := "event-1"
  source := "urn:aerial-rescue:mission-lifecycle:dashboard-1"
  type := "aerial-rescue.v1.mission.event.lifecycle"
  subject := "mission-1"
  time := "2026-01-01T00:00:10.000Z"
  dataschema := schemaBase ++ "mission-event-lifecycle" ++ ".schema.json"
  sequence := "000000000000000"
  correlationId := "correlation-1"
  traceparent := "00-0123456789abcdef0123456789abcdef-0123456789abcdef-01"
  data :=
    [("missionId", .text "mission-1"), ("lifecycle", .text "SEARCHING")]
  causationId := none
  tracestate := none

/-- The audit record of an envelope. -/
def recordOf (envelope : Envelope) : AuditRecord where
  missionId := envelope.subject
  kind := envelope.type
  occurredAt := envelope.time
  payload := bytesOf (.object (envelopeDocument envelope))
  correlationId := envelope.correlationId
  causationId := envelope.causationId
  traceparent := envelope.traceparent

/-- SHA-256 on the texts of the sample runs, by their length. -/
def searchingSha256 (text : Bytes) : String :=
  match text.length with
  | 528 =>
      "0201043d833e5531c8d8cece5eafb5d23d7977a2e5d9cc7d18dc0218f850d02a"
  | 245 =>
      "a230255787e78005f9e5257129d894cd172d3f37124c8e85c7b4ef771ee6144e"
  | _ =>
      "0044bce87db9a049f6639193e11bbedb9fde005c04422fcfb7616e485bb843b1"

/-- A plane that reads one row at a time. -/
def searchingSettings : Settings where
  registry :=
    { host :=
        ⟨loadsFrom [.object (envelopeDocument searchingEnvelope)], id,
          searchingSha256⟩
      schema := fun _ _ => true
      cursor := fun _ _ => "cursor"
      frame := fun _ => true }
  auditPageSize := 1
  positive := Nat.one_pos

/-- The prepared state of a planned mission without a fleet. -/
def plannedState (missionId : String) : DashboardReducedState where
  currentMission := some ⟨missionId, .planned, none⟩
  fleet := []
  latestAuditOrdinal := 0
  sectors := []

/-- The serving task is about to read the first row of its mission. -/
def readingActions : List PlaneAction :=
  [.append (recordOf searchingEnvelope),
    .replaceRun (plannedState "mission-1"), .activateMission "mission-1",
    .recover .serving]

/-- The serving task applies the row, reads on and drains. -/
def servedActions : List PlaneAction :=
  readingActions ++
    [.resume "2026-01-01T00:00:12.000Z", .resume "2026-01-01T00:00:12.000Z",
      .resume "2026-01-01T00:00:12.000Z", .resume "2026-01-01T00:00:12.000Z",
      .resume "2026-01-01T00:00:12.000Z", .resume "2026-01-01T00:00:12.000Z"]

/-- The run that no replacement moves is continuous. -/
theorem undisturbedRun_continuous_sample :
    Continuous
      (run (Plane.step searchingSettings) (Plane.initial Database.empty)
        servedActions) :=
  undisturbedRun_continuous searchingSettings dense_empty servedActions
    (by decide +kernel)

/-- A reset selects the next mission while that read is underway. -/
def crossedActions : List PlaneAction :=
  readingActions ++
    [.replaceRun (plannedState "mission-2"), .activateMission "mission-2",
      .resume "2026-01-01T00:00:12.000Z", .resume "2026-01-01T00:00:12.000Z"]

/-- The row of the old mission meets the new checkpoint and ends serving. -/
theorem crossedRun_ended :
    (run (Plane.step searchingSettings) (Plane.initial Database.empty)
          crossedActions).servingEnded =
        some (.projection (.reducer .missionMismatch)) ∧
      ¬Continuous
        (run (Plane.step searchingSettings) (Plane.initial Database.empty)
          crossedActions) := by
  have ended :
      (run (Plane.step searchingSettings) (Plane.initial Database.empty)
          crossedActions).servingEnded =
        some (.projection (.reducer .missionMismatch)) := by
    decide +kernel
  refine ⟨ended, ?_⟩
  intro continuous
  cases continuous.serving _ ended

end AerialRescue.Dashboard.DataPlane
