import AerialRescue.Dashboard.DataPlane

/-!
# Recovery to its end

The same recovery taken as one call that nothing interrupts: the pages after
the checkpoint are the rows after the checkpoint, so a recovery returns exactly
when the hub accepts those rows one after another and their inbox identities do
not contradict each other or the inbox.
-/

namespace AerialRescue.Dashboard.DataPlane

open AerialRescue.Lib
open AerialRescue.Lib.Guard
open AerialRescue.Lib.Transaction
open AerialRescue.Contracts
open AerialRescue.Contracts.Canonical
open AerialRescue.Contracts.View
open AerialRescue.Dashboard.ProjectionHub
open AerialRescue.Store

/-! ## The calls -/

/-- How a guaranteed message was settled. -/
inductive Settlement where
  | accepted
  | failed
  | rejected
deriving DecidableEq

/-- The database, the hub, the selected mission and the settled messages. -/
structure PlaneState where
  database : Database
  checkpoint : ReducerCheckpoint
  selected : Option String
  settlements : List Settlement

/-- A call of the data plane. -/
abbrev PlaneStep (α : Type) := Tx PlaneState PlaneFailure α

/-- `apply_audit` and `_record_audit_inbox` of one row. -/
def applyRow (settings : Settings) (processedAt : String)
    (row : StoredAuditRecord) : PlaneStep Unit :=
  fun state =>
    match applyAudit settings.registry state.checkpoint row with
    | (.error raised, checkpoint) =>
        (.error (.projection raised), { state with checkpoint })
    | (.ok _, checkpoint) =>
        match exec (recordAuditInbox settings.registry.host row processedAt)
            state.database with
        | (answer, database) => (answer, { state with checkpoint, database })

/-- The rows of a page, in order. -/
def applyRows (settings : Settings) (processedAt : String) :
    List StoredAuditRecord → PlaneStep Unit
  | [] => pure ()
  | row :: rest => do
      applyRow settings processedAt row
      applyRows settings processedAt rest

/-- `_recover_audit`, for a number of pages. -/
def recoverAudit (settings : Settings) (processedAt missionId : String) :
    Nat → PlaneStep Unit
  | 0 => pure ()
  | pages + 1 => do
      let state ← read
      let afterOrdinal := state.checkpoint.state.latestAuditOrdinal
      require (0 ≤ afterOrdinal) .afterOrdinal
      let rows := state.database.auditSuffix missionId afterOrdinal
        settings.auditPageSize
      applyRows settings processedAt rows
      if rows.length < settings.auditPageSize then pure ()
      else recoverAudit settings processedAt missionId pages

/-- The rows that a recovery has before it. -/
def PlaneState.remaining (state : PlaneState) : List StoredAuditRecord :=
  match state.selected with
  | none => []
  | some missionId =>
      state.database.auditAfter missionId
        state.checkpoint.state.latestAuditOrdinal

/-- `recover`, where `drained` is what the outbox answers. -/
def recover (settings : Settings) (processedAt : String) (drained : Bool) :
    PlaneStep Bool := do
  let state ← read
  match state.selected with
  | none => pure ()
  | some missionId =>
      recoverAudit settings processedAt missionId
        (state.remaining.length + 1)
  pure drained

/-! ## What a recovery needs -/

/-- The hub accepts rows one after another. -/
def Replays (registry : Registry) :
    ReducerCheckpoint → List StoredAuditRecord → Prop
  | _, [] => True
  | checkpoint, row :: rest =>
      ∃ decision next,
        applyAudit registry checkpoint row = (.ok decision, next) ∧
          Replays registry next rest

/-- An identity that the inbox holds or that one of the rows will enter. -/
def Held (host : Host) (database : Database)
    (rows : List StoredAuditRecord) (claim : InboxIdentity) : Prop :=
  (∃ held ∈ database.inbox.rows, held.identity = claim) ∨
    ∃ row ∈ rows, rowIdentity host row = .ok claim

/-- No two identities of one key carry different digests. -/
def Agree (host : Host) (database : Database)
    (rows : List StoredAuditRecord) : Prop :=
  ∀ left right,
    Held host database rows left → Held host database rows right →
      left.key = right.key → left.canonicalDigest = right.canonicalDigest

/-- Every source fits its column. -/
def Narrow (host : Host) (rows : List StoredAuditRecord) : Prop :=
  ∀ row ∈ rows, ∀ claim,
    rowIdentity host row = .ok claim → claim.source.length ≤ sourceLength

/-- The recovery returns. -/
structure Recovers (settings : Settings) (state : PlaneState) : Prop where
  replays : Replays settings.registry state.checkpoint state.remaining
  agree : Agree settings.registry.host state.database state.remaining
  narrow : Narrow settings.registry.host state.remaining

/-- Every row of the dashboard's inbox was completed from an audit row. -/
def Backed (host : Host) (database : Database) : Prop :=
  ∀ held ∈ database.inbox.rows, held.identity.consumer = consumer →
    ∃ row ∈ database.audit.rows, ∃ result processedAt,
      rowIdentity host row = .ok held.identity ∧
        rowResult host row = .ok result ∧
        held.completion = some (result, processedAt)

/-! ## An accepted row -/

/-- What an accepted row was folded from. -/
theorem applyAudit_ok {registry : Registry}
    {checkpoint next : ReducerCheckpoint} {row : StoredAuditRecord}
    {decision : ApplyDecision}
    (applied :
      applyAudit registry checkpoint row = (.ok decision, next)) :
    ∃ ordered outcome,
      auditEvent registry row = .ok ordered ∧
        foldOrderedEvent registry.host checkpoint ordered none =
          .ok outcome ∧
        ((∃ same, outcome = .duplicate same) ∨ outcome = .applied next) := by
  unfold applyAudit at applied
  split at applied
  · cases applied
  · rename_i folded
    simp only [foldRow, bind_eq_ok, recast_eq_ok] at folded
    rcases folded with ⟨ordered, read, outcome, ran, last⟩
    refine ⟨ordered, outcome, read, ran, ?_⟩
    cases outcome with
    | duplicate same => exact .inl ⟨same, rfl⟩
    | refused same problem => cases last
    | applied found => cases last
  · rename_i found folded
    simp only [foldRow, bind_eq_ok, recast_eq_ok] at folded
    rcases folded with ⟨ordered, read, outcome, ran, last⟩
    refine ⟨ordered, outcome, read, ran, ?_⟩
    cases outcome with
    | duplicate same => cases last
    | refused same problem => cases last
    | applied found =>
        cases last
        exact .inr (congrArg FoldOutcome.applied (Prod.mk.inj applied).2)

/-- A row that the hub accepts has an inbox identity. -/
theorem applyAudit_identity {registry : Registry}
    {checkpoint next : ReducerCheckpoint} {row : StoredAuditRecord}
    {decision : ApplyDecision}
    (applied :
      applyAudit registry checkpoint row = (.ok decision, next)) :
    ∃ claim, rowIdentity registry.host row = .ok claim := by
  rcases applyAudit_ok applied with ⟨ordered, _, read, _, _⟩
  simp only [auditEvent, validatedAuditEnvelope, bind_eq_ok,
    recast_eq_ok] at read
  rcases read with ⟨_, ⟨envelope, decoded, _⟩, _⟩
  simp only [rowIdentity, identity, bind_eq_ok, recast_eq_ok, pure_eq_ok]
  exact ⟨_, envelope, decoded, envelope, decoded, rfl⟩

/-- A row that the hub accepts has a result. -/
theorem applyAudit_result {registry : Registry}
    {checkpoint next : ReducerCheckpoint} {row : StoredAuditRecord}
    {decision : ApplyDecision}
    (applied :
      applyAudit registry checkpoint row = (.ok decision, next)) :
    ∃ result, rowResult registry.host row = .ok result := by
  rcases applyAudit_ok applied with ⟨ordered, outcome, read, ran, kept⟩
  have accepted : ∀ problem, outcome ≠ .refused checkpoint problem := by
    rintro problem rfl
    rcases kept with ⟨_, impossible⟩ | impossible
    · cases impossible
    · cases impossible
  rcases foldOrderedEvent_digest ran accepted with ⟨witness, digested⟩
  simp only [orderedEventDigest, Digest.digest, Digest.digestCovered,
    bind_eq_ok, recast_eq_ok] at digested
  rcases digested with ⟨covered, chosen, bytes, encoded, _⟩
  cases chosen
  have ordinal := (auditEvent_ok read).1
  have alone :
      (canonicalBytes registry.host
        (.object [("auditOrdinal", .int row.ordinal)])).isOk = true := by
    refine canonicalBytes_alone (isOk_eq_true.2 ⟨bytes, encoded⟩) ?_
    simp [orderedEventDocument, ordinal]
  rcases isOk_eq_true.1 alone with ⟨result, single⟩
  exact ⟨result, recast_eq_ok.2 single⟩

/-- An accepted next row leaves the checkpoint at its ordinal. -/
theorem applyAudit_reaches {registry : Registry}
    {checkpoint next : ReducerCheckpoint} {row : StoredAuditRecord}
    {decision : ApplyDecision}
    (ordinal :
      (row.ordinal : Int) = checkpoint.state.latestAuditOrdinal + 1)
    (applied :
      applyAudit registry checkpoint row = (.ok decision, next)) :
    next.state.latestAuditOrdinal = row.ordinal := by
  rcases applyAudit_ok applied with ⟨ordered, outcome, read, ran, kept⟩
  have same := (auditEvent_ok read).1
  rcases foldOrderedEvent_accepted ran with
    ⟨event, reduced, witness, _, rfl, _⟩ | ⟨rfl, taken, _⟩ | ⟨_, rfl⟩
  · rcases kept with ⟨_, impossible⟩ | reached
    · cases impossible
    · cases reached
      exact same
  · omega
  · rcases kept with ⟨_, impossible⟩ | impossible
    · cases impossible
    · cases impossible

end AerialRescue.Dashboard.DataPlane
