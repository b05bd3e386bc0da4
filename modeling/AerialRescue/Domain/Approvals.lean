import AerialRescue.Contracts.Digest

/-!
# The approval protocol

The six states of a proposal, the seven legal transitions, and consumption of
an approval for the proposal about to be published.  `consume` refuses in a
fixed order: the record's state, the candidate's mission, its proposal, its
digest, and then the two clocks.
-/

namespace AerialRescue.Domain.Approvals

open AerialRescue.Lib.Guard
open AerialRescue.Contracts
open AerialRescue.Contracts.Canonical
open AerialRescue.Contracts.Digest
open AerialRescue.Contracts.Instant

/-- Where one proposal stands in the approval protocol. -/
inductive ApprovalState where
  | requested
  | approved
  | rejected
  | expired
  | superseded
  | executed
deriving DecidableEq

/-- What moves a proposal between states. -/
inductive ApprovalEvent where
  | approve
  | reject
  | expire
  | supersede
  | execute
deriving DecidableEq

/-- Why the protocol refuses an operation. -/
inductive ApprovalRefusal where
  | transition
  | timeToLive
  | parameters
  | notApproved
  | alreadyConsumed
  | superseded
  | expired
  | mission
  | proposal
  | digest
  | clockRegression
deriving DecidableEq

/-- What escapes a protocol operation. -/
inductive ApprovalFailure where
  /-- `ApprovalError` -/
  | refused (refusal : ApprovalRefusal)
  /-- The `TypeError` of comparing a digest that is not ASCII. -/
  | comparison
deriving DecidableEq

/-- Both clocks read at one moment. -/
structure ClockReading where
  wall : DateTime
  monotonic : Duration
deriving DecidableEq

/-- What an agent proposed, with its digest-covered parameters. -/
structure Proposal where
  missionId : String
  proposalId : String
  parameters : Value.Members

/-- The decision record of an operator. -/
structure Approval where
  state : ApprovalState
  operatorIdentity : String
  issued : ClockReading
  timeToLive : Duration
  missionId : String
  proposalId : String
  proposalDigest : String
deriving DecidableEq

/-- `expires_at`, absent when the sum leaves the calendar. -/
def Approval.expiresAt (approval : Approval) : Option DateTime :=
  addDuration approval.issued.wall approval.timeToLive

/-- `transition`: the seven legal pairs. -/
def transition : ApprovalState → ApprovalEvent →
    Except ApprovalFailure ApprovalState
  | .requested, .approve => .ok .approved
  | .requested, .reject => .ok .rejected
  | .requested, .expire => .ok .expired
  | .requested, .supersede => .ok .superseded
  | .approved, .execute => .ok .executed
  | .approved, .expire => .ok .expired
  | .approved, .supersede => .ok .superseded
  | _, _ => .error (.refused .transition)

/-- `_CONSUME_REFUSALS` -/
def consumeRefusal : ApprovalState → Option ApprovalRefusal
  | .requested => some .notApproved
  | .rejected => some .notApproved
  | .expired => some .expired
  | .superseded => some .superseded
  | .executed => some .alreadyConsumed
  | .approved => none

/-- `proposal_digest` of a proposal's parameters. -/
def proposalDigest (host : Host) (proposal : Proposal) :
    Except ApprovalFailure String :=
  recast (fun _ => .refused .parameters)
    (Digest.proposalDigest host proposal.parameters)

/-- `_refuse_unless_bound` -/
def refuseUnlessBound (host : Host) (approval : Approval)
    (candidate : Proposal) : Except ApprovalFailure Unit := do
  ensure (candidate.missionId = approval.missionId) (.refused .mission)
  ensure (candidate.proposalId = approval.proposalId) (.refused .proposal)
  let computed ← proposalDigest host candidate
  let equal ← recast (fun _ => .comparison)
    (digestsMatch approval.proposalDigest computed)
  ensure (equal = true) (.refused .digest)

/-- Elapsed wall-clock time since an approval was issued. -/
def Approval.wallElapsed (approval : Approval) (now : ClockReading) :
    Duration :=
  approval.issued.wall.elapsed now.wall

/-- Elapsed monotonic time since an approval was issued. -/
def Approval.monotonicElapsed (approval : Approval) (now : ClockReading) :
    Duration :=
  now.monotonic - approval.issued.monotonic

/-- `_refuse_unless_live` -/
def refuseUnlessLive (approval : Approval) (now : ClockReading) :
    Except ApprovalFailure Unit := do
  ensure
    (0 ≤ approval.wallElapsed now ∧ 0 ≤ approval.monotonicElapsed now)
    (.refused .clockRegression)
  ensure
    (approval.wallElapsed now < approval.timeToLive ∧
      approval.monotonicElapsed now < approval.timeToLive)
    (.refused .expired)

/-- `consume` -/
def consume (host : Host) (approval : Approval) (candidate : Proposal)
    (now : ClockReading) : Except ApprovalFailure Approval := do
  match consumeRefusal approval.state with
  | some refusal => .error (.refused refusal)
  | none =>
      refuseUnlessBound host approval candidate
      refuseUnlessLive approval now
      let next ← transition approval.state .execute
      pure { approval with state := next }

/-! ## What a successful consumption says -/

/-- Both elapsed times lie in the approval's window. -/
def Approval.Live (approval : Approval) (now : ClockReading) : Prop :=
  (0 ≤ approval.wallElapsed now ∧
      approval.wallElapsed now < approval.timeToLive) ∧
    0 ≤ approval.monotonicElapsed now ∧
      approval.monotonicElapsed now < approval.timeToLive

theorem refuseUnlessLive_eq_ok {approval : Approval} {now : ClockReading}
    {result : Unit} :
    refuseUnlessLive approval now = .ok result ↔ approval.Live now := by
  simp only [refuseUnlessLive, bind_eq_ok, ensure_eq_ok, exists_const,
    Approval.Live]
  constructor
  · rintro ⟨⟨wallPast, monotonicPast⟩, wallWindow, monotonicWindow⟩
    exact ⟨⟨wallPast, wallWindow⟩, monotonicPast, monotonicWindow⟩
  · rintro ⟨⟨wallPast, wallWindow⟩, monotonicPast, monotonicWindow⟩
    exact ⟨⟨wallPast, monotonicPast⟩, wallWindow, monotonicWindow⟩

theorem refuseUnlessBound_ok {host : Host} {approval : Approval}
    {candidate : Proposal} {result : Unit}
    (bound : refuseUnlessBound host approval candidate = .ok result) :
    candidate.missionId = approval.missionId ∧
      candidate.proposalId = approval.proposalId ∧
      Digest.proposalDigest host candidate.parameters =
        .ok approval.proposalDigest := by
  simp only [refuseUnlessBound, bind_eq_ok, ensure_eq_ok, exists_const,
    recast_eq_ok, proposalDigest] at bound
  rcases bound with ⟨mission, proposal, computed, computes, equal, compared,
    matched⟩
  refine ⟨mission, proposal, ?_⟩
  subst matched
  unfold digestsMatch at compared
  split at compared
  · simp only [Except.ok.injEq, beq_iff_eq] at compared
    rw [computes, compared]
  · cases compared

/-- A consumption that succeeds was of a live, approved, exactly bound record. -/
theorem consume_ok {host : Host} {approval executed : Approval}
    {candidate : Proposal} {now : ClockReading}
    (consumed : consume host approval candidate now = .ok executed) :
    approval.state = .approved ∧
      candidate.missionId = approval.missionId ∧
      candidate.proposalId = approval.proposalId ∧
      Digest.proposalDigest host candidate.parameters =
        .ok approval.proposalDigest ∧
      approval.Live now ∧
      executed = { approval with state := .executed } := by
  unfold consume at consumed
  split at consumed
  · cases consumed
  · rename_i admitted
    have approved : approval.state = .approved := by
      cases state : approval.state <;> simp [state, consumeRefusal] at admitted
      rfl
    simp only [bind_eq_ok, pure_eq_ok, approved, transition] at consumed
    rcases consumed with ⟨_, bound, _, live, state, legal, equal⟩
    rcases refuseUnlessBound_ok bound with ⟨mission, proposal, digest⟩
    cases legal
    exact ⟨approved, mission, proposal, digest,
      refuseUnlessLive_eq_ok.1 live, equal.symm⟩

end AerialRescue.Domain.Approvals
