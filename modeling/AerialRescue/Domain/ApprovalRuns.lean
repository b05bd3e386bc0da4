import AerialRescue.Domain.Approvals
import AerialRescue.Lib.Run

/-!
# Runs of the approval protocol

The operations that create, end and consume an approval, and every order in
which attempts at them can reach one approval.  A refused attempt changes
nothing, an ended approval stays as it is, and so an approval is consumed at
most once, and only while it is approved, bound and live.
-/

namespace AerialRescue.Domain.Approvals

open AerialRescue.Lib.Guard
open AerialRescue.Lib.Run
open AerialRescue.Contracts
open AerialRescue.Contracts.Canonical
open AerialRescue.Contracts.Digest
open AerialRescue.Contracts.Instant

/-! ## The operations -/

/-- `approve` -/
def approve (host : Host) (state : ApprovalState) (proposal : Proposal)
    (operatorIdentity : String) (issued : ClockReading)
    (timeToLive : Duration) : Except ApprovalFailure Approval := do
  let target ← transition state .approve
  ensure (0 < timeToLive) (.refused .timeToLive)
  let digest ← proposalDigest host proposal
  pure
    { state := target
      operatorIdentity
      issued
      timeToLive
      missionId := proposal.missionId
      proposalId := proposal.proposalId
      proposalDigest := digest }

/-- `supersede` -/
def supersede (approval : Approval) : Except ApprovalFailure Approval := do
  let next ← transition approval.state .supersede
  pure { approval with state := next }

/-- `expire` -/
def expire (approval : Approval) : Except ApprovalFailure Approval := do
  let next ← transition approval.state .expire
  pure { approval with state := next }

/-- One attempt on an approval, with everything the caller supplies. -/
inductive Attempt where
  | approve (proposal : Proposal) (operatorIdentity : String)
      (issued : ClockReading) (timeToLive : Duration)
  | supersede
  | expire
  | consume (candidate : Proposal) (now : ClockReading)

/-- What an attempt returns or raises. -/
def attempt (host : Host) (approval : Approval) :
    Attempt → Except ApprovalFailure Approval
  | .approve proposal operatorIdentity issued timeToLive =>
      Approvals.approve host approval.state proposal operatorIdentity issued
        timeToLive
  | .supersede => Approvals.supersede approval
  | .expire => Approvals.expire approval
  | .consume candidate now => Approvals.consume host approval candidate now

/-- The approval after an attempt. -/
def attempted (host : Host) (approval : Approval) (made : Attempt) :
    Approval :=
  match attempt host approval made with
  | .ok next => next
  | .error _ => approval

/-- An attempt at consumption that succeeds. -/
def consumes (host : Host) (approval : Approval) : Attempt → Bool
  | .consume candidate now => (consume host approval candidate now).isOk
  | _ => false

/-- How many attempts of a run consume the approval. -/
def consumptions (host : Host) : Approval → List Attempt → Nat
  | _, [] => 0
  | approval, made :: rest =>
      (if consumes host approval made then 1 else 0) +
        consumptions host (attempted host approval made) rest

/-- The states that no attempt leaves. -/
def ApprovalState.Ended (state : ApprovalState) : Prop :=
  state = .executed ∨ state = .superseded ∨ state = .expired

/-! ## One attempt -/

variable {host : Host} {approval : Approval}

theorem attempted_refused {made : Attempt} {failure : ApprovalFailure}
    (refused : attempt host approval made = .error failure) :
    attempted host approval made = approval := by
  rw [attempted, refused]

theorem transition_ended {state : ApprovalState} (ended : state.Ended)
    (event : ApprovalEvent) :
    transition state event = .error (.refused .transition) := by
  rcases ended with rfl | rfl | rfl <;> cases event <;> rfl

/-- Every attempt on an ended approval is refused. -/
theorem attempt_ended (ended : approval.state.Ended) (made : Attempt) :
    ∃ failure, attempt host approval made = .error failure := by
  cases made with
  | approve proposal operatorIdentity issued timeToLive =>
      refine ⟨.refused .transition, ?_⟩
      rw [attempt, Approvals.approve, transition_ended ended]
      rfl
  | supersede =>
      refine ⟨.refused .transition, ?_⟩
      rw [attempt, Approvals.supersede, transition_ended ended]
      rfl
  | expire =>
      refine ⟨.refused .transition, ?_⟩
      rw [attempt, Approvals.expire, transition_ended ended]
      rfl
  | consume candidate now =>
      cases consumed : consume host approval candidate now with
      | error failure => exact ⟨failure, consumed⟩
      | ok executed =>
          have approved := (consume_ok consumed).1
          rw [approved] at ended
          rcases ended with executed | superseded | expired
          · cases executed
          · cases superseded
          · cases expired

theorem attempted_ended (ended : approval.state.Ended) (made : Attempt) :
    attempted host approval made = approval := by
  rcases attempt_ended ended made with ⟨failure, refused⟩
  exact attempted_refused refused

theorem consumes_iff {made : Attempt} :
    consumes host approval made = true ↔
      ∃ candidate now executed, made = .consume candidate now ∧
        attempt host approval made = .ok executed := by
  cases made with
  | consume candidate now =>
      rw [consumes, isOk_eq_true]
      constructor
      · rintro ⟨executed, consumed⟩
        exact ⟨candidate, now, executed, rfl, consumed⟩
      · rintro ⟨_, _, executed, _, consumed⟩
        exact ⟨executed, consumed⟩
  | approve proposal operatorIdentity issued timeToLive =>
      refine iff_of_false nofun ?_
      rintro ⟨_, _, _, same, _⟩
      cases same
  | supersede =>
      refine iff_of_false nofun ?_
      rintro ⟨_, _, _, same, _⟩
      cases same
  | expire =>
      refine iff_of_false nofun ?_
      rintro ⟨_, _, _, same, _⟩
      cases same

/-- A consumption ends the approval. -/
theorem attempted_consumes {made : Attempt}
    (consumed : consumes host approval made = true) :
    (attempted host approval made).state.Ended := by
  rcases consumes_iff.1 consumed with
    ⟨candidate, now, executed, rfl, succeeded⟩
  rw [attempted, succeeded, (consume_ok succeeded).2.2.2.2.2]
  exact Or.inl rfl

/-! ## Runs -/

/-- No run changes an ended approval. -/
theorem run_ended (ended : approval.state.Ended) (attempts : List Attempt) :
    run (attempted host) approval attempts = approval := by
  induction attempts with
  | nil => rfl
  | cons made rest inductionHypothesis =>
      rw [run_cons, attempted_ended ended, inductionHypothesis]

theorem consumptions_ended (ended : approval.state.Ended)
    (attempts : List Attempt) : consumptions host approval attempts = 0 := by
  induction attempts with
  | nil => rfl
  | cons made rest inductionHypothesis =>
      rw [consumptions, attempted_ended ended, inductionHypothesis, if_neg]
      rw [consumes_iff]
      rintro ⟨_, _, executed, _, succeeded⟩
      have refuses :
          ∃ failure, attempt host approval made = .error failure :=
        attempt_ended ended made
      rcases refuses with ⟨failure, refused⟩
      rw [refused] at succeeded
      cases succeeded

theorem consumptions_le_one (approval : Approval) (attempts : List Attempt) :
    consumptions host approval attempts ≤ 1 := by
  induction attempts generalizing approval with
  | nil => exact Nat.zero_le _
  | cons made rest inductionHypothesis =>
      rw [consumptions]
      split
      · rename_i consumed
        rw [consumptions_ended (attempted_consumes consumed)]
      · rw [Nat.zero_add]
        exact inductionHypothesis _

/--
Whatever is attempted on an approval, it is consumed at most once, and only
directly from the approved state by a candidate that it binds while both clocks
are live; a refused attempt leaves it unchanged; and once executed, superseded
or expired it is never changed again.
-/
theorem approval_runs (host : Host) (approval : Approval)
    (attempts : List Attempt) :
    consumptions host approval attempts ≤ 1 ∧
    ∀ earlier later, attempts = earlier ++ later →
      let reached := run (attempted host) approval earlier
      (∀ candidate now executed,
        attempt host reached (.consume candidate now) = .ok executed →
          reached.state = .approved ∧
          candidate.missionId = reached.missionId ∧
          candidate.proposalId = reached.proposalId ∧
          Digest.proposalDigest host candidate.parameters =
            .ok reached.proposalDigest ∧
          reached.Live now ∧
          executed = { reached with state := .executed }) ∧
      (∀ made failure, attempt host reached made = .error failure →
        attempted host reached made = reached) ∧
      (reached.state.Ended →
        run (attempted host) approval attempts = reached) := by
  refine ⟨consumptions_le_one approval attempts,
    fun earlier later split => ?_⟩
  refine ⟨fun candidate now executed succeeded => consume_ok succeeded,
    fun made failure refused => attempted_refused refused, fun ended => ?_⟩
  rw [split, run_append]
  exact run_ended ended later

end AerialRescue.Domain.Approvals
