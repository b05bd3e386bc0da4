import AerialRescue.Contracts.Envelopes

/-!
# Domain-separated digests

SHA-256 over a versioned prefix, the context of use and the canonical bytes of
the covered members.  A self-integrity member is left out of its own digest,
and the verification of a supplied digest fails on anything but ASCII text, as
`hmac.compare_digest` does.
-/

namespace AerialRescue.Contracts.Digest

open AerialRescue.Lib.Guard
open AerialRescue.Contracts.Canonical
open AerialRescue.Contracts.Envelopes

/-- What a digest is for. -/
inductive Context where
  | proposal
  | sourceEvent
  | replayState
  | orderedDashboardEvent
  | evidence
  | idempotencyBody
deriving DecidableEq

/-- The text of a context inside the hashed material. -/
def Context.text : Context → String
  | .proposal => "proposal-digest"
  | .sourceEvent => "source-event"
  | .replayState => "replay-state"
  | .orderedDashboardEvent => "ordered-dashboard-event"
  | .evidence => "evidence"
  | .idempotencyBody => "idempotency-body"

/-- What escapes a digest computation. -/
inductive DigestFailure where
  /-- `DigestError` with `VERSION` -/
  | version
  /-- `CanonicalizationError` -/
  | canonicalization (refusal : Refusal)
  /-- The `TypeError` of comparing digests that are not ASCII. -/
  | comparison
deriving DecidableEq

/-- `_covered_members`: every member but one, of a versioned payload. -/
def coveredMembers (payload : Value.Members) (omitted : String) :
    Except DigestFailure Value.Members :=
  match Value.get "canonicalizationVersion" payload with
  | .int 1 =>
      .ok (payload.filter fun member => decide (member.1 ≠ omitted))
  | _ => .error .version

/-- The domain-separation header of a context. -/
def header (context : Context) : Bytes :=
  utf8 ("aerial-rescue/canonical/v1\n" ++ context.text ++ "\n").toList

/-- `_digest_covered` -/
def digestCovered (host : Host) (context : Context)
    (covered : Value.Members) : Except DigestFailure String := do
  let bytes ← recast DigestFailure.canonicalization
    (canonicalBytes host (.object covered))
  pure (host.sha256 (header context ++ bytes))

/-- `digest` -/
def digest (host : Host) (context : Context) (payload : Value.Members) :
    Except DigestFailure String := do
  let covered ← coveredMembers payload "digest"
  digestCovered host context covered

/-- `proposal_digest` -/
def proposalDigest (host : Host) (payload : Value.Members) :
    Except DigestFailure String := do
  let covered ← coveredMembers payload "proposalDigest"
  digestCovered host .proposal covered

/-- `evidence_decision_digest` -/
def evidenceDecisionDigest (host : Host) (payload : Value.Members) :
    Except DigestFailure String := do
  let covered ← coveredMembers payload "evidenceDecisionDigest"
  digestCovered host .evidence covered

/-- Whether a text has only ASCII characters. -/
def isAscii (text : String) : Bool :=
  text.toList.all fun character => character.toNat < 128

/-- `matches`: equality of two ASCII digests. -/
def digestsMatch (expected actual : String) : Except DigestFailure Bool :=
  if isAscii expected && isAscii actual then .ok (expected == actual)
  else .error .comparison

/-- A payload's own digest member equals the digest computed from it. -/
def selfDigestMatches (name : String)
    (compute : Value.Members → Except DigestFailure String)
    (payload : Value.Members) : Except DigestFailure Bool := do
  let computed ← compute payload
  match Value.get name payload with
  | .text supplied => digestsMatch supplied computed
  | _ => pure false

/-- `proposal_digest_matches` -/
def proposalDigestMatches (host : Host) (payload : Value.Members) :
    Except DigestFailure Bool :=
  selfDigestMatches "proposalDigest" (proposalDigest host) payload

/-- `evidence_decision_digest_matches` -/
def evidenceDecisionDigestMatches (host : Host) (payload : Value.Members) :
    Except DigestFailure Bool :=
  selfDigestMatches "evidenceDecisionDigest" (evidenceDecisionDigest host)
    payload

/-- A self-integrity check that holds names the computed digest. -/
theorem selfDigestMatches_true {name : String}
    {compute : Value.Members → Except DigestFailure String}
    {payload : Value.Members}
    (matched : selfDigestMatches name compute payload = .ok true) :
    ∃ digest,
      compute payload = .ok digest ∧
        Value.get name payload = .text digest := by
  simp only [selfDigestMatches, bind_eq_ok] at matched
  rcases matched with ⟨computed, computes, compared⟩
  refine ⟨computed, computes, ?_⟩
  split at compared
  · rename_i supplied member
    unfold digestsMatch at compared
    split at compared
    · simp only [Except.ok.injEq, beq_iff_eq] at compared
      rw [member, compared]
    · cases compared
  · simp at compared

end AerialRescue.Contracts.Digest
