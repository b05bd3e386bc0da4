import AerialRescue.Gateway.EscalationSoundness
import AerialRescue.Gateway.Settlement

/-!
# When a guaranteed delivery is resolved

The three handlers settle a delivery exactly when the rows that they need are
there and the keys that they take are free.  A call of `dispatch_guaranteed` on
a channel of the gateway is resolved exactly then; a command that names an
unknown proposal is one that is not.
-/

namespace AerialRescue.Gateway

open AerialRescue.Contracts
open AerialRescue.Contracts.Canonical
open AerialRescue.Contracts.Envelopes
open AerialRescue.Contracts.Topics
open AerialRescue.Domain.Commands
open AerialRescue.Gateway.Ingress
open AerialRescue.Lib
open AerialRescue.Lib.Guard
open AerialRescue.Lib.Transaction
open AerialRescue.Store

variable {host : Host}

/-! ## Operator approvals -/

/-- How a persisted binding compares with an approval event. -/
def verification (ingress : OperatorApprovalIngress)
    (persisted : PersistedBinding) (held : Option StoredApprovalAuthority)
    (clock : AuthorizationClock) : ApprovalIngressOutcome :=
  if approvalMatches ingress persisted = false then .mismatch
  else
    match rebasedAuthority persisted clock with
    | .error refusal => refusal
    | .ok authority =>
        if authorityDecision held authority = .epochConflict then
          .epochMismatch
        else .verified

/-- What an operator approval needs of the database to be processed. -/
inductive ApprovalFits (host : Host) (database : Database)
    (ingress : OperatorApprovalIngress) (identity : InboxIdentity)
    (clock : AuthorizationClock) : Prop where
  /-- The delivery was completed before, with the same bytes. -/
  | redelivered (row : InboxRow) (result : Bytes) (processedAt : String)
      (found : database.inbox.find? identity.key = some row)
      (exact : row.identity.canonicalDigest = identity.canonicalDigest)
      (completed : row.completion = some (result, processedAt))
  /-- The named approval is there, readable and mapped. -/
  | verified (authority : StoredAuthorizationApproval)
      (persisted : PersistedBinding) (result : Bytes)
      (free : database.inbox.find? identity.key = none)
      (binding :
        database.bindings.find? ingress.payload.approvalId =
          some authority.binding)
      (readable :
        (authority.binding.authority.all
          fun held => decide (held.runtimeEpoch ≠ "")) = true)
      (approval :
        database.approvals.find? authority.binding.proposalId =
          some authority.approval)
      (mapped : mapApprovalBinding host authority = .ok persisted)
      (encodes :
        approvalResult host ingress
          (verification ingress persisted authority.binding.authority
            clock) = .ok result)

/-- A rebased authority names its epoch. -/
theorem rebasedAuthority_named {stored : PersistedBinding}
    {clock : AuthorizationClock} {authority : StoredApprovalAuthority}
    (rebased : rebasedAuthority stored clock = .ok authority) :
    authority.runtimeEpoch ≠ "" := by
  simp only [rebasedAuthority, bind_eq_ok, present_eq_ok, ensure_eq_ok,
    exists_const, pure_eq_ok] at rebased
  rcases rebased with ⟨_, _, _, _, _, ⟨_, named⟩, rfl⟩
  exact named

/-- A verification of readable rows returns how they compare. -/
theorem verifyNewClaim_of {ingress : OperatorApprovalIngress}
    {clock : AuthorizationClock} {authority : StoredAuthorizationApproval}
    {persisted : PersistedBinding} {before : Database}
    (binding :
      before.bindings.find? ingress.payload.approvalId =
        some authority.binding)
    (readable :
      (authority.binding.authority.all
        fun held => decide (held.runtimeEpoch ≠ "")) = true)
    (approval :
      before.approvals.find? authority.binding.proposalId =
        some authority.approval)
    (mapped : mapApprovalBinding host authority = .ok persisted) :
    ∃ after,
      exec (verifyNewClaim host ingress clock) before =
        (.ok (verification ingress persisted authority.binding.authority
          clock), after) := by
  have loaded :
      exec (loadPersistedBinding host ingress.payload.approvalId) before =
        (.ok persisted, before) := by
    simp only [loadPersistedBinding, exec_bind_eq_ok, exec_rethrow_eq_ok,
      exec_lift_eq_ok, loadBinding_ok]
    exact ⟨authority, before, ⟨binding, readable, approval, rfl⟩, mapped,
      rfl⟩
  unfold verifyNewClaim verification
  rw [exec_bind_of_ok loaded, exec_ite]
  split
  · exact ⟨before, rfl⟩
  · cases rebased : rebasedAuthority persisted clock with
    | error refusal => exact ⟨before, rfl⟩
    | ok rebound =>
        rcases bindAuthority_of (rebasedAuthority_named rebased) binding
          readable with ⟨after, bound⟩
        refine ⟨after, ?_⟩
        simp only
        rw [exec_bind_of_ok (exec_rethrow_eq_ok.2 bound), exec_pure]

theorem succeeds_operatorApprovalBody {ingress : OperatorApprovalIngress}
    {identity : InboxIdentity} {clock : AuthorizationClock}
    {database : Database} :
    Succeeds (operatorApprovalBody host ingress identity clock) database ↔
      identity.source.length ≤ sourceLength ∧
        ApprovalFits host database ingress identity clock := by
  constructor
  · intro succeeds
    simp only [operatorApprovalBody, succeeds_bind,
      exec_rethrow_eq_ok] at succeeds
    rcases succeeds with ⟨claim, _, claimed, answer⟩
    refine ⟨claimInbox_narrow claimed, ?_⟩
    rcases claimInbox_ok claimed with
      ⟨rfl, inbox, inserted, rfl⟩ | ⟨row, prior, processedAt, rfl, rfl,
        found, exact, completed⟩
    · simp only [answerApproval, succeeds_bind, exec_lift_eq_ok] at answer
      rcases answer with ⟨outcome, _, verified, result, _, ⟨encodes, _⟩, _⟩
      have loaded := verified
      simp only [verifyNewClaim, loadPersistedBinding, exec_bind_eq_ok,
        exec_rethrow_eq_ok, exec_lift_eq_ok, loadBinding_ok] at loaded
      rcases loaded with ⟨persisted, _, ⟨authority, _, ⟨binding, readable,
        approval, rfl⟩, mapped, rfl⟩, _⟩
      obtain ⟨after, computed⟩ :
          ∃ after,
            exec (verifyNewClaim host ingress clock)
              { database with inbox } =
              (.ok (verification ingress persisted
                authority.binding.authority clock), after) :=
        verifyNewClaim_of binding readable approval mapped
      rw [computed] at verified
      cases verified
      exact .verified authority persisted result
        (Table.insert?_eq_some.1 inserted).1 binding readable approval
        mapped encodes
    · exact .redelivered row prior processedAt found exact completed
  · rintro ⟨narrow, fits⟩
    unfold operatorApprovalBody
    cases fits with
    | redelivered row result processedAt found exact completed =>
        rw [succeeds_bind_of_ok (exec_rethrow_eq_ok.2
          (claimInbox_repeated narrow found exact completed))]
        exact ⟨_, database, rfl⟩
    | verified authority persisted result free binding readable approval
        mapped encodes =>
        obtain ⟨inbox, inserted⟩ :
            ∃ inbox, database.inbox.insert? ⟨identity, none⟩ = some inbox :=
          Table.exists_insert? free
        rw [succeeds_bind_of_ok (exec_rethrow_eq_ok.2
          (claimInbox_fresh narrow inserted))]
        obtain ⟨after, verified⟩ :
            ∃ after,
              exec (verifyNewClaim host ingress clock)
                { database with inbox } =
                (.ok (verification ingress persisted
                  authority.binding.authority clock), after) :=
          verifyNewClaim_of binding readable approval mapped
        have held :
            after.inbox.find? identity.key = some ⟨identity, none⟩ := by
          rw [(verifyNewClaim_ok verified).1]
          exact Table.find?_insert?_self inserted
        unfold answerApproval
        simp only
        rw [succeeds_bind_of_ok verified,
          succeeds_bind_of_ok (exec_lift_eq_ok.2 ⟨encodes, rfl⟩)]
        simp only [succeeds_bind, exec_rethrow_eq_ok]
        rcases completeInbox_claimed held with ⟨_, final, completed⟩
        exact ⟨_, final, completed, succeeds_pure _ _⟩

/-! ## Command results -/

/-- How a result affects the progress row of its command. -/
def resultAnswer (ingress : CommandResultIngress)
    (current : StoredCommandProgress) :
    CommandResultOutcome × CommandState :=
  if resultMatches ingress current = false then
    (.mismatch, current.progress.state)
  else
    match advance current.progress (resultEvent ingress.payload.outcome)
        sendBudget with
    | none => (.stale, current.progress.state)
    | some became => (.updated, became.state)

/-- What a command result needs of the database to be processed. -/
inductive ResultFits (host : Host) (database : Database)
    (ingress : CommandResultIngress) (identity : InboxIdentity) :
    Prop where
  /-- The delivery was completed before, and its result can be read. -/
  | redelivered (row : InboxRow) (result : Bytes) (processedAt : String)
      (state : CommandState)
      (found : database.inbox.find? identity.key = some row)
      (exact : row.identity.canonicalDigest = identity.canonicalDigest)
      (completed : row.completion = some (result, processedAt))
      (parses :
        duplicateState host result ingress.payload.commandId = .ok state)
  /-- The command has progress within the ceiling. -/
  | applied (current : StoredCommandProgress) (result : Bytes)
      (free : database.inbox.find? identity.key = none)
      (found :
        database.progress.find? ingress.payload.commandId = some current)
      (bounded : current.progress.sends ≤ maximumSendCount)
      (encodes :
        commandResultBytes host ingress (resultAnswer ingress current).1
          (resultAnswer ingress current).2 = .ok result)

/-- No result changes how often its command was sent. -/
theorem advance_result_sends {progress became : CommandProgress}
    {outcome : ResultOutcome} {budget : SendBudget}
    (legal :
      advance progress (resultEvent outcome) budget = some became) :
    became.sends = progress.sends := by
  simp only [advance, Option.map_eq_some_iff] at legal
  rcases legal with ⟨target, _, rfl⟩
  cases outcome <;> rfl

/-- The outcome of an attempt on the stored row. -/
theorem attemptTransition_of {ingress : CommandResultIngress}
    {current : StoredCommandProgress} {before : Database}
    (found : before.progress.find? current.key = some current)
    (bounded : current.progress.sends ≤ maximumSendCount) :
    ∃ after,
      exec (attemptTransition ingress current) before =
        (.ok ((advance current.progress
          (resultEvent ingress.payload.outcome) sendBudget).map
            fun became =>
              transitioned current became (resultFacts ingress current)),
          after) := by
  unfold attemptTransition
  rw [exec_recover]
  cases legal : advance current.progress
      (resultEvent ingress.payload.outcome) sendBudget with
  | none =>
      have raised :
          exec (rethrow Failure.store (recordTransition current
            (resultEvent ingress.payload.outcome) sendBudget
            (resultFacts ingress current))) before =
            (.error (.store .commandTransition), before) := by
        rw [exec_rethrow, recordTransition_refused bounded legal]
      rw [exec_bind_of_error raised]
      exact ⟨before, by simp⟩
  | some became =>
      have within : became.sends ≤ maximumSendCount := by
        rw [advance_result_sends legal]
        exact bounded
      rw [exec_bind_of_ok (exec_rethrow_eq_ok.2
        (recordTransition_of found bounded legal within))]
      exact ⟨_, rfl⟩

/-- A result is applied exactly when its answer encodes. -/
theorem succeeds_applyResult {ingress : CommandResultIngress}
    {current : StoredCommandProgress} {before : Database}
    (found : before.progress.find? current.key = some current)
    (bounded : current.progress.sends ≤ maximumSendCount) :
    Succeeds (applyResult host ingress current) before ↔
      ∃ result,
        commandResultBytes host ingress (resultAnswer ingress current).1
          (resultAnswer ingress current).2 = .ok result := by
  unfold applyResult resultAnswer
  rw [succeeds_ite]
  split
  · exact succeeds_lift_pure
  · obtain ⟨after, attempted⟩ :
        ∃ after,
          exec (attemptTransition ingress current) before =
            (.ok ((advance current.progress
              (resultEvent ingress.payload.outcome) sendBudget).map
                fun became =>
                  transitioned current became
                    (resultFacts ingress current)), after) :=
      attemptTransition_of found bounded
    rw [succeeds_bind_of_ok attempted]
    cases advance current.progress (resultEvent ingress.payload.outcome)
        sendBudget with
    | none => exact succeeds_lift_pure
    | some became => exact succeeds_lift_pure

theorem succeeds_commandResultBody {ingress : CommandResultIngress}
    {identity : InboxIdentity} {database : Database} :
    Succeeds (commandResultBody host ingress identity) database ↔
      identity.source.length ≤ sourceLength ∧
        ResultFits host database ingress identity := by
  constructor
  · intro succeeds
    simp only [commandResultBody, succeeds_bind,
      exec_rethrow_eq_ok] at succeeds
    rcases succeeds with ⟨claim, _, claimed, answer⟩
    refine ⟨claimInbox_narrow claimed, ?_⟩
    rcases claimInbox_ok claimed with
      ⟨rfl, inbox, inserted, rfl⟩ | ⟨row, prior, processedAt, rfl, rfl,
        found, exact, completed⟩
    · simp only [answerResult, succeeds_bind, exec_rethrow_eq_ok,
        loadProgress_ok] at answer
      rcases answer with ⟨current, _, ⟨found, bounded, rfl⟩, result, _,
        applied, _⟩
      have stored :
          ({ database with inbox } : Database).progress.find? current.key =
            some current := by
        rw [Table.find?_key found]
        exact found
      have applies :
          Succeeds (applyResult host ingress current)
            { database with inbox } :=
        ⟨_, _, applied⟩
      rw [succeeds_applyResult stored bounded] at applies
      rcases applies with ⟨bytes, encodes⟩
      exact .applied current bytes (Table.insert?_eq_some.1 inserted).1
        found bounded encodes
    · simp only [answerResult, succeeds_bind, exec_demand_eq_ok,
        Option.some.injEq, exec_lift_eq_ok] at answer
      rcases answer with ⟨_, _, ⟨rfl, rfl⟩, state, _, ⟨parses, _⟩, _⟩
      exact .redelivered row prior processedAt state found exact completed
        parses
  · rintro ⟨narrow, fits⟩
    unfold commandResultBody
    cases fits with
    | redelivered row result processedAt state found exact completed
        parses =>
        rw [succeeds_bind_of_ok (exec_rethrow_eq_ok.2
          (claimInbox_repeated narrow found exact completed))]
        unfold answerResult
        simp only
        rw [succeeds_bind_of_ok (exec_demand_eq_ok.2 ⟨rfl, rfl⟩)]
        exact succeeds_lift_pure.2 ⟨state, parses⟩
    | applied current result free found bounded encodes =>
        obtain ⟨inbox, inserted⟩ :
            ∃ inbox, database.inbox.insert? ⟨identity, none⟩ = some inbox :=
          Table.exists_insert? free
        rw [succeeds_bind_of_ok (exec_rethrow_eq_ok.2
          (claimInbox_fresh narrow inserted))]
        have loaded :
            exec (rethrow Failure.store
              (loadProgress ingress.payload.commandId))
              { database with inbox } =
              (.ok current, { database with inbox }) :=
          exec_rethrow_eq_ok.2 (loadProgress_ok.2 ⟨found, bounded, rfl⟩)
        have stored :
            ({ database with inbox } : Database).progress.find?
                current.key = some current := by
          rw [Table.find?_key found]
          exact found
        have applies :
            Succeeds (applyResult host ingress current)
              { database with inbox } :=
          (succeeds_applyResult stored bounded).2 ⟨result, encodes⟩
        rcases applies with ⟨answer, after, applied⟩
        have held :
            after.inbox.find? identity.key = some ⟨identity, none⟩ := by
          rw [(applyResult_ok applied).1]
          exact Table.find?_insert?_self inserted
        unfold answerResult
        simp only
        rw [succeeds_bind_of_ok loaded, succeeds_bind_of_ok applied]
        simp only [succeeds_bind, exec_rethrow_eq_ok]
        rcases completeInbox_claimed held with ⟨_, final, completed⟩
        exact ⟨_, final, completed, succeeds_pure _ _⟩

/-! ## Dispatch -/

/--
What a guaranteed delivery needs of the database to be resolved.  The channel
is one of the gateway's three, and either the message is refused on it and the
refusal ledger takes the refusal, or the message is accepted, its source fits
the inbox and the rows of its handler are there.
-/
def Resolvable (host : Host) (database : Database) (channel : String)
    (delivery : GuaranteedDelivery) (turn : Turn) : Prop :=
  if channel = literalSuffix .operatorCommand then
    DeliveryFits host commandRefusalChannel operatorCommand?
      (fun payload => payload.missionId)
      (fun ingress identity =>
        identity.source.length ≤ sourceLength ∧
          CommandFits host database ingress identity turn.stamp turn.clock)
      database turn.observedAt delivery
  else if channel = literalSuffix .operatorApproval then
    DeliveryFits host approvalRefusalChannel operatorApproval?
      (fun payload => payload.missionId)
      (fun ingress identity =>
        identity.source.length ≤ sourceLength ∧
          ApprovalFits host database ingress identity turn.clock)
      database turn.observedAt delivery
  else if channel = literalSuffix .droneCommandResult then
    DeliveryFits host resultRefusalChannel commandResult?
      (fun payload => payload.missionId)
      (fun ingress identity =>
        identity.source.length ≤ sourceLength ∧
          ResultFits host database ingress identity)
      database turn.observedAt delivery
  else
    False

/--
A guaranteed delivery is answered and settled exactly once if and only if the
database has the rows that it needs.
-/
theorem dispatchGuaranteed_settledOnce_iff (host : Host) (channel : String)
    (delivery : GuaranteedDelivery) (turn : Turn) (before : World) :
    SettledOnce before
        (exec (dispatchGuaranteed host channel delivery turn
          boundSettlement) before) ↔
      Resolvable host before.database channel delivery turn := by
  unfold dispatchGuaranteed routeGuaranteed Resolvable
  split
  · exact settledOnce_handleDelivery host commandRefusalChannel _
      operatorCommand? _ _ rfl fun ingress identity =>
        ⟨commandFits_of_succeeds, fun fits => fits.2.succeeds fits.1⟩
  · split
    · exact settledOnce_handleDelivery host approvalRefusalChannel _
        operatorApproval? _ _ rfl fun ingress identity =>
          succeeds_operatorApprovalBody
    · split
      · exact settledOnce_handleDelivery host resultRefusalChannel _
          commandResult? _ _ rfl fun ingress identity =>
            succeeds_commandResultBody
      · simp only [iff_false]
        rintro ⟨value, after, suffix, returned, journal, once⟩
        rw [exec_recover, exec_pure] at returned
        cases returned
        have none : suffix = [] := by simpa using journal
        simp [none] at once

/-- The channel of command results leads to their handler. -/
theorem dispatchGuaranteed_commandResult (host : Host)
    (delivery : GuaranteedDelivery) (turn : Turn)
    (settlement : SettlementPort) :
    dispatchGuaranteed host (literalSuffix .droneCommandResult) delivery
        turn settlement =
      answered (handleCommandResult host turn.observedAt settlement
        delivery) := by
  have other :
      literalSuffix .droneCommandResult ≠ literalSuffix .operatorCommand ∧
        literalSuffix .droneCommandResult ≠
          literalSuffix .operatorApproval := by
    decide
  unfold dispatchGuaranteed routeGuaranteed answered
  rw [if_neg other.1, if_neg other.2, if_pos rfl]

/-! ## A result of an unknown command -/

/-- A first result of a command that no progress row names is not settled. -/
theorem unknownCommand_unsettled {host : Host}
    {delivery : GuaranteedDelivery} {turn : Turn} {before : World}
    {ingress : CommandResultIngress}
    (admitted :
      acceptIngress host delivery.payload delivery.topic =
        .ok (.commandResult ingress))
    (first :
      ∀ identity : InboxIdentity,
        before.database.inbox.find? identity.key = none)
    (unknown :
      before.database.progress.find? ingress.payload.commandId = none) :
    ¬SettledOnce before
      (exec (dispatchGuaranteed host (literalSuffix .droneCommandResult)
        delivery turn boundSettlement) before) := by
  rw [dispatchGuaranteed_commandResult]
  unfold handleCommandResult
  rw [settledOnce_handleDelivery _ _ _ _ _ _ rfl
    fun ingress identity => succeeds_commandResultBody]
  intro needed
  rcases deliveryFits_of_some _ _ _ _ admitted rfl needed with
    ⟨identity, _, _, fits⟩
  cases fits with
  | redelivered row result processedAt state found =>
      rw [first identity] at found
      cases found
  | applied current result free found =>
      rw [unknown] at found
      cases found


/-- The payload of the sample acknowledgement. -/
def sampleResultPayload : CommandResultPayload where
  missionId := samplePayload.missionId
  droneId := sampleAction.droneId
  commandId := samplePayload.commandId
  outcome := .acknowledged

/-- The topic of the sample acknowledgement. -/
def sampleResultTopic : Topic where
  family := .droneCommandResult
  missionId := "mission-1"
  parameters := [("droneId", "drone-1"), ("commandId", "command-1")]

/-- The sample acknowledgement, validated. -/
def sampleResultIngress : CommandResultIngress :=
  ⟨sampleResultTopic, sampleResult, sampleResultPayload⟩

/-- The delivery of the sample acknowledgement. -/
def sampleResultDelivery : GuaranteedDelivery where
  topic :=
    "aerial-rescue/v1/mission-1/drone/drone-1/command-result/command-1"
  payload := bytesOf (.object (envelopeDocument sampleResult))

theorem sampleResultAccepted :
    acceptIngress sampleHost sampleResultDelivery.payload
        sampleResultDelivery.topic =
      .ok (.commandResult sampleResultIngress) := by
  have follows : sampleResult.Follows := by
    decide +kernel
  have member :
      Value.object (envelopeDocument sampleResult) ∈ sampleDocuments := by
    simp [sampleDocuments]
  simp only [sampleResultDelivery]
  exact acceptIngress_commandResult (by decide) rfl
    (sampleEnvelope_formed member (spells_envelopeDocument _) follows).2
    (by decide) (by decide)

/-- What the process reads around the sample messages. -/
def sampleTurn : Turn where
  stamp := sampleStamp
  clock := sampleClock
  observedAt := "2026-01-01T00:00:20.000Z"

/-- An acknowledgement of a command that no row names is not settled. -/
theorem unknownResult_unsettled :
    ¬SettledOnce ⟨Database.empty, []⟩
      (exec (dispatchGuaranteed sampleHost
        (literalSuffix .droneCommandResult) sampleResultDelivery sampleTurn
        boundSettlement) ⟨Database.empty, []⟩) := by
  exact unknownCommand_unsettled sampleResultAccepted (fun _ => rfl) rfl

end AerialRescue.Gateway
