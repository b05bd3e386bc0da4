import AerialRescue.Gateway.Authorization

/-!
# Command results

`handle_command_result`: a drone's report moves the stored progress of its
command along the dispatch lifecycle, or is recorded as stale or mismatched and
changes nothing.  `record_send` and `record_timeout` are the transitions of the
send schedule.
-/

namespace AerialRescue.Gateway

open AerialRescue.Contracts
open AerialRescue.Contracts.Canonical
open AerialRescue.Domain.Commands
open AerialRescue.Gateway.Ingress
open AerialRescue.Lib
open AerialRescue.Lib.Guard
open AerialRescue.Lib.Transaction
open AerialRescue.Store

/-- A validated command result. -/
abbrev CommandResultIngress := Accepted CommandResultPayload

/-- `SEND_BUDGET` -/
def sendBudget : SendBudget := ⟨5, by decide⟩

/-- How one result affected durable command progress. -/
inductive CommandResultOutcome where
  | updated
  | stale
  | mismatch
  | duplicate
deriving DecidableEq

/-- The text of an outcome. -/
def CommandResultOutcome.text : CommandResultOutcome → String
  | .updated => "updated"
  | .stale => "stale"
  | .mismatch => "identity-mismatch"
  | .duplicate => "duplicate"

/-- The text of a command state. -/
def commandStateText : CommandState → String
  | .accepted => "accepted"
  | .inFlight => "in-flight"
  | .acknowledged => "acknowledged"
  | .succeeded => "succeeded"
  | .failed => "failed"
  | .abandoned => "abandoned"

/-- The durable answer to one result event. -/
structure CommandResult where
  outcome : CommandResultOutcome
  state : CommandState
  result : Bytes
deriving DecidableEq

/-! ## The send schedule -/

/-- The instants stored for one confirmed send. -/
structure SendClock where
  sentAt : String
  deadlineAt : String
  updatedAt : String
deriving DecidableEq

/-- `record_send` -/
def recordSend (current : StoredCommandProgress) (clock : SendClock) :
    StoreTx StoredCommandProgress :=
  recordTransition current .send sendBudget
    { lastSentAt := some clock.sentAt
      deadlineAt := some clock.deadlineAt
      resultId := current.resultId
      updatedAt := clock.updatedAt }

/-- `record_timeout`, without the wait it computes for the next send. -/
def recordTimeout (current : StoredCommandProgress) (updatedAt : String) :
    StoreTx StoredCommandProgress :=
  recordTransition current .timeOut sendBudget
    { lastSentAt := current.lastSentAt
      deadlineAt := none
      resultId := current.resultId
      updatedAt }

/-! ## Results -/

/-- `_event` -/
def resultEvent : ResultOutcome → CommandEvent
  | .acknowledged => .acknowledge
  | .succeeded => .succeed
  | .failed => .fail

/-- `_matches` of a result and the stored command binding. -/
def resultMatches (ingress : CommandResultIngress)
    (current : StoredCommandProgress) : Bool :=
  ingress.payload.commandId.1 = current.identity.commandId &&
    ingress.payload.missionId.1 = current.identity.missionId &&
    ingress.payload.droneId.1 = current.identity.droneId

/-- The state an exact duplicate's stored result may name. -/
def resultState : String → Option CommandState
  | "accepted" => some .accepted
  | "in-flight" => some .inFlight
  | "acknowledged" => some .acknowledged
  | "succeeded" => some .succeeded
  | "failed" => some .failed
  | "abandoned" => some .abandoned
  | _ => none

/-- The state and outcome pairs that a stored result may hold. -/
def duplicatePair (outcome state : String) : Option CommandState := do
  let parsed ← resultState state
  if outcome = "updated" then
    if parsed = .acknowledged ∨ parsed = .succeeded ∨ parsed = .failed then
      some parsed
    else
      none
  else if outcome = "stale" ∨ outcome = "identity-mismatch" then
    some parsed
  else
    none

section Handler

variable (host : Host)

/-- `_result` of a command result. -/
def commandResultBytes (ingress : CommandResultIngress)
    (outcome : CommandResultOutcome) (state : CommandState) :
    Except Failure Bytes :=
  recast Failure.canonicalization
    (canonicalBytes host (.object
      [ ("commandResult", .text outcome.text),
        ("commandId", .text ingress.payload.commandId),
        ("state", .text (commandStateText state)) ]))

/-- `_duplicate_state` -/
def duplicateState (result : Bytes) (commandId : String) :
    Except Failure CommandState := do
  let members ← present (canonicalObject host result)
    (.progression .duplicateResult)
  ensure (Value.keysAre members ["commandResult", "commandId", "state"])
    (.progression .duplicateResult)
  let bytes ← recast Failure.canonicalization
    (canonicalBytes host (.object members))
  ensure
    (bytes = result ∧
      Value.pyEq (Value.get "commandId" members) (.text commandId) = true)
    (.progression .duplicateResult)
  match Value.get "commandResult" members, Value.get "state" members with
  | .text outcome, .text state =>
      present (duplicatePair outcome state) (.progression .duplicateResult)
  | _, _ => .error (.progression .duplicateResult)

/-- The facts a result transition is stored with. -/
def resultFacts (ingress : CommandResultIngress)
    (current : StoredCommandProgress) : TransitionFacts where
  lastSentAt := current.lastSentAt
  deadlineAt := none
  resultId := some ingress.envelope.id
  updatedAt := ingress.envelope.time

/-- The transition of a result, or nothing where the lifecycle has none. -/
def attemptTransition (ingress : CommandResultIngress)
    (current : StoredCommandProgress) :
    Body (Option StoredCommandProgress) :=
  recover
    (do
      let became ← rethrow Failure.store
        (recordTransition current (resultEvent ingress.payload.outcome)
          sendBudget (resultFacts ingress current))
      pure (some became))
    (fun failure =>
      if failure = .store .commandTransition then some (pure none) else none)

/-- `_apply_result` -/
def applyResult (ingress : CommandResultIngress)
    (current : StoredCommandProgress) : Body CommandResult := do
  if resultMatches ingress current = false then
    let state := current.progress.state
    let result ← lift id (commandResultBytes host ingress .mismatch state)
    pure { outcome := .mismatch, state, result }
  else
    match ← attemptTransition ingress current with
    | none =>
        let state := current.progress.state
        let result ← lift id (commandResultBytes host ingress .stale state)
        pure { outcome := .stale, state, result }
    | some became =>
        let state := became.progress.state
        let result ← lift id (commandResultBytes host ingress .updated state)
        pure { outcome := .updated, state, result }

/-- The answer to a claimed or a duplicate result event. -/
def answerResult (ingress : CommandResultIngress) (identity : InboxIdentity)
    (claim : InboxOutcome) : Body CommandResult :=
  match claim.decision with
  | .duplicate => do
      let result ← demand claim.result (.progression .duplicateResult)
      let state ← lift id
        (duplicateState host result ingress.payload.commandId)
      pure { outcome := .duplicate, state, result }
  | .claimed => do
      let current ← rethrow Failure.store
        (loadProgress ingress.payload.commandId)
      let result ← applyResult host ingress current
      rethrow Failure.store
        (completeInbox identity result.result ingress.envelope.time)
      pure result

/-- The body of the result transaction. -/
def commandResultBody (ingress : CommandResultIngress)
    (identity : InboxIdentity) : Body CommandResult := do
  let claim ← rethrow Failure.store (claimInbox identity)
  answerResult host ingress identity claim

/-- `REFUSAL_CHANNEL` of command results. -/
def resultRefusalChannel : String := "command-gateway-command-result"

/-- The command result of an accepted ingress. -/
def commandResult? : AcceptedIngress → Option CommandResultIngress
  | .commandResult ingress => some ingress
  | _ => none

/-- `handle_command_result` -/
def handleCommandResult (observedAt : String) (settlement : SettlementPort)
    (delivery : GuaranteedDelivery) : Handler CommandResult :=
  handleDelivery host resultRefusalChannel (.progression .ingressKind)
    commandResult? (fun payload => payload.missionId)
    (fun ingress identity => commandResultBody host ingress identity)
    observedAt settlement delivery

end Handler

/-! ## What a result writes -/

/--
Two databases that differ in the inbox and in one progress row at most, where
the row moved along the lifecycle.
-/
structure ProgressOnly (before after : Database) : Prop where
  frame :
    after =
      { before with inbox := after.inbox, progress := after.progress }
  inbox : before.inbox.rows <+: after.inbox.rows
  progress :
    after.progress = before.progress ∨
      ∃ (current : StoredCommandProgress) (outcome : ResultOutcome)
        (became : CommandProgress) (facts : TransitionFacts),
        before.progress.find? current.key = some current ∧
          advance current.progress (resultEvent outcome) sendBudget =
            some became ∧
          after.progress =
            before.progress.amend current.key
              (fun row => transitioned row became facts) (fun _ => rfl)

variable {host : Host}

/-- An attempt moves the row along the lifecycle, or the lifecycle has no move. -/
theorem attemptTransition_ok {ingress : CommandResultIngress}
    {current : StoredCommandProgress} {before after : Database}
    {outcome : Option StoredCommandProgress}
    (attempted :
      exec (attemptTransition ingress current) before =
        (.ok outcome, after)) :
    (outcome = none ∧ after = before ∧
      advance current.progress (resultEvent ingress.payload.outcome)
        sendBudget = none) ∨
      ∃ became,
        advance current.progress (resultEvent ingress.payload.outcome)
            sendBudget = some became ∧
          outcome =
            some (transitioned current became
              (resultFacts ingress current)) ∧
          after =
            { before with
              progress := before.progress.amend current.key
                (fun row =>
                  transitioned row became (resultFacts ingress current))
                (fun _ => rfl) } := by
  unfold attemptTransition at attempted
  rw [exec_recover] at attempted
  rcases step : exec (recordTransition current
      (resultEvent ingress.payload.outcome) sendBudget
      (resultFacts ingress current)) before with ⟨result, middle⟩
  cases result with
  | ok became =>
      have renamed :
          exec (rethrow Failure.store (recordTransition current
            (resultEvent ingress.payload.outcome) sendBudget
            (resultFacts ingress current))) before =
            (.ok became, middle) := by
        simpa using step
      rw [exec_bind_of_ok renamed] at attempted
      simp only [exec_pure, Prod.mk.injEq, Except.ok.injEq] at attempted
      rcases attempted with ⟨rfl, rfl⟩
      rcases recordTransition_ok step with ⟨next, legal, rfl, rfl⟩
      exact .inr ⟨next, legal, rfl, rfl⟩
  | error failure =>
      have renamed :
          exec (rethrow Failure.store (recordTransition current
            (resultEvent ingress.payload.outcome) sendBudget
            (resultFacts ingress current))) before =
            (.error (Failure.store failure), middle) := by
        rw [exec_rethrow, step]
      rw [exec_bind_of_error renamed] at attempted
      simp only at attempted
      split at attempted
      · rename_i answer answered
        split at answered
        · rename_i illegal
          cases answered
          cases illegal
          simp only [exec_pure, Prod.mk.injEq, Except.ok.injEq] at attempted
          rcases attempted with ⟨rfl, rfl⟩
          rcases recordTransition_illegal step with ⟨rfl, none⟩
          exact .inl ⟨rfl, rfl, none⟩
        · cases answered
      · simp at attempted

theorem applyResult_ok {ingress : CommandResultIngress}
    {current : StoredCommandProgress} {before after : Database}
    {result : CommandResult}
    (applied :
      exec (applyResult host ingress current) before =
        (.ok result, after)) :
    after = { before with progress := after.progress } ∧
      (after.progress = before.progress ∨
        ∃ (became : CommandProgress) (facts : TransitionFacts),
          advance current.progress (resultEvent ingress.payload.outcome)
              sendBudget = some became ∧
            after.progress =
              before.progress.amend current.key
                (fun row => transitioned row became facts)
                (fun _ => rfl)) := by
  simp only [applyResult, exec_ite] at applied
  split at applied
  · simp only [exec_bind_eq_ok, exec_lift_eq_ok, exec_pure,
      Prod.mk.injEq] at applied
    rcases applied with ⟨_, _, ⟨_, rfl⟩, _, rfl⟩
    exact ⟨rfl, .inl rfl⟩
  · simp only [exec_bind_eq_ok] at applied
    rcases applied with ⟨outcome, _, attempted, rest⟩
    rcases attemptTransition_ok attempted with
      ⟨rfl, rfl, _⟩ | ⟨became, legal, rfl, rfl⟩ <;>
      simp only [exec_bind_eq_ok, exec_lift_eq_ok, exec_pure,
        Prod.mk.injEq] at rest <;>
      rcases rest with ⟨_, _, ⟨_, rfl⟩, _, rfl⟩
    · exact ⟨rfl, .inl rfl⟩
    · exact ⟨rfl, .inr ⟨became, _, legal, rfl⟩⟩

/-- A committed result writes its inbox row and at most one transition. -/
theorem commandResultBody_ok {ingress : CommandResultIngress}
    {identity : InboxIdentity} {before after : Database}
    {result : CommandResult}
    (returned :
      exec (commandResultBody host ingress identity) before =
        (.ok result, after)) :
    ProgressOnly before after := by
  simp only [commandResultBody, exec_bind_eq_ok,
    exec_rethrow_eq_ok] at returned
  rcases returned with ⟨claim, _, claimed, answered⟩
  rcases claimInbox_ok claimed with
    ⟨rfl, inbox, inserted, rfl⟩ | ⟨_, _, _, rfl, rfl, _⟩
  · simp only [answerResult, exec_bind_eq_ok, exec_rethrow_eq_ok,
      loadProgress_ok, exec_pure, Prod.mk.injEq] at answered
    rcases answered with ⟨current, _, ⟨found, _, rfl⟩, _, _, applied, _, _,
      completed, _, rfl⟩
    have key : current.key = ingress.payload.commandId :=
      Table.find?_key found
    rw [← key] at found
    rcases applyResult_ok applied with ⟨frame, moved⟩
    have grown := completeInbox_grown inserted
      (congrArg Database.inbox frame) completed
    rcases completeInbox_ok completed with ⟨_, _, _, _, rfl⟩
    refine ⟨by rw [frame], grown, ?_⟩
    rcases moved with same | ⟨became, facts, legal, moved⟩
    · exact .inl same
    · exact .inr ⟨current, _, became, facts, found, legal, moved⟩
  · simp only [answerResult, exec_bind_eq_ok, exec_demand_eq_ok,
      exec_lift_eq_ok, exec_pure, Prod.mk.injEq] at answered
    rcases answered with ⟨_, _, ⟨_, rfl⟩, _, _, ⟨_, rfl⟩, _, rfl⟩
    exact ⟨rfl, List.prefix_rfl, .inl rfl⟩

/-- A handled result changes refusals, the inbox and progress only. -/
theorem handleCommandResult_database (observedAt : String)
    (settlement : SettlementPort) (delivery : GuaranteedDelivery)
    (before : World) :
    SameButRefusals before.database
        (exec (handleCommandResult host observedAt settlement delivery)
          before).2.database ∨
      ProgressOnly before.database
        (exec (handleCommandResult host observedAt settlement delivery)
          before).2.database := by
  unfold handleCommandResult
  rcases handleDelivery_database host resultRefusalChannel
      (.progression .ingressKind) commandResult?
      (fun payload => payload.missionId)
      (fun ingress identity => commandResultBody host ingress identity)
      observedAt settlement delivery before with
    same | ⟨_, _, _, _, _, _, _, returned⟩
  · exact .inl same
  · exact .inr (commandResultBody_ok returned)

end AerialRescue.Gateway
