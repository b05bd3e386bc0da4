import AerialRescue.Gateway.EscalationSoundness
import AerialRescue.Gateway.Service
import AerialRescue.Lib.Run

/-!
# Single use of an approval

Over every run of the serving loop, at most one escalation is staged for one
approval, and an executed approval is never changed nor used again.  One step
stages an escalation only by moving its approval from approved to executed, and
no step moves an approval out of executed.
-/

namespace AerialRescue.Gateway

open AerialRescue.Contracts
open AerialRescue.Contracts.Canonical
open AerialRescue.Domain.Approvals
open AerialRescue.Lib
open AerialRescue.Lib.Run
open AerialRescue.Lib.Transaction
open AerialRescue.Store

/-- The commands of the outbox, in the order they were staged. -/
def stagedCommandsOf (database : Database) : List StagedCommand :=
  database.commandOutbox.rows.map CommandOutboxRow.command

/-- Whether a staged command is an escalation under one approval. -/
def escalatesFor (approvalId : String) (command : StagedCommand) : Bool :=
  match Value.get "type" command.payload.document,
      Value.get "data" command.payload.document with
  | .text type, .object data =>
      match Value.get "approvalId" data with
      | .text held => type = escalationType && held = approvalId
      | _ => false
  | _, _ => false

/-- The row of an approval is in one state. -/
def ApprovalIs (state : ApprovalState) (database : Database)
    (approvalId : String) : Prop :=
  ∃ binding row,
    database.bindings.find? approvalId = some binding ∧
      database.approvals.find? binding.proposalId = some row ∧
      row.state = state

theorem ApprovalIs.unique {first second : ApprovalState}
    {database : Database} {approvalId : String}
    (is : ApprovalIs first database approvalId)
    (also : ApprovalIs second database approvalId) : first = second := by
  rcases is with ⟨binding, row, bound, found, rfl⟩
  rcases also with ⟨other, same, otherBound, otherFound, rfl⟩
  rw [bound] at otherBound
  cases otherBound
  rw [found] at otherFound
  cases otherFound
  rfl

variable {host : Host}

/-! ## One step -/

/-- No binding ever moves to another proposal. -/
theorem bindings_stable {before after : Database}
    (effect : StepEffect host before after) {approvalId : String}
    {binding : StoredApprovalBinding}
    (bound : before.bindings.find? approvalId = some binding) :
    ∃ next,
      after.bindings.find? approvalId = some next ∧
        next.proposalId = binding.proposalId := by
  have kept :
      after.bindings.rows.map unbound = before.bindings.rows.map unbound := by
    cases effect with
    | refusal same => rw [same]
    | command _ _ _ _ committed =>
        cases committed with
        | redelivery _ _ _ _ _ _ unchanged => rw [unchanged]
        | prior _ _ frame _ => rw [frame]
        | decided _ _ _ _ _ written => rw [written.frame]
    | approval changed => exact changed.bindings
    | result moved => rw [moved.frame]
    | publication published => rw [published.frame]
  rcases Table.find?_eq_some.1 bound with ⟨member, key⟩
  have image : unbound binding ∈ after.bindings.rows.map unbound := by
    rw [kept]
    exact List.mem_map_of_mem member
  rcases List.mem_map.1 image with ⟨next, held, same⟩
  refine ⟨next, Table.find?_eq_some.2 ⟨held, ?_⟩, ?_⟩
  · have keys := congrArg StoredApprovalBinding.approvalId same
    exact keys.trans key
  · have proposals := congrArg StoredApprovalBinding.proposalId same
    exact proposals

/-- An executed row is never changed. -/
theorem executed_stable {before after : Database}
    (effect : StepEffect host before after) {proposalId : String}
    {row : StoredApproval}
    (found : before.approvals.find? proposalId = some row)
    (executed : row.state = .executed) :
    after.approvals.find? proposalId = some row := by
  cases effect with
  | refusal same => rw [same, found]
  | command _ _ _ _ committed =>
      cases committed with
      | redelivery _ _ _ _ _ _ unchanged => rw [unchanged, found]
      | prior _ _ frame _ => rw [frame, found]
      | decided _ decision _ _ _ written =>
          rw [written.approvals]
          unfold approvalsAfter
          cases held : decision.approval with
          | none => exact found
          | some bound =>
              rcases written.consumable bound held with
                ⟨other, otherFound, approved⟩
              have distinct :
                  proposalId ≠ bound.durableApproval.proposalId := by
                rintro rfl
                rw [found] at otherFound
                cases otherFound
                rw [executed] at approved
                cases approved
              simp only [Option.elim_some, executeApproval_find?, distinct,
                if_false]
              exact found
  | approval changed => rw [changed.frame, found]
  | result moved => rw [moved.frame, found]
  | publication published => rw [published.frame, found]

theorem approvalIs_executed_stable {before after : Database}
    (effect : StepEffect host before after) {approvalId : String}
    (executed : ApprovalIs .executed before approvalId) :
    ApprovalIs .executed after approvalId := by
  rcases executed with ⟨binding, row, bound, found, state⟩
  rcases bindings_stable effect bound with ⟨next, nextBound, same⟩
  refine ⟨next, row, nextBound, ?_, state⟩
  rw [same]
  exact executed_stable effect found state

/-- What a step may add to the outbox for one approval. -/
def Uses (before after : Database) (added : List StagedCommand)
    (approvalId : String) : Prop :=
  added.countP (escalatesFor approvalId) = 0 ∨
    added.countP (escalatesFor approvalId) = 1 ∧
      ApprovalIs .approved before approvalId ∧
      ApprovalIs .executed after approvalId

/-- The staged escalation of a checked decision is under its own approval. -/
theorem escalatesFor_checked {database : Database}
    {ingress : OperatorCommandIngress} {action : Ingress.EscalateRescueAction}
    {now : AuthorizationClock} {stamp : AuthorizationStamp}
    {escalation : Escalation} {command : StagedCommand}
    {progress : CommandIdentity} {approvalId : String}
    (checked : escalation.Checked host database ingress action now)
    (asked : ingress.payload.action = .escalateRescue action)
    (effects :
      commandEffects host ingress stamp
        (escalation.decision.approval.map BoundApproval.approvalId) =
        .ok (command, progress))
    (escalates : escalatesFor approvalId command = true) :
    approvalId = escalation.authority.binding.approvalId := by
  rcases commandEffects_ok effects with ⟨⟨data, payload, carried⟩, _, typed,
    _, _⟩
  have held := (checked.carried asked payload).approvalId
  simp only [escalatesFor, carried, typed, held, Bool.and_eq_true,
    decide_eq_true_eq] at escalates
  exact escalates.2.symm

/-- A checked escalation moves its approval from approved to executed. -/
theorem approvalIs_checked {before after : Database}
    {ingress : OperatorCommandIngress} {action : Ingress.EscalateRescueAction}
    {now : AuthorizationClock} {identity : InboxIdentity}
    {stamp : AuthorizationStamp} {claim : StoredClaim}
    {escalation : Escalation} {artifacts : AuthorizationArtifacts}
    (checked : escalation.Checked host before ingress action now)
    (written :
      Written host before after ingress identity stamp claim
        escalation.decision artifacts) :
    ApprovalIs .approved before escalation.authority.binding.approvalId ∧
      ApprovalIs .executed after
        escalation.authority.binding.approvalId := by
  rcases bindingFor?_mem checked.binding with ⟨member, proposal⟩
  have bound :
      before.bindings.find? escalation.authority.binding.approvalId =
        some escalation.authority.binding :=
    Table.find?_eq_some.2 ⟨member, rfl⟩
  have found :
      before.approvals.find? escalation.authority.binding.proposalId =
        some escalation.authority.approval := by
    rw [proposal]
    exact checked.approval
  have durable :
      escalation.bound.durableApproval = escalation.authority.approval :=
    (mapAuthorizationApproval_ok checked.mapped).2.2.2.1
  have key :
      escalation.authority.approval.proposalId =
        escalation.authority.binding.proposalId :=
    Table.find?_key found
  refine ⟨⟨_, _, bound, found, checked.holds.approved⟩, ?_⟩
  refine ⟨escalation.authority.binding,
    { escalation.authority.approval with state := .executed }, ?_, ?_, rfl⟩
  · rw [written.frame]
    exact bound
  · rw [written.approvals]
    simp only [approvalsAfter, Escalation.decision, Decision.approval,
      Option.elim_some, executeApproval_find?, durable, key, if_true, found,
      Option.map_some]

/-- A step adds commands, and an escalation only by using up its approval. -/
theorem gatewayStep_uses {before after : Database}
    (effect : StepEffect host before after) :
    ∃ added,
      stagedCommandsOf after = stagedCommandsOf before ++ added ∧
        ∀ approvalId, Uses before after added approvalId := by
  have unchanged :
      stagedCommandsOf after = stagedCommandsOf before →
        ∃ added,
          stagedCommandsOf after = stagedCommandsOf before ++ added ∧
            ∀ approvalId, Uses before after added approvalId := by
    intro same
    exact ⟨[], by simpa using same, fun _ => .inl rfl⟩
  cases effect with
  | refusal same => exact unchanged (by rw [same]; rfl)
  | approval changed => exact unchanged (by rw [changed.frame]; rfl)
  | result moved => exact unchanged (by rw [moved.frame]; rfl)
  | publication published => exact unchanged published.commands
  | command ingress identity turn _ committed =>
      cases committed with
      | redelivery _ _ _ _ _ _ same => exact unchanged (by rw [same])
      | prior _ _ frame _ => exact unchanged (by rw [frame]; rfl)
      | decided claim decision artifacts _ made written =>
          have parts := (buildAuthorizationArtifacts_ok written.built).2.2
          cases held : artifacts.command with
          | none =>
              refine unchanged ?_
              simp [stagedCommandsOf, written.commandOutbox,
                stagedCommands, held]
          | some pair =>
              rcases pair with ⟨command, progress⟩
              refine ⟨[command], ?_, ?_⟩
              · simp [stagedCommandsOf, written.commandOutbox,
                  stagedCommands, held]
              · intro approvalId
                cases escalates : escalatesFor approvalId command with
                | false => exact .inl (by simp [escalates])
                | true =>
                    refine .inr ⟨by simp [escalates], ?_⟩
                    cases made with
                    | refusal reason =>
                        simp [Decision.isAuthorized, held] at parts
                    | assignment action asked =>
                        simp only [Decision.isAuthorized, if_true, held,
                          Option.some.injEq] at parts
                        rcases parts with ⟨_, effects, rfl⟩
                        rcases commandEffects_ok effects with
                          ⟨⟨data, payload, carried⟩, _, typed, _, _⟩
                        simp only [escalatesFor, typed, carried,
                          asked, commandKind] at escalates
                        split at escalates
                        · simp [escalationType] at escalates
                        · simp at escalates
                    | escalation action asked escalation checked =>
                        simp only [Escalation.decision,
                          Decision.isAuthorized, if_true, held,
                          Option.some.injEq] at parts
                        rcases parts with ⟨_, effects, rfl⟩
                        rw [escalatesFor_checked checked asked effects
                          escalates]
                        exact approvalIs_checked checked written

/-! ## Runs -/

/-- What a whole run adds for one approval. -/
theorem run_uses (host : Host) (start : World) (steps : List GatewayStep) :
    ∃ added,
      stagedCommandsOf (run (gatewayStep host) start steps).database =
          stagedCommandsOf start.database ++ added ∧
        ∀ approvalId,
          added.countP (escalatesFor approvalId) ≤ 1 ∧
            (ApprovalIs .executed start.database approvalId →
              added.countP (escalatesFor approvalId) = 0) := by
  induction steps generalizing start with
  | nil => exact ⟨[], by simp, fun _ => by simp⟩
  | cons step rest inductionHypothesis =>
      have effect : StepEffect host start.database
          (gatewayStep host start step).database :=
        gatewayStep_effect start step
      rcases gatewayStep_uses effect with ⟨first, staged, uses⟩
      rcases inductionHypothesis (gatewayStep host start step) with
        ⟨later, stagedLater, bounds⟩
      refine ⟨first ++ later, ?_, ?_⟩
      · rw [run_cons, stagedLater, staged, List.append_assoc]
      · intro approvalId
        rw [List.countP_append]
        rcases bounds approvalId with ⟨atMostOne, spent⟩
        rcases uses approvalId with none | ⟨one, approved, executed⟩
        · refine ⟨by omega, ?_⟩
          intro before
          have after := spent (approvalIs_executed_stable effect before)
          omega
        · have later := spent executed
          refine ⟨by omega, ?_⟩
          intro before
          exact absurd (before.unique approved) (by decide)

/-- An executed row is the same after every run. -/
theorem run_executed (host : Host) (start : World)
    (steps : List GatewayStep) {proposalId : String} {row : StoredApproval}
    (found : start.database.approvals.find? proposalId = some row)
    (executed : row.state = .executed) :
    (run (gatewayStep host) start steps).database.approvals.find?
      proposalId = some row := by
  induction steps generalizing start with
  | nil => exact found
  | cons step rest inductionHypothesis =>
      exact inductionHypothesis _
        (executed_stable (gatewayStep_effect start step) found executed)

/--
Over every run, from any database, at most one escalation is staged under one
approval; and from the moment an approval is executed, its row is unchanged and
no further escalation is staged under it.
-/
theorem approval_singleUse (host : Host) (start : World)
    (first second : List GatewayStep) :
    (∃ added,
      stagedCommandsOf
          (run (gatewayStep host) start (first ++ second)).database =
          stagedCommandsOf start.database ++ added ∧
        ∀ approvalId, added.countP (escalatesFor approvalId) ≤ 1) ∧
      ∃ later,
        stagedCommandsOf
            (run (gatewayStep host) start (first ++ second)).database =
            stagedCommandsOf (run (gatewayStep host) start first).database ++
              later ∧
          ∀ approvalId binding row,
            (run (gatewayStep host) start first).database.bindings.find?
                approvalId = some binding →
              (run (gatewayStep host) start
                first).database.approvals.find? binding.proposalId =
                some row →
              row.state = .executed →
              (run (gatewayStep host) start
                (first ++ second)).database.approvals.find?
                  binding.proposalId = some row ∧
                later.countP (escalatesFor approvalId) = 0 := by
  constructor
  · rcases run_uses host start (first ++ second) with
      ⟨added, staged, bounds⟩
    exact ⟨added, staged, fun approvalId => (bounds approvalId).1⟩
  · rw [run_append]
    rcases run_uses host (run (gatewayStep host) start first) second with
      ⟨later, staged, bounds⟩
    refine ⟨later, staged, ?_⟩
    intro approvalId binding row bound found executed
    exact ⟨run_executed host _ second found executed,
      (bounds approvalId).2 ⟨binding, row, bound, found, executed⟩⟩

end AerialRescue.Gateway
